import LogScript.Proofs.Compilation
import LogScript.Proofs.Delimited

namespace LogScript

open Config (Configuration Appender Logger Scalar setting)

def Config.Scalar.textOf (v : Option Scalar) : String := (v.map asText).getD ""

/-- Attributes of one name that are both left out, or become the same literal. -/
structure Attribute.Alike (cv₁ cv₂ : Converter) (a b : Attribute) : Prop where
  name : a.name = b.name
  isOmitted : a.value.isOmitted = b.value.isOmitted
  literal? : a.value.literal? cv₁ a.kind = b.value.literal? cv₂ b.kind

structure Config.Appender.Alike (cv₁ cv₂ : Converter) (a b : Appender) : Prop where
  name : a.name = b.name
  console : a.target = .console ↔ b.target = .console
  attributes : List.Forall₂ (Attribute.Alike cv₁ cv₂) a.attributes b.attributes
  ipRegex : Scalar.textOf a.limits.ipRegex = Scalar.textOf b.limits.ipRegex
  userAgentRegex : Scalar.textOf a.limits.userAgentRegex = Scalar.textOf b.limits.userAgentRegex
  disallow : Scalar.textOf a.limits.disallow = Scalar.textOf b.limits.disallow

/-- Loggers that refer to appenders with the same indices in two lists of names. -/
structure Config.Logger.Alike (cv₁ cv₂ : Converter) (names₁ names₂ : List String) (a b : Logger) :
    Prop where
  name : a.name.getD "" = b.name.getD ""
  references : a.appenderNames.map (·.map (lastIndex? names₁)) =
    b.appenderNames.map (·.map (lastIndex? names₂))
  attributes : List.Forall₂ (Attribute.Alike cv₁ cv₂)
    (a.attributes (Layout.references names₁ a)) (b.attributes (Layout.references names₂ b))
  ipRegex : Scalar.textOf a.ipRegex = Scalar.textOf b.ipRegex
  userAgentRegex : Scalar.textOf a.userAgentRegex = Scalar.textOf b.userAgentRegex
  disallow : Scalar.textOf a.disallow = Scalar.textOf b.disallow
  onceOnly : a.onceOnly = b.onceOnly

/-- What a script says about its configuration and its request. Elements do not matter if logging
is off. -/
structure Script.Alike (cv₁ cv₂ : Converter) (c₁ c₂ : Configuration) (q₁ q₂ : Request) : Prop where
  closure : q₁.closure = q₂.closure
  userIp : q₁.userIp = q₂.userIp
  requestId : q₁.requestId = q₂.requestId
  enabled : c₁.enabled = c₂.enabled
  attributes : List.Forall₂ (Attribute.Alike cv₁ cv₂) c₁.attributes c₂.attributes
  library : Script.libraryUrl? cv₁.resolver c₁ = Script.libraryUrl? cv₂.resolver c₂
  appenders : c₁.enabled = true →
    List.Forall₂ (Appender.Alike cv₁ cv₂) c₁.appenders c₂.appenders
  loggers : c₁.enabled = true →
    List.Forall₂ (Logger.Alike cv₁ cv₂ c₁.appenderNames c₂.appenderNames) c₁.loggers c₂.loggers

theorem Literal.IsPlain.isWord {s : String} (h : IsPlain s) : IsWord s := by
  obtain ⟨hne, h⟩ := h
  refine ⟨fun hs => hne (by rw [hs, String.toList_empty]), fun c hc => ?_⟩
  rcases h c hc with hpart | rfl
  · refine ⟨?_, ?_, ?_⟩
    · rintro (rfl | rfl | rfl) <;> revert hpart <;> decide
    · rintro rfl
      revert hpart
      decide
    · rintro rfl
      revert hpart
      decide
  · simp [IsEnd]

theorem Kind.isItem_write (r : Resolver) {g : Engine} {k : Kind} {s : String}
    (h : k.rejection? g s = none) : Literal.IsItem (k.write r s) := by
  rcases k.isPlain_or_quote r h with hplain | hquote
  · exact Or.inl hplain.isWord
  · exact Or.inr hquote

namespace Value

theorem isValue_of_written? {g : Engine} {r : Resolver} {k : Kind} {v : Value} {l : String}
    (h : v.texts.findSome? (k.rejection? g) = none) (hl : v.written? r k = some l) :
    Literal.IsValue l := by
  refine written?_induction (fun s hs => Or.inl (k.isItem_write r hs)) (fun items hitems => ?_) h hl
  refine Or.inr ⟨_, fun x hx => ?_, rfl⟩
  obtain ⟨s, hs, rfl⟩ := List.mem_map.mp hx
  exact k.isItem_write r (hitems s hs)

theorem written?_ofText? (r : Resolver) (k : Kind) (v : Option String) :
    (ofText? v).written? r k = if v.getD "" = "" then none else some (k.write r (v.getD "")) := by
  cases v <;> simp [ofText?, written?]

/-- A kind that takes texts as they are. -/
theorem text_eq_of_written?_eq {r₁ r₂ : Resolver} {k : Kind} {v w : Option String}
    (hk : ∀ r s, k.write r s = Literal.quote s)
    (h : (ofText? v).written? r₁ k = (ofText? w).written? r₂ k) : v.getD "" = w.getD "" := by
  rw [written?_ofText?, written?_ofText?, hk, hk] at h
  by_cases hv : v.getD "" = "" <;> by_cases hw : w.getD "" = ""
  · rw [hv, hw]
  · simp [hv, hw] at h
  · simp [hv, hw] at h
  · rw [if_neg hv, if_neg hw, Option.some.injEq] at h
    exact Literal.quote_inj h

end Value

namespace Attribute

variable {cv₁ cv₂ : Converter} {a b : Attribute}

theorem literal?_of_accepted (cv : Converter) (h : a.failure? cv.engine = none) :
    a.value.literal? cv a.kind = .ok (a.value.written? cv.resolver a.kind) := by
  rw [failure?, Option.map_eq_none_iff] at h
  rw [Value.literal?_eq, h, outcome_none]

theorem alike_of_option?_eq (hname : a.name = b.name) (ha : a.failure? cv₁.engine = none)
    (hb : b.failure? cv₂.engine = none) (h : a.option? cv₁.resolver = b.option? cv₂.resolver) :
    Alike cv₁ cv₂ a b := by
  have hwritten : a.value.written? cv₁.resolver a.kind = b.value.written? cv₂.resolver b.kind := by
    rw [option?, option?, hname] at h
    exact Option.map_injective (fun _ _ he => (Prod.mk.inj he).2) h
  refine ⟨hname, ?_, ?_⟩
  · rw [Bool.eq_iff_iff, ← Value.written?_eq_none_iff (r := cv₁.resolver) (k := a.kind),
      ← Value.written?_eq_none_iff (r := cv₂.resolver) (k := b.kind), hwritten]
  · rw [literal?_of_accepted cv₁ ha, literal?_of_accepted cv₂ hb, hwritten]

theorem Alike.written?_eq (h : Alike cv₁ cv₂ a b) (ha : a.failure? cv₁.engine = none)
    (hb : b.failure? cv₂.engine = none) :
    a.value.written? cv₁.resolver a.kind = b.value.written? cv₂.resolver b.kind := by
  have hliteral := h.literal?
  rw [literal?_of_accepted cv₁ ha, literal?_of_accepted cv₂ hb] at hliteral
  exact Except.ok.inj hliteral

theorem forall₂_written? {as bs : List Attribute} (h : List.Forall₂ (Alike cv₁ cv₂) as bs)
    (ha : ∀ a ∈ as, a.failure? cv₁.engine = none) (hb : ∀ b ∈ bs, b.failure? cv₂.engine = none) :
    List.Forall₂ (fun a b => a.value.written? cv₁.resolver a.kind =
      b.value.written? cv₂.resolver b.kind) as bs := by
  induction h with
  | nil => exact .nil
  | cons hab _ ih =>
    rw [List.forall_mem_cons] at ha hb
    exact .cons (hab.written?_eq ha.1 hb.1) (ih ha.2 hb.2)

end Attribute

namespace Layout

variable {cv₁ cv₂ : Converter} {as bs : List Attribute}

theorem isEntry_options {g : Engine} {r : Resolver}
    (hquote : ∀ a ∈ as, '"' ∉ a.name.toList) (ha : ∀ a ∈ as, a.failure? g = none) :
    ∀ e ∈ (options r as).entries, Options.IsEntry e := by
  intro e he
  obtain ⟨a, hmem, he⟩ := List.mem_filterMap.mp he
  obtain ⟨l, hl, rfl⟩ := Option.map_eq_some_iff.mp he
  have htexts : a.value.texts.findSome? (a.kind.rejection? g) = none :=
    Option.map_eq_none_iff.mp (ha a hmem)
  exact ⟨hquote a hmem, Value.isValue_of_written? htexts hl⟩

theorem name_mem_of_mem_filterMap {r : Resolver} {e : String × String}
    (h : e ∈ as.filterMap (Attribute.option? r)) : e.1 ∈ as.map (·.name) := by
  obtain ⟨a, hmem, he⟩ := List.mem_filterMap.mp h
  obtain ⟨l, -, rfl⟩ := Option.map_eq_some_iff.mp he
  exact List.mem_map_of_mem hmem

/-- Names that do not repeat tell which attribute an option comes from, though others have been
left out. -/
theorem alike_of_options_eq (ha : ∀ a ∈ as, a.failure? cv₁.engine = none)
    (hb : ∀ b ∈ bs, b.failure? cv₂.engine = none)
    (hnames : as.map (·.name) = bs.map (·.name)) (hnodup : (as.map (·.name)).Nodup)
    (h : options cv₁.resolver as = options cv₂.resolver bs) :
    List.Forall₂ (Attribute.Alike cv₁ cv₂) as bs := by
  induction as generalizing bs with
  | nil =>
    obtain rfl := List.map_eq_nil_iff.mp hnames.symm
    exact .nil
  | cons a as ih =>
    cases bs with
    | nil => cases hnames
    | cons b bs =>
      rw [List.forall_mem_cons] at ha hb
      rw [List.map_cons, List.nodup_cons] at hnodup
      obtain ⟨hfresh, hnodup⟩ := hnodup
      have hname : a.name = b.name := (List.cons.inj hnames).1
      have hrest : as.map (·.name) = bs.map (·.name) := (List.cons.inj hnames).2
      have hentries : (a :: as).filterMap (Attribute.option? cv₁.resolver) =
          (b :: bs).filterMap (Attribute.option? cv₂.resolver) := congrArg Options.entries h
      cases hx : a.option? cv₁.resolver with
      | none =>
        rw [List.filterMap_cons_none hx] at hentries
        cases hy : b.option? cv₂.resolver with
        | none =>
          rw [List.filterMap_cons_none hy] at hentries
          exact .cons (Attribute.alike_of_option?_eq hname ha.1 hb.1 (hx.trans hy.symm))
            (ih ha.2 hb.2 hrest hnodup (congrArg Options.mk hentries))
        | some e =>
          rw [List.filterMap_cons_some hy] at hentries
          obtain ⟨l, -, rfl⟩ := Option.map_eq_some_iff.mp hy
          have hmem : (b.name, l) ∈ as.filterMap (Attribute.option? cv₁.resolver) := by
            rw [hentries]
            exact List.mem_cons_self
          rw [hname] at hfresh
          exact absurd (name_mem_of_mem_filterMap hmem) hfresh
      | some d =>
        rw [List.filterMap_cons_some hx] at hentries
        cases hy : b.option? cv₂.resolver with
        | none =>
          rw [List.filterMap_cons_none hy] at hentries
          obtain ⟨l, -, rfl⟩ := Option.map_eq_some_iff.mp hx
          have hmem : (a.name, l) ∈ bs.filterMap (Attribute.option? cv₂.resolver) := by
            rw [← hentries]
            exact List.mem_cons_self
          rw [hrest] at hfresh
          exact absurd (name_mem_of_mem_filterMap hmem) hfresh
        | some e =>
          rw [List.filterMap_cons_some hy] at hentries
          obtain ⟨rfl, htail⟩ := List.cons.inj hentries
          exact .cons (Attribute.alike_of_option?_eq hname ha.1 hb.1 (hx.trans hy.symm))
            (ih ha.2 hb.2 hrest hnodup (congrArg Options.mk htail))

end Layout

theorem Config.Scalar.textOf_eq {r₁ r₂ : Resolver} {v w : Option Scalar}
    (h : (Value.ofText? (v.map asText)).written? r₁ .pattern =
      (Value.ofText? (w.map asText)).written? r₂ .pattern) : textOf v = textOf w :=
  Value.text_eq_of_written?_eq (fun _ _ => rfl) h

theorem Config.Appender.alike_of_options_eq {cv₁ cv₂ : Converter} {a b : Appender}
    (ha : ∀ x ∈ a.attributes, x.failure? cv₁.engine = none)
    (hb : ∀ x ∈ b.attributes, x.failure? cv₂.engine = none)
    (hname : a.name = b.name) (hmethod : a.target.method = b.target.method)
    (h : Layout.options cv₁.resolver a.attributes = Layout.options cv₂.resolver b.attributes) :
    a.Alike cv₁ cv₂ b := by
  have hconsole : a.target = .console ↔ b.target = .console := by
    cases hs : a.target <;> cases ht : b.target <;> simp [hs, ht, Target.method] at hmethod ⊢
  have hnames : a.attributes.map (·.name) = b.attributes.map (·.name) ∧
      (a.attributes.map (·.name)).Nodup := by
    cases hs : a.target <;> cases ht : b.target <;>
      simp [attributes, setting, hs, ht] at hconsole ⊢
  have hall := Layout.alike_of_options_eq ha hb hnames.1 hnames.2 h
  have hwritten := Attribute.forall₂_written? hall ha hb
  simp only [attributes, List.cons_append, List.forall₂_cons] at hwritten
  obtain ⟨-, hip, hagent, hdisallow, -⟩ := hwritten
  exact ⟨hname, hconsole, hall, Scalar.textOf_eq hip, Scalar.textOf_eq hagent,
    Scalar.textOf_eq hdisallow⟩

theorem Layout.written?_references (r : Resolver) (names : List String) (l : Logger) :
    (references names l).written? r .identifier =
      l.appenderNames.map fun ns =>
        Literal.array ((ns.filterMap (lastIndex? names)).map ElementKind.appender.ident) := by
  unfold references
  cases l.appenderNames with
  | none => rfl
  | some ns =>
    simp only [Option.map_some, Value.ofList?, Value.written?, List.map_map]
    rfl

theorem Value.written?_ofList?_pattern (r : Resolver) (ss : Option (List String)) :
    (ofList? ss).written? r .pattern = ss.map fun ss => Literal.array (ss.map Literal.quote) := by
  cases ss <;> rfl

theorem ElementKind.ident_injective (k : ElementKind) : Function.Injective k.ident := by
  intro i j h
  rw [ident, ident, ← String.toList_inj, String.toList_append, String.toList_append,
    List.append_cancel_left_eq, Nat.toList_repr, Nat.toList_repr] at h
  have hread := congrArg Text.decimal? h
  rw [Text.decimal?_toDigits, Text.decimal?_toDigits] at hread
  exact Option.some.inj hread

theorem map_lastIndex?_eq {names ns : List String} (h : ∀ n ∈ ns, n ∈ names) :
    ns.map (lastIndex? names) = (ns.filterMap (lastIndex? names)).map some := by
  induction ns with
  | nil => rfl
  | cons n ns ih =>
    rw [List.forall_mem_cons] at h
    obtain ⟨i, hi⟩ := Option.isSome_iff_exists.mp (isSome_lastIndex?_iff.mpr h.1)
    rw [List.map_cons, List.filterMap_cons_some hi, List.map_cons, hi, ih h.2]

theorem Config.Logger.references_eq {names₁ names₂ : List String} {a b : Logger} {r₁ r₂ : Resolver}
    (ha : ∀ n ∈ a.appenderNames.getD [], n ∈ names₁)
    (hb : ∀ n ∈ b.appenderNames.getD [], n ∈ names₂)
    (h : (Layout.references names₁ a).written? r₁ .identifier =
      (Layout.references names₂ b).written? r₂ .identifier) :
    a.appenderNames.map (·.map (lastIndex? names₁)) =
      b.appenderNames.map (·.map (lastIndex? names₂)) := by
  have hitem : ∀ is : List Nat, ∀ x ∈ is.map ElementKind.appender.ident, Literal.IsItem x := by
    intro is x hx
    obtain ⟨i, -, rfl⟩ := List.mem_map.mp hx
    exact Or.inl (Literal.isPlain_of_isIdentifier (ElementKind.isIdentifier_ident _ i)).isWord
  rw [Layout.written?_references, Layout.written?_references] at h
  cases hs : a.appenderNames with
  | none =>
    cases ht : b.appenderNames with
    | none => rfl
    | some ms => simp [hs, ht] at h
  | some ns =>
    cases ht : b.appenderNames with
    | none => simp [hs, ht] at h
    | some ms =>
      rw [hs, Option.getD_some] at ha
      rw [ht, Option.getD_some] at hb
      rw [hs, ht, Option.map_some, Option.map_some, Option.some.injEq] at h
      have hindices := (ElementKind.ident_injective .appender).list_map
        (Literal.array_inj (hitem _) (hitem _) h)
      rw [Option.map_some, Option.map_some, map_lastIndex?_eq ha, map_lastIndex?_eq hb, hindices]

theorem Value.onceOnly_eq {r₁ r₂ : Resolver} {ss ts : Option (List String)}
    (h : (ofList? ss).written? r₁ .pattern = (ofList? ts).written? r₂ .pattern) : ss = ts := by
  have hitem : ∀ ss : List String, ∀ x ∈ ss.map Literal.quote, Literal.IsItem x := by
    intro ss x hx
    obtain ⟨s, -, rfl⟩ := List.mem_map.mp hx
    exact Or.inr ⟨s, rfl⟩
  rw [written?_ofList?_pattern, written?_ofList?_pattern] at h
  refine Option.map_injective (fun ss ts hst => ?_) h
  exact Function.Injective.list_map (fun _ _ => Literal.quote_inj)
    (Literal.array_inj (hitem ss) (hitem ts) hst)

theorem Config.Logger.alike_of_options_eq {cv₁ cv₂ : Converter} {names₁ names₂ : List String}
    {a b : Logger}
    (ha : ∀ x ∈ a.attributes (Layout.references names₁ a), x.failure? cv₁.engine = none)
    (hb : ∀ x ∈ b.attributes (Layout.references names₂ b), x.failure? cv₂.engine = none)
    (hnames₁ : ∀ n ∈ a.appenderNames.getD [], n ∈ names₁)
    (hnames₂ : ∀ n ∈ b.appenderNames.getD [], n ∈ names₂)
    (hname : a.name.getD "" = b.name.getD "")
    (h : Layout.options cv₁.resolver (a.attributes (Layout.references names₁ a)) =
      Layout.options cv₂.resolver (b.attributes (Layout.references names₂ b))) :
    a.Alike cv₁ cv₂ names₁ names₂ b := by
  have hnodup : ((a.attributes (Layout.references names₁ a)).map (·.name)).Nodup := by
    simp [attributes, setting]
  have hall := Layout.alike_of_options_eq ha hb rfl hnodup h
  have hwritten := Attribute.forall₂_written? hall ha hb
  simp only [attributes, List.forall₂_cons] at hwritten
  obtain ⟨hrefs, -, hip, hagent, hdisallow, honce, -⟩ := hwritten
  exact ⟨hname, references_eq hnames₁ hnames₂ hrefs, hall, Scalar.textOf_eq hip,
    Scalar.textOf_eq hagent, Scalar.textOf_eq hdisallow, Value.onceOnly_eq honce⟩

end LogScript
