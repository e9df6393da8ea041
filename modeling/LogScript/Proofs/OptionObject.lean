import LogScript.Proofs.Conversion
import LogScript.Proofs.Delimited
import LogScript.Proofs.JsonValue
import Mathlib.Data.List.Forall2
import Mathlib.Data.List.ReduceOption

namespace LogScript

namespace Json

theorem spelled_comma {gap : Char} (hgap : Token.isSpace gap = true) :
    Token.Spelled Token.Spells [.comma] [',', gap] := by
  have hspace : ∀ c ∈ [gap], Token.isSpace c = true := by simpa using hgap
  exact (Token.Spelled.single Token.Spells.comma).append (.nil hspace)

theorem spelled_intercalate {gap : Char} (hgap : Token.isSpace gap = true)
    {tss : List (List Token)} {css : List (List Char)}
    (h : List.Forall₂ (Token.Spelled Token.Spells) tss css) :
    Token.Spelled Token.Spells ([Token.comma].intercalate tss) ([',', gap].intercalate css) := by
  induction h with
  | nil => exact .nil (by simp)
  | @cons ts cs tss css hts h ih =>
    cases h with
    | nil => simpa using hts
    | cons =>
      rw [List.intercalate_cons_cons, List.intercalate_cons_cons]
      exact (hts.append (spelled_comma hgap)).append ih

namespace Value

theorem isText_array {gap : Char} (hgap : Token.isSpace gap = true) {vs : List Value}
    {css : List (List Char)} (h : List.Forall₂ IsText vs css) :
    (array vs).IsText ('[' :: ([',', gap].intercalate css ++ [']'])) := by
  have hrow : List.Forall₂ (Token.Spelled Token.Spells) (vs.map tokens) css :=
    List.forall₂_map_left_iff.mpr h
  rw [IsText, tokens]
  exact (Token.Spelled.single .openArray).append
    ((spelled_intercalate hgap hrow).append (.single .closeArray))

theorem isText_object {gap : Char} (hgap : Token.isSpace gap = true)
    {ms : List (String × Value)} {css : List (List Char)}
    (h : List.Forall₂ (fun m cs => Token.Spelled Token.Spells (member m) cs) ms css) :
    (object ms).IsText ('\x7b' :: ([',', gap].intercalate css ++ ['\x7d'])) := by
  have hrow : List.Forall₂ (Token.Spelled Token.Spells) (ms.map member) css :=
    List.forall₂_map_left_iff.mpr h
  rw [IsText, tokens]
  exact (Token.Spelled.single .openObject).append
    ((spelled_intercalate hgap hrow).append (.single .closeObject))

end Value

end Json

namespace Kind

/-- The JSON value that a text of a kind stands for. -/
inductive Denotes (r : Resolver) : Kind → String → Json.Value → Prop
  | text (s : String) : Denotes r .text s (.string s)
  | pattern (s : String) : Denotes r .pattern s (.string s)
  | url {s a : String} (h : Url.absolute? r s = some a) : Denotes r .url s (.string a)
  | unsigned {s : String} {n : Nat} (h : Unsigned.ofText? s = some n) :
      Denotes r .unsigned s (.number (.integer n))
  | level {s : String} {n : Int} (h : Level.ofText? s = some n) :
      Denotes r .level s (.number (.integer n))

theorem isText_quote (s : String) : (Json.Value.string s).IsText (Literal.quote s).toList := by
  rw [Json.Value.IsText, Json.Value.tokens, Literal.toList_quote]
  exact .single (.string (Literal.spells_flatMap_escape s.toList))

theorem isText_repr {n : Int} (h : Json.Numeral.IsKept n) :
    (Json.Value.number (.integer n)).IsText n.repr.toList := by
  obtain ⟨x, hx, hvalue⟩ := Json.NumberLiteral.spells_repr h
  rw [Json.Value.IsText, Json.Value.tokens]
  exact .single (.number hx hvalue)

theorem isKept_of_unsigned {s : String} {n : Nat} (h : Unsigned.ofText? s = some n) :
    Json.Numeral.IsKept n := by
  obtain ⟨-, hn⟩ := Option.filter_eq_some_iff.mp h
  have hle : n ≤ 4294967295 := of_decide_eq_true hn
  constructor <;> omega

theorem isKept_of_level {s : String} {n : Int} (h : Level.ofText? s = some n) :
    Json.Numeral.IsKept n := by
  rcases Option.or_eq_some_iff.mp h with hn | ⟨-, hn⟩
  · obtain ⟨-, hn⟩ := Option.filter_eq_some_iff.mp hn
    rw [Bool.and_eq_true] at hn
    have hleast : -2147483648 ≤ n := of_decide_eq_true hn.1
    have hgreatest : n ≤ 2147483647 := of_decide_eq_true hn.2
    constructor <;> omega
  · have hnames : ∀ p ∈ Level.names, -9223372036854775808 ≤ p.2 ∧ p.2 ≤ 18446744073709551615 := by
      decide
    obtain ⟨before, after, heq, -⟩ := List.lookup_eq_some_iff.mp hn
    exact hnames (_, n) (heq ▸ List.mem_append_right before List.mem_cons_self)

/-- What is written for an accepted text is a JSON text of the value that it stands for. -/
theorem exists_denotes (r : Resolver) {g : Engine} {k : Kind} {s : String}
    (h : k.rejection? g s = none) (hk : k ≠ .identifier) :
    ∃ v, k.Denotes r s v ∧ v.IsText (k.write r s).toList ∧ v.Within 0 := by
  cases k with
  | text => exact ⟨.string s, .text s, isText_quote s, by simp [Json.Value.Within]⟩
  | pattern => exact ⟨.string s, .pattern s, isText_quote s, by simp [Json.Value.Within]⟩
  | url =>
    have hs : Url.isUrl s = true := by simpa [rejection?] using h
    have habsolute : Url.absolute? r s = some (Url.target r s) := by
      rw [Url.absolute?_eq, if_pos hs]
    exact ⟨_, .url habsolute, isText_quote _, by simp [Json.Value.Within]⟩
  | unsigned =>
    cases hn : Unsigned.ofText? s with
    | none => simp [rejection?, hn] at h
    | some n =>
      refine ⟨_, .unsigned hn, ?_, by simp [Json.Value.Within]⟩
      rw [write, hn]
      exact isText_repr (isKept_of_unsigned hn)
  | level =>
    cases hn : Level.ofText? s with
    | none => simp [rejection?, hn] at h
    | some n =>
      refine ⟨_, .level hn, ?_, by simp [Json.Value.Within]⟩
      rw [write, hn]
      exact isText_repr (isKept_of_level hn)
  | identifier => exact absurd rfl hk

end Kind

namespace Value

/-- The JSON value that a value of a kind stands for; none if it is left out. -/
inductive Denotes (r : Resolver) (k : Kind) : Value → Option Json.Value → Prop
  | absent : Denotes r k .absent none
  | empty : Denotes r k (.scalar "") none
  | scalar {s : String} {v : Json.Value} (hs : s ≠ "") (h : k.Denotes r s v) :
      Denotes r k (.scalar s) (some v)
  | list {items : List String} {vs : List Json.Value} (h : List.Forall₂ (k.Denotes r) items vs) :
      Denotes r k (.list items) (some (.array vs))

/-- A JSON value and a literal that is a text of it. -/
def IsLiteral (v : Json.Value) (l : String) : Prop := v.IsText l.toList ∧ v.Within 1

theorem exists_denotes_list (r : Resolver) {g : Engine} {k : Kind} (hk : k ≠ .identifier)
    {items : List String} (h : ∀ s ∈ items, k.rejection? g s = none) :
    ∃ vs, List.Forall₂ (k.Denotes r) items vs ∧
      List.Forall₂ (fun v cs => v.Within 0 ∧ v.IsText cs) vs
        ((items.map (k.write r)).map String.toList) := by
  induction items with
  | nil => exact ⟨[], .nil, .nil⟩
  | cons s ss ih =>
    rw [List.forall_mem_cons] at h
    obtain ⟨v, hv, htext, hwithin⟩ := k.exists_denotes r h.1 hk
    obtain ⟨vs, hvs, htexts⟩ := ih h.2
    exact ⟨v :: vs, .cons hv hvs, .cons ⟨hwithin, htext⟩ htexts⟩

theorem isLiteral_array {vs : List Json.Value} {ls : List String}
    (h : List.Forall₂ (fun v cs => v.Within 0 ∧ v.IsText cs) vs (ls.map String.toList)) :
    IsLiteral (.array vs) (Literal.array ls) := by
  obtain ⟨hwithin, htexts⟩ := (List.forall₂_and_left _ _).mp h
  refine ⟨?_, ?_⟩
  · rw [Literal.toList_array]
    exact Json.Value.isText_array (by decide) htexts
  · rw [Json.Value.Within]
    exact hwithin

/-- What is written for a value of a kind is a JSON text of what the value stands for. -/
theorem exists_denotes (r : Resolver) {g : Engine} {k : Kind} (hk : k ≠ .identifier) {v : Value}
    (h : v.texts.findSome? (k.rejection? g) = none) :
    ∃ w, v.Denotes r k w ∧ Option.Rel IsLiteral w (v.written? r k) := by
  rw [List.findSome?_eq_none_iff] at h
  cases v with
  | absent => exact ⟨none, .absent, .none⟩
  | scalar s =>
    by_cases hs : s = ""
    · subst hs
      exact ⟨none, .empty, .none⟩
    · have hempty : ¬s.isEmpty = true := by rwa [String.isEmpty_iff]
      obtain ⟨w, hw, htext, hwithin⟩ := k.exists_denotes r (h s (by simp [texts, hempty])) hk
      rw [written?, if_neg hempty]
      exact ⟨some w, .scalar hs hw, .some ⟨htext, hwithin.mono (Nat.zero_le 1)⟩⟩
  | list items =>
    obtain ⟨vs, hvs, htexts⟩ := exists_denotes_list r hk h
    exact ⟨some (.array vs), .list hvs, .some (isLiteral_array htexts)⟩

end Value

/-- The member that an attribute stands for; none if it is left out. -/
def Attribute.Denotes (r : Resolver) (a : Attribute) (m : Option (String × Json.Value)) : Prop :=
  ∃ v, a.value.Denotes r a.kind v ∧ m = v.map (a.name, ·)

namespace Options

/-- A member and the option that is written for it. -/
structure IsMember (m : String × Json.Value) (e : String × String) : Prop where
  name : m.1 = e.1
  bare : ∀ c ∈ m.1.toList, Json.IsBare c
  literal : Value.IsLiteral m.2 e.2

theorem exists_denotes_attribute (r : Resolver) {g : Engine} {a : Attribute}
    (hkind : a.kind ≠ .identifier) (hname : ∀ c ∈ a.name.toList, Json.IsBare c)
    (h : a.failure? g = none) :
    ∃ m, a.Denotes r m ∧ List.Forall₂ IsMember m.toList (a.option? r).toList := by
  rw [Attribute.failure?, Option.map_eq_none_iff] at h
  obtain ⟨w, hw, hrel⟩ := Value.exists_denotes r hkind h
  refine ⟨w.map (a.name, ·), ⟨w, hw, rfl⟩, ?_⟩
  rw [Attribute.option?]
  generalize a.value.written? r a.kind = l at hrel
  cases hrel with
  | none => exact .nil
  | some hliteral => exact .cons ⟨rfl, hname, hliteral⟩ .nil

theorem exists_denotes_attributes (r : Resolver) {g : Engine} {as : List Attribute}
    (hkinds : ∀ a ∈ as, a.kind ≠ .identifier)
    (hnames : ∀ a ∈ as, ∀ c ∈ a.name.toList, Json.IsBare c)
    (h : as.findSome? (Attribute.failure? g) = none) :
    ∃ ms, List.Forall₂ (Attribute.Denotes r) as ms ∧
      List.Forall₂ IsMember ms.reduceOption (as.filterMap (Attribute.option? r)) := by
  rw [List.findSome?_eq_none_iff] at h
  induction as with
  | nil => exact ⟨[], .nil, .nil⟩
  | cons a as ih =>
    rw [List.forall_mem_cons] at hkinds hnames h
    obtain ⟨m, hm, hentry⟩ := exists_denotes_attribute r hkinds.1 hnames.1 h.1
    obtain ⟨ms, hms, hentries⟩ := ih hkinds.2 hnames.2 h.2
    refine ⟨m :: ms, .cons hm hms, ?_⟩
    have hm' : (m :: ms).reduceOption = m.toList ++ ms.reduceOption := by
      cases m <;> simp [List.reduceOption]
    have ha : (a :: as).filterMap (Attribute.option? r) =
        (a.option? r).toList ++ as.filterMap (Attribute.option? r) := by
      cases ha : a.option? r <;> simp [ha]
    rw [hm', ha]
    exact List.rel_append hentry hentries

/-- One of the ways to add to options. -/
inductive Push where
  | bool (name : String) (b : Bool)
  | text (cv : Converter) (name : String) (k : Kind) (s : String)
  | value (cv : Converter) (name : String) (k : Kind) (v : Value)
  | attributes (cv : Converter) (as : List Attribute)

namespace Push

/-- Options with what is added. -/
def apply (o : Options) : Push → Except CompileError Options
  | bool name b => .ok (o.pushBool name b)
  | text cv name k s => o.pushValue cv name k (.scalar s)
  | value cv name k v => o.pushValue cv name k v
  | attributes cv as =>
    match o.pushAttributes cv as with
    | (o', none) => .ok o'
    | (_, some e) => .error e

/-- No variables are added, and nothing in a name has to be escaped. -/
def IsProper : Push → Prop
  | bool name _ => ∀ c ∈ name.toList, Json.IsBare c
  | text _ name k _ => k ≠ .identifier ∧ ∀ c ∈ name.toList, Json.IsBare c
  | value _ name k _ => k ≠ .identifier ∧ ∀ c ∈ name.toList, Json.IsBare c
  | attributes _ as => ∀ a ∈ as, a.kind ≠ .identifier ∧ ∀ c ∈ a.name.toList, Json.IsBare c

/-- The characters of a name are looked at one by one. -/
instance decidableBare (name : String) : Decidable (∀ c ∈ name.toList, Json.IsBare c) :=
  List.decidableBAll Json.IsBare name.toList

instance : DecidablePred IsProper
  | bool name _ => decidableBare name
  | text _ name k _ | value _ name k _ =>
    inferInstanceAs (Decidable (k ≠ .identifier ∧ ∀ c ∈ name.toList, Json.IsBare c))
  | attributes _ as =>
    inferInstanceAs (Decidable (∀ a ∈ as, a.kind ≠ .identifier ∧
      ∀ c ∈ a.name.toList, Json.IsBare c))

/-- The members that are added to the object. -/
inductive Denotes : Push → List (String × Json.Value) → Prop
  | bool (name : String) (b : Bool) : Denotes (.bool name b) [(name, .bool b)]
  | text {cv : Converter} {name : String} {k : Kind} {s : String} {m : Option (String × Json.Value)}
      (h : Attribute.Denotes cv.resolver ⟨name, k, .scalar s⟩ m) :
      Denotes (.text cv name k s) m.toList
  | value {cv : Converter} {name : String} {k : Kind} {v : Value} {m : Option (String × Json.Value)}
      (h : Attribute.Denotes cv.resolver ⟨name, k, v⟩ m) : Denotes (.value cv name k v) m.toList
  | attributes {cv : Converter} {as : List Attribute} {ms : List (Option (String × Json.Value))}
      (h : List.Forall₂ (Attribute.Denotes cv.resolver) as ms) :
      Denotes (.attributes cv as) ms.reduceOption

theorem isLiteral_ofBool (b : Bool) : Value.IsLiteral (.bool b) (Literal.ofBool b) := by
  refine ⟨?_, by simp [Json.Value.Within]⟩
  rw [Json.Value.IsText, Json.Value.tokens]
  cases b
  · exact .single .false
  · exact .single .true

theorem exists_denotes_value {cv : Converter} {o o' : Options} {a : Attribute}
    (hkind : a.kind ≠ .identifier) (hname : ∀ c ∈ a.name.toList, Json.IsBare c)
    (h : o.pushValue cv a.name a.kind a.value = .ok o') :
    ∃ m es, a.Denotes cv.resolver m ∧ o'.entries = o.entries ++ es ∧
      List.Forall₂ IsMember m.toList es := by
  rw [pushValue_eq, outcome_eq_ok_iff] at h
  obtain ⟨hfailure, rfl⟩ := h
  obtain ⟨m, hm, hentries⟩ := exists_denotes_attribute cv.resolver hkind hname hfailure
  exact ⟨m, _, hm, rfl, hentries⟩

/-- What is added in one way is written behind what is there already. -/
theorem exists_denotes {p : Push} (hp : p.IsProper) {o o' : Options} (h : p.apply o = .ok o') :
    ∃ ms es, p.Denotes ms ∧ o'.entries = o.entries ++ es ∧ List.Forall₂ IsMember ms es := by
  cases p with
  | bool name b =>
    cases h
    exact ⟨_, [(name, Literal.ofBool b)], .bool name b, rfl,
      .cons ⟨rfl, hp, isLiteral_ofBool b⟩ .nil⟩
  | text cv name k s =>
    obtain ⟨m, es, hm, hentries, hmembers⟩ :=
      exists_denotes_value (a := ⟨name, k, .scalar s⟩) hp.1 hp.2 h
    exact ⟨_, es, .text hm, hentries, hmembers⟩
  | value cv name k v =>
    obtain ⟨m, es, hm, hentries, hmembers⟩ :=
      exists_denotes_value (a := ⟨name, k, v⟩) hp.1 hp.2 h
    exact ⟨_, es, .value hm, hentries, hmembers⟩
  | attributes cv as =>
    rw [apply, pushAttributes_eq] at h
    split at h
    next o'' heq =>
      cases h
      obtain ⟨rfl, hfailure⟩ := Prod.mk.inj heq
      obtain ⟨ms, hms, hmembers⟩ := exists_denotes_attributes cv.resolver (fun a ha => (hp a ha).1)
        (fun a ha => (hp a ha).2) hfailure
      have hall := pushAttributes_of_accepted cv o hfailure
      rw [pushAttributes_eq] at hall
      rw [(Prod.mk.inj hall).1]
      exact ⟨_, _, .attributes hms, rfl, hmembers⟩
    next => cases h

end Push

/-- Options to which everything is added in turn, up to the first error. -/
def pushAll (o : Options) : List Push → Except CompileError Options
  | [] => .ok o
  | p :: ps =>
    match p.apply o with
    | .error e => .error e
    | .ok o' => pushAll o' ps

theorem exists_denotes_pushAll {ps : List Push} (hps : ∀ p ∈ ps, p.IsProper) {o o' : Options}
    (h : o.pushAll ps = .ok o') :
    ∃ mss es, List.Forall₂ Push.Denotes ps mss ∧ o'.entries = o.entries ++ es ∧
      List.Forall₂ IsMember mss.flatten es := by
  induction ps generalizing o with
  | nil =>
    cases h
    exact ⟨[], [], .nil, (List.append_nil _).symm, .nil⟩
  | cons p ps ih =>
    rw [List.forall_mem_cons] at hps
    rw [pushAll] at h
    split at h
    next => cases h
    next o'' happly =>
      obtain ⟨ms, es, hms, hentries, hmembers⟩ := Push.exists_denotes hps.1 happly
      obtain ⟨mss, es', hmss, hentries', hmembers'⟩ := ih hps.2 h
      refine ⟨ms :: mss, es ++ es', .cons hms hmss, ?_, ?_⟩
      · rw [hentries', hentries, List.append_assoc]
      · exact List.rel_append hmembers hmembers'

theorem IsMember.spelled {m : String × Json.Value} {e : String × String} (h : IsMember m e) :
    Json.Token.Spelled Json.Token.Spells (Json.Value.member m) (entry e).toList := by
  obtain ⟨name, v⟩ := m
  obtain ⟨hname, hbare, htext, -⟩ := h
  have hkey : Json.Token.Spelled Json.Token.Spells [.string name]
      ('"' :: (name.toList ++ ['"'])) := .single (.string (Json.StringLiteral.spells_self hbare))
  have hcolon : Json.Token.Spelled Json.Token.Spells [.colon] [':'] := .single .colon
  have hvalue : Json.Token.Spelled Json.Token.Spells v.tokens (' ' :: e.2.toList) :=
    Json.Token.Spelled.space (by decide) htext
  have hmember := hkey.append (hcolon.append hvalue)
  rw [toList_entry, ← hname, Json.Value.member]
  simpa using hmember

/-- The object of options to which everything was added in turn is a JSON text, and is read to its
end as an object with the members that were added. -/
theorem object_denotes {ps : List Push} (hps : ∀ p ∈ ps, p.IsProper) {o : Options}
    (h : empty.pushAll ps = .ok o) :
    ∃ mss, List.Forall₂ Push.Denotes ps mss ∧
      (Json.Value.object mss.flatten).IsText o.object.toList ∧
      Json.Draft.ofText o.object = ((Json.Value.object mss.flatten).draft, []) := by
  obtain ⟨mss, es, hmss, hentries, hmembers⟩ := exists_denotes_pushAll hps h
  have htext : (Json.Value.object mss.flatten).IsText o.object.toList := by
    rw [toList_object, hentries]
    refine Json.Value.isText_object (by decide) ?_
    exact List.forall₂_map_right_iff.mpr (hmembers.imp fun _ _ hm => hm.spelled)
  have hwithin : (Json.Value.object mss.flatten).Within Json.Draft.deepest := by
    have hboth := hmembers.imp fun m e hm =>
      And.intro (hm.literal.2.mono (show 1 ≤ 126 by decide)) hm
    rw [Json.Draft.deepest, Json.Value.Within]
    exact ((List.forall₂_and_left _ _).mp hboth).1
  exact ⟨mss, hmss, htext, Json.Value.ofText_eq_iff.mpr ⟨htext, hwithin⟩⟩

/-- Texts that look like parts of an object, and fields that are left out. -/
def mixedPushes : List Push :=
  [.bool "enabled" true,
   .text .sample "clientIp" .text "\", \"b\": [1]\x7d\n\\",
   .text .sample "requestId" .text "",
   .value .sample "level" .level (.scalar " warn "),
   .attributes ⟨Resolver.underRoot "/app/", .refusing []⟩
     [⟨"url", .url, .scalar "~/log"⟩, ⟨"onceOnly", .pattern, .list ["a, b", "]", ""]⟩,
      ⟨"bufferSize", .unsigned, .absent⟩, ⟨"disallow", .pattern, .list []⟩]]

def mixedOptions : Options :=
  ⟨[("enabled", "true"), ("clientIp", "\"\\\", \\\"b\\\": [1]\x7d\\n\\\\\""), ("level", "4000"),
    ("url", "\"/app/log\""), ("onceOnly", "[\"a, b\", \"]\", \"\"]"), ("disallow", "[]")]⟩

theorem object_denotes_mixed :
    empty.pushAll mixedPushes = .ok mixedOptions ∧ (∀ p ∈ mixedPushes, p.IsProper) ∧
      ∃ mss, List.Forall₂ Push.Denotes mixedPushes mss ∧
        (Json.Value.object mss.flatten).IsText mixedOptions.object.toList ∧
        Json.Draft.ofText mixedOptions.object = ((Json.Value.object mss.flatten).draft, []) := by
  have h : empty.pushAll mixedPushes = .ok mixedOptions := by decide +kernel
  have hps : ∀ p ∈ mixedPushes, p.IsProper := by decide +kernel
  exact ⟨h, hps, object_denotes hps h⟩

end Options

end LogScript
