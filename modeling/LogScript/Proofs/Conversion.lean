import LogScript.Options

namespace LogScript

/-- Work that gives a result unless an error ends it. -/
def outcome {ε α : Type} (e : Option ε) (a : α) : Except ε α :=
  match e with
  | some e => .error e
  | none => .ok a

@[simp] theorem outcome_none {ε α : Type} (a : α) : outcome (none : Option ε) a = .ok a := rfl

@[simp] theorem outcome_some {ε α : Type} (e : ε) (a : α) : outcome (some e) a = .error e := rfl

theorem outcome_eq_ok_iff {ε α : Type} {e : Option ε} {a b : α} :
    outcome e a = .ok b ↔ e = none ∧ a = b := by
  cases e <;> simp

theorem outcome_eq_error_iff {ε α : Type} {e : Option ε} {a : α} {x : ε} :
    outcome e a = .error x ↔ e = some x := by
  cases e <;> simp

theorem findSome?_cons_eq_or {α β : Type} (f : α → Option β) (x : α) (xs : List α) :
    (x :: xs).findSome? f = (f x).or (xs.findSome? f) := by
  rw [List.findSome?_cons]
  cases f x <;> rfl

namespace Literal

/-- A number or a variable. -/
def IsPlain (s : String) : Prop :=
  s.toList ≠ [] ∧ ∀ c ∈ s.toList, Identifier.isPart c = true ∨ c = '-'

theorem isPart_of_mem_toDigits {n : Nat} {c : Char} (h : c ∈ Nat.toDigits 10 n) :
    Identifier.isPart c = true := by
  simp [Identifier.isPart, Nat.isDigit_of_mem_toDigits (by decide) (by decide) h]

theorem isPlain_repr (n : Nat) : IsPlain n.repr := by
  rw [IsPlain, Nat.toList_repr]
  exact ⟨Nat.toDigits_ne_nil, fun c hc => Or.inl (isPart_of_mem_toDigits hc)⟩

theorem isPlain_intRepr (n : Int) : IsPlain n.repr := by
  cases n with
  | ofNat n => exact isPlain_repr n
  | negSucc n =>
    rw [IsPlain, Text.toList_repr_negSucc]
    refine ⟨List.cons_ne_nil _ _, fun c hc => ?_⟩
    rcases List.mem_cons.mp hc with rfl | hdigit
    · exact Or.inr rfl
    · exact Or.inl (isPart_of_mem_toDigits hdigit)

theorem isPlain_of_isIdentifier {s : String} (h : Identifier.isIdentifier s = true) :
    IsPlain s := by
  unfold Identifier.isIdentifier at h
  split at h
  next => simp at h
  next c r hs =>
    rw [Bool.and_eq_true, List.all_eq_true] at h
    rw [IsPlain, hs]
    refine ⟨List.cons_ne_nil _ _, fun d hd => Or.inl ?_⟩
    rcases List.mem_cons.mp hd with rfl | hd
    · simp [Identifier.isPart, h.1]
    · exact h.2 d hd

end Literal

/-- The address that is written for an accepted text. -/
def Url.target (r : Resolver) (s : String) : String :=
  if s.toList.head? = some marker then r s else s

theorem Url.absolute?_eq (r : Resolver) (s : String) :
    absolute? r s = if isUrl s then some (target r s) else none := by
  by_cases h : isUrl s = true
  · by_cases hm : s.toList.head? = some marker <;> simp [absolute?, target, h, hm]
  · simp [absolute?, h]

/-- An engine that refuses some texts, for the reasons given with them, and takes all others. -/
def Engine.refusing (reasons : List (String × String)) : Engine := fun s => reasons.lookup s

/-- Why an opening parenthesis alone is no pattern. -/
def unclosed : String :=
  "Parsing error at position 1: Opening parenthesis without closing parenthesis"

/-- Virtual paths stay as they are, and one pattern is known to be none. -/
def Converter.sample : Converter := ⟨.identity, .refusing [("(", unclosed)]⟩

namespace Kind

/-- Why a text is not of a kind; nothing if it is. -/
def rejection? (g : Engine) (k : Kind) (s : String) : Option Rejection :=
  match k with
  | text => none
  | unsigned => if (Unsigned.ofText? s).isSome then none else some (.notUnsigned s)
  | url => if Url.isUrl s then none else some (.malformedUrl s)
  | level => if (Level.ofText? s).isSome then none else some (.unknownLevel s)
  | pattern => (g s).map (.invalidPattern s)
  | identifier => if Identifier.isIdentifier s then none else some (.invalidIdentifier s)

/-- The literal of a text that is of a kind. -/
def write (r : Resolver) (k : Kind) (s : String) : String :=
  match k with
  | text => Literal.quote s
  | unsigned => ((Unsigned.ofText? s).getD 0).repr
  | url => Literal.quote (Url.target r s)
  | level => ((Level.ofText? s).getD 0).repr
  | pattern => Literal.quote s
  | identifier => s

theorem literal_eq (cv : Converter) (k : Kind) (s : String) :
    k.literal cv s = outcome (k.rejection? cv.engine s) (k.write cv.resolver s) := by
  cases k with
  | text => rfl
  | unsigned => cases h : Unsigned.ofText? s <;> simp [literal, rejection?, write, h]
  | url =>
    rw [literal, Url.absolute?_eq]
    by_cases h : Url.isUrl s = true <;> simp [rejection?, write, h]
  | level => cases h : Level.ofText? s <;> simp [literal, rejection?, write, h]
  | pattern => cases h : cv.engine s <;> simp [literal, rejection?, write, h]
  | identifier =>
    by_cases h : Identifier.isIdentifier s = true <;> simp [literal, rejection?, write, h]

theorem literals_eq (cv : Converter) (k : Kind) (ss : List String) :
    k.literals cv ss =
      outcome (ss.findSome? (k.rejection? cv.engine)) (ss.map (k.write cv.resolver)) := by
  induction ss with
  | nil => rfl
  | cons s ss ih =>
    rw [literals, literal_eq, ih, List.findSome?_cons]
    cases k.rejection? cv.engine s with
    | some e => rfl
    | none => cases ss.findSome? (k.rejection? cv.engine) <;> rfl

theorem isPlain_or_quote (r : Resolver) (k : Kind) {g : Engine} {s : String}
    (h : k.rejection? g s = none) :
    Literal.IsPlain (k.write r s) ∨ ∃ t, k.write r s = Literal.quote t := by
  cases k with
  | text => exact Or.inr ⟨s, rfl⟩
  | unsigned => exact Or.inl (Literal.isPlain_repr _)
  | url => exact Or.inr ⟨_, rfl⟩
  | level => exact Or.inl (Literal.isPlain_intRepr _)
  | pattern => exact Or.inr ⟨s, rfl⟩
  | identifier =>
    have hs : Identifier.isIdentifier s = true := by simpa [rejection?] using h
    exact Or.inl (Literal.isPlain_of_isIdentifier hs)

end Kind

namespace Value

/-- The texts of a value that have to be of its kind. -/
def texts : Value → List String
  | absent => []
  | scalar s => if s.isEmpty then [] else [s]
  | list items => items

/-- The literal of a value whose texts are of its kind; nothing if the value is left out. -/
def written? (r : Resolver) (k : Kind) : Value → Option String
  | absent => none
  | scalar s => if s.isEmpty then none else some (k.write r s)
  | list items => some (Literal.array (items.map (k.write r)))

theorem literal?_eq (cv : Converter) (k : Kind) (v : Value) :
    v.literal? cv k =
      outcome (v.texts.findSome? (k.rejection? cv.engine)) (v.written? cv.resolver k) := by
  cases v with
  | absent => rfl
  | scalar s =>
    by_cases h : s.isEmpty = true
    · simp [literal?, texts, written?, h]
    · rw [literal?, if_neg h, Kind.literal_eq, texts, if_neg h, written?, if_neg h]
      cases hk : k.rejection? cv.engine s <;> simp [hk, Except.map]
  | list items =>
    rw [literal?, Kind.arrayLiteral, Kind.literals_eq, texts, written?]
    cases items.findSome? (k.rejection? cv.engine) <;> rfl

theorem written?_eq_none_iff {r : Resolver} {k : Kind} {v : Value} :
    v.written? r k = none ↔ v.isOmitted = true := by
  cases v <;> simp [written?, isOmitted]

/-- A literal of a value is that of one text, or an array of such literals. -/
theorem written?_induction {g : Engine} {r : Resolver} {k : Kind} {P : String → Prop}
    (hscalar : ∀ s, k.rejection? g s = none → P (k.write r s))
    (hlist : ∀ items : List String, (∀ s ∈ items, k.rejection? g s = none) →
      P (Literal.array (items.map (k.write r))))
    {v : Value} {l : String} (h : v.texts.findSome? (k.rejection? g) = none)
    (hl : v.written? r k = some l) : P l := by
  rw [List.findSome?_eq_none_iff] at h
  cases v with
  | absent => cases hl
  | scalar s =>
    by_cases hs : s.isEmpty = true
    · simp [written?, hs] at hl
    · rw [written?, if_neg hs] at hl
      cases hl
      exact hscalar s (h s (by simp [texts, hs]))
  | list items =>
    cases hl
    exact hlist items h

end Value

namespace Attribute

/-- Why an attribute is not accepted: the first of its texts that its kind rejects. -/
def failure? (g : Engine) (a : Attribute) : Option CompileError :=
  (a.value.texts.findSome? (a.kind.rejection? g)).map (.invalidField a.name)

/-- The option that an accepted attribute becomes; nothing if it is left out. -/
def option? (r : Resolver) (a : Attribute) : Option (String × String) :=
  (a.value.written? r a.kind).map (a.name, ·)

end Attribute

namespace Options

theorem pushValue_eq (cv : Converter) (o : Options) (a : Attribute) :
    o.pushValue cv a.name a.kind a.value =
      outcome (a.failure? cv.engine) ⟨o.entries ++ (a.option? cv.resolver).toList⟩ := by
  rw [pushValue, Value.literal?_eq, Attribute.failure?, Attribute.option?]
  cases a.value.texts.findSome? (a.kind.rejection? cv.engine) with
  | some e => rfl
  | none => cases a.value.written? cv.resolver a.kind <;> simp [push]

/-- Attributes are added up to the first one that is not accepted, whose error is told. -/
theorem pushAttributes_eq (cv : Converter) (o : Options) (as : List Attribute) :
    o.pushAttributes cv as =
      (⟨o.entries ++ (as.takeWhile fun a => (a.failure? cv.engine).isNone).filterMap
          (Attribute.option? cv.resolver)⟩,
        as.findSome? (Attribute.failure? cv.engine)) := by
  induction as generalizing o with
  | nil => simp [pushAttributes]
  | cons a as ih =>
    rw [pushAttributes, pushValue_eq]
    cases h : a.failure? cv.engine with
    | some e => simp [h]
    | none =>
      simp only [outcome_none, ih, List.takeWhile_cons, h, Option.isNone_none, if_true,
        List.findSome?_cons, List.append_assoc]
      cases he : a.option? cv.resolver <;> simp [he]

theorem pushAttributes_of_accepted (cv : Converter) (o : Options) {as : List Attribute}
    (h : as.findSome? (Attribute.failure? cv.engine) = none) :
    o.pushAttributes cv as =
      (⟨o.entries ++ as.filterMap (Attribute.option? cv.resolver)⟩, none) := by
  have hall : ∀ a ∈ as, (a.failure? cv.engine).isNone = true := fun a ha => by
    rw [List.findSome?_eq_none_iff.mp h a ha, Option.isNone_none]
  have hself : (as ++ []).takeWhile (fun a => (a.failure? cv.engine).isNone) = as ++ [] :=
    List.takeWhile_append_of_pos hall
  rw [List.append_nil] at hself
  rw [pushAttributes_eq, hself, h]

theorem ofAttributes_eq (cv : Converter) (as : List Attribute) :
    ofAttributes cv as =
      outcome (as.findSome? (Attribute.failure? cv.engine))
        ⟨as.filterMap (Attribute.option? cv.resolver)⟩ := by
  cases h : as.findSome? (Attribute.failure? cv.engine) with
  | some e => rw [ofAttributes, pushAttributes_eq, h]; rfl
  | none => rw [ofAttributes, pushAttributes_of_accepted cv empty h]; rfl

end Options

end LogScript
