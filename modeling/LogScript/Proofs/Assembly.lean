import LogScript.Proofs.Conversion
import Mathlib.Data.List.Forall2
import Mathlib.Data.List.ReduceOption

namespace LogScript

/-- Work on a row of elements, up to the first one that fails. What those before it gave is
kept. -/
inductive GoesThrough {α β ε : Type} (gives : α → β → Prop) (fails : α → ε → Prop) :
    List α → List β → Option ε → Prop
  | done : GoesThrough gives fails [] [] none
  | stop {x : α} {xs : List α} {e : ε} : fails x e → GoesThrough gives fails (x :: xs) [] (some e)
  | next {x : α} {y : β} {xs : List α} {ys : List β} {e : Option ε} : gives x y →
    GoesThrough gives fails xs ys e → GoesThrough gives fails (x :: xs) (y :: ys) e

namespace GoesThrough

variable {α β ε : Type} {gives : α → β → Prop} {fails : α → ε → Prop} {xs : List α} {ys : List β}

theorem none_iff : GoesThrough gives fails xs ys none ↔ List.Forall₂ gives xs ys := by
  constructor
  · intro h
    generalize hend : (none : Option ε) = e at h
    induction h with
    | done => exact .nil
    | stop => cases hend
    | next hx _ ih => exact .cons hx (ih hend)
  · intro h
    induction h with
    | nil => exact .done
    | cons hx _ ih => exact .next hx ih

theorem some_iff {e : ε} :
    GoesThrough gives fails xs ys (some e) ↔
      ∃ before x after, xs = before ++ x :: after ∧ List.Forall₂ gives before ys ∧ fails x e := by
  constructor
  · intro h
    generalize hend : some e = e' at h
    induction h with
    | done => cases hend
    | stop hx =>
      cases hend
      exact ⟨[], _, _, rfl, .nil, hx⟩
    | next hx _ ih =>
      obtain ⟨before, x, after, rfl, hbefore, hfail⟩ := ih hend
      exact ⟨_ :: before, x, after, rfl, .cons hx hbefore, hfail⟩
  · rintro ⟨before, x, after, rfl, hbefore, hfail⟩
    induction hbefore with
    | nil => exact .stop hfail
    | cons hx _ ih => exact .next hx ih

/-- If every element gives something or fails, then so does a row. -/
theorem total (h : ∀ x, (∃ y, gives x y) ∨ ∃ e, fails x e) (xs : List α) :
    ∃ ys e, GoesThrough gives fails xs ys e := by
  induction xs with
  | nil => exact ⟨[], none, .done⟩
  | cons x xs ih =>
    obtain ⟨y, hy⟩ | ⟨e, he⟩ := h x
    · obtain ⟨ys, e, hxs⟩ := ih
      exact ⟨y :: ys, e, .next hy hxs⟩
    · exact ⟨[], some e, .stop he⟩

end GoesThrough

theorem exists_of_forall₂ {α β : Type} {R : α → β → Prop} {xs : List α} {ys : List β}
    (h : List.Forall₂ R xs ys) : ∀ x ∈ xs, ∃ y, R x y :=
  ((List.forall₂_and_left xs ys).mp (h.imp fun _ y hxy => ⟨⟨y, hxy⟩, hxy⟩)).1

variable {cv : Converter} {k : Kind}

theorem Kind.literals_of_goesThrough {ss ls : List String} {e : Option Rejection}
    (h : GoesThrough (fun s l => k.literal cv s = .ok l) (fun s e => k.literal cv s = .error e)
      ss ls e) : k.literals cv ss = outcome e ls := by
  induction h with
  | done => rfl
  | stop hs => rw [literals, hs, outcome_some]
  | @next _ _ _ _ e hs _ ih =>
    rw [literals, hs, ih]
    cases e <;> rfl

namespace Value

/-- What becomes of a value: nothing if it is left out, or the literal of its text, or an array of
the literals of all its texts. -/
inductive Gives (cv : Converter) (k : Kind) : Value → Option String → Prop
  | omitted {v : Value} : v.isOmitted = true → Gives cv k v none
  | scalar {s l : String} : s ≠ "" → k.literal cv s = .ok l → Gives cv k (scalar s) (some l)
  | list {items ls : List String} :
    List.Forall₂ (fun s l => k.literal cv s = .ok l) items ls →
      Gives cv k (list items) (some ("[" ++ ", ".intercalate ls ++ "]"))

/-- Why a value is not accepted: its text is not, or one of its texts is not and all before that
are. -/
inductive Fails (cv : Converter) (k : Kind) : Value → Rejection → Prop
  | scalar {s : String} {e : Rejection} : s ≠ "" → k.literal cv s = .error e →
    Fails cv k (scalar s) e
  | list {before after ls : List String} {s : String} {e : Rejection} :
    List.Forall₂ (fun s l => k.literal cv s = .ok l) before ls → k.literal cv s = .error e →
      Fails cv k (list (before ++ s :: after)) e

variable {v : Value}

theorem literal?_scalar {s : String} (hs : s ≠ "") :
    (scalar s).literal? cv k = (k.literal cv s).map some := by
  simp [literal?, hs]

theorem literal?_of_gives {l : Option String} (h : v.Gives cv k l) : v.literal? cv k = .ok l := by
  cases h with
  | omitted h => exact literal?_of_isOmitted h
  | scalar hs hl => rw [literal?_scalar hs, hl, Except.map]
  | list h =>
    rw [literal?, Kind.arrayLiteral, Kind.literals_of_goesThrough (GoesThrough.none_iff.mpr h)]
    rfl

theorem literal?_of_fails {e : Rejection} (h : v.Fails cv k e) : v.literal? cv k = .error e := by
  cases h with
  | scalar hs hl => rw [literal?_scalar hs, hl, Except.map]
  | list hbefore hs =>
    rw [literal?, Kind.arrayLiteral,
      Kind.literals_of_goesThrough (GoesThrough.some_iff.mpr ⟨_, _, _, rfl, hbefore, hs⟩)]
    rfl

theorem gives_or_fails (cv : Converter) (k : Kind) (v : Value) :
    (∃ l, v.Gives cv k l) ∨ ∃ e, v.Fails cv k e := by
  have htext : ∀ s, (∃ l, k.literal cv s = .ok l) ∨ ∃ e, k.literal cv s = .error e := fun s => by
    cases k.literal cv s with
    | ok l => exact Or.inl ⟨l, rfl⟩
    | error e => exact Or.inr ⟨e, rfl⟩
  cases v with
  | absent => exact Or.inl ⟨none, .omitted rfl⟩
  | scalar s =>
    by_cases hs : s = ""
    · exact Or.inl ⟨none, .omitted (by rw [hs]; rfl)⟩
    · obtain ⟨l, hl⟩ | ⟨e, he⟩ := htext s
      · exact Or.inl ⟨some l, .scalar hs hl⟩
      · exact Or.inr ⟨e, .scalar hs he⟩
  | list items =>
    obtain ⟨ls, e, hgoes⟩ := GoesThrough.total htext items
    cases e with
    | none => exact Or.inl ⟨_, .list (GoesThrough.none_iff.mp hgoes)⟩
    | some e =>
      obtain ⟨before, s, after, rfl, hbefore, hs⟩ := GoesThrough.some_iff.mp hgoes
      exact Or.inr ⟨e, .list hbefore hs⟩

theorem isOmitted_of_mem_texts {s : String} (hs : s ∈ v.texts) : v.isOmitted = false := by
  cases v with
  | absent => cases hs
  | scalar t =>
    by_contra homitted
    simp_all [isOmitted, texts]
  | list => rfl

theorem Gives.accepted {l : Option String} (h : v.Gives cv k l) :
    ∀ s ∈ v.texts, ∃ l', k.literal cv s = .ok l' := by
  intro s hs
  cases h with
  | omitted h =>
    rw [isOmitted_of_mem_texts hs] at h
    cases h
  | @scalar t l hne hl =>
    rw [texts, if_neg (by simpa using hne)] at hs
    exact ⟨l, List.mem_singleton.mp hs ▸ hl⟩
  | list h => exact exists_of_forall₂ h s hs

theorem Fails.exists_text {e : Rejection} (h : v.Fails cv k e) :
    ∃ s ∈ v.texts, k.literal cv s = .error e := by
  cases h with
  | @scalar s _ hne hs => exact ⟨s, by simp [texts, hne], hs⟩
  | @list before after _ s _ _ hs => exact ⟨s, by simp [texts], hs⟩

end Value

namespace Attribute

/-- The option that an attribute becomes; nothing if it is left out. -/
def Gives (cv : Converter) (a : Attribute) (x : Option (String × String)) : Prop :=
  ∃ l, a.value.Gives cv a.kind l ∧ x = l.map (a.name, ·)

/-- The error that an attribute ends the work with. -/
def Fails (cv : Converter) (a : Attribute) (e : CompileError) : Prop :=
  ∃ cause, a.value.Fails cv a.kind cause ∧ e = .invalidField a.name cause

theorem gives_or_fails (cv : Converter) (a : Attribute) :
    (∃ x, a.Gives cv x) ∨ ∃ e, a.Fails cv e := by
  obtain ⟨l, hl⟩ | ⟨cause, hcause⟩ := Value.gives_or_fails cv a.kind a.value
  · exact Or.inl ⟨_, l, hl, rfl⟩
  · exact Or.inr ⟨_, cause, hcause, rfl⟩

end Attribute

namespace Options

def extend (o : Options) (xs : List (Option (String × String))) : Options :=
  ⟨o.entries ++ xs.reduceOption⟩

@[simp] theorem extend_nil (o : Options) : o.extend [] = o := by
  simp [extend]

theorem extend_cons (o : Options) (x : Option (String × String))
    (xs : List (Option (String × String))) :
    o.extend (x :: xs) = (o.extend [x]).extend xs := by
  cases x <;> simp [extend]

variable {o o' : Options}

theorem pushValue_of_gives {a : Attribute} {x : Option (String × String)} (h : a.Gives cv x) :
    o.pushValue cv a.name a.kind a.value = .ok (o.extend [x]) := by
  obtain ⟨l, hl, rfl⟩ := h
  rw [pushValue, Value.literal?_of_gives hl]
  cases l <;> simp [extend, push]

theorem pushValue_of_fails {a : Attribute} {e : CompileError} (h : a.Fails cv e) :
    o.pushValue cv a.name a.kind a.value = .error e := by
  obtain ⟨cause, hcause, rfl⟩ := h
  rw [pushValue, Value.literal?_of_fails hcause]

variable {as : List Attribute} {e : Option CompileError}

theorem pushAttributes_of_goesThrough {xs : List (Option (String × String))}
    (h : GoesThrough (Attribute.Gives cv) (Attribute.Fails cv) as xs e) :
    o.pushAttributes cv as = (o.extend xs, e) := by
  induction h generalizing o with
  | done => rw [pushAttributes, extend_nil]
  | stop ha => rw [pushAttributes, pushValue_of_fails ha, extend_nil]
  | @next a x _ xs _ ha _ ih =>
    rw [pushAttributes, pushValue_of_gives ha, extend_cons o x xs]
    exact ih

theorem pushAttributes_eq_iff :
    o.pushAttributes cv as = (o', e) ↔
      ∃ xs, GoesThrough (Attribute.Gives cv) (Attribute.Fails cv) as xs e ∧ o' = o.extend xs := by
  constructor
  · intro h
    -- The work comes to some end, and what is computed is that end.
    obtain ⟨xs, e', hgoes⟩ := GoesThrough.total (Attribute.gives_or_fails cv) as
    rw [pushAttributes_of_goesThrough hgoes] at h
    cases h
    exact ⟨xs, hgoes, rfl⟩
  · rintro ⟨xs, hgoes, rfl⟩
    exact pushAttributes_of_goesThrough hgoes

theorem pushAttributes_eq_some_iff {e : CompileError} :
    o.pushAttributes cv as = (o', some e) ↔
      ∃ before a after xs, as = before ++ a :: after ∧
        List.Forall₂ (Attribute.Gives cv) before xs ∧ a.Fails cv e ∧ o' = o.extend xs := by
  rw [pushAttributes_eq_iff]
  simp only [GoesThrough.some_iff]
  constructor
  · rintro ⟨xs, ⟨before, a, after, hsplit, hbefore, ha⟩, ho⟩
    exact ⟨before, a, after, xs, hsplit, hbefore, ha, ho⟩
  · rintro ⟨before, a, after, xs, hsplit, hbefore, ha, ho⟩
    exact ⟨xs, ⟨before, a, after, hsplit, hbefore, ha⟩, ho⟩

theorem pushAttributes_eq_none_iff :
    o.pushAttributes cv as = (o', none) ↔
      ∃ xs, List.Forall₂ (Attribute.Gives cv) as xs ∧ o' = o.extend xs := by
  rw [pushAttributes_eq_iff]
  simp only [GoesThrough.none_iff]

/-- The work fails if and only if some text is not accepted. -/
theorem isSome_snd_pushAttributes_iff (cv : Converter) (o : Options) (as : List Attribute) :
    (o.pushAttributes cv as).2.isSome = true ↔
      ∃ a ∈ as, a.value.isOmitted = false ∧
        ∃ s ∈ a.value.texts, ∃ cause, a.kind.literal cv s = .error cause := by
  cases hresult : o.pushAttributes cv as with
  | mk o' e =>
    cases e with
    | some e =>
      obtain ⟨before, a, after, xs, rfl, -, ⟨cause, hcause, -⟩, -⟩ :=
        pushAttributes_eq_some_iff.mp hresult
      obtain ⟨s, hs, hrejected⟩ := hcause.exists_text
      exact iff_of_true rfl
        ⟨a, by simp, Value.isOmitted_of_mem_texts hs, s, hs, cause, hrejected⟩
    | none =>
      refine iff_of_false Bool.false_ne_true ?_
      rintro ⟨a, ha, -, s, hs, cause, hrejected⟩
      obtain ⟨xs, hxs, -⟩ := pushAttributes_eq_none_iff.mp hresult
      obtain ⟨x, l, hl, -⟩ := exists_of_forall₂ hxs a ha
      obtain ⟨l', haccepted⟩ := hl.accepted s hs
      rw [hrejected] at haccepted
      cases haccepted

theorem ofAttributes_eq_ok_iff :
    ofAttributes cv as = .ok o ↔ empty.pushAttributes cv as = (o, none) := by
  rw [ofAttributes]
  split
  next h => simp [h]
  next h => simp [h]

/-- Which error the work ends with does not depend on what was there before. -/
theorem ofAttributes_eq_error_iff {e : CompileError} (o : Options) :
    ofAttributes cv as = .error e ↔ (o.pushAttributes cv as).2 = some e := by
  obtain ⟨xs, e', hgoes⟩ := GoesThrough.total (Attribute.gives_or_fails cv) as
  rw [ofAttributes, pushAttributes_of_goesThrough hgoes, pushAttributes_of_goesThrough hgoes]
  cases e' <;> simp

/-- The second list is not looked at if the first one fails. -/
theorem pushAttributes_append (bs : List Attribute) :
    o.pushAttributes cv (as ++ bs) =
      match o.pushAttributes cv as with
      | (o', none) => o'.pushAttributes cv bs
      | (o', some e) => (o', some e) := by
  induction as generalizing o with
  | nil => rfl
  | cons a as ih =>
    rw [List.cons_append, pushAttributes, pushAttributes]
    cases o.pushValue cv a.name a.kind a.value with
    | error e => rfl
    | ok o₁ => exact ih

/-- What comes of attributes that are added to options. -/
structure Assembles (cv : Converter) (as : List Attribute) : Prop where
  fails_iff : ∀ o : Options, (o.pushAttributes cv as).2.isSome = true ↔
    ∃ a ∈ as, a.value.isOmitted = false ∧
      ∃ s ∈ a.value.texts, ∃ cause, a.kind.literal cv s = .error cause
  failed_iff : ∀ (o o' : Options) (e : CompileError), o.pushAttributes cv as = (o', some e) ↔
    ∃ before a after xs, as = before ++ a :: after ∧
      List.Forall₂ (Attribute.Gives cv) before xs ∧ a.Fails cv e ∧ o' = o.extend xs
  done_iff : ∀ o o' : Options, o.pushAttributes cv as = (o', none) ↔
    ∃ xs, List.Forall₂ (Attribute.Gives cv) as xs ∧ o' = o.extend xs
  alone_failed_iff : ∀ (o : Options) (e : CompileError),
    ofAttributes cv as = .error e ↔ (o.pushAttributes cv as).2 = some e
  alone_done_iff : ∀ o : Options,
    ofAttributes cv as = .ok o ↔ empty.pushAttributes cv as = (o, none)
  append : ∀ (o : Options) (bs : List Attribute), o.pushAttributes cv (as ++ bs) =
    match o.pushAttributes cv as with
    | (o', none) => o'.pushAttributes cv bs
    | (o', some e) => (o', some e)

/-- Options are followed by what the attributes before the first failing one give, whose error is
told; attributes that are left out change nothing, wherever they stand. -/
theorem assembles_attributes (cv : Converter) (as : List Attribute) : Assembles cv as where
  fails_iff o := isSome_snd_pushAttributes_iff cv o as
  failed_iff _ _ _ := pushAttributes_eq_some_iff
  done_iff _ _ := pushAttributes_eq_none_iff
  alone_failed_iff o _ := ofAttributes_eq_error_iff o
  alone_done_iff _ := ofAttributes_eq_ok_iff
  append _ bs := pushAttributes_append bs

example : (empty.push "a" "1").pushAttributes .sample
    [⟨"b", .text, .scalar ""⟩, ⟨"c", .url, .list []⟩, ⟨"d", .pattern, .list ["a|b", "(", "c"]⟩,
      ⟨"e", .url, .scalar "a b"⟩] =
    (⟨[("a", "1"), ("c", "[]")]⟩, some (.invalidField "d" (.invalidPattern "(" unclosed))) := by
  decide +kernel

end Options

end LogScript
