import LogScript.Pass
import LogScript.Proofs.Conversion
import Mathlib.Data.List.Forall2
import Mathlib.Data.List.Induction

namespace LogScript

/-- Where a name stands last in a list of names. -/
def lastIndex? (names : List String) (name : String) : Option Nat :=
  (names.zipIdx.findRev? fun x => x.1 == name).map (·.2)

theorem lastIndex?_concat (names : List String) (last name : String) :
    lastIndex? (names ++ [last]) name =
      if last = name then some names.length else lastIndex? names name := by
  by_cases h : last = name <;>
    simp [lastIndex?, List.zipIdx_append, h]

theorem isSome_lastIndex?_iff {names : List String} {name : String} :
    (lastIndex? names name).isSome = true ↔ name ∈ names := by
  induction names using List.reverseRecOn with
  | nil => simp [lastIndex?]
  | append_singleton names last ih =>
    rw [lastIndex?_concat]
    by_cases h : last = name
    · simp [h]
    · simp [h, ih, Ne.symm h]

namespace Pass

/-- The appenders of these names are known, and no others, each name with the number of the last
one that has it. -/
def Knows (names : List String) (p : Pass) : Prop :=
  ∀ name, p.names.find? .appender name =
    (lastIndex? names name).map ElementKind.appender.ident

theorem knows_start : Knows [] {} := fun _ => rfl

/-- A pass does not tell elements apart if its steps do not. -/
theorem each_congr {α : Type} {emit : α → Pass → Except CompileError (List String) × Pass}
    {xs ys : List α} (h : List.Forall₂ (fun x y => emit y = emit x) xs ys) (p : Pass) :
    each emit ys p = each emit xs p := by
  induction h generalizing p with
  | nil => rfl
  | cons hx _ ih =>
    rw [each, each, hx]
    simp only [ih]

/-- What one step of a pass does with an element, after the elements `done`: the step fails as
`failure` tells, or writes the statements of the element with the next number. It takes that number
in any case, and keeps the invariant if it does not fail. -/
structure Stepwise {α : Type} (emit : α → Pass → Except CompileError (List String) × Pass)
    (failure : α → Option CompileError) (block : α → Nat → List String)
    (inv : List α → Pass → Prop) : Prop where
  fst : ∀ {done p} x, inv done p → (emit x p).1 = outcome (failure x) (block x p.next)
  next : ∀ x p, (emit x p).2.next = p.next + 1
  keep : ∀ {done p} x, inv done p → failure x = none → inv (done ++ [x]) (emit x p).2

namespace Stepwise

variable {α : Type} {emit : α → Pass → Except CompileError (List String) × Pass}
  {failure : α → Option CompileError} {block : α → Nat → List String}
  {inv : List α → Pass → Prop}

theorem each_cons (h : Stepwise emit failure block inv) {done : List α} {p : Pass} (x : α)
    (xs : List α) (hi : inv done p) (hx : failure x = none) :
    each emit (x :: xs) p =
      match each emit xs (emit x p).2 with
      | (.error e, p) => (.error e, p)
      | (.ok more, p') => (.ok (block x p.next ++ more), p') := by
  have hfst := h.fst x hi
  rw [hx, outcome_none] at hfst
  rw [each]
  generalize emit x p = step at hfst
  obtain ⟨result, after⟩ := step
  cases hfst
  rfl

/-- A pass stops at the first element that fails; otherwise the elements are written with
consecutive numbers. -/
theorem fst_each (h : Stepwise emit failure block inv) (xs : List α) {p : Pass} (done : List α)
    (hi : inv done p) :
    (each emit xs p).1 =
      outcome (xs.findSome? failure) ((xs.zipIdx p.next).flatMap fun x => block x.1 x.2) := by
  induction xs generalizing done p with
  | nil => rfl
  | cons x xs ih =>
    have hfst := h.fst x hi
    cases hx : failure x with
    | some e =>
      rw [hx, outcome_some] at hfst
      rw [each, List.findSome?_cons, hx]
      generalize emit x p = step at hfst
      obtain ⟨result, after⟩ := step
      cases hfst
      rfl
    | none =>
      have hrest := ih (done ++ [x]) (h.keep x hi hx)
      rw [h.each_cons x xs hi hx, List.findSome?_cons, hx, List.zipIdx_cons, List.flatMap_cons,
        ← h.next x p]
      generalize each emit xs (emit x p).2 = rest at hrest
      obtain ⟨result, after⟩ := rest
      cases hrest
      cases xs.findSome? failure <;> rfl

theorem snd_each (h : Stepwise emit failure block inv) (xs : List α) {p : Pass} (done : List α)
    (hi : inv done p) (hx : xs.findSome? failure = none) :
    inv (done ++ xs) (each emit xs p).2 ∧ (each emit xs p).2.next = p.next + xs.length := by
  induction xs generalizing done p with
  | nil => exact ⟨by simpa [each] using hi, rfl⟩
  | cons x xs ih =>
    rw [List.findSome?_eq_none_iff, List.forall_mem_cons] at hx
    obtain ⟨hx, hxs⟩ := hx
    rw [← List.findSome?_eq_none_iff] at hxs
    have hstep := ih (done ++ [x]) (h.keep x hi hx) hxs
    have hsnd : (each emit (x :: xs) p).2 = (each emit xs (emit x p).2).2 := by
      rw [h.each_cons x xs hi hx]
      obtain ⟨result, after⟩ := each emit xs (emit x p).2
      cases result <;> rfl
    rw [hsnd, List.length_cons, hstep.2, h.next]
    exact ⟨by simpa using hstep.1, by omega⟩

end Stepwise

end Pass

end LogScript
