import LogScript.Text.Blank
import Mathlib.Data.List.DropRight

namespace LogScript.Text

/-- White space, or nothing. -/
def IsGap (cs : List Char) : Prop := ∀ c ∈ cs, isBlank c = true

-- The instances are named, since search may come upon one that tries every character.
instance : DecidablePred IsGap := fun cs => List.decidableBAll _ cs

/-- A text that neither begins nor ends with white space. -/
structure IsTight (cs : List Char) : Prop where
  head : ∀ c ∈ cs.head?, isBlank c = false
  last : ∀ c ∈ cs.getLast?, isBlank c = false

instance : DecidablePred IsTight := fun cs =>
  @decidable_of_iff _ _ ⟨fun h => ⟨h.1, h.2⟩, fun h => ⟨h.head, h.last⟩⟩
    (@instDecidableAnd _ _ (Option.decidableForallMem cs.head?)
      (Option.decidableForallMem cs.getLast?))

/-- A text with white space around it, or without. -/
def IsPadded (core cs : List Char) : Prop :=
  ∃ left right, IsGap left ∧ IsGap right ∧ cs = left ++ core ++ right

variable {p : Char → Bool} {core cs left right : List Char}

theorem IsGap.nil : IsGap [] := fun _ h => absurd h List.not_mem_nil

theorem IsTight.nil : IsTight [] where
  head _ h := by cases h
  last _ h := by cases h

theorem IsPadded.self (cs : List Char) : IsPadded cs cs :=
  ⟨[], [], .nil, .nil, by simp⟩

theorem dropStart_append_of_pos (h : ∀ c ∈ left, p c = true) :
    dropStart p (left ++ cs) = dropStart p cs :=
  List.dropWhile_append_of_pos h

theorem dropEnd_append_of_pos (h : ∀ c ∈ right, p c = true) :
    dropEnd p (cs ++ right) = dropEnd p cs := by
  have hreverse : ∀ c ∈ right.reverse, p c = true := fun c hc => h c (List.mem_reverse.mp hc)
  rw [dropEnd, List.reverse_append, List.dropWhile_append_of_pos hreverse, dropEnd]

theorem dropStart_eq_self (h : ∀ c ∈ cs.head?, p c = false) : dropStart p cs = cs := by
  cases cs with
  | nil => rfl
  | cons c cs => exact List.dropWhile_cons_of_neg (by simp [h c rfl])

theorem dropEnd_eq_self (h : ∀ c ∈ cs.getLast?, p c = false) : dropEnd p cs = cs := by
  have hreverse : dropStart p cs.reverse = cs.reverse :=
    dropStart_eq_self fun c hc => h c (by rwa [List.head?_reverse] at hc)
  rw [dropEnd, ← dropStart, hreverse, List.reverse_reverse]

theorem exists_append_dropStart (p : Char → Bool) (cs : List Char) :
    ∃ left, (∀ c ∈ left, p c = true) ∧ cs = left ++ dropStart p cs :=
  ⟨cs.takeWhile p, fun _ => List.mem_takeWhile_imp, List.takeWhile_append_dropWhile.symm⟩

theorem exists_dropEnd_append (p : Char → Bool) (cs : List Char) :
    ∃ right, (∀ c ∈ right, p c = true) ∧ cs = dropEnd p cs ++ right :=
  ⟨cs.rtakeWhile p, fun _ => List.mem_rtakeWhile_imp, (List.rdropWhile_append_rtakeWhile).symm⟩

theorem isPadded_trim (cs : List Char) : IsPadded (trim cs) cs := by
  obtain ⟨left, hleft, hcs⟩ := exists_append_dropStart isBlank cs
  obtain ⟨right, hright, hrest⟩ := exists_dropEnd_append isBlank (dropStart isBlank cs)
  exact ⟨left, right, hleft, hright, by rw [List.append_assoc, trim, ← hrest, ← hcs]⟩

theorem head?_dropStart (p : Char → Bool) (cs : List Char) :
    ∀ c ∈ (dropStart p cs).head?, p c = false := by
  intro c hc
  have hnot := List.head?_dropWhile_not p cs
  rw [dropStart, Option.mem_def] at hc
  simpa [hc] using hnot

theorem isTight_trim (cs : List Char) : IsTight (trim cs) where
  head := by
    intro c hc
    -- What is left of a text at its end begins like the text.
    obtain ⟨right, -, hrest⟩ := exists_dropEnd_append isBlank (dropStart isBlank cs)
    apply head?_dropStart isBlank cs c
    rw [hrest, ← trim, List.head?_append, Option.mem_def.mp hc]
    rfl
  last := by
    intro c hc
    rw [trim, dropEnd, List.getLast?_reverse] at hc
    exact head?_dropStart isBlank _ c hc

/-- White space around a text does not count. -/
theorem trim_append (hleft : IsGap left) (hright : IsGap right) :
    trim (left ++ cs ++ right) = trim cs := by
  rw [trim, List.append_assoc, dropStart_append_of_pos hleft, trim]
  by_cases hgap : dropStart isBlank cs = []
  · -- With nothing but white space in the text, the rest is white space as well.
    have hall : ∀ c ∈ cs ++ right, isBlank c = true := by
      obtain ⟨front, hfront, hcs⟩ := exists_append_dropStart isBlank cs
      rw [hgap, List.append_nil] at hcs
      rw [hcs]
      exact List.forall_mem_append.mpr ⟨hfront, hright⟩
    have hnil : dropStart isBlank (cs ++ right) = [] := List.dropWhile_eq_nil_iff.mpr hall
    rw [hnil, hgap]
  · have hrest : dropStart isBlank (cs ++ right) = dropStart isBlank cs ++ right := by
      have hempty : (List.dropWhile isBlank cs).isEmpty = false := by simpa [dropStart] using hgap
      rw [dropStart, List.dropWhile_append, hempty]
      rfl
    rw [hrest, dropEnd_append_of_pos hright]

theorem IsTight.trim_eq (h : IsTight cs) : trim cs = cs := by
  rw [trim, dropStart_eq_self h.head, dropEnd_eq_self h.last]

/-- There is one way to take the white space off a text. -/
theorem trim_eq_iff : trim cs = core ↔ IsTight core ∧ IsPadded core cs := by
  constructor
  · rintro rfl
    exact ⟨isTight_trim cs, isPadded_trim cs⟩
  · rintro ⟨htight, left, right, hleft, hright, rfl⟩
    rw [trim_append hleft hright, htight.trim_eq]

/-- What holds of texts without white space around them alone can hold of one part of a text only,
the one that is left when the white space is gone. -/
theorem exists_isPadded_iff {p : List Char → Prop} (hp : ∀ core, p core → IsTight core) :
    (∃ core, IsPadded core cs ∧ p core) ↔ p (trim cs) := by
  constructor
  · rintro ⟨core, hpadded, h⟩
    rwa [trim_eq_iff.mpr ⟨hp core h, hpadded⟩]
  · intro h
    exact ⟨_, isPadded_trim cs, h⟩

theorem trim_eq_nil_iff : trim cs = [] ↔ IsGap cs := by
  constructor
  · intro h
    obtain ⟨left, right, hleft, hright, hcs⟩ := isPadded_trim cs
    rw [hcs, h, List.append_nil]
    exact List.forall_mem_append.mpr ⟨hleft, hright⟩
  · intro h
    exact trim_eq_iff.mpr ⟨.nil, cs, [], h, .nil, by simp⟩

theorem mem_of_mem_trim {c : Char} (h : c ∈ trim cs) : c ∈ cs := by
  obtain ⟨left, right, -, -, hcs⟩ := isPadded_trim cs
  rw [hcs]
  exact List.mem_append_left _ (List.mem_append_right _ h)

end LogScript.Text
