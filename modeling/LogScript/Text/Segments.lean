namespace LogScript.Text

/-- The parts of a text between separators. -/
def segments (sep : Char) : List Char → List (List Char)
  | [] => [[]]
  | c :: cs =>
    if c = sep then [] :: segments sep cs
    else match segments sep cs with
      | s :: ss => (c :: s) :: ss
      | [] => [[c]]

variable {sep : Char} {cs part : List Char}

theorem not_mem_of_mem_segments (h : part ∈ segments sep cs) : sep ∉ part := by
  induction cs generalizing part with
  | nil => simp [List.mem_singleton.mp h]
  | cons c cs ih =>
    rw [segments] at h
    split at h
    next =>
      rcases List.mem_cons.mp h with rfl | h
      · exact List.not_mem_nil
      · exact ih h
    next hc =>
      split at h
      next first more hsegments =>
        rw [hsegments] at ih
        rcases List.mem_cons.mp h with rfl | h
        · simpa [Ne.symm hc] using ih List.mem_cons_self
        · exact ih (List.mem_cons_of_mem _ h)
      next => simp [List.mem_singleton.mp h, Ne.symm hc]

/-- Where no separator is at the end, something stands behind the last one. -/
theorem getLast?_segments (hne : cs ≠ []) (hlast : cs.getLast? ≠ some sep) :
    ∃ s ≠ [], (segments sep cs).getLast? = some s := by
  induction cs with
  | nil => exact absurd rfl hne
  | cons c cs ih =>
    cases cs with
    | nil =>
      have hc : c ≠ sep := by simpa using hlast
      exact ⟨[c], List.cons_ne_nil c [], by simp [segments, hc]⟩
    | cons d ds =>
      obtain ⟨s, hs, hend⟩ := ih (List.cons_ne_nil d ds) (by simpa using hlast)
      rw [segments]
      generalize segments sep (d :: ds) = rest at hend
      cases rest with
      | nil => cases hend
      | cons first more =>
        split
        next => exact ⟨s, hs, by rw [List.getLast?_cons_cons, hend]⟩
        next =>
          cases more with
          | nil => exact ⟨c :: first, List.cons_ne_nil c first, rfl⟩
          | cons second more =>
            refine ⟨s, hs, ?_⟩
            rw [List.getLast?_cons_cons] at hend
            rw [List.getLast?_cons_cons, hend]

end LogScript.Text
