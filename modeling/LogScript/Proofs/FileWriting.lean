import LogScript.Command.Files
import Mathlib.Data.List.Infix

namespace LogScript.Command.Files

/-- A path leads to a place for a file, in a directory that is there. -/
structure CanWrite (t : Files) (path : String) (p : List String) : Prop where
  nonempty : path ≠ ""
  unclosed : endsInSlash path = false
  leads : t.follow (start path) (names path) = .ok p
  free : t.isDirectory p = false

variable {t t' : Files} {path : String} {p : List String}

theorem isDirectory_iff : t.isDirectory p = true ↔
    (∀ name ∈ p, name = "..") ∨ ∃ e ∈ t.entries, p <+: e.1 ∧ p ≠ e.1 := by
  simp [isDirectory]

theorem isDirectory_of_above {q : List String} (hp : t.isDirectory p = true) (hq : q <+: p) :
    t.isDirectory q = true := by
  rw [isDirectory_iff] at hp ⊢
  rcases hp with hall | ⟨e, he, hprefix, hne⟩
  · exact Or.inl fun name hname => hall name (hq.subset hname)
  · refine Or.inr ⟨e, he, hq.trans hprefix, fun heq => hne ?_⟩
    rw [heq] at hq
    exact hprefix.eq_of_length (Nat.le_antisymm hprefix.length_le hq.length_le)

theorem isDirectory_start (t : Files) (path : String) : t.isDirectory (start path) = true := by
  rw [isDirectory_iff]
  refine Or.inl fun name hname => ?_
  unfold start at hname
  split at hname
  next => exact List.mem_singleton.mp hname
  next => cases hname

/-- One name leads to a directory again, or to a new name in the one it starts from. -/
theorem step_cases (name : String) (hp : t.isDirectory p = true) :
    t.isDirectory (step p name) = true ∨ step p name = p ++ [name] := by
  unfold step
  split
  next => exact Or.inl hp
  next =>
    split
    next => exact Or.inr rfl
    next => exact Or.inl (isDirectory_of_above hp (List.dropLast_prefix p))

theorem exists_of_follow {ns q : List String} (hstart : t.isDirectory p = true)
    (h : t.follow p ns = .ok q) (hq : t.isDirectory q = false) :
    ∃ parent name, q = parent ++ [name] ∧ t.isDirectory parent = true := by
  induction ns generalizing p with
  | nil =>
    cases h
    rw [hstart] at hq
    cases hq
  | cons name ns ih =>
    cases ns with
    | nil =>
      cases h
      rcases step_cases name hstart with hstep | hstep
      · rw [hstep] at hq
        cases hq
      · exact ⟨p, name, hstep, hstart⟩
    | cons next ns =>
      rw [follow] at h
      split at h
      next hstep => exact ih hstep h
      next => cases h
      next => simp

/-- The directories above a place for a file are there. -/
theorem CanWrite.isDirectory_above (h : CanWrite t path p) {q : List String} (hq : q <+: p)
    (hne : q ≠ p) : t.isDirectory q = true := by
  obtain ⟨parent, name, rfl, hparent⟩ :=
    exists_of_follow (isDirectory_start t path) h.leads h.free
  rcases List.prefix_concat_iff.mp hq with heq | hprefix
  · exact absurd heq hne
  · exact isDirectory_of_above hparent hprefix

def put (t : Files) (p : List String) (content : ByteArray) : Files :=
  ⟨(p, content) :: t.entries.filter (·.1 ≠ p)⟩

theorem find?_put_self (t : Files) (p : List String) (content : ByteArray) :
    (t.put p content).find? p = some content := by
  simp [put, find?]

theorem find?_put_of_ne (t : Files) (content : ByteArray) {q : List String} (h : q ≠ p) :
    (t.put p content).find? q = t.find? q := by
  have hlookup : ∀ entries : List (List String × ByteArray),
      (entries.filter (·.1 ≠ p)).lookup q = entries.lookup q := by
    intro entries
    induction entries with
    | nil => rfl
    | cons e entries ih =>
      obtain ⟨k, v⟩ := e
      by_cases hk : k = p
      · have hqk : (q == k) = false := by simpa [hk] using h
        rw [List.filter_cons_of_neg (by simpa using hk), List.lookup_cons, hqk, ih]
      · rw [List.filter_cons_of_pos (by simpa using hk), List.lookup_cons, List.lookup_cons, ih]
  have hqp : (q == p) = false := by simpa using h
  rw [find?, put, List.lookup_cons, hqp, hlookup, find?]

theorem isDirectory_put (h : CanWrite t path p) (content : ByteArray) (q : List String) :
    (t.put p content).isDirectory q = t.isDirectory q := by
  rw [Bool.eq_iff_iff]
  constructor
  · intro hq
    rcases isDirectory_iff.mp hq with hall | ⟨e, he, hprefix, hne⟩
    · exact isDirectory_iff.mpr (Or.inl hall)
    · rcases List.mem_cons.mp he with rfl | he
      · exact h.isDirectory_above hprefix hne
      · exact isDirectory_iff.mpr (Or.inr ⟨e, (List.mem_filter.mp he).1, hprefix, hne⟩)
  · intro hq
    rcases isDirectory_iff.mp hq with hall | ⟨e, he, hprefix, hne⟩
    · exact isDirectory_iff.mpr (Or.inl hall)
    · rw [isDirectory_iff]
      by_cases hp : e.1 = p
      · exact Or.inr ⟨(p, content), List.mem_cons_self, hp ▸ hprefix, hp ▸ hne⟩
      · exact Or.inr ⟨e, List.mem_cons_of_mem _ (List.mem_filter.mpr ⟨he, by simpa using hp⟩),
          hprefix, hne⟩

theorem follow_congr (h : ∀ q, t'.isDirectory q = t.isDirectory q) {ns q : List String}
    (hq : t.follow p ns = .ok q) : t'.follow p ns = .ok q := by
  induction ns generalizing p with
  | nil => exact hq
  | cons name ns ih =>
    cases ns with
    | nil => exact hq
    | cons next ns =>
      rw [follow] at hq ⊢
      · rw [h]
        split at hq
        next hstep =>
          rw [if_pos hstep]
          exact ih hq
        next => cases hq
      all_goals simp

theorem fromUTF8?_toUTF8 (s : String) : String.fromUTF8? s.toUTF8 = some s := by
  unfold String.fromUTF8?
  split
  next => rfl
  next h => exact absurd s.isValidUTF8 h

theorem read_put (h : CanWrite t path p) (content : String) :
    (t.put p content.toUTF8).read path = .ok content := by
  have hfollow := follow_congr (isDirectory_put h content.toUTF8) h.leads
  have hempty : path.isEmpty = false := by simpa using h.nonempty
  rw [read, hempty, hfollow]
  simp only [isDirectory_put h, h.free, find?_put_self, fromUTF8?_toUTF8]
  rfl

theorem dropWhile_names (hne : path ≠ "") (hslash : endsInSlash path = false) :
    ((names path).reverse.dropWhile (· = "")).reverse = names path := by
  have hchars : path.toList ≠ [] := by simpa using hne
  have hlast : path.toList.getLast? ≠ some '/' := by simpa [endsInSlash] using hslash
  obtain ⟨s, hs, hend⟩ := Text.getLast?_segments hchars hlast
  have hnames : (names path).getLast? = some (String.ofList s) := by
    rw [names, List.getLast?_map, hend, Option.map_some]
  obtain ⟨init, hinit⟩ := List.getLast?_eq_some_iff.mp hnames
  have hname : String.ofList s ≠ "" := by simpa using hs
  rw [hinit, List.reverse_append, List.reverse_singleton, List.singleton_append,
    List.dropWhile_cons_of_neg (by simpa using hname), List.reverse_cons, List.reverse_reverse]

theorem write_of_canWrite (h : CanWrite t path p) (content : String) :
    t.write path content = .ok (t.put p content.toUTF8) := by
  have hempty : path.isEmpty = false := by simpa using h.nonempty
  rw [write, hempty, dropWhile_names h.nonempty h.unclosed, h.leads]
  simp [h.free, h.unclosed, put]

theorem canWrite_of_write {content : String} (h : t.write path content = .ok t') :
    ∃ p, CanWrite t path p := by
  rw [write] at h
  split at h
  next => cases h
  next hempty =>
    have hne : path ≠ "" := by simpa using hempty
    split at h
    next => cases h
    next p hfollow =>
      split at h
      next => cases h
      next hfree =>
        obtain ⟨hdirectory, hslash⟩ : t.isDirectory p = false ∧ endsInSlash path = false := by
          simpa using hfree
        rw [dropWhile_names hne hslash] at hfollow
        exact ⟨p, hne, hslash, hfollow, hdirectory⟩

end LogScript.Command.Files
