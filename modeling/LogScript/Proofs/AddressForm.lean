import LogScript.Proofs.Delimited
import LogScript.Url
import Mathlib.Computability.Language

namespace LogScript.Url

open scoped Computability

/-- One character of a class. -/
def ofClass (p : Char → Bool) : Language Char := {cs | ∃ c, cs = [c] ∧ p c = true}

/-- The letter that the name of a scheme for web pages may end with. -/
def isLastLetter (c : Char) : Bool := isLetter 's' c || c == '\u017f'

/-- The name of a scheme for web pages, in any case of its letters. -/
def webName : Language Char :=
  ofClass (isLetter 'h') * ofClass (isLetter 't') * ofClass (isLetter 't') *
    ofClass (isLetter 'p') * (1 + ofClass isLastLetter)

/-- An address on any host, with a scheme or without one. -/
def remotePattern : Language Char :=
  (1 + webName * ofClass (· == ':')) * ofClass (· == '/') * ofClass (· == '/') *
    ofClass isUrlChar * (ofClass isUrlChar)∗

/-- Besides those: virtual paths, paths with a break, and paths without one. -/
def pattern : Language Char :=
  remotePattern + ofClass (· == '~') * (ofClass isUrlChar)∗ +
    (ofClass isPathChar)∗ * ofClass isBreak * (ofClass isUrlChar)∗ +
    ofClass isPathChar * (ofClass isPathChar)∗

@[simp] theorem nil_mem_ofClass_mul {p : Char → Bool} {l : Language Char} :
    [] ∈ ofClass p * l ↔ False := by
  simp only [Language.mem_mul, iff_false]
  rintro ⟨_, ⟨c, rfl, -⟩, r, -, h⟩
  cases h

@[simp] theorem cons_mem_ofClass_mul {p : Char → Bool} {l : Language Char} {c : Char}
    {r : List Char} : c :: r ∈ ofClass p * l ↔ p c = true ∧ r ∈ l := by
  rw [Language.mem_mul]
  constructor
  · rintro ⟨_, ⟨d, rfl, hd⟩, r', hr, h⟩
    obtain ⟨rfl, rfl⟩ := List.cons.inj h
    exact ⟨hd, hr⟩
  · rintro ⟨hc, hr⟩
    exact ⟨[c], ⟨c, rfl, hc⟩, r, hr, rfl⟩

theorem mem_ofClass_mul_iff {p : Char → Bool} {l : Language Char} {cs : List Char} :
    cs ∈ ofClass p * l ↔ ∃ c r, p c = true ∧ r ∈ l ∧ cs = c :: r := by
  cases cs <;> simp

theorem mem_kstar_ofClass {p : Char → Bool} {cs : List Char} :
    cs ∈ (ofClass p)∗ ↔ ∀ c ∈ cs, p c = true := by
  rw [Language.mem_kstar]
  constructor
  · rintro ⟨words, rfl, hwords⟩ c hc
    obtain ⟨w, hw, hcw⟩ := List.mem_flatten.mp hc
    obtain ⟨d, rfl, hd⟩ := hwords w hw
    rwa [List.mem_singleton.mp hcw]
  · intro h
    refine ⟨cs.map ([·]), ?_, fun w hw => ?_⟩
    · rw [← List.flatMap_def, List.flatMap_singleton']
    · obtain ⟨c, hc, rfl⟩ := List.mem_map.mp hw
      exact ⟨c, rfl, h c hc⟩

theorem mem_one_add_ofClass {p : Char → Bool} {cs : List Char} :
    cs ∈ 1 + ofClass p ↔ cs = [] ∨ ∃ c, p c = true ∧ cs = [c] := by
  rw [Language.mem_add, Language.mem_one]
  refine or_congr_right ⟨?_, ?_⟩
  · rintro ⟨c, rfl, hc⟩
    exact ⟨c, hc, rfl⟩
  · rintro ⟨c, hc, rfl⟩
    exact ⟨c, rfl, hc⟩

theorem toLower_eq_longS_iff {c : Char} : c.toLower = '\u017f' ↔ c = '\u017f' := by
  constructor
  · intro h
    unfold Char.toLower at h
    split at h
    next hc =>
      have hval := congrArg (fun d : Char => d.val.toNat) h
      have hle : c.val.toNat ≤ 90 := UInt32.le_iff_toNat_le.mp hc.2
      have hsum : (c.val.toNat + 32) % 4294967296 = 0x17f := by simpa using hval
      omega
    next => exact h
  · rintro rfl
    decide

/-- The names of the schemes for web pages. The long s is another letter case of `s`. -/
def webNames : List (List Char) := ["http".toList, "https".toList, "http\u017f".toList]

theorem mem_webName_iff {cs : List Char} :
    cs ∈ webName ↔ cs.map Char.toLower ∈ webNames := by
  simp only [webName, mul_assoc]
  rcases cs with _ | ⟨a, _ | ⟨b, _ | ⟨c, _ | ⟨d, _ | ⟨e, cs⟩⟩⟩⟩⟩
  all_goals
    simp only [nil_mem_ofClass_mul, cons_mem_ofClass_mul, mem_one_add_ofClass]
    simp [webNames, isLetter, isLastLetter, toLower_eq_longS_iff, and_or_left]

/-- What may stand in front of the two slashes of an address on any host. -/
def IsFront (front : List Char) : Prop := front = [] ∨ ∃ name ∈ webName, front = name ++ [':']

def IsRow (cs : List Char) : Prop := ∀ c ∈ cs, isUrlChar c = true

def IsPathRow (cs : List Char) : Prop := ∀ c ∈ cs, isPathChar c = true

theorem mem_remotePattern_iff {cs : List Char} :
    cs ∈ remotePattern ↔
      ∃ front host, IsFront front ∧ host ≠ [] ∧ IsRow host ∧ cs = front ++ '/' :: '/' :: host := by
  have hfront : ∀ {front}, front ∈ 1 + webName * ofClass (· == ':') ↔ IsFront front := by
    intro front
    rw [Language.mem_add, Language.mem_one, Language.mem_mul]
    refine or_congr_right ⟨?_, ?_⟩
    · rintro ⟨name, hname, _, ⟨c, rfl, hc⟩, rfl⟩
      exact ⟨name, hname, by rw [beq_iff_eq.mp hc]⟩
    · rintro ⟨name, hname, rfl⟩
      exact ⟨name, hname, _, ⟨':', rfl, rfl⟩, rfl⟩
  simp only [remotePattern, mul_assoc]
  rw [Language.mem_mul]
  simp only [hfront, mem_ofClass_mul_iff, mem_kstar_ofClass, beq_iff_eq]
  constructor
  · rintro ⟨front, hf, _, ⟨_, _, rfl, ⟨_, _, rfl, ⟨c, r, hc, hr, rfl⟩, rfl⟩, rfl⟩, rfl⟩
    exact ⟨front, c :: r, hf, List.cons_ne_nil c r, List.forall_mem_cons.mpr ⟨hc, hr⟩, rfl⟩
  · rintro ⟨front, host, hf, hne, hhost, rfl⟩
    obtain ⟨c, r, rfl⟩ := List.exists_cons_of_ne_nil hne
    obtain ⟨hc, hr⟩ := List.forall_mem_cons.mp hhost
    exact ⟨front, hf, _, ⟨_, _, rfl, ⟨_, _, rfl, ⟨c, r, hc, hr, rfl⟩, rfl⟩, rfl⟩, rfl⟩

theorem isAuthority_iff {cs : List Char} :
    isAuthority cs = true ↔ ∃ host, host ≠ [] ∧ IsRow host ∧ cs = '/' :: '/' :: host := by
  constructor
  · intro h
    unfold isAuthority at h
    split at h
    next c r => exact ⟨c :: r, List.cons_ne_nil c r, List.all_eq_true.mp h, rfl⟩
    next => cases h
  · rintro ⟨host, hne, hhost, rfl⟩
    obtain ⟨c, r, rfl⟩ := List.exists_cons_of_ne_nil hne
    exact List.all_eq_true.mpr hhost

theorem mem_webName_of_letters {h t t' p : Char} {last : List Char}
    (hletters : (isLetter 'h' h && isLetter 't' t && isLetter 't' t' && isLetter 'p' p) = true)
    (hlast : last ∈ 1 + ofClass isLastLetter) :
    h :: t :: t' :: p :: last ∈ webName := by
  simp only [Bool.and_eq_true, and_assoc] at hletters
  obtain ⟨hh, ht, ht', hp⟩ := hletters
  simp only [webName, mul_assoc, cons_mem_ofClass_mul]
  exact ⟨hh, ht, ht', hp, hlast⟩

theorem letters_of_mem_webName {name : List Char} (hname : name ∈ webName) :
    ∃ h t t' p last,
      (isLetter 'h' h && isLetter 't' t && isLetter 't' t' && isLetter 'p' p) = true ∧
      (last = [] ∨ ∃ s, isLastLetter s = true ∧ last = [s]) ∧
      name = h :: t :: t' :: p :: last := by
  simp only [webName, mul_assoc, mem_ofClass_mul_iff, mem_one_add_ofClass] at hname
  obtain ⟨h, _, hh, ⟨t, _, ht, ⟨t', _, ht', ⟨p, last, hp, hlast, rfl⟩, rfl⟩, rfl⟩, rfl⟩ := hname
  exact ⟨h, t, t', p, last, by rw [hh, ht, ht', hp]; rfl, hlast, rfl⟩

/-- The scheme is found in front of two slashes; whether there is one letter more is told by the
place of the colon. -/
theorem any_afterScheme?_iff {cs : List Char} :
    (afterScheme? cs).any isAuthority = true ↔
      ∃ name r, name ∈ webName ∧ isAuthority r = true ∧ cs = name ++ ':' :: r := by
  constructor
  · intro h
    unfold afterScheme? at h
    split at h
    next c₁ c₂ c₃ c₄ c₅ r =>
      split at h
      next hname =>
        rw [Bool.and_eq_true] at hname
        have hlast : [c₅] ∈ 1 + ofClass isLastLetter :=
          mem_one_add_ofClass.mpr (Or.inr ⟨c₅, hname.2, rfl⟩)
        exact ⟨[c₁, c₂, c₃, c₄, c₅], r, mem_webName_of_letters hname.1 hlast, h, rfl⟩
      next => cases h
    next c₁ c₂ c₃ c₄ r _ =>
      split at h
      next hname =>
        have hlast : [] ∈ 1 + ofClass isLastLetter := mem_one_add_ofClass.mpr (Or.inl rfl)
        exact ⟨[c₁, c₂, c₃, c₄], r, mem_webName_of_letters hname hlast, h, rfl⟩
      next => cases h
    next => cases h
  · rintro ⟨name, r, hname, hr, rfl⟩
    obtain ⟨c₁, c₂, c₃, c₄, last, hletters, hlast, rfl⟩ := letters_of_mem_webName hname
    rcases hlast with rfl | ⟨s, hs, rfl⟩
    · obtain ⟨host, -, -, rfl⟩ := isAuthority_iff.mp hr
      have hscheme : afterScheme? (c₁ :: c₂ :: c₃ :: c₄ :: ':' :: '/' :: '/' :: host) =
          some ('/' :: '/' :: host) := by
        simpa [afterScheme?, and_assoc] using hletters
      simp [hscheme, hr]
    · rw [isLastLetter] at hs
      have hscheme : afterScheme? (c₁ :: c₂ :: c₃ :: c₄ :: s :: ':' :: r) = some r := by
        simp [afterScheme?, hletters, hs]
      simp [hscheme, hr]

/-- What may stand in an address: letters and digits of ASCII, some marks, and the two letters that
are other cases of `s` and `k`. -/
def IsAllowed (c : Char) : Prop :=
  c.isAlpha = true ∨ c.isDigit = true ∨ c ∈ "-._~:/?#[]@!$&'()*+,;=%".toList ∨
    c = '\u017f' ∨ c = '\u212a'

/-- What stands before the first break, or the whole text if there is none. -/
def firstSegment (cs : List Char) : List Char := cs.takeWhile (· ∉ ['/', '?', '#'])

/-- A text that begins with the scheme of web pages and goes on behind its slashes. -/
def IsWeb (cs : List Char) : Prop :=
  ∃ name host, name.map Char.toLower ∈ webNames ∧ host ≠ [] ∧ cs = name ++ "://".toList ++ host

structure IsAddress (cs : List Char) : Prop where
  nonempty : cs ≠ []
  allowed : ∀ c ∈ cs, IsAllowed c
  form : cs.head? = some '~' ∨ ':' ∉ firstSegment cs ∨ IsWeb cs

theorem isPathChar_iff {c : Char} : isPathChar c = true ↔ IsAllowed c ∧ c ≠ ':' := by
  by_cases hc : c = ':'
  · subst hc
    simp [isPathChar]
  · simp [isPathChar, IsAllowed, Char.isAlphanum, hc, or_assoc]

theorem isUrlChar_iff {c : Char} : isUrlChar c = true ↔ IsAllowed c := by
  rw [isUrlChar, Bool.or_eq_true, isPathChar_iff, beq_iff_eq]
  by_cases hc : c = ':'
  · subst hc
    simp [IsAllowed]
  · simp [hc]

theorem isBreak_iff {c : Char} : isBreak c = true ↔ c ∈ ['/', '?', '#'] := by
  simp [isBreak, or_assoc]

theorem isPathChar_of_isBreak {c : Char} (h : isBreak c = true) : isPathChar c = true := by
  simp only [isBreak, Bool.or_eq_true, beq_iff_eq] at h
  rcases h with (rfl | rfl) | rfl
  all_goals decide

theorem isPathRow_of_mem_webName {name : List Char} (h : name ∈ webName) : IsPathRow name := by
  intro c hc
  have hletters : ∀ w ∈ webNames, w.all isPathChar = true := by decide
  have hlower := List.all_eq_true.mp (hletters _ (mem_webName_iff.mp h)) _ (List.mem_map_of_mem hc)
  unfold Char.toLower at hlower
  split at hlower
  next hupper =>
    have halphanum : c.isAlphanum = true := by
      unfold Char.isAlphanum Char.isAlpha Char.isUpper
      simp only [decide_eq_true hupper, Bool.true_or]
    simp [isPathChar, halphanum]
  next => exact hlower

theorem firstSegment_cons (c : Char) (cs : List Char) :
    firstSegment (c :: cs) = if isBreak c then [] else c :: firstSegment cs := by
  rw [firstSegment, List.takeWhile_cons, firstSegment]
  by_cases hc : isBreak c = true
  · simp [hc, isBreak_iff.mp hc]
  · simp [hc, mt isBreak_iff.mpr hc]

/-- What stands behind a break does not matter. -/
theorem firstSegment_append_break {b : Char} (hb : isBreak b = true) (ps r : List Char) :
    firstSegment (ps ++ b :: r) = firstSegment ps := by
  induction ps with
  | nil => rw [List.nil_append, firstSegment_cons, if_pos hb, firstSegment, List.takeWhile_nil]
  | cons c ps ih => rw [List.cons_append, firstSegment_cons, firstSegment_cons, ih]

theorem IsPathRow.isRow {cs : List Char} (h : IsPathRow cs) : IsRow cs := fun c hc => by
  rw [isUrlChar, h c hc, Bool.true_or]

theorem IsPathRow.colon_not_mem {cs : List Char} (h : IsPathRow cs) : ':' ∉ firstSegment cs :=
  fun hc => (isPathChar_iff.mp (h ':' (List.takeWhile_subset _ hc))).2 rfl

theorem isPath_iff {cs : List Char} :
    isPath cs = true ↔ IsRow cs ∧ ':' ∉ firstSegment cs := by
  induction cs with
  | nil => simp [isPath, IsRow, firstSegment]
  | cons c cs ih =>
    rw [isPath, IsRow, List.forall_mem_cons, firstSegment_cons]
    split
    next hc =>
      have hurl : isUrlChar c = true := by rw [isUrlChar, isPathChar_of_isBreak hc, Bool.true_or]
      simp [hurl]
    next =>
      rw [Bool.and_eq_true, ih, isPathChar_iff, isUrlChar_iff, List.mem_cons, not_or, ne_comm]
      exact and_and_and_comm

/-- The alternatives for paths, the first of which is one with a break. -/
theorem isRow_and_colon_not_mem_iff {cs : List Char} (hne : cs ≠ []) :
    (IsRow cs ∧ ':' ∉ firstSegment cs) ↔
      (∃ ps b r, IsPathRow ps ∧ isBreak b = true ∧ IsRow r ∧ cs = ps ++ b :: r) ∨
        IsPathRow cs := by
  constructor
  · rintro ⟨hrow, hcolon⟩
    have hsplit : firstSegment cs ++ cs.dropWhile (· ∉ ['/', '?', '#']) = cs :=
      List.takeWhile_append_dropWhile
    have hfirst : IsPathRow (firstSegment cs) := by
      intro c hc
      refine isPathChar_iff.mpr ⟨isUrlChar_iff.mp (hrow c (List.takeWhile_subset _ hc)), ?_⟩
      rintro rfl
      exact hcolon hc
    cases hdrop : cs.dropWhile (· ∉ ['/', '?', '#']) with
    | nil =>
      rw [hdrop, List.append_nil] at hsplit
      exact Or.inr (hsplit ▸ hfirst)
    | cons b r =>
      have hhead := List.head?_dropWhile_not (· ∉ ['/', '?', '#']) cs
      rw [hdrop] at hhead
      have hb : isBreak b = true :=
        isBreak_iff.mpr (Decidable.of_not_not (of_decide_eq_false hhead))
      rw [hdrop] at hsplit
      have hr : IsRow (b :: r) := fun c hc => hrow c (hsplit ▸ List.mem_append_right _ hc)
      exact Or.inl ⟨_, b, r, hfirst, hb, (List.forall_mem_cons.mp hr).2, hsplit.symm⟩
  · rintro (⟨ps, b, r, hps, hb, hr, rfl⟩ | hcs)
    · rw [firstSegment_append_break hb, IsRow, List.forall_mem_append, List.forall_mem_cons]
      have hbreak : isUrlChar b = true := by rw [isUrlChar, isPathChar_of_isBreak hb, Bool.true_or]
      exact ⟨⟨hps.isRow, hbreak, hr⟩, hps.colon_not_mem⟩
    · exact ⟨hcs.isRow, hcs.colon_not_mem⟩

theorem mem_pattern_iff {cs : List Char} :
    cs ∈ pattern ↔ cs ∈ remotePattern ∨ (∃ r, IsRow r ∧ cs = '~' :: r) ∨
      cs ≠ [] ∧ IsRow cs ∧ ':' ∉ firstSegment cs := by
  have hvirtual : cs ∈ ofClass (· == '~') * (ofClass isUrlChar)∗ ↔
      ∃ r, IsRow r ∧ cs = '~' :: r := by
    simp only [mem_ofClass_mul_iff, mem_kstar_ofClass, beq_iff_eq, exists_and_left, exists_eq_left]
    rfl
  have hbroken : cs ∈ (ofClass isPathChar)∗ * ofClass isBreak * (ofClass isUrlChar)∗ ↔
      ∃ ps b r, IsPathRow ps ∧ isBreak b = true ∧ IsRow r ∧ cs = ps ++ b :: r := by
    rw [mul_assoc, Language.mem_mul]
    simp only [mem_ofClass_mul_iff, mem_kstar_ofClass]
    constructor
    · rintro ⟨ps, hps, _, ⟨b, r, hb, hr, rfl⟩, rfl⟩
      exact ⟨ps, b, r, hps, hb, hr, rfl⟩
    · rintro ⟨ps, b, r, hps, hb, hr, rfl⟩
      exact ⟨ps, hps, _, ⟨b, r, hb, hr, rfl⟩, rfl⟩
  have hplain : cs ∈ ofClass isPathChar * (ofClass isPathChar)∗ ↔ cs ≠ [] ∧ IsPathRow cs := by
    cases cs with
    | nil => simp
    | cons c r => simp [mem_kstar_ofClass, IsPathRow]
  rw [pattern, Language.mem_add, Language.mem_add, Language.mem_add, hvirtual, hbroken, hplain,
    or_assoc, or_assoc]
  refine or_congr_right (or_congr_right ?_)
  by_cases hne : cs = []
  · subst hne
    simp
  · rw [isRow_and_colon_not_mem_iff hne, and_iff_right hne, and_iff_right hne]

theorem isRemote_iff {cs : List Char} : isRemote cs = true ↔ cs ∈ remotePattern := by
  rw [isRemote, Bool.or_eq_true, any_afterScheme?_iff, mem_remotePattern_iff]
  simp only [isAuthority_iff]
  constructor
  · rintro (⟨host, hne, hhost, rfl⟩ | ⟨name, _, hname, ⟨host, hne, hhost, rfl⟩, rfl⟩)
    · exact ⟨[], host, Or.inl rfl, hne, hhost, rfl⟩
    · exact ⟨name ++ [':'], host, Or.inr ⟨name, hname, rfl⟩, hne, hhost, by simp⟩
  · rintro ⟨front, host, rfl | ⟨name, hname, rfl⟩, hne, hhost, rfl⟩
    · exact Or.inl ⟨host, hne, hhost, rfl⟩
    · exact Or.inr ⟨name, _, hname, ⟨host, hne, hhost, rfl⟩, by simp⟩

theorem isVirtual_iff {cs : List Char} : isVirtual cs = true ↔ ∃ r, IsRow r ∧ cs = '~' :: r := by
  cases cs with
  | nil => simp [isVirtual]
  | cons c r => simp [isVirtual, marker, IsRow, and_comm]

theorem isUrl_iff_mem_pattern {s : String} : isUrl s = true ↔ s.toList ∈ pattern := by
  simp [isUrl, mem_pattern_iff, isRemote_iff, isVirtual_iff, isPath_iff, or_assoc]

theorem isRow_of_mem_remotePattern {cs : List Char} (h : cs ∈ remotePattern) : IsRow cs := by
  obtain ⟨front, host, hfront, -, hhost, rfl⟩ := mem_remotePattern_iff.mp h
  have hslash : isUrlChar '/' = true := by decide
  rw [IsRow, List.forall_mem_append, List.forall_mem_cons, List.forall_mem_cons]
  refine ⟨?_, hslash, hslash, hhost⟩
  rcases hfront with rfl | ⟨name, hname, rfl⟩
  · exact List.forall_mem_nil _
  · rw [List.forall_mem_append, List.forall_mem_singleton]
    exact ⟨(isPathRow_of_mem_webName hname).isRow, by decide⟩

theorem isRow_iff {cs : List Char} : IsRow cs ↔ ∀ c ∈ cs, IsAllowed c :=
  forall₂_congr fun _ _ => isUrlChar_iff

theorem mem_pattern_iff_isAddress {cs : List Char} : cs ∈ pattern ↔ IsAddress cs := by
  rw [mem_pattern_iff]
  constructor
  · rintro (hremote | ⟨r, hr, rfl⟩ | ⟨hne, hrow, hcolon⟩)
    · -- Without a scheme the text begins with a break, so its first segment is empty.
      have hrow := isRow_of_mem_remotePattern hremote
      obtain ⟨front, host, rfl | ⟨name, hname, rfl⟩, hne, -, rfl⟩ :=
        mem_remotePattern_iff.mp hremote
      · exact ⟨List.cons_ne_nil _ _, isRow_iff.mp hrow, Or.inr (Or.inl (by simp [firstSegment]))⟩
      · exact ⟨by simp, isRow_iff.mp hrow,
          Or.inr (Or.inr ⟨name, host, mem_webName_iff.mp hname, hne, by simp⟩)⟩
    · have hrow : IsRow ('~' :: r) := List.forall_mem_cons.mpr ⟨by decide, hr⟩
      exact ⟨List.cons_ne_nil _ _, isRow_iff.mp hrow, Or.inl rfl⟩
    · exact ⟨hne, isRow_iff.mp hrow, Or.inr (Or.inl hcolon)⟩
  · rintro ⟨hne, hallowed, hform⟩
    have hrow := isRow_iff.mpr hallowed
    rcases hform with hhead | hcolon | ⟨name, host, hname, hhost, rfl⟩
    · obtain ⟨r, rfl⟩ := List.head?_eq_some_iff.mp hhead
      exact Or.inr (Or.inl ⟨r, (List.forall_mem_cons.mp hrow).2, rfl⟩)
    · exact Or.inr (Or.inr ⟨hne, hrow, hcolon⟩)
    · refine Or.inl (mem_remotePattern_iff.mpr
        ⟨name ++ [':'], host, Or.inr ⟨name, mem_webName_iff.mpr hname, rfl⟩, hhost, ?_, by simp⟩)
      exact fun c hc => hrow c (List.mem_append_right _ hc)

theorem isUrl_iff_isAddress {s : String} : isUrl s = true ↔ IsAddress s.toList :=
  isUrl_iff_mem_pattern.trans mem_pattern_iff_isAddress

/-- A colon in the first segment of an address that is no virtual path stands behind the name of
the scheme of web pages. -/
theorem IsAddress.isWeb {cs : List Char} (h : IsAddress cs) (hmarker : cs.head? ≠ some '~')
    (hcolon : ':' ∈ firstSegment cs) : IsWeb cs := by
  rcases h.form with hhead | hno | hweb
  · exact absurd hhead hmarker
  · exact absurd hcolon hno
  · exact hweb

/-- What stands in front of a colon, if no break is in it. -/
theorem IsAddress.name_mem {name r : List Char} (h : IsAddress (name ++ ':' :: r))
    (hmarker : name.head? ≠ some '~') (hname : ∀ c ∈ name, c ∉ [':', '/', '?', '#']) :
    name.map Char.toLower ∈ webNames := by
  have hhead : (name ++ ':' :: r).head? ≠ some '~' := by
    cases name with
    | nil => simp
    | cons c name => exact hmarker
  have hcolon : ':' ∈ firstSegment (name ++ ':' :: r) := by
    have hno : ∀ c ∈ name, decide (c ∉ ['/', '?', '#']) = true := fun c hc =>
      decide_eq_true fun hbreak => hname c hc (List.mem_cons_of_mem _ hbreak)
    rw [firstSegment, List.takeWhile_append_of_pos hno]
    simp
  obtain ⟨web, host, hweb, -, heq⟩ := h.isWeb hhead hcolon
  rw [List.append_assoc] at heq
  have hstop : ∀ c ∈ web, ¬c = ':' := fun c hc =>
    (isPathChar_iff.mp (isPathRow_of_mem_webName (mem_webName_iff.mpr hweb) c hc)).2
  have hstop' : ∀ c ∈ name, ¬c = ':' := fun c hc heq => hname c hc (by simp [heq])
  obtain ⟨rfl, -⟩ :=
    append_inj_of_stop (· = ':') hstop' hstop (beginsWith_cons rfl) (beginsWith_cons rfl) heq
  exact hweb

/-- A text is an address if it is one of the pattern, or, what is the same, by the rule; so the
colon of no other scheme than that of web pages stands in its first segment. -/
theorem isUrl_iff_form (s : String) :
    (isUrl s = true ↔ s.toList ∈ pattern) ∧ (isUrl s = true ↔ IsAddress s.toList) ∧
    (isUrl s = true → s.toList.head? ≠ some '~' → ':' ∈ firstSegment s.toList →
      IsWeb s.toList) ∧
    ∀ name r, s.toList = name ++ ':' :: r → name.head? ≠ some '~' →
      (∀ c ∈ name, c ∉ [':', '/', '?', '#']) → name.map Char.toLower ∉ webNames →
      isUrl s = false := by
  refine ⟨isUrl_iff_mem_pattern, isUrl_iff_isAddress,
    fun h => (isUrl_iff_isAddress.mp h).isWeb, fun name r hs hmarker hname hforeign => ?_⟩
  by_contra h
  have haddress := isUrl_iff_isAddress.mp (Bool.not_eq_false _ ▸ h)
  rw [hs] at haddress
  exact hforeign (haddress.name_mem hmarker hname)

/-- A scheme with a long s, and one that could run. -/
theorem isUrl_iff_form_schemes :
    (isUrl "HTTP\u017f://host" = true ∧ "HTTP\u017f://host".toList.head? ≠ some '~' ∧
      ':' ∈ firstSegment "HTTP\u017f://host".toList ∧ IsWeb "HTTP\u017f://host".toList) ∧
    ("JaVaScript://%0aalert(1)".toList =
        "JaVaScript".toList ++ ':' :: "//%0aalert(1)".toList ∧
      "JaVaScript".toList.head? ≠ some '~' ∧
      (∀ c ∈ "JaVaScript".toList, c ∉ [':', '/', '?', '#']) ∧
      "JaVaScript".toList.map Char.toLower ∉ webNames ∧
      isUrl "JaVaScript://%0aalert(1)" = false) := by
  have hurl : isUrl "HTTP\u017f://host" = true := by decide
  have hhead : "HTTP\u017f://host".toList.head? ≠ some '~' := by decide
  have hcolon : ':' ∈ firstSegment "HTTP\u017f://host".toList := by decide
  have hsplit : "JaVaScript://%0aalert(1)".toList =
      "JaVaScript".toList ++ ':' :: "//%0aalert(1)".toList := by decide
  have hmarker : "JaVaScript".toList.head? ≠ some '~' := by decide
  have hname : ∀ c ∈ "JaVaScript".toList, c ∉ [':', '/', '?', '#'] := by simp
  have hforeign : "JaVaScript".toList.map Char.toLower ∉ webNames := by decide
  exact ⟨⟨hurl, hhead, hcolon, (isUrl_iff_form _).2.2.1 hurl hhead hcolon⟩,
    ⟨hsplit, hmarker, hname, hforeign,
      (isUrl_iff_form _).2.2.2 _ _ hsplit hmarker hname hforeign⟩⟩

end LogScript.Url
