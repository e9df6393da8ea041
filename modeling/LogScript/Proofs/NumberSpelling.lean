import LogScript.Json.NumberLiteral
import LogScript.Text.Digits

namespace LogScript.Json

namespace NumberLiteral

/-- A row of decimal digits, at least one. -/
def IsDigits (ds : List Char) : Prop := ds ≠ [] ∧ ∀ c ∈ ds, c.isDigit = true

/-- Digits without a zero in front of others. -/
structure IsWhole (ds : List Char) : Prop where
  digits : IsDigits ds
  noZero : ∀ c r, ds ≠ '0' :: c :: r

inductive SpellsFraction : List Char → List Char → Prop
  | absent : SpellsFraction [] []
  | given {ds : List Char} (h : IsDigits ds) : SpellsFraction ds ('.' :: ds)

/-- The number that is the power of ten. -/
inductive SpellsPower : Int → List Char → Prop
  | unsigned {ds : List Char} (h : IsDigits ds) : SpellsPower (Nat.ofDigitChars 10 ds 0 : Int) ds
  | plus {ds : List Char} (h : IsDigits ds) :
      SpellsPower (Nat.ofDigitChars 10 ds 0 : Int) ('+' :: ds)
  | minus {ds : List Char} (h : IsDigits ds) :
      SpellsPower (-(Nat.ofDigitChars 10 ds 0 : Int)) ('-' :: ds)

inductive SpellsExponent : Option Int → List Char → Prop
  | absent : SpellsExponent none []
  | lower {n : Int} {ds : List Char} (h : SpellsPower n ds) : SpellsExponent (some n) ('e' :: ds)
  | upper {n : Int} {ds : List Char} (h : SpellsPower n ds) : SpellsExponent (some n) ('E' :: ds)

def sign (negative : Bool) : List Char := if negative then ['-'] else []

/-- A number, and characters that spell it. -/
inductive Spells : Numeral → List Char → Prop
  | mk {negative : Bool} {whole fraction fs es : List Char} {exponent : Option Int}
      (hw : IsWhole whole) (hf : SpellsFraction fraction fs) (he : SpellsExponent exponent es) :
      Spells ⟨negative, whole, fraction, exponent⟩ (sign negative ++ (whole ++ (fs ++ es)))

def NoDigit (r : List Char) : Prop := ∀ c t, r = c :: t → c.isDigit = false

/-- A text that cannot go on with a part of a number. -/
def NoPart (r : List Char) : Prop :=
  ∀ c t, r = c :: t → c.isDigit = false ∧ c ≠ '.' ∧ c ≠ 'e' ∧ c ≠ 'E'

theorem NoPart.noDigit {r : List Char} (h : NoPart r) : NoDigit r := fun c t hr => (h c t hr).1

theorem digits?_of_ok {cs ds r : List Char} (h : digits? cs = .ok (ds, r)) :
    IsDigits ds ∧ cs = ds ++ r := by
  unfold digits? at h
  split at h
  next => cases h
  next c cs =>
    split at h
    next hc =>
      cases h
      have hdrop : cs.dropWhile Char.isDigit = (c :: cs).dropWhile Char.isDigit := by
        rw [List.dropWhile_cons_of_pos hc]
      rw [hdrop, List.takeWhile_append_dropWhile]
      refine ⟨⟨?_, fun d hd => List.all_eq_true.mp List.all_takeWhile d hd⟩, rfl⟩
      rw [List.takeWhile_cons_of_pos hc]
      exact List.cons_ne_nil _ _
    next => cases h

theorem IsDigits.digits?_append {ds r : List Char} (h : IsDigits ds) (hr : NoDigit r) :
    digits? (ds ++ r) = .ok (ds, r) := by
  obtain ⟨hne, hall⟩ := h
  cases ds with
  | nil => exact absurd rfl hne
  | cons d ds =>
    rw [List.forall_mem_cons] at hall
    have htake : r.takeWhile Char.isDigit = [] := by
      cases r with
      | nil => rfl
      | cons c t => rw [List.takeWhile_cons_of_neg (by simp [hr c t rfl])]
    have hdrop : r.dropWhile Char.isDigit = r := by
      cases r with
      | nil => rfl
      | cons c t => rw [List.dropWhile_cons_of_neg (by simp [hr c t rfl])]
    rw [List.cons_append, digits?, if_pos hall.1, List.takeWhile_cons_of_pos hall.1,
      List.takeWhile_append_of_pos hall.2, List.dropWhile_append_of_pos hall.2, htake, hdrop,
      List.append_nil]

theorem whole?_of_ok {cs ds r : List Char} (h : whole? cs = .ok (ds, r)) :
    IsWhole ds ∧ cs = ds ++ r := by
  unfold whole? at h
  split at h
  next => cases h
  next => cases h
  next p hz hd =>
    cases h
    obtain ⟨hds, rfl⟩ := digits?_of_ok hd
    exact ⟨⟨hds, fun c t hzero => hz c t r (by rw [hzero])⟩, rfl⟩

theorem IsWhole.whole?_append {ds r : List Char} (h : IsWhole ds) (hr : NoDigit r) :
    whole? (ds ++ r) = .ok (ds, r) := by
  rw [whole?, h.digits.digits?_append hr]
  split
  next he => cases he
  next he =>
    cases he
    exact absurd rfl (h.noZero _ _)
  next he => exact he ▸ rfl

theorem fraction?_of_ok {cs ds r : List Char} (h : fraction? cs = .ok (ds, r)) :
    ∃ fs, SpellsFraction ds fs ∧ cs = fs ++ r := by
  unfold fraction? at h
  split at h
  next =>
    obtain ⟨hds, rfl⟩ := digits?_of_ok h
    exact ⟨_, .given hds, rfl⟩
  next =>
    cases h
    exact ⟨_, .absent, rfl⟩

theorem SpellsFraction.fraction?_append {ds fs r : List Char} (h : SpellsFraction ds fs)
    (hr : NoDigit r) (hpoint : ∀ t, r ≠ '.' :: t) : fraction? (fs ++ r) = .ok (ds, r) := by
  cases h with
  | absent =>
    rw [List.nil_append]
    unfold fraction?
    split
    next t => exact absurd rfl (hpoint t)
    next => rfl
  | given h => exact h.digits?_append hr

theorem map_digits?_of_ok {f : List Char × List Char → Int} {cs r : List Char} {n : Int}
    (h : (digits? cs).map (fun p => (f p, p.2)) = .ok (n, r)) :
    ∃ ds, IsDigits ds ∧ cs = ds ++ r ∧ n = f (ds, r) := by
  cases hd : digits? cs with
  | error e =>
    rw [hd] at h
    cases h
  | ok p =>
    obtain ⟨ds, r'⟩ := p
    rw [hd] at h
    cases h
    obtain ⟨hds, rfl⟩ := digits?_of_ok hd
    exact ⟨ds, hds, rfl, rfl⟩

theorem power?_of_ok {cs r : List Char} {n : Int} (h : power? cs = .ok (n, r)) :
    ∃ ds, SpellsPower n ds ∧ cs = ds ++ r := by
  unfold power? at h
  split at h
  all_goals
    obtain ⟨ds, hds, rfl, rfl⟩ := map_digits?_of_ok h
  · exact ⟨_, .minus hds, rfl⟩
  · exact ⟨_, .plus hds, rfl⟩
  · exact ⟨_, .unsigned hds, rfl⟩

theorem SpellsPower.power?_append {n : Int} {ds r : List Char} (h : SpellsPower n ds)
    (hr : NoDigit r) : power? (ds ++ r) = .ok (n, r) := by
  cases h with
  | @unsigned ds h =>
    have hread := h.digits?_append hr
    obtain ⟨hne, hall⟩ := h
    cases ds with
    | nil => exact absurd rfl hne
    | cons d ds =>
      have hd := hall d List.mem_cons_self
      unfold power?
      split
      next hcs =>
        cases hcs
        exact absurd hd (by decide)
      next hcs =>
        cases hcs
        exact absurd hd (by decide)
      next =>
        rw [hread]
        rfl
  | plus h =>
    rw [List.cons_append, power?, h.digits?_append hr]
    rfl
  | minus h =>
    rw [List.cons_append, power?, h.digits?_append hr]
    rfl

theorem exponent?_of_ok {cs r : List Char} {n : Option Int} (h : exponent? cs = .ok (n, r)) :
    ∃ es, SpellsExponent n es ∧ cs = es ++ r := by
  have hpower : ∀ {s : List Char}, (power? s).map (fun p => (some p.1, p.2)) = .ok (n, r) →
      ∃ m ds, SpellsPower m ds ∧ s = ds ++ r ∧ n = some m := by
    intro s hs
    cases hp : power? s with
    | error e =>
      rw [hp] at hs
      cases hs
    | ok p =>
      obtain ⟨m, r'⟩ := p
      rw [hp] at hs
      cases hs
      obtain ⟨ds, hds, rfl⟩ := power?_of_ok hp
      exact ⟨m, ds, hds, rfl, rfl⟩
  unfold exponent? at h
  split at h
  next =>
    obtain ⟨m, ds, hds, rfl, rfl⟩ := hpower h
    exact ⟨_, .lower hds, rfl⟩
  next =>
    obtain ⟨m, ds, hds, rfl, rfl⟩ := hpower h
    exact ⟨_, .upper hds, rfl⟩
  next =>
    cases h
    exact ⟨_, .absent, rfl⟩

theorem SpellsExponent.exponent?_append {n : Option Int} {es r : List Char}
    (h : SpellsExponent n es) (hr : NoPart r) : exponent? (es ++ r) = .ok (n, r) := by
  cases h with
  | absent =>
    rw [List.nil_append]
    unfold exponent?
    split
    next t => exact absurd rfl (hr 'e' t rfl).2.2.1
    next t => exact absurd rfl (hr 'E' t rfl).2.2.2
    next => rfl
  | lower h =>
    rw [List.cons_append, exponent?, h.power?_append hr.noDigit]
    rfl
  | upper h =>
    rw [List.cons_append, exponent?, h.power?_append hr.noDigit]
    rfl

/-- An exponent, or what follows a number, begins with neither a digit nor a point. -/
theorem SpellsExponent.append_begins {n : Option Int} {es r : List Char}
    (h : SpellsExponent n es) (hr : NoPart r) :
    NoDigit (es ++ r) ∧ ∀ t, es ++ r ≠ '.' :: t := by
  cases h with
  | absent => exact ⟨hr.noDigit, fun t ht => (hr '.' t ht).2.1 rfl⟩
  | lower => exact ⟨fun c t ht => by cases ht; rfl, fun t ht => by cases ht⟩
  | upper => exact ⟨fun c t ht => by cases ht; rfl, fun t ht => by cases ht⟩

theorem SpellsFraction.append_begins {ds fs r : List Char} (h : SpellsFraction ds fs)
    (hr : NoDigit r) : NoDigit (fs ++ r) := by
  cases h with
  | absent => exact hr
  | given =>
    intro c t ht
    cases ht
    rfl

theorem unsigned?_of_ok {negative : Bool} {cs r : List Char} {x : Numeral}
    (h : unsigned? negative cs = .ok (x, r)) :
    ∃ ds, Spells x (sign negative ++ ds) ∧ cs = ds ++ r := by
  unfold unsigned? at h
  split at h
  next => cases h
  next hw =>
    split at h
    next => cases h
    next hf =>
      split at h
      next => cases h
      next he =>
        cases h
        obtain ⟨hwhole, rfl⟩ := whole?_of_ok hw
        obtain ⟨fs, hfraction, rfl⟩ := fraction?_of_ok hf
        obtain ⟨es, hexponent, rfl⟩ := exponent?_of_ok he
        exact ⟨_, .mk hwhole hfraction hexponent, by simp⟩

theorem numeral?_of_ok {cs r : List Char} {x : Numeral} (h : numeral? cs = .ok (x, r)) :
    ∃ ds, Spells x ds ∧ cs = ds ++ r := by
  unfold numeral? at h
  split at h
  next =>
    obtain ⟨ds, hds, rfl⟩ := unsigned?_of_ok h
    exact ⟨_, hds, rfl⟩
  next =>
    obtain ⟨ds, hds, rfl⟩ := unsigned?_of_ok h
    exact ⟨_, hds, rfl⟩

theorem Spells.eq_cons {x : Numeral} {ds : List Char} (h : Spells x ds) :
    ∃ c r, ds = c :: r ∧ (c = '-' ∨ c.isDigit = true) := by
  obtain ⟨⟨⟨hne, hall⟩, -⟩, -, -⟩ := h
  rename_i negative whole fraction fs es exponent
  cases negative with
  | true => exact ⟨'-', _, rfl, Or.inl rfl⟩
  | false =>
    cases whole with
    | nil => exact absurd rfl hne
    | cons d ds => exact ⟨d, _, rfl, Or.inr (hall d List.mem_cons_self)⟩

theorem Spells.numeral?_append {x : Numeral} {ds r : List Char} (h : Spells x ds)
    (hr : NoPart r) : numeral? (ds ++ r) = .ok (x, r) := by
  obtain ⟨hw, hf, he⟩ := h
  rename_i negative whole fraction fs es exponent
  obtain ⟨hdigit, hpoint⟩ := he.append_begins hr
  have hunsigned : unsigned? negative (whole ++ (fs ++ (es ++ r))) =
      .ok (⟨negative, whole, fraction, exponent⟩, r) := by
    simp only [unsigned?, hw.whole?_append (hf.append_begins hdigit),
      hf.fraction?_append hdigit hpoint, he.exponent?_append hr]
  simp only [List.append_assoc]
  cases negative with
  | true => exact hunsigned
  | false =>
    obtain ⟨⟨hne, hall⟩, -⟩ := hw
    cases whole with
    | nil => exact absurd rfl hne
    | cons d ds =>
      have hd := hall d List.mem_cons_self
      change numeral? (d :: (ds ++ (fs ++ (es ++ r)))) = _
      unfold numeral?
      split
      next hcs =>
        cases hcs
        exact absurd hd (by decide)
      next => exact hunsigned

end NumberLiteral

namespace Numeral

/-- Whole numbers that are kept exactly. -/
def IsKept (n : Int) : Prop := -9223372036854775808 ≤ n ∧ n ≤ 18446744073709551615

theorem le_ofDigitChars (ds : List Char) (m : Nat) : m ≤ Nat.ofDigitChars 10 ds m := by
  induction ds generalizing m with
  | nil => exact Nat.le_refl m
  | cons d ds ih =>
    rw [Nat.ofDigitChars_cons]
    have hstep := ih (10 * m + (d.toNat - '0'.toNat))
    omega

/-- Digits whose number fits are all taken. -/
theorem absorb_eq {ds : List Char} {m : Nat} (h : Nat.ofDigitChars 10 ds m ≤ greatest) :
    absorb m ds = (Nat.ofDigitChars 10 ds m, ds.length) := by
  induction ds generalizing m with
  | nil => rfl
  | cons d ds ih =>
    have hzero : '0'.toNat = 48 := rfl
    rw [Nat.ofDigitChars_cons, hzero] at h ⊢
    have hfits := Nat.le_trans (le_ofDigitChars ds _) h
    rw [absorb, if_pos hfits, ih h, List.length_cons]

theorem value?_toDigits {negative : Bool} {n : Nat} (h : n ≤ greatest) :
    value? ⟨negative, Nat.toDigits 10 n, [], none⟩ = wholeValue? negative n := by
  have habsorb : absorb 0 (Nat.toDigits 10 n) = (n, (Nat.toDigits 10 n).length) := by
    rw [absorb_eq (by rw [Nat.ofDigitChars_ten_toDigits]; exact h), Nat.ofDigitChars_ten_toDigits]
  simp [value?, habsorb]

theorem head?_toDigits {n : Nat} (hn : n ≠ 0) : (Nat.toDigits 10 n).head? ≠ some '0' := by
  induction n using Nat.strongRecOn with
  | ind n ih =>
    by_cases hlt : n < 10
    · rw [Nat.toDigits_of_lt_base hlt]
      intro h
      have hd : n.digitChar = '0' := Option.some.inj h
      have hvalue := Text.hexValue?_digitChar (show n < 16 by omega)
      rw [hd] at hvalue
      exact hn (Option.some.inj hvalue).symm
    · have hrest := ih (n / 10) (by omega) (by omega)
      rw [Nat.toDigits_of_base_le (by decide) (by omega)]
      cases hds : Nat.toDigits 10 (n / 10) with
      | nil => exact absurd hds Nat.toDigits_ne_nil
      | cons d ds =>
        rw [hds] at hrest
        exact hrest

end Numeral

namespace NumberLiteral

theorem isWhole_toDigits (n : Nat) : IsWhole (Nat.toDigits 10 n) where
  digits := ⟨Nat.toDigits_ne_nil,
    fun _ hc => Nat.isDigit_of_mem_toDigits (by decide) (by decide) hc⟩
  noZero := by
    intro c r h
    by_cases hn : n = 0
    · rw [hn, Nat.toDigits_zero] at h
      cases h
    · exact Numeral.head?_toDigits hn (by rw [h]; rfl)

theorem spells_toDigits (negative : Bool) (n : Nat) :
    Spells ⟨negative, Nat.toDigits 10 n, [], none⟩ (sign negative ++ Nat.toDigits 10 n) := by
  have h : Spells ⟨negative, Nat.toDigits 10 n, [], none⟩
      (sign negative ++ (Nat.toDigits 10 n ++ ([] ++ []))) :=
    .mk (isWhole_toDigits n) .absent .absent
  simpa using h

theorem spells_repr {n : Int} (h : Numeral.IsKept n) :
    ∃ x, Spells x n.repr.toList ∧ x.value? = some (.integer n) := by
  obtain ⟨hleast, hgreatest⟩ := h
  cases n with
  | ofNat n =>
    refine ⟨⟨false, Nat.toDigits 10 n, [], none⟩, ?_, ?_⟩
    · change Spells _ n.repr.toList
      rw [Nat.toList_repr]
      exact spells_toDigits false n
    · have hfits : (n : Int) ≤ 18446744073709551615 := hgreatest
      rw [Numeral.value?_toDigits (by simp only [Numeral.greatest]; omega)]
      rfl
  | negSucc n =>
    refine ⟨⟨true, Nat.toDigits 10 (n + 1), [], none⟩, ?_, ?_⟩
    · rw [Text.toList_repr_negSucc]
      exact spells_toDigits true (n + 1)
    · rw [Numeral.value?_toDigits (by simp only [Numeral.greatest]; omega), Numeral.wholeValue?,
        if_neg (by decide), if_pos (by simp only [Numeral.least]; omega)]
      rfl

end NumberLiteral

end LogScript.Json
