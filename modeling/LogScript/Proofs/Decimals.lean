import LogScript.Proofs.Conversion
import LogScript.Proofs.NumberSpelling
import LogScript.Proofs.Trimming
import Mathlib.Data.List.Induction

namespace LogScript.Text

open Json.NumberLiteral (IsDigits IsWhole isWhole_toDigits)

/-- Decimal digits and the number that they write. One more digit behind them makes it ten times
as great, and adds its own value. -/
inductive Writes : List Char → Nat → Prop
  | digit {d : Nat} : d < 10 → Writes [d.digitChar] d
  | next {ds : List Char} {n d : Nat} : Writes ds n → d < 10 →
    Writes (ds ++ [d.digitChar]) (10 * n + d)

/-- The digits with which a number is written: no zero in front of others. -/
def IsCanonical (ds : List Char) (n : Nat) : Prop := Writes ds n ∧ IsWhole ds

variable {cs ds : List Char} {n : Nat}

theorem exists_digitChar_of_isDigit {c : Char} (h : c.isDigit = true) :
    ∃ d < 10, c = d.digitChar := by
  obtain ⟨hleast, hgreatest⟩ : 48 ≤ c.toNat ∧ c.toNat ≤ 57 := Char.isDigit_iff_toNat.mp h
  refine ⟨c.toNat - 48, by omega, Char.toNat_inj.mp ?_⟩
  rw [Nat.toNat_digitChar_of_lt_ten (by omega)]
  omega

theorem Writes.isDigits (h : Writes ds n) : IsDigits ds := by
  induction h with
  | digit hd => exact ⟨List.cons_ne_nil _ _, by simp [Nat.isDigit_digitChar, hd]⟩
  | next _ hd ih =>
    refine ⟨List.append_ne_nil_of_left_ne_nil ih.1 _, List.forall_mem_append.mpr ⟨ih.2, ?_⟩⟩
    simp [Nat.isDigit_digitChar, hd]

theorem decimal?_of_isDigits (h : IsDigits ds) : decimal? ds = some (Nat.ofDigitChars 10 ds 0) :=
  if_pos ⟨h.1, List.all_eq_true.mpr h.2⟩

theorem isDigits_of_decimal? (h : decimal? ds = some n) : IsDigits ds := by
  unfold decimal? at h
  split at h
  next hds => exact ⟨hds.1, List.all_eq_true.mp hds.2⟩
  next => cases h

theorem Writes.ofDigitChars (h : Writes ds n) : Nat.ofDigitChars 10 ds 0 = n := by
  induction h with
  | digit hd => rw [Nat.ofDigitChars_cons_digitChar_of_lt_ten hd, Nat.ofDigitChars_nil]; omega
  | next _ hd ih =>
    rw [Nat.ofDigitChars_append, ih, Nat.ofDigitChars_cons_digitChar_of_lt_ten hd,
      Nat.ofDigitChars_nil]

theorem writes_ofDigitChars (h : IsDigits ds) : Writes ds (Nat.ofDigitChars 10 ds 0) := by
  induction ds using List.reverseRecOn with
  | nil => exact absurd rfl h.1
  | append_singleton ds c ih =>
    obtain ⟨hinit, hlast⟩ := List.forall_mem_append.mp h.2
    obtain ⟨d, hd, rfl⟩ := exists_digitChar_of_isDigit (hlast c (List.mem_singleton_self c))
    rw [Nat.ofDigitChars_append, Nat.ofDigitChars_cons_digitChar_of_lt_ten hd,
      Nat.ofDigitChars_nil]
    by_cases hds : ds = []
    · subst hds
      simpa using Writes.digit hd
    · exact .next (ih ⟨hds, hinit⟩) hd

theorem decimal?_eq_some_iff : decimal? ds = some n ↔ Writes ds n := by
  constructor
  · intro h
    have hds := isDigits_of_decimal? h
    rw [decimal?_of_isDigits hds] at h
    exact Option.some.inj h ▸ writes_ofDigitChars hds
  · intro h
    rw [decimal?_of_isDigits h.isDigits, h.ofDigitChars]

def zeros (k : Nat) : String := String.ofList (List.replicate k '0')

theorem isDigits_zeros_append (k : Nat) {s : String} (h : IsDigits s.toList) :
    IsDigits (zeros k ++ s).toList := by
  rw [String.toList_append, zeros, String.toList_ofList]
  refine ⟨List.append_ne_nil_of_right_ne_nil _ h.1, List.forall_mem_append.mpr ⟨?_, h.2⟩⟩
  intro c hc
  rw [List.eq_of_mem_replicate hc]
  decide

theorem writes_zeros_append_iff (k : Nat) {s : String} (h : IsDigits s.toList) :
    Writes (zeros k ++ s).toList n ↔ Writes s.toList n := by
  rw [← decimal?_eq_some_iff, ← decimal?_eq_some_iff, decimal?_of_isDigits h,
    decimal?_of_isDigits (isDigits_zeros_append k h), String.toList_append, zeros,
    String.toList_ofList, Nat.ofDigitChars_append, Nat.ofDigitChars_replicate_zero]
  simp

theorem Writes.eq_toDigits (h : Writes ds n) (hzero : ∀ c r, ds ≠ '0' :: c :: r) :
    ds = Nat.toDigits 10 n := by
  induction h with
  | digit hd => rw [Nat.toDigits_of_lt_base hd]
  | @next ds n d h hd ih =>
    obtain ⟨e, es, rfl⟩ := List.exists_cons_of_ne_nil h.isDigits.1
    have he : e ≠ '0' := by
      rintro rfl
      obtain ⟨c, r, hrest⟩ := List.exists_cons_of_ne_nil
        (List.append_ne_nil_of_right_ne_nil es (List.cons_ne_nil d.digitChar []))
      exact hzero c r (by rw [List.cons_append, hrest])
    have hds := ih fun c r heq => he (List.cons.inj heq).1
    have hn : 0 < n := by
      refine Nat.pos_of_ne_zero fun hn => ?_
      rw [hn, Nat.toDigits_zero] at hds
      exact he (List.cons.inj hds).1
    rw [hds, ← Nat.toDigits_of_lt_base hd]
    exact Nat.toDigits_append_toDigits (by decide) hn hd

theorem writes_toDigits (n : Nat) : Writes (Nat.toDigits 10 n) n :=
  decimal?_eq_some_iff.mp (decimal?_toDigits n)

theorem isCanonical_iff : IsCanonical ds n ↔ ds = Nat.toDigits 10 n := by
  constructor
  · rintro ⟨hwrites, hwhole⟩
    exact hwrites.eq_toDigits hwhole.noZero
  · rintro rfl
    exact ⟨writes_toDigits n, isWhole_toDigits n⟩

theorem isCanonical_toList_iff {l : String} : IsCanonical l.toList n ↔ l = n.repr := by
  rw [isCanonical_iff, ← Nat.toList_repr, String.toList_inj]

theorem isBlank_of_toNat {c : Char} (hleast : 32 < c.toNat) (hgreatest : c.toNat < 127) :
    isBlank c = false := by
  simp [isBlank, Ranges.contains, blank]
  omega

theorem isBlank_of_isDigit {c : Char} (h : c.isDigit = true) : isBlank c = false := by
  obtain ⟨hleast, hgreatest⟩ : 48 ≤ c.toNat ∧ c.toNat ≤ 57 := Char.isDigit_iff_toNat.mp h
  exact isBlank_of_toNat (by omega) (by omega)

theorem isTight_of_forall (h : ∀ c ∈ cs, isBlank c = false) : IsTight cs where
  head c hc := h c (List.mem_of_mem_head? hc)
  last c hc := h c (List.mem_of_mem_getLast? hc)

theorem isTight_of_isDigits (h : IsDigits ds) : IsTight ds :=
  isTight_of_forall fun c hc => isBlank_of_isDigit (h.2 c hc)

theorem Writes.isTight (h : Writes ds n) : IsTight ds := isTight_of_isDigits h.isDigits

end LogScript.Text

namespace LogScript.Unsigned

open Text (IsPadded IsGap Writes IsCanonical)
open Json.NumberLiteral (IsDigits)

/-- A text is a row of digits that writes a number, with white space around it or without, and the
number fits in 32 bits. -/
def Means (s : String) (n : Nat) : Prop :=
  ∃ ds, IsPadded ds s.toList ∧ Writes ds n ∧ n ≤ 4294967295

variable {s : String} {n : Nat}

theorem means_iff_trim : Means s n ↔ Writes (Text.trim s.toList) n ∧ n ≤ 4294967295 :=
  Text.exists_isPadded_iff fun _ h => h.1.isTight

theorem ofText?_eq_some_iff : ofText? s = some n ↔ Means s n := by
  rw [ofText?, Option.filter_eq_some_iff, Text.decimal?_eq_some_iff, decide_eq_true_eq,
    means_iff_trim]
  rfl

/-- The digits with white space around them mean what the digits write. -/
theorem means_iff {ds : List Char} (hds : IsDigits ds) (hpadded : IsPadded ds s.toList) :
    Means s n ↔ Writes ds n ∧ n ≤ 4294967295 := by
  rw [means_iff_trim, Text.trim_eq_iff.mpr ⟨Text.isTight_of_isDigits hds, hpadded⟩]

theorem means_append_iff {left right : String} (hleft : IsGap left.toList)
    (hright : IsGap right.toList) : Means (left ++ s ++ right) n ↔ Means s n := by
  rw [means_iff_trim, means_iff_trim, String.toList_append, String.toList_append,
    Text.trim_append hleft hright]

theorem means_zeros_append_iff {left ds right : String} (k : Nat) (hleft : IsGap left.toList)
    (hds : IsDigits ds.toList) (hright : IsGap right.toList) :
    Means (left ++ (Text.zeros k ++ ds) ++ right) n ↔ Means (left ++ ds ++ right) n := by
  rw [means_append_iff hleft hright, means_append_iff hleft hright, means_iff hds (.self _),
    means_iff (Text.isDigits_zeros_append k hds) (.self _), Text.writes_zeros_append_iff k hds]

theorem Means.of_isCanonical {l : String} (h : Means s n) (hl : IsCanonical l.toList n) :
    Means l n := by
  obtain ⟨-, -, -, hle⟩ := h
  exact ⟨l.toList, .self _, hl.1, hle⟩

end LogScript.Unsigned

namespace LogScript.Kind

open Text (IsGap IsCanonical)
open Json.NumberLiteral (IsDigits)

variable {cv : Converter} {s t l : String}

theorem literal_unsigned_eq_ok_iff :
    unsigned.literal cv s = .ok l ↔ ∃ n, Unsigned.Means s n ∧ IsCanonical l.toList n := by
  simp only [← Unsigned.ofText?_eq_some_iff, Text.isCanonical_toList_iff]
  cases h : Unsigned.ofText? s <;> simp [literal, h, eq_comm]

theorem literal_unsigned_eq_error_iff {e : Rejection} :
    unsigned.literal cv s = .error e ↔ (∀ n, ¬Unsigned.Means s n) ∧ e = .notUnsigned s := by
  simp only [← Unsigned.ofText?_eq_some_iff]
  cases h : Unsigned.ofText? s <;> simp [literal, h, eq_comm]

/-- Texts that mean the same numbers have the same literal. -/
theorem literal_unsigned_congr (h : ∀ n, Unsigned.Means s n ↔ Unsigned.Means t n) :
    unsigned.literal cv s = .ok l ↔ unsigned.literal cv t = .ok l := by
  simp only [literal_unsigned_eq_ok_iff, h]

theorem literal_unsigned_of_eq_ok (h : unsigned.literal cv s = .ok l) :
    unsigned.literal cv l = .ok l := by
  obtain ⟨n, hmeans, hcanonical⟩ := literal_unsigned_eq_ok_iff.mp h
  exact literal_unsigned_eq_ok_iff.mpr ⟨n, hmeans.of_isCanonical hcanonical, hcanonical⟩

/-- A count is accepted if it is a row of digits with a value in range, however long the row is,
and its literal is the value: it stays as it is when it is read again, and white space around the
digits and zeros in front of them make no difference. -/
theorem unsigned_literal_exact (cv : Converter) (s : String) :
    (∀ l, unsigned.literal cv s = .ok l ↔ ∃ n, Unsigned.Means s n ∧ IsCanonical l.toList n) ∧
    (∀ e, unsigned.literal cv s = .error e ↔
      (∀ n, ¬Unsigned.Means s n) ∧ e = .notUnsigned s) ∧
    (∀ l, unsigned.literal cv s = .ok l → unsigned.literal cv l = .ok l) ∧
    ∀ left right : String, IsGap left.toList → IsGap right.toList →
      (∀ l, unsigned.literal cv (left ++ s ++ right) = .ok l ↔ unsigned.literal cv s = .ok l) ∧
      ∀ ds, IsDigits ds.toList → s = left ++ ds ++ right → ∀ k l,
        (unsigned.literal cv (left ++ (Text.zeros k ++ ds) ++ right) = .ok l ↔
          unsigned.literal cv s = .ok l) := by
  refine ⟨fun l => literal_unsigned_eq_ok_iff, fun e => literal_unsigned_eq_error_iff,
    fun l => literal_unsigned_of_eq_ok, fun left right hleft hright => ⟨fun l => ?_, ?_⟩⟩
  · exact literal_unsigned_congr fun n => Unsigned.means_append_iff hleft hright
  · rintro ds hds rfl k l
    exact literal_unsigned_congr fun n => Unsigned.means_zeros_append_iff k hleft hds hright

def greatestCount : String := "0004294967295"

def wideGap : String := "\u00a0\t\u3000"

theorem unsigned_literal_exact_greatestCount :
    (IsDigits greatestCount.toList ∧ IsGap wideGap.toList ∧ IsGap "".toList) ∧
    unsigned.literal .sample greatestCount = .ok "4294967295" ∧
    unsigned.literal .sample "4294967295" = .ok "4294967295" ∧
    unsigned.literal .sample (wideGap ++ greatestCount ++ "") = .ok "4294967295" ∧
    unsigned.literal .sample ("" ++ (Text.zeros 2 ++ greatestCount) ++ "") =
      .ok "4294967295" ∧
    unsigned.literal .sample "4294967296" = .error (.notUnsigned "4294967296") := by
  have hwrites : Text.decimal? greatestCount.toList = some 4294967295 := by decide +kernel
  have hdigits : IsDigits greatestCount.toList := Text.isDigits_of_decimal? hwrites
  have hgap : IsGap wideGap.toList := by decide +kernel
  have hnothing : IsGap "".toList := .nil
  obtain ⟨hok, -, hagain, hspace⟩ := unsigned_literal_exact .sample greatestCount
  have hliteral : unsigned.literal .sample greatestCount = .ok "4294967295" :=
    (hok _).mpr ⟨4294967295, Unsigned.ofText?_eq_some_iff.mp (by decide +kernel),
      Text.isCanonical_toList_iff.mpr (by decide +kernel)⟩
  have hgreater : ∀ n, ¬Unsigned.Means "4294967296" n := fun n h => by
    have hnone : Unsigned.ofText? "4294967296" = none := by decide +kernel
    rw [← Unsigned.ofText?_eq_some_iff, hnone] at h
    cases h
  refine ⟨⟨hdigits, hgap, hnothing⟩, hliteral, hagain _ hliteral, ?_, ?_,
    ((unsigned_literal_exact _ _).2.1 _).mpr ⟨hgreater, rfl⟩⟩
  · exact ((hspace _ _ hgap hnothing).1 _).mpr hliteral
  · exact ((hspace _ _ hnothing hnothing).2 _ hdigits (by decide +kernel) 2 _).mpr hliteral

end LogScript.Kind
