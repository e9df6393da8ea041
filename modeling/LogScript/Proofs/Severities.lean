import LogScript.Proofs.Decimals

namespace LogScript.Text

/-- Texts that differ in nothing but the case of their ASCII letters. -/
def SameButCase (cs ds : List Char) : Prop := cs.map Char.toLower = ds.map Char.toLower

variable {cs ds es core : List Char} {n : Int}

theorem SameButCase.symm (h : SameButCase cs ds) : SameButCase ds cs := Eq.symm h

theorem SameButCase.trans (h : SameButCase cs ds) (h' : SameButCase ds es) : SameButCase cs es :=
  Eq.trans h h'

/-- Only a character of ASCII can have a case, so what has to do with case is a check of these. -/
@[elab_as_elim]
theorem ascii_cases {motive : Char → Prop} (ascii : ∀ n : Fin 128, motive (Char.ofNat n))
    (caseless : ∀ c : Char, c.toLower = c → c.toUpper = c → motive c) (c : Char) : motive c := by
  by_cases hc : c.toNat < 128
  · exact c.ofNat_toNat ▸ ascii ⟨c.toNat, hc⟩
  · have hval : ¬c.val ≤ 127 := by
      rw [UInt32.le_iff_toNat_le]
      exact fun h => hc (Nat.lt_succ_of_le h)
    have hlower : c.toLower = c := by
      unfold Char.toLower
      rw [dif_neg]
      grind
    have hupper : c.toUpper = c := by
      unfold Char.toUpper
      rw [dif_neg]
      grind
    exact caseless c hlower hupper

theorem toUpper_toLower (c : Char) : c.toLower.toUpper = c.toUpper := by
  cases c using ascii_cases with
  | ascii n =>
    revert n
    decide +kernel
  | caseless c hlower => rw [hlower]

theorem toLower_toUpper (c : Char) : c.toUpper.toLower = c.toLower := by
  cases c using ascii_cases with
  | ascii n =>
    revert n
    decide +kernel
  | caseless c _ hupper => rw [hupper]

theorem isAlpha_toLower (c : Char) : c.toLower.isAlpha = c.isAlpha := by
  cases c using ascii_cases with
  | ascii n =>
    revert n
    decide +kernel
  | caseless c hlower => rw [hlower]

/-- No letter is white space. -/
theorem isBlank_toLower (c : Char) : isBlank c.toLower = isBlank c := by
  cases c using ascii_cases with
  | ascii n =>
    revert n
    decide +kernel
  | caseless c hlower => rw [hlower]

theorem sameButCase_iff_map_toUpper :
    SameButCase cs ds ↔ cs.map Char.toUpper = ds.map Char.toUpper := by
  constructor
  · intro h
    simpa [Function.comp_def, toUpper_toLower] using congrArg (List.map Char.toUpper) h
  · intro h
    simpa [SameButCase, Function.comp_def, toLower_toUpper] using
      congrArg (List.map Char.toLower) h

/-- A class that has both cases of a letter or none does not tell such texts apart. -/
theorem SameButCase.forall_mem {p : Char → Bool} (h : SameButCase cs ds)
    (hp : ∀ c : Char, p c.toLower = p c) (hds : ∀ c ∈ ds, p c = true) : ∀ c ∈ cs, p c = true := by
  intro c hc
  have hmem : c.toLower ∈ ds.map Char.toLower := h ▸ List.mem_map_of_mem hc
  obtain ⟨d, hd, hlower⟩ := List.mem_map.mp hmem
  rw [← hp, ← hlower, hp]
  exact hds d hd

theorem isAlpha_of_sameButCase (h : SameButCase cs ds) (hds : ∀ c ∈ ds, c.isAlpha = true) :
    ∀ c ∈ cs, c.isAlpha = true :=
  h.forall_mem isAlpha_toLower hds

theorem toLower_of_not_isAlpha {c : Char} (h : c.isAlpha = false) : c.toLower = c := by
  unfold Char.isAlpha Char.isUpper at h
  rw [Bool.or_eq_false_iff] at h
  unfold Char.toLower
  rw [dif_neg]
  simpa using h.1

theorem eq_of_toLower_eq {c d : Char} (h : c.toLower = d.toLower) (hd : d.isAlpha = false) :
    c = d := by
  have hc : c.isAlpha = false := by
    rw [← isAlpha_toLower, h, isAlpha_toLower, hd]
  rwa [toLower_of_not_isAlpha hc, toLower_of_not_isAlpha hd] at h

theorem eq_of_sameButCase (h : SameButCase cs ds) (hds : ∀ c ∈ ds, c.isAlpha = false) :
    cs = ds := by
  induction ds generalizing cs with
  | nil => exact List.map_eq_nil_iff.mp h
  | cons d ds ih =>
    cases cs with
    | nil => cases h
    | cons c cs =>
      obtain ⟨hhead, htail⟩ := List.cons.inj h
      rw [eq_of_toLower_eq hhead (hds d List.mem_cons_self),
        ih htail fun e he => hds e (List.mem_cons_of_mem d he)]

theorem isBlank_of_isAlpha {c : Char} (h : c.isAlpha = true) : isBlank c = false := by
  obtain ⟨hleast, hgreatest⟩ : 65 ≤ c.toNat ∧ c.toNat ≤ 122 := by
    unfold Char.isAlpha Char.isUpper Char.isLower at h
    simp [UInt32.le_iff_toNat_le] at h
    omega
  exact isBlank_of_toNat (by omega) (by omega)

theorem IsGap.of_sameButCase (h : IsGap ds) (hcs : SameButCase cs ds) : IsGap cs :=
  hcs.forall_mem isBlank_toLower h

theorem IsPadded.of_sameButCase (h : IsPadded core ds) (hcs : SameButCase cs ds) :
    ∃ core', IsPadded core' cs ∧ SameButCase core' core := by
  obtain ⟨left, right, hleft, hright, rfl⟩ := h
  rw [SameButCase, List.map_append, List.map_append, List.append_assoc] at hcs
  obtain ⟨left', rest, rfl, hleft', hrest⟩ := List.map_eq_append_iff.mp hcs
  obtain ⟨core', right', rfl, hcore', hright'⟩ := List.map_eq_append_iff.mp hrest
  exact ⟨core', ⟨left', right', hleft.of_sameButCase hleft', hright.of_sameButCase hright',
    (List.append_assoc ..).symm⟩, hcore'⟩

/-- Digits with a sign or none in front, and the integer that they write. -/
inductive WritesSigned : List Char → Int → Prop
  | plain {ds : List Char} {n : Nat} : Writes ds n → WritesSigned ds n
  | plus {ds : List Char} {n : Nat} : Writes ds n → WritesSigned ('+' :: ds) n
  | minus {ds : List Char} {n : Nat} : Writes ds n → WritesSigned ('-' :: ds) (-n)

/-- The characters with which an integer is written: a sign only if it is below zero, and no zero
in front of other digits. -/
inductive IsCanonicalSigned : List Char → Int → Prop
  | plain {ds : List Char} {n : Nat} : IsCanonical ds n → IsCanonicalSigned ds n
  | minus {ds : List Char} {n : Nat} : IsCanonical ds n → 0 < n → IsCanonicalSigned ('-' :: ds) (-n)

theorem IsCanonicalSigned.writesSigned (h : IsCanonicalSigned cs n) : WritesSigned cs n := by
  cases h with
  | plain h => exact .plain h.1
  | minus h => exact .minus h.1

theorem isCanonicalSigned_toList_iff {l : String} :
    IsCanonicalSigned l.toList n ↔ l = n.repr := by
  constructor
  · intro h
    generalize hcs : l.toList = cs at h
    cases h with
    | plain h =>
      subst hcs
      exact isCanonical_toList_iff.mp h
    | minus h hpos =>
      obtain ⟨m, rfl⟩ := Nat.exists_eq_succ_of_ne_zero hpos.ne'
      rw [← String.toList_inj, hcs, isCanonical_iff.mp h]
      exact (toList_repr_negSucc m).symm
  · rintro rfl
    cases n with
    | ofNat n => exact .plain (isCanonical_toList_iff.mpr rfl)
    | negSucc n =>
      rw [toList_repr_negSucc]
      exact .minus (isCanonical_iff.mpr rfl) n.succ_pos

theorem WritesSigned.ne_nil (h : WritesSigned cs n) : cs ≠ [] := by
  cases h with
  | plain h => exact h.isDigits.1
  | plus h | minus h => exact List.cons_ne_nil _ _

/-- What holds of digits and of both signs holds of each character. -/
theorem WritesSigned.forall_mem {p : Char → Prop} (h : WritesSigned cs n)
    (hdigit : ∀ c, c.isDigit = true → p c) (hplus : p '+') (hminus : p '-') : ∀ c ∈ cs, p c := by
  have hrow : ∀ {ds : List Char} {m : Nat}, Writes ds m → ∀ c ∈ ds, p c :=
    fun h c hc => hdigit c (h.isDigits.2 c hc)
  cases h with
  | plain h => exact hrow h
  | plus h => exact List.forall_mem_cons.mpr ⟨hplus, hrow h⟩
  | minus h => exact List.forall_mem_cons.mpr ⟨hminus, hrow h⟩

theorem isAlpha_of_isDigit {c : Char} (h : c.isDigit = true) : c.isAlpha = false := by
  obtain ⟨hleast, hgreatest⟩ : 48 ≤ c.toNat ∧ c.toNat ≤ 57 := Char.isDigit_iff_toNat.mp h
  unfold Char.isAlpha Char.isUpper Char.isLower
  simp [UInt32.le_iff_toNat_le]
  omega

theorem WritesSigned.isAlpha_eq_false (h : WritesSigned cs n) : ∀ c ∈ cs, c.isAlpha = false :=
  h.forall_mem (fun _ => isAlpha_of_isDigit) rfl rfl

theorem WritesSigned.isTight (h : WritesSigned cs n) : IsTight cs :=
  isTight_of_forall (h.forall_mem (fun _ => isBlank_of_isDigit) (by decide) (by decide))

end LogScript.Text

namespace LogScript.Level

open Text (SameButCase WritesSigned IsCanonicalSigned IsPadded IsGap IsTight)

def severities : List (String × Int) :=
  [("ALL", -2147483648), ("TRACE", 1000), ("DEBUG", 2000), ("INFO", 3000), ("WARN", 4000),
    ("ERROR", 5000), ("FATAL", 6000), ("OFF", 2147483647)]

/-- What a row of characters stands for. -/
inductive Denotes (cs : List Char) (n : Int) : Prop
  | number : WritesSigned cs n → -2147483648 ≤ n → n ≤ 2147483647 → Denotes cs n
  | severity (name : String) : (name, n) ∈ severities → SameButCase cs name.toList → Denotes cs n

/-- A text denotes a level, with white space around it or without. -/
def Means (s : String) (n : Int) : Prop := ∃ core, IsPadded core s.toList ∧ Denotes core n

variable {cs ds : List Char} {s t : String} {n : Int}

theorem signed?_eq_some_iff : signed? cs = some n ↔ WritesSigned cs n := by
  constructor
  · intro h
    unfold signed? at h
    split at h
    next r =>
      obtain ⟨m, hm, rfl⟩ := Option.map_eq_some_iff.mp h
      exact .plus (Text.decimal?_eq_some_iff.mp hm)
    next r =>
      obtain ⟨k, hk, rfl⟩ := Option.map_eq_some_iff.mp h
      obtain ⟨m, hm, heq⟩ := Option.bind_eq_some_iff.mp hk
      cases Option.some.inj heq
      exact .minus (Text.decimal?_eq_some_iff.mp hm)
    next =>
      obtain ⟨m, hm, rfl⟩ := Option.map_eq_some_iff.mp h
      exact .plain (Text.decimal?_eq_some_iff.mp hm)
  · intro h
    cases h with
    | @plain _ m h =>
      have hsign : ∀ c : Char, c.isDigit = false → ∀ r, cs ≠ c :: r := by
        rintro c hc r rfl
        rw [h.isDigits.2 c List.mem_cons_self] at hc
        cases hc
      rw [signed?, Text.decimal?_eq_some_iff.mpr h]
      · rfl
      · exact hsign '+' rfl
      · exact hsign '-' rfl
    | plus h => rw [signed?, Text.decimal?_eq_some_iff.mpr h]; rfl
    | minus h => rw [signed?, Text.decimal?_eq_some_iff.mpr h]; rfl

theorem ofNumber?_eq_some_iff :
    ofNumber? cs = some n ↔ WritesSigned cs n ∧ -2147483648 ≤ n ∧ n ≤ 2147483647 := by
  rw [ofNumber?, Option.filter_eq_some_iff, signed?_eq_some_iff, Bool.and_eq_true,
    decide_eq_true_eq, decide_eq_true_eq]
  rfl

theorem mem_names_iff {k : List Char} :
    (k, n) ∈ names ↔ ∃ name, (name, n) ∈ severities ∧ name.toList = k := by
  have hnames : names = severities.map fun p => (p.1.toList, p.2) := rfl
  rw [hnames, List.mem_map]
  constructor
  · rintro ⟨⟨name, m⟩, hmem, heq⟩
    obtain ⟨rfl, rfl⟩ := Prod.mk.inj heq
    exact ⟨name, hmem, rfl⟩
  · rintro ⟨name, hmem, rfl⟩
    exact ⟨(name, n), hmem, rfl⟩

/-- No name is given twice, so that the first entry is the only one. -/
theorem lookup_names_eq_some_iff {k : List Char} : names.lookup k = some n ↔ (k, n) ∈ names := by
  rw [List.lookup_eq_some_iff]
  constructor
  · rintro ⟨before, after, heq, -⟩
    rw [heq]
    exact List.mem_append_right _ List.mem_cons_self
  · intro h
    obtain ⟨before, after, heq⟩ := List.append_of_mem h
    refine ⟨before, after, heq, fun p hp => bne_iff_ne.mpr ?_⟩
    have hkeys : (names.map Prod.fst).Nodup := by decide +kernel
    rw [heq, List.map_append, List.map_cons] at hkeys
    exact fun hk =>
      (List.nodup_append.mp hkeys).2.2 p.1 (List.mem_map_of_mem hp) k List.mem_cons_self hk.symm

theorem map_toUpper_of_mem {name : String} (h : (name, n) ∈ severities) :
    name.toList.map Char.toUpper = name.toList :=
  have hall : ∀ p ∈ severities, p.1.toList.map Char.toUpper = p.1.toList := by simp [severities]
  hall _ h

theorem isAlpha_of_mem {name : String} (h : (name, n) ∈ severities) :
    ∀ c ∈ name.toList, c.isAlpha = true :=
  have hall : ∀ p ∈ severities, ∀ c ∈ p.1.toList, c.isAlpha = true := by simp [severities]
  hall _ h

theorem ofName?_eq_some_iff :
    ofName? cs = some n ↔ ∃ name, (name, n) ∈ severities ∧ SameButCase cs name.toList := by
  rw [ofName?, lookup_names_eq_some_iff, mem_names_iff]
  refine exists_congr fun name => and_congr_right fun hmem => ?_
  rw [Text.sameButCase_iff_map_toUpper, map_toUpper_of_mem hmem, eq_comm]

theorem Denotes.isTight (h : Denotes cs n) : IsTight cs := by
  cases h with
  | number h => exact h.isTight
  | severity name hmem hcase =>
    exact Text.isTight_of_forall fun c hc =>
      Text.isBlank_of_isAlpha (Text.isAlpha_of_sameButCase hcase (isAlpha_of_mem hmem) c hc)

theorem ofName?_of_writesSigned (h : WritesSigned cs n) : ofName? cs = none := by
  rw [Option.eq_none_iff_forall_ne_some]
  intro m hm
  obtain ⟨name, hmem, hcase⟩ := ofName?_eq_some_iff.mp hm
  obtain ⟨c, hc⟩ := List.exists_mem_of_ne_nil cs h.ne_nil
  have hletter := Text.isAlpha_of_sameButCase hcase (isAlpha_of_mem hmem) c hc
  rw [h.isAlpha_eq_false c hc] at hletter
  cases hletter

theorem ofNumber?_or_ofName?_eq_some_iff :
    (ofNumber? cs).or (ofName? cs) = some n ↔ Denotes cs n := by
  rw [Option.or_eq_some_iff, ofNumber?_eq_some_iff]
  constructor
  · rintro (⟨hwrites, hleast, hgreatest⟩ | ⟨-, hname⟩)
    · exact .number hwrites hleast hgreatest
    · obtain ⟨name, hmem, hcase⟩ := ofName?_eq_some_iff.mp hname
      exact .severity name hmem hcase
  · rintro (⟨hwrites, hleast, hgreatest⟩ | ⟨name, hmem, hcase⟩)
    · exact Or.inl ⟨hwrites, hleast, hgreatest⟩
    · have hname : ofName? cs = some n := ofName?_eq_some_iff.mpr ⟨name, hmem, hcase⟩
      refine Or.inr ⟨Option.eq_none_iff_forall_ne_some.mpr fun m hm => ?_, hname⟩
      rw [ofName?_of_writesSigned (ofNumber?_eq_some_iff.mp hm).1] at hname
      cases hname

theorem ofText?_eq_some_iff : ofText? s = some n ↔ Means s n := by
  rw [ofText?, ofNumber?_or_ofName?_eq_some_iff]
  exact (Text.exists_isPadded_iff fun _ => Denotes.isTight).symm

theorem ofText?_append {left right : String} (hleft : IsGap left.toList)
    (hright : IsGap right.toList) : ofText? (left ++ s ++ right) = ofText? s := by
  rw [ofText?, String.toList_append, String.toList_append, Text.trim_append hleft hright, ofText?]

theorem Denotes.of_sameButCase (h : Denotes ds n) (hcase : SameButCase cs ds) : Denotes cs n := by
  cases h with
  | number h hleast hgreatest =>
    rw [Text.eq_of_sameButCase hcase h.isAlpha_eq_false]
    exact .number h hleast hgreatest
  | severity name hmem hname => exact .severity name hmem (hcase.trans hname)

theorem Means.of_sameButCase (h : Means s n) (hcase : SameButCase t.toList s.toList) :
    Means t n := by
  obtain ⟨core, hpadded, hdenotes⟩ := h
  obtain ⟨core', hpadded', hcore⟩ := hpadded.of_sameButCase hcase
  exact ⟨core', hpadded', hdenotes.of_sameButCase hcore⟩

theorem ofText?_of_sameButCase (h : SameButCase t.toList s.toList) : ofText? t = ofText? s := by
  refine Option.ext fun n => ?_
  rw [ofText?_eq_some_iff, ofText?_eq_some_iff]
  exact ⟨fun ht => ht.of_sameButCase h.symm, fun hs => hs.of_sameButCase h⟩

theorem Means.of_isCanonicalSigned {l : String} (h : Means s n)
    (hl : IsCanonicalSigned l.toList n) : Means l n := by
  have hrange : -2147483648 ≤ n ∧ n ≤ 2147483647 := by
    obtain ⟨core, -, ⟨-, hleast, hgreatest⟩ | ⟨name, hmem, -⟩⟩ := h
    · exact ⟨hleast, hgreatest⟩
    · have hall : ∀ p ∈ severities, -2147483648 ≤ p.2 ∧ p.2 ≤ 2147483647 := by simp [severities]
      exact hall _ hmem
  exact ⟨l.toList, .self _, .number hl.writesSigned hrange.1 hrange.2⟩

end LogScript.Level

namespace LogScript.Kind

open Text (IsGap IsCanonicalSigned SameButCase)

variable {cv : Converter} {s l : String}

theorem literal_level_eq_ok_iff :
    level.literal cv s = .ok l ↔ ∃ n, Level.Means s n ∧ IsCanonicalSigned l.toList n := by
  simp only [← Level.ofText?_eq_some_iff, Text.isCanonicalSigned_toList_iff]
  cases h : Level.ofText? s <;> simp [literal, h, eq_comm]

theorem literal_level_eq_error_iff {e : Rejection} :
    level.literal cv s = .error e ↔ (∀ n, ¬Level.Means s n) ∧ e = .unknownLevel s := by
  simp only [← Level.ofText?_eq_some_iff]
  cases h : Level.ofText? s <;> simp [literal, h, eq_comm]

theorem literal_level_of_eq_ok (h : level.literal cv s = .ok l) : level.literal cv l = .ok l := by
  obtain ⟨n, hmeans, hcanonical⟩ := literal_level_eq_ok_iff.mp h
  exact literal_level_eq_ok_iff.mpr ⟨n, hmeans.of_isCanonicalSigned hcanonical, hcanonical⟩

/-- A level is accepted if it is an integer of 32 bits or the name of a severity, and its literal is
the number: it stays as it is when it is read again, and neither white space around the text nor the
case of its letters makes a difference. -/
theorem level_literal_exact (cv : Converter) (s : String) :
    (∀ n, Level.ofText? s = some n ↔ Level.Means s n) ∧
    (∀ l, level.literal cv s = .ok l ↔ ∃ n, Level.Means s n ∧ IsCanonicalSigned l.toList n) ∧
    (∀ e, level.literal cv s = .error e ↔ (∀ n, ¬Level.Means s n) ∧ e = .unknownLevel s) ∧
    (∀ l, level.literal cv s = .ok l → level.literal cv l = .ok l) ∧
    (∀ left right : String, IsGap left.toList → IsGap right.toList →
      Level.ofText? (left ++ s ++ right) = Level.ofText? s) ∧
    ∀ t : String, SameButCase t.toList s.toList → Level.ofText? t = Level.ofText? s :=
  ⟨fun _ => Level.ofText?_eq_some_iff, fun _ => literal_level_eq_ok_iff,
    fun _ => literal_level_eq_error_iff, fun _ => literal_level_of_eq_ok,
    fun _ _ => Level.ofText?_append, fun _ => Level.ofText?_of_sameButCase⟩

/-- The least level in digits, with zeros and white space. -/
def paddedLeast : String := "\u2003-002147483648\n"

def narrowGap : String := "\u00a0\t"

theorem level_literal_exact_paddedLeast :
    level.literal .sample paddedLeast = .ok "-2147483648" ∧
    level.literal .sample "-2147483648" = .ok "-2147483648" ∧
    level.literal .sample "-2147483649" = .error (.unknownLevel "-2147483649") ∧
    (IsGap narrowGap.toList ∧ IsGap "".toList ∧ SameButCase "wArN".toList "WARN".toList) ∧
    Level.ofText? (narrowGap ++ "WARN" ++ "") = some 4000 ∧
    Level.ofText? "wArN" = some 4000 := by
  have hgap : IsGap narrowGap.toList := by decide +kernel
  have hnothing : IsGap "".toList := .nil
  have hcase : SameButCase "wArN".toList "WARN".toList := by
    rw [SameButCase]
    decide +kernel
  obtain ⟨hvalue, hok, -, hagain, -⟩ := level_literal_exact .sample paddedLeast
  have hleast : level.literal .sample paddedLeast = .ok "-2147483648" :=
    (hok _).mpr ⟨-2147483648, (hvalue _).mp (by decide +kernel),
      Text.isCanonicalSigned_toList_iff.mpr (by decide +kernel)⟩
  have hbelow : ∀ n, ¬Level.Means "-2147483649" n := fun n h => by
    have hnone : Level.ofText? "-2147483649" = none := by decide +kernel
    rw [← Level.ofText?_eq_some_iff, hnone] at h
    cases h
  obtain ⟨-, -, -, -, hspace, hletters⟩ := level_literal_exact .sample "WARN"
  have hwarn : Level.ofText? "WARN" = some 4000 := by decide +kernel
  exact ⟨hleast, hagain _ hleast,
    ((level_literal_exact _ _).2.2.1 _).mpr ⟨hbelow, rfl⟩, ⟨hgap, hnothing, hcase⟩,
    (hspace _ _ hgap hnothing).trans hwarn, (hletters _ hcase).trans hwarn⟩

end LogScript.Kind
