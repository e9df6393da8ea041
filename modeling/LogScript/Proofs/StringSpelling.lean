import LogScript.Proofs.Quotation

namespace LogScript.Json

/-- A character that stands in a JSON string as it is. -/
def IsBare (c : Char) : Prop := c ≠ '"' ∧ c ≠ '\\' ∧ ¬c.toNat < 0x20

instance : DecidablePred IsBare := fun c =>
  inferInstanceAs (Decidable (c ≠ '"' ∧ c ≠ '\\' ∧ ¬c.toNat < 0x20))

namespace StringLiteral

/-- Letters behind a backslash, and the characters that they stand for. -/
def letters : List (Char × Char) :=
  [('"', '"'), ('\\', '\\'), ('/', '/'), ('b', '\x08'), ('f', '\x0c'), ('n', '\n'), ('r', '\r'),
    ('t', '\t')]

/-- Four hexadecimal digits of either case. -/
def IsCode (n : Nat) (hex : List Char) : Prop := hex.length = 4 ∧ Text.hexNumber? hex = some n

/-- What stands behind a backslash for a character. A code of half a pair stands for none. -/
inductive Escapes : Char → List Char → Prop
  | letter {e c : Char} (h : (e, c) ∈ letters) : Escapes c [e]
  | code {n : Nat} {hex : List Char} (h : IsCode n hex) (hfirst : isFirst n = false)
      (hsecond : isSecond n = false) : Escapes (Char.ofNat n) ('u' :: hex)
  | pair {m n : Nat} {hex hex' : List Char} (h : IsCode m hex) (h' : IsCode n hex')
      (hfirst : isFirst m = true) (hsecond : isSecond n = true) :
      Escapes (Char.ofNat (0x10000 + 1024 * (m - 0xD800) + (n - 0xDC00)))
        ('u' :: (hex ++ '\\' :: 'u' :: hex'))

/-- A text, and characters between quotes that spell it. -/
inductive Spells : List Char → List Char → Prop
  | nil : Spells [] []
  | plain {c : Char} {cs ds : List Char} (hquote : c ≠ '"') (hbackslash : c ≠ '\\')
      (hcontrol : ¬c.toNat < 0x20) (h : Spells cs ds) : Spells (c :: cs) (c :: ds)
  | escaped {c : Char} {es cs ds : List Char} (hc : Escapes c es) (h : Spells cs ds) :
      Spells (c :: cs) ('\\' :: (es ++ ds))

theorem spells_self {cs : List Char} (h : ∀ c ∈ cs, IsBare c) : Spells cs cs := by
  induction cs with
  | nil => exact .nil
  | cons c cs ih =>
    obtain ⟨⟨hquote, hbackslash, hcontrol⟩, hcs⟩ := List.forall_mem_cons.mp h
    exact .plain hquote hbackslash hcontrol (ih hcs)

theorem code?_eq_ok_iff {cs r : List Char} {n : Nat} :
    code? cs = .ok (n, r) ↔ ∃ hex, IsCode n hex ∧ cs = hex ++ r := by
  constructor
  · intro h
    unfold code? at h
    split at h
    next a b c d r' =>
      split at h
      next hn =>
        cases h
        exact ⟨[a, b, c, d], ⟨rfl, hn⟩, rfl⟩
      next => cases h
    next => cases h
  · rintro ⟨hex, ⟨hlen, hn⟩, rfl⟩
    match hex, hlen with
    | [a, b, c, d], _ => simp [code?, hn]

theorem second?_eq_ok_iff {m : Nat} {cs r : List Char} {c : Char} :
    second? m cs = .ok (c, r) ↔
      ∃ n hex, IsCode n hex ∧ isSecond n = true ∧ cs = '\\' :: 'u' :: (hex ++ r) ∧
        c = Char.ofNat (0x10000 + 1024 * (m - 0xD800) + (n - 0xDC00)) := by
  constructor
  · intro h
    unfold second? at h
    split at h
    next => cases h
    next => cases h
    next cs =>
      split at h
      next => cases h
      next n r' hcode =>
        split at h
        next hsecond =>
          obtain ⟨hc, rfl⟩ := Prod.mk.inj (Except.ok.inj h)
          obtain ⟨hex, hhex, rfl⟩ := code?_eq_ok_iff.mp hcode
          exact ⟨n, hex, hhex, hsecond, rfl, hc.symm⟩
        next => cases h
    next => cases h
  · rintro ⟨n, hex, hhex, hsecond, rfl, hc⟩
    have hcode : code? (hex ++ r) = .ok (n, r) := code?_eq_ok_iff.mpr ⟨hex, hhex, rfl⟩
    simp only [second?, hcode, hsecond, if_true, hc]

theorem unicode?_of_ok {cs r : List Char} {c : Char} (h : unicode? cs = .ok (c, r)) :
    ∃ es, Escapes c ('u' :: es) ∧ cs = es ++ r := by
  unfold unicode? at h
  split at h
  next => cases h
  next n r' hcode =>
    obtain ⟨hex, hhex, rfl⟩ := code?_eq_ok_iff.mp hcode
    split at h
    next => cases h
    next hsecond =>
      split at h
      next hfirst =>
        obtain ⟨m, hex', hhex', hsecond', rfl, hc⟩ := second?_eq_ok_iff.mp h
        rw [hc]
        exact ⟨_, .pair hhex hhex' hfirst hsecond', by simp⟩
      next hfirst =>
        cases h
        exact ⟨hex, .code hhex (by simpa using hfirst) (by simpa using hsecond), rfl⟩

theorem escape?_of_ok {cs r : List Char} {c : Char} (h : escape? cs = .ok (c, r)) :
    ∃ es, Escapes c es ∧ cs = es ++ r := by
  unfold escape? at h
  split at h
  case h_10 =>
    obtain ⟨es, hes, rfl⟩ := unicode?_of_ok h
    exact ⟨_, hes, rfl⟩
  all_goals
    cases h
  all_goals
    exact ⟨[_], .letter (by decide), rfl⟩

theorem isFirst_of_isSecond {n : Nat} (h : isSecond n = true) : isFirst n = false := by
  simp [isSecond, isFirst] at h ⊢
  omega

theorem Escapes.escape?_append {c : Char} {es : List Char} (h : Escapes c es) (r : List Char) :
    escape? (es ++ r) = .ok (c, r) := by
  cases h with
  | letter h =>
    simp only [letters, List.mem_cons, Prod.mk.injEq, List.not_mem_nil, or_false] at h
    rcases h with ⟨rfl, rfl⟩ | ⟨rfl, rfl⟩ | ⟨rfl, rfl⟩ | ⟨rfl, rfl⟩ | ⟨rfl, rfl⟩ | ⟨rfl, rfl⟩ |
      ⟨rfl, rfl⟩ | ⟨rfl, rfl⟩
    all_goals rfl
  | @code n hex hhex hfirst hsecond =>
    have hcode : code? (hex ++ r) = .ok (n, r) := code?_eq_ok_iff.mpr ⟨hex, hhex, rfl⟩
    simp [escape?, unicode?, hcode, hfirst, hsecond]
  | @pair m n hex hex' hhex hhex' hfirst hsecond =>
    have hcode : code? (hex ++ '\\' :: 'u' :: (hex' ++ r)) = .ok (m, '\\' :: 'u' :: (hex' ++ r)) :=
      code?_eq_ok_iff.mpr ⟨hex, hhex, rfl⟩
    have hm : isSecond m = false := by
      cases hm : isSecond m with
      | false => rfl
      | true => simp [isFirst_of_isSecond hm] at hfirst
    have hpair : second? m ('\\' :: 'u' :: (hex' ++ r)) = .ok (_, r) :=
      second?_eq_ok_iff.mpr ⟨n, hex', hhex', hsecond, rfl, rfl⟩
    simp only [List.cons_append, List.append_assoc, escape?, unicode?, hcode, hm, hfirst, hpair,
      Bool.false_eq_true, if_false, if_true]

/-- The reader takes a spelling up to its closing quote, and leaves what follows. -/
theorem read?_eq_ok_iff {cs s r : List Char} :
    read? cs = .ok (s, r) ↔ ∃ ds, Spells s ds ∧ cs = ds ++ '"' :: r := by
  constructor
  · intro h
    fun_induction read? cs generalizing s with
    | case1 => cases h
    | case2 r' =>
      cases h
      exact ⟨[], .nil, rfl⟩
    | case3 => cases h
    | case4 cs d r' he _ _ ih =>
      cases hr : read? r' with
      | error e =>
        rw [hr] at h
        cases h
      | ok p =>
        obtain ⟨t, r''⟩ := p
        rw [hr] at h
        cases h
        obtain ⟨ds, hds, rfl⟩ := ih hr
        obtain ⟨es, hes, rfl⟩ := escape?_of_ok he
        exact ⟨_, .escaped hes hds, by simp⟩
    | case5 => cases h
    | case6 c r' hquote hbackslash hcontrol ih =>
      cases hr : read? r' with
      | error e =>
        rw [hr] at h
        cases h
      | ok p =>
        obtain ⟨t, r''⟩ := p
        rw [hr] at h
        cases h
        obtain ⟨ds, hds, rfl⟩ := ih hr
        exact ⟨_, .plain hquote hbackslash hcontrol hds, rfl⟩
  · rintro ⟨ds, hds, rfl⟩
    induction hds with
    | nil => rw [List.nil_append, read?, if_pos rfl]
    | plain hquote hbackslash hcontrol _ ih =>
      rw [List.cons_append, read?_plain hquote hbackslash hcontrol, ih]
      rfl
    | escaped hc _ ih =>
      rw [List.cons_append, List.append_assoc, read?_backslash (hc.escape?_append _), ih]
      rfl

end LogScript.Json.StringLiteral

namespace LogScript.Literal

/-- What a string literal has between its quotes spells its text. -/
theorem spells_flatMap_escape (cs : List Char) :
    Json.StringLiteral.Spells cs (cs.flatMap escape) := by
  obtain ⟨ds, hds, h⟩ :=
    Json.StringLiteral.read?_eq_ok_iff.mp (read?_flatMap_escape cs [])
  rw [List.append_cancel_right h]
  exact hds

end LogScript.Literal
