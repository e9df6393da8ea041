import LogScript.Json.Number
import LogScript.Json.SyntaxError

namespace LogScript.Json.NumberLiteral

/-- A row of at least one digit. -/
def digits? (cs : List Char) : Except SyntaxError (List Char × List Char) :=
  match cs with
  | [] => .error .endInValue
  | c :: r =>
    if c.isDigit then .ok (cs.takeWhile Char.isDigit, r.dropWhile Char.isDigit)
    else .error .invalidNumber

/-- The digits in front of the point. Only a single one may be zero in the first place. -/
def whole? (cs : List Char) : Except SyntaxError (List Char × List Char) :=
  match digits? cs with
  | .error e => .error e
  | .ok ('0' :: _ :: _, _) => .error .invalidNumber
  | .ok p => .ok p

/-- The point and the digits behind it, if there is one. -/
def fraction? : List Char → Except SyntaxError (List Char × List Char)
  | '.' :: r => digits? r
  | cs => .ok ([], cs)

/-- The digits of an exponent, with a sign or none in front. -/
def power? : List Char → Except SyntaxError (Int × List Char)
  | '-' :: r => (digits? r).map fun p => (-(Nat.ofDigitChars 10 p.1 0 : Int), p.2)
  | '+' :: r => (digits? r).map fun p => ((Nat.ofDigitChars 10 p.1 0 : Int), p.2)
  | cs => (digits? cs).map fun p => ((Nat.ofDigitChars 10 p.1 0 : Int), p.2)

/-- The exponent, if there is one. -/
def exponent? : List Char → Except SyntaxError (Option Int × List Char)
  | 'e' :: r => (power? r).map fun p => (some p.1, p.2)
  | 'E' :: r => (power? r).map fun p => (some p.1, p.2)
  | cs => .ok (none, cs)

/-- The parts of a number without its sign. -/
def unsigned? (negative : Bool) (cs : List Char) : Except SyntaxError (Numeral × List Char) :=
  match whole? cs with
  | .error e => .error e
  | .ok (whole, r) =>
    match fraction? r with
    | .error e => .error e
    | .ok (fraction, r) =>
      match exponent? r with
      | .error e => .error e
      | .ok (exponent, r) => .ok (⟨negative, whole, fraction, exponent⟩, r)

def numeral? : List Char → Except SyntaxError (Numeral × List Char)
  | '-' :: r => unsigned? true r
  | cs => unsigned? false cs

def read? (cs : List Char) : Except SyntaxError (Number × List Char) :=
  match numeral? cs with
  | .error e => .error e
  | .ok (x, r) =>
    match x.value? with
    | some n => .ok (n, r)
    | none => .error .numberOutOfRange

theorem digits?_length {cs ds r : List Char} (h : digits? cs = .ok (ds, r)) :
    r.length < cs.length := by
  unfold digits? at h
  split at h
  · simp at h
  next _ cs =>
    split at h
    · cases h
      have := (List.dropWhile_sublist (l := cs) Char.isDigit).length_le
      simp only [List.length_cons]
      omega
    · simp at h

theorem whole?_length {cs ds r : List Char} (h : whole? cs = .ok (ds, r)) :
    r.length < cs.length := by
  unfold whole? at h
  split at h
  · simp at h
  · simp at h
  next hd => cases h; exact digits?_length hd

theorem fraction?_length {cs ds r : List Char} (h : fraction? cs = .ok (ds, r)) :
    r.length ≤ cs.length := by
  unfold fraction? at h
  split at h
  · have := digits?_length h
    simp only [List.length_cons]
    omega
  · cases h
    exact Nat.le_refl _

theorem map_digits?_length {α : Type} {f : List Char × List Char → α} {cs r : List Char} {x : α}
    (h : (digits? cs).map (fun p => (f p, p.2)) = .ok (x, r)) : r.length < cs.length := by
  cases hd : digits? cs with
  | error e => simp [hd, Except.map] at h
  | ok p =>
    simp only [hd, Except.map, Except.ok.injEq, Prod.mk.injEq] at h
    exact h.2 ▸ digits?_length hd

theorem power?_length {cs r : List Char} {n : Int} (h : power? cs = .ok (n, r)) :
    r.length < cs.length := by
  unfold power? at h
  split at h
  · have := map_digits?_length h; simp only [List.length_cons]; omega
  · have := map_digits?_length h; simp only [List.length_cons]; omega
  · exact map_digits?_length h

theorem exponent?_length {cs r : List Char} {n : Option Int} (h : exponent? cs = .ok (n, r)) :
    r.length ≤ cs.length := by
  have main {s : List Char} (hs : (power? s).map (fun p => (some p.1, p.2)) = .ok (n, r)) :
      r.length < s.length := by
    cases hp : power? s with
    | error e => simp [hp, Except.map] at hs
    | ok p =>
      simp only [hp, Except.map, Except.ok.injEq, Prod.mk.injEq] at hs
      exact hs.2 ▸ power?_length hp
  unfold exponent? at h
  split at h
  · have := main h; simp only [List.length_cons]; omega
  · have := main h; simp only [List.length_cons]; omega
  · cases h; exact Nat.le_refl _

theorem unsigned?_length {negative : Bool} {cs r : List Char} {x : Numeral}
    (h : unsigned? negative cs = .ok (x, r)) : r.length < cs.length := by
  unfold unsigned? at h
  split at h
  · simp at h
  next hw =>
    split at h
    · simp at h
    next hf =>
      split at h
      · simp at h
      next he =>
        cases h
        have h1 := whole?_length hw
        have h2 := fraction?_length hf
        have h3 := exponent?_length he
        omega

theorem read?_length {cs r : List Char} {n : Number} (h : read? cs = .ok (n, r)) :
    r.length < cs.length := by
  unfold read? at h
  split at h
  · simp at h
  next hx =>
    split at h
    · cases h
      unfold numeral? at hx
      split at hx
      · have := unsigned?_length hx; simp only [List.length_cons]; omega
      · exact unsigned?_length hx
    · simp at h

end LogScript.Json.NumberLiteral
