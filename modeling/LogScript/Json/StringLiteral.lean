import LogScript.Json.SyntaxError
import LogScript.Text.Digits

namespace LogScript.Json.StringLiteral

/-- The four digits of an escape, which have to be characters of one byte. -/
def code? : List Char → Except SyntaxError (Nat × List Char)
  | a :: b :: c :: d :: r =>
    match Text.hexNumber? [a, b, c, d] with
    | some n => .ok (n, r)
    | none => .error .invalidEscape
  | cs => .error (if (String.ofList cs).utf8ByteSize < 4 then .endInString else .invalidEscape)

/-- Whether a code is the first of a pair, which together mean a character beyond 65535. -/
def isFirst (n : Nat) : Bool := 0xD800 ≤ n && n ≤ 0xDBFF

/-- Whether a code is the second of a pair. -/
def isSecond (n : Nat) : Bool := 0xDC00 ≤ n && n ≤ 0xDFFF

/-- The second code of a pair, and the character that both mean. -/
def second? (first : Nat) : List Char → Except SyntaxError (Char × List Char)
  | [] => .error .endInString
  | ['\\'] => .error .endInString
  | '\\' :: 'u' :: r =>
    match code? r with
    | .error e => .error e
    | .ok (n, r') =>
      if isSecond n then .ok (Char.ofNat (0x10000 + 1024 * (first - 0xD800) + (n - 0xDC00)), r')
      else .error .loneSurrogate
  | _ => .error .endOfHexEscape

def unicode? (cs : List Char) : Except SyntaxError (Char × List Char) :=
  match code? cs with
  | .error e => .error e
  | .ok (n, r) =>
    if isSecond n then .error .loneSurrogate
    else if isFirst n then second? n r
    else .ok (Char.ofNat n, r)

def escape? : List Char → Except SyntaxError (Char × List Char)
  | [] => .error .endInString
  | '"' :: r => .ok ('"', r)
  | '\\' :: r => .ok ('\\', r)
  | '/' :: r => .ok ('/', r)
  | 'b' :: r => .ok ('\x08', r)
  | 'f' :: r => .ok ('\x0c', r)
  | 'n' :: r => .ok ('\n', r)
  | 'r' :: r => .ok ('\r', r)
  | 't' :: r => .ok ('\t', r)
  | 'u' :: r => unicode? r
  | _ => .error .invalidEscape

theorem code?_length {cs : List Char} {p : Nat × List Char} (h : code? cs = .ok p) :
    p.2.length < cs.length := by
  unfold code? at h
  split at h
  next =>
    split at h
    · cases h; simp only [List.length_cons]; omega
    · simp at h
  next => simp at h

theorem second?_length {n : Nat} {cs : List Char} {p : Char × List Char}
    (h : second? n cs = .ok p) : p.2.length < cs.length := by
  unfold second? at h
  split at h
  · simp at h
  · simp at h
  · split at h
    · simp at h
    next hc =>
      split at h
      · obtain rfl := Except.ok.inj h
        have := code?_length hc
        simp only [List.length_cons] at this ⊢
        omega
      · simp at h
  · simp at h

theorem unicode?_length {cs : List Char} {p : Char × List Char} (h : unicode? cs = .ok p) :
    p.2.length < cs.length := by
  unfold unicode? at h
  split at h
  · simp at h
  next hc =>
    have := code?_length hc
    split at h
    · simp at h
    · split at h
      · exact Nat.lt_trans (second?_length h) this
      · obtain rfl := Except.ok.inj h
        exact this

theorem escape?_length {cs : List Char} {p : Char × List Char} (h : escape? cs = .ok p) :
    p.2.length < cs.length := by
  unfold escape? at h
  split at h
  case h_10 =>
    have := unicode?_length h
    simp only [List.length_cons]
    omega
  all_goals first | (cases h; simp) | simp at h

/-- Reads a string up to its closing quote, of which the opening one has been read, and tells what
follows. -/
def read? (cs : List Char) : Except SyntaxError (List Char × List Char) :=
  match cs with
  | [] => .error .endInString
  | c :: r =>
    if c = '"' then .ok ([], r)
    else if c = '\\' then
      match h : escape? r with
      | .error e => .error e
      | .ok (d, r') =>
        have : r'.length < r.length := escape?_length h
        (read? r').map fun p => (d :: p.1, p.2)
    else if c.toNat < 0x20 then .error .controlCharacter
    else (read? r).map fun p => (c :: p.1, p.2)
termination_by cs.length
decreasing_by all_goals simp only [List.length_cons]; omega

theorem read?_length {cs : List Char} {p : List Char × List Char} (h : read? cs = .ok p) :
    p.2.length < cs.length := by
  fun_induction read? cs generalizing p with
  | case1 => simp at h
  | case2 => cases h; simp
  | case3 => simp at h
  | case4 _ _ _ _ _ _ ih =>
    cases hr : read? _ with
    | error e => rw [hr] at h; simp [Except.map] at h
    | ok q =>
      rw [hr] at h
      cases h
      have := ih hr
      simp only [List.length_cons]
      omega
  | case5 => simp at h
  | case6 _ _ _ _ _ ih =>
    cases hr : read? _ with
    | error e => rw [hr] at h; simp [Except.map] at h
    | ok q =>
      rw [hr] at h
      cases h
      have := ih hr
      simp only [List.length_cons]
      omega

end LogScript.Json.StringLiteral
