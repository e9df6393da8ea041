import LogScript.Json.NumberLiteral
import LogScript.Json.StringLiteral

namespace LogScript.Json

inductive Token where
  | null
  | bool (b : Bool)
  | number (n : Number)
  | string (s : String)
  | openArray
  | closeArray
  | openObject
  | closeObject
  | comma
  | colon
  /-- What begins as a string and is none. -/
  | brokenString (e : SyntaxError)
  /-- What begins as nothing, or as another token than a string, and is none. -/
  | broken (e : SyntaxError)
  deriving DecidableEq, Repr

namespace Token

/-- The characters between tokens. -/
def isSpace (c : Char) : Bool := c == ' ' || c == '\n' || c == '\t' || c == '\r'

/-- The rest of a literal name. -/
def name? : List Char → List Char → Except SyntaxError (List Char)
  | [], cs => .ok cs
  | _, [] => .error .endInValue
  | e :: es, c :: cs => if c = e then name? es cs else .error .expectedIdent

/-- A token that is a literal name, of which the first letter has been read. -/
def ofName (t : Token) (letters : List Char) (cs : List Char) : Token × List Char :=
  match name? letters cs with
  | .ok r => (t, r)
  | .error e => (.broken e, [])

def ofString (cs : List Char) : Token × List Char :=
  match StringLiteral.read? cs with
  | .ok (s, r) => (.string (String.ofList s), r)
  | .error e => (.brokenString e, [])

def ofNumber (cs : List Char) : Token × List Char :=
  match NumberLiteral.read? cs with
  | .ok (n, r) => (.number n, r)
  | .error e => (.broken e, [])

/-- The token that begins with a character. A broken token takes the rest of the text. -/
def first (c : Char) (r : List Char) : Token × List Char :=
  match c with
  | '[' => (.openArray, r)
  | ']' => (.closeArray, r)
  | '\x7b' => (.openObject, r)
  | '\x7d' => (.closeObject, r)
  | ',' => (.comma, r)
  | ':' => (.colon, r)
  | '"' => ofString r
  | 'n' => ofName .null ['u', 'l', 'l'] r
  | 't' => ofName (.bool true) ['r', 'u', 'e'] r
  | 'f' => ofName (.bool false) ['a', 'l', 's', 'e'] r
  | c => if c = '-' ∨ c.isDigit then ofNumber (c :: r) else (.broken .expectedValue, [])

theorem name?_length {es cs r : List Char} (h : name? es cs = .ok r) : r.length ≤ cs.length := by
  fun_induction name? es cs with
  | case1 => cases h; simp
  | case2 => simp at h
  | case3 _ _ _ ih =>
    have := ih h
    simp only [List.length_cons]
    omega
  | case4 => simp at h

theorem ofName_length {t : Token} {es cs : List Char} : (ofName t es cs).2.length ≤ cs.length := by
  unfold ofName
  split
  next h => exact name?_length h
  next => simp

theorem ofString_length {cs : List Char} : (ofString cs).2.length ≤ cs.length := by
  unfold ofString
  split
  next h => exact Nat.le_of_lt (StringLiteral.read?_length h)
  next => simp

theorem ofNumber_length {c : Char} {r : List Char} : (ofNumber (c :: r)).2.length ≤ r.length := by
  unfold ofNumber
  split
  next h => exact Nat.le_of_lt_succ (NumberLiteral.read?_length h)
  next => simp

theorem first_length (c : Char) (r : List Char) : (first c r).2.length ≤ r.length := by
  unfold first
  split
  all_goals first
    | exact Nat.le_refl _
    | exact ofString_length
    | exact ofName_length
    | skip
  split
  · exact ofNumber_length
  · simp

def ofText (cs : List Char) : List Token :=
  match cs with
  | [] => []
  | c :: r =>
    if isSpace c then ofText r
    else
      have := first_length c r
      (first c r).1 :: ofText (first c r).2
termination_by cs.length
decreasing_by all_goals simp only [List.length_cons]; omega

end Token

end LogScript.Json
