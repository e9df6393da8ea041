import LogScript.Pattern.Node
import LogScript.Text.Alphanumeric
import LogScript.Text.Digits

namespace LogScript.Pattern

/-- What has been seen of a pattern, and what is left of it. -/
structure Cursor where
  rest : List Char
  /-- Whether blanks and line comments are skipped. -/
  free : Bool
  /-- The number of groups opened so far. -/
  groups : Nat
  /-- The names of groups, the latest first. -/
  names : List (List Char × Nat)
  /-- Whether a group was referred to by its number. -/
  byNumber : Bool
  /-- The groups referred to. -/
  referred : List Nat
  deriving Repr

namespace Cursor

/-- What may be skipped between two elements. -/
inductive Gap where
  | blank
  | line
  | comment

/-- Skips blanks and comments; nothing if a comment is not closed. -/
def skipGap (free : Bool) : Gap → List Char → Option (List Char)
  | .blank, [] => some []
  | .blank, '(' :: '?' :: '#' :: r => skipGap free .comment r
  | .blank, c :: r =>
    if free && c == '#' then skipGap free .line r
    else if free && " \r\n\t".toList.contains c then skipGap free .blank r
    else some (c :: r)
  | .line, [] => some []
  | .line, c :: r => skipGap free (if c = '\n' then .blank else .line) r
  | .comment, [] => none
  | .comment, ')' :: r => skipGap free .blank r
  | .comment, '\\' :: _ :: r => skipGap free .comment r
  | .comment, _ :: r => skipGap free .comment r

theorem skipGap_length {free : Bool} {g : Gap} {cs r : List Char}
    (h : skipGap free g cs = some r) : r.length ≤ cs.length := by
  fun_induction skipGap free g cs with
  | case1 => cases h; simp
  | case5 => cases h; simp
  | case6 => cases h; simp
  | case8 => simp at h
  | _ =>
    next ih =>
      have := ih h
      simp only [List.length_cons]
      omega

/-- The next element of the pattern. -/
def skip (c : Cursor) : Option Cursor :=
  (skipGap c.free .blank c.rest).map fun r => { c with rest := r }

theorem skip_length {c d : Cursor} (h : c.skip = some d) : d.rest.length ≤ c.rest.length := by
  obtain ⟨r, hr, rfl⟩ := Option.map_eq_some_iff.mp h
  exact skipGap_length hr

/-- A number that fits in 64 bits. -/
def number? (cs : List Char) : Option (Nat × List Char) :=
  let digits := cs.takeWhile Char.isDigit
  ((Text.decimal? digits).filter (· < UInt64.size)).map (·, cs.drop digits.length)

/-- The bounds of a repetition in braces, of which the opening one has been read. The greatest
number of 64 bits bounds nothing. -/
def bounds? (free : Bool) (cs : List Char) : Option (Nat × Option Nat × List Char) := do
  let cs ← skipGap free .blank cs
  let (lo, cs) ← if cs.head? = some ',' then some (0, cs) else number? cs
  let cs ← skipGap free .blank cs
  let (hi, cs) ← match cs with
    | '\x7d' :: _ => some (some lo, cs)
    | ',' :: r => do
      let r ← skipGap free .blank r
      match number? r with
      | some (hi, r') => some (if hi + 1 = UInt64.size then none else some hi, r')
      | none => some (none, r)
    | _ => none
  let cs ← skipGap free .blank cs
  match cs with
  | '\x7d' :: r => some (lo, hi, r)
  | _ => none

/-- A name and the character that ends it. A reference may count backwards from its place, which
a hyphen in front says. -/
def name? (relative : Bool) (close : Char) (cs : List Char) : Option (List Char × List Char) :=
  let (sign, body) := match relative, cs with
    | true, '-' :: r => (['-'], r)
    | _, cs => ([], cs)
  let letters := body.takeWhile fun c => Text.isAlphanumeric c || c == '_'
  match body.drop letters.length with
  | c :: r => if c = close ∧ sign ++ letters ≠ [] then some (sign ++ letters, r) else none
  | [] => none

/-- The greatest number of a group. -/
def greatestGroup : Nat := 9223372036854775807

/-- The group that is meant by a name, or by a number in its place. -/
def group? (c : Cursor) (name : List Char) : Option Nat :=
  match c.names.lookup name with
  | some n => some n
  | none =>
    match name with
    | '-' :: ds =>
      (Text.decimal? ds).bind fun n =>
        if n = 0 then some 0
        else if n ≤ c.groups + 1 ∧ n ≤ greatestGroup + 1 then some (c.groups + 1 - n)
        else none
    | ds => (Text.decimal? ds).filter (· ≤ greatestGroup)

/-- A reference to a group, which has to be open already. -/
def reference? (c : Cursor) (n : Nat) : Option (Node × Cursor) :=
  if n ≤ c.groups then some (.reference n, { c with referred := n :: c.referred }) else none

/-- A reference by name, of which the opening mark has been read. -/
def namedReference? (relative : Bool) (close : Char) (c : Cursor) : Option (Node × Cursor) := do
  let (name, r) ← name? relative close c.rest
  let n ← c.group? name
  reference? { c with rest := r } n

/-- A reference by number, which has to be below a limit. -/
def numberedReference? (limit : Nat) (c : Cursor) : Option (Node × Cursor) := do
  let (n, r) ← number? c.rest
  if n < limit then reference? { c with rest := r, byNumber := true } n else none

/-- The closing parenthesis. -/
def close? (c : Cursor) : Option Cursor := do
  let c ← c.skip
  match c.rest with
  | ')' :: r => some { c with rest := r }
  | _ => none

end Cursor

end LogScript.Pattern
