import LogScript.Pattern.CharClass
import LogScript.Text.Digits

namespace LogScript.Pattern

/-- The meaning of an escape. -/
inductive Escape where
  | char (c : Char)
  /-- A set given by its name, and how many states an automaton needs for it if it is known. -/
  | set (states : Option Nat)
  /-- The hexadecimal digits, or all other characters. -/
  | hexDigits (negated : Bool)
  deriving DecidableEq, Repr

namespace Escape

/-- A row of exactly so many hexadecimal digits. -/
def fixedHex? (count : Nat) (cs : List Char) : Option (Nat × List Char) :=
  if count ≤ cs.length then (Text.hexNumber? (cs.take count)).map (·, cs.drop count) else none

/-- One to eight hexadecimal digits in braces. -/
def bracedHex? : List Char → Option (Nat × List Char)
  | '\x7b' :: r =>
    let digits := r.takeWhile fun c => (Text.hexValue? c).isSome
    match r.drop digits.length with
    | '\x7d' :: r' =>
      if 0 < digits.length ∧ digits.length ≤ 8 then (Text.hexNumber? digits).map (·, r') else none
    | _ => none
  | _ => none

/-- The character with a code in hexadecimal digits. -/
def hex? (count : Nat) (cs : List Char) : Option (Escape × List Char) :=
  match (fixedHex? count cs).or (bracedHex? cs) with
  | some (n, r) => if n.isValidChar then some (char (Char.ofNat n), r) else none
  | none => none

/-- How many states the sets with a letter of their own need: decimal digits, white space and the
characters of words in all scripts, and what does not belong to them. -/
def states? : Char → Option Nat
  | 'd' => some 140
  | 'D' => some 353
  | 's' => some 21
  | 'S' => some 60
  | 'w' => some 1560
  | 'W' => some 1475
  | _ => none

/-- The set that a property gives, which needs a state at least. -/
def ofProperty (isKnown : Bool) : Escape := set (if isKnown then some 1 else none)

/-- A property: one letter, or a text in braces. -/
def property? : List Char → Option (Escape × List Char)
  | [] => none
  | '\x7b' :: r =>
    let name := r.takeWhile (· ≠ '\x7d')
    match r.drop name.length with
    | _ :: r' => some (ofProperty (Property.isKnownText name), r')
    | [] => none
  | c :: r => some (ofProperty (Property.isKnown [c]), r)

/-- The character meant by a single one behind the backslash. Letters without a meaning are
refused, those with a meaning outside classes are not. -/
def single? (c : Char) : Option Char :=
  match c with
  | 'a' => some '\x07'
  | 'b' => some '\x08'
  | 'e' => some '\x1b'
  | 'f' => some '\x0c'
  | 'n' => some '\n'
  | 'r' => some '\r'
  | 't' => some '\t'
  | 'v' => some '\x0b'
  | c => if c.isAlpha && !("kAzBKG".toList.contains c) then none else some c

/-- Reads what stands behind a backslash. -/
def read? : List Char → Option (Escape × List Char)
  | [] => none
  | c :: r =>
    if c.isDigit then none
    else if "dswDSW".toList.contains c then some (set (states? c), r)
    else if c = 'h' then some (hexDigits false, r)
    else if c = 'H' then some (hexDigits true, r)
    else if c = 'x' then hex? 2 r
    else if c = 'u' then hex? 4 r
    else if c = 'U' then hex? 8 r
    else if c = 'p' ∨ c = 'P' then property? r
    else (single? c).map fun d => (char d, r)

/-- The elements of a class that an escape adds. -/
def items : Escape → List ClassItem
  | char c => [.ofEscape c]
  | set states => [.named states.isSome]
  | hexDigits negated =>
    (if negated then "[^0-9A-Fa-f]" else "[0-9A-Fa-f]").toList.map .plain

theorem hex?_length {count : Nat} {cs : List Char} {p : Escape × List Char}
    (h : hex? count cs = some p) : p.2.length ≤ cs.length := by
  unfold hex? at h
  split at h
  next n r hr =>
    split at h
    next =>
      cases h
      rcases Option.or_eq_some_iff.mp hr with hf | ⟨_, hb⟩
      · unfold fixedHex? at hf
        split at hf
        next =>
          obtain ⟨_, _, he⟩ := Option.map_eq_some_iff.mp hf
          cases he
          simp
        next => simp at hf
      · unfold bracedHex? at hb
        split at hb
        next =>
          dsimp only at hb
          split at hb
          next r' hd =>
            split at hb
            next =>
              obtain ⟨_, _, he⟩ := Option.map_eq_some_iff.mp hb
              cases he
              have := congrArg List.length hd
              simp only [List.length_drop, List.length_cons] at this ⊢
              omega
            next => simp at hb
          next => simp at hb
        next => simp at hb
    next => simp at h
  next => simp at h

theorem property?_length {cs : List Char} {p : Escape × List Char}
    (h : property? cs = some p) : p.2.length ≤ cs.length := by
  unfold property? at h
  split at h
  next => simp at h
  next =>
    dsimp only at h
    split at h
    next hd =>
      cases h
      have := congrArg List.length hd
      simp only [List.length_drop, List.length_cons] at this ⊢
      omega
    next => simp at h
  next => cases h; simp

theorem read?_length {cs : List Char} {p : Escape × List Char} (h : read? cs = some p) :
    p.2.length < cs.length := by
  cases cs with
  | nil => simp [read?] at h
  | cons c r =>
    simp only [List.length_cons]
    refine Nat.lt_succ_of_le ?_
    simp only [read?] at h
    split at h
    · simp at h
    split at h
    · cases h; simp
    split at h
    · cases h; simp
    split at h
    · cases h; simp
    split at h
    · exact hex?_length h
    split at h
    · exact hex?_length h
    split at h
    · exact hex?_length h
    split at h
    · exact property?_length h
    · obtain ⟨_, _, rfl⟩ := Option.map_eq_some_iff.mp h
      simp

end Escape

end LogScript.Pattern
