import LogScript.Pattern.Property

namespace LogScript.Pattern

/-- One element inside the brackets of a class. -/
inductive ClassItem where
  /-- A character as written: a bracket or an operator may be meant by it. -/
  | plain (c : Char)
  /-- A character that stands for itself. -/
  | escaped (c : Char)
  /-- A set given by its name. -/
  | named (isKnown : Bool)
  deriving DecidableEq, Repr

namespace ClassItem

/-- Characters with a meaning of their own in a pattern. -/
def special : List Char := "\\.+*?()|[]\x7b\x7d^$#&-~".toList

/-- A character behind a backslash. -/
def ofEscape (c : Char) : ClassItem := if special.contains c then escaped c else plain c

/-- The character an element stands for as the end of a range. -/
def char? : ClassItem → Option Char
  | plain c => some c
  | escaped c => some c
  | named _ => none

/-- Whether an element is fine behind the bracket that closes its class. -/
def isHarmless : ClassItem → Bool
  | plain c => !("()[\\\x7b".toList.contains c)
  | escaped _ => true
  | named known => known

end ClassItem

/-- An open class: how many elements its current operand has, the height of the tallest of them,
and the height of what stands before the last operator. -/
structure OpenClass where
  count : Nat
  tallest : Nat
  before : Option Nat
  deriving DecidableEq, Repr

namespace OpenClass

/-- A class that has just been opened. -/
def empty : OpenClass := ⟨0, 0, none⟩

/-- One more element of a given height. -/
def add (k : OpenClass) (height : Nat) : OpenClass :=
  { k with count := k.count + 1, tallest := max k.tallest height }

/-- The height of the operands so far; two elements side by side form a union. -/
def height (k : OpenClass) : Nat :=
  let union := if k.count ≤ 1 then k.tallest else k.tallest + 1
  match k.before with
  | none => union
  | some left => max left union + 1

/-- An operator: what was read so far becomes its left side. -/
def operator (k : OpenClass) : OpenClass := ⟨0, 0, some k.height⟩

end OpenClass

namespace CharClass

/-- Names of the classes that are written between `[:` and `:]`. -/
def asciiNames : List String :=
  ["alnum", "alpha", "ascii", "blank", "cntrl", "digit", "graph", "lower", "print", "punct",
   "space", "upper", "word", "xdigit"]

/-- The text in front of the next `:]`, and what follows it. -/
def untilColon? : List ClassItem → Option (List Char × List ClassItem)
  | .plain ':' :: .plain ']' :: r => some ([], r)
  | .plain ':' :: _ => none
  | .plain c :: r => (untilColon? r).map fun p => (c :: p.1, p.2)
  | _ => none

theorem untilColon?_length {is : List ClassItem} {p : List Char × List ClassItem}
    (h : untilColon? is = some p) : p.2.length < is.length := by
  fun_induction untilColon? is generalizing p with
  | case1 r => cases h; simp only [List.length_cons]; omega
  | case2 => simp at h
  | case3 c r _ _ ih =>
    obtain ⟨q, hq, rfl⟩ := Option.map_eq_some_iff.mp h
    have := ih hq
    simp only [List.length_cons]
    omega
  | case4 => simp at h

/-- What follows a named class of ASCII, of which the opening bracket has been read. -/
def afterAscii? : List ClassItem → Option (List ClassItem)
  | .plain ':' :: .plain '^' :: r =>
    ((untilColon? r).filter fun p => asciiNames.contains (String.ofList p.1)).map Prod.snd
  | .plain ':' :: r =>
    ((untilColon? r).filter fun p => asciiNames.contains (String.ofList p.1)).map Prod.snd
  | _ => none

theorem afterAscii?_length {is r : List ClassItem} (h : afterAscii? is = some r) :
    r.length < is.length := by
  unfold afterAscii? at h
  split at h
  next =>
    obtain ⟨p, hp, rfl⟩ := Option.map_eq_some_iff.mp h
    have := untilColon?_length (Option.filter_eq_some_iff.mp hp).1
    simp only [List.length_cons]
    omega
  next =>
    obtain ⟨p, hp, rfl⟩ := Option.map_eq_some_iff.mp h
    have := untilColon?_length (Option.filter_eq_some_iff.mp hp).1
    simp only [List.length_cons]
    omega
  next => simp at h

/-- The elements of a class without the sign of negation in front. -/
def afterSign : List ClassItem → List ClassItem
  | .plain '^' :: r => r
  | is => is

theorem afterSign_length (is : List ClassItem) : (afterSign is).length ≤ is.length := by
  unfold afterSign
  split
  next => simp only [List.length_cons]; omega
  next => exact Nat.le_refl _

/-- The elements behind an opening bracket that cannot have another meaning: the sign of negation,
hyphens, and a closing bracket where nothing has been read yet. -/
def afterOpening (is : List ClassItem) : OpenClass × List ClassItem :=
  let hyphens := (afterSign is).takeWhile (· = .plain '-')
  let k : OpenClass := ⟨hyphens.length, 0, none⟩
  match hyphens, (afterSign is).drop hyphens.length with
  | [], .plain ']' :: r => (k.add 0, r)
  | _, r => (k, r)

theorem afterOpening_length (is : List ClassItem) : (afterOpening is).2.length ≤ is.length := by
  have hs := afterSign_length is
  unfold afterOpening
  dsimp only
  split
  next h =>
    have hl := congrArg List.length h
    simp only [List.length_drop, List.length_cons] at hl
    dsimp only
    omega
  next =>
    simp only [List.length_drop]
    omega

/-- Whether a range runs upwards between two characters. -/
def isRange (first last : ClassItem) : Bool :=
  match first.char?, last.char? with
  | some a, some b => a ≤ b
  | _, _ => false

/-- Reads up to the bracket that closes the outermost class. The result is the height of the class
and what stands behind it. -/
def read (k : OpenClass) (outer : List OpenClass) (is : List ClassItem) :
    Option (Nat × List ClassItem) :=
  match is with
  | [] => none
  | .plain '[' :: r =>
    match h : afterAscii? r with
    | some r' =>
      have := afterAscii?_length h
      read (k.add 0) outer r'
    | none =>
      have := afterOpening_length r
      read (afterOpening r).1 (k :: outer) (afterOpening r).2
  | .plain ']' :: r =>
    match outer with
    | [] => some (k.height + 1, r)
    | k' :: outer' => read (k'.add (k.height + 1)) outer' r
  | .plain '&' :: .plain '&' :: r => read k.operator outer r
  | .plain '-' :: .plain '-' :: r => read k.operator outer r
  | .plain '~' :: .plain '~' :: r => read k.operator outer r
  | i :: .plain '-' :: j :: r =>
    if j = .plain ']' ∨ j = .plain '-' then
      if i = .named false then none else read (k.add 0) outer (.plain '-' :: j :: r)
    else if isRange i j then read (k.add 0) outer r
    else none
  | .named false :: _ => none
  | _ :: r => read (k.add 0) outer r
termination_by is.length
decreasing_by all_goals simp only [List.length_cons]; omega

/-- The greatest height of a class. -/
def greatestHeight : Nat := 250

/-- Whether what stands behind an opening bracket is a class. A range may end in an opening
bracket, so that the class closes before its brackets balance; the rest then stands for itself. -/
def isValid (is : List ClassItem) : Bool :=
  match read (afterOpening is).1 [] (afterOpening is).2 with
  | some (height, rest) => height ≤ greatestHeight && rest.all ClassItem.isHarmless
  | none => false

end CharClass

end LogScript.Pattern
