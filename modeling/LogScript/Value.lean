import LogScript.Identifier
import LogScript.Level
import LogScript.Literal
import LogScript.Rejection
import LogScript.Unsigned
import LogScript.Url

namespace LogScript

/-- Tells why a text is no regular expression; nothing if it is one. -/
abbrev Engine := String → Option String

/-- What turns configured texts into literals is given from outside: the host of the page resolves
virtual paths, and an engine takes regular expressions or refuses them. -/
structure Converter where
  resolver : Resolver
  engine : Engine

/-- What a configured text has to be. -/
inductive Kind where
  | text
  | unsigned
  | url
  | level
  | pattern
  /-- A variable of the script, which is written without quotes. -/
  | identifier
  deriving DecidableEq, Repr

/-- The value of one attribute as configured. -/
inductive Value where
  | absent
  | scalar (text : String)
  | list (items : List String)
  deriving DecidableEq, Repr

namespace Kind

def literal (cv : Converter) (k : Kind) (s : String) : Except Rejection String :=
  match k with
  | text => .ok (Literal.quote s)
  | unsigned =>
    match Unsigned.ofText? s with
    | some n => .ok n.repr
    | none => .error (.notUnsigned s)
  | url =>
    match Url.absolute? cv.resolver s with
    | some a => .ok (Literal.quote a)
    | none => .error (.malformedUrl s)
  | level =>
    match Level.ofText? s with
    | some n => .ok n.repr
    | none => .error (.unknownLevel s)
  | pattern =>
    match cv.engine s with
    | none => .ok (Literal.quote s)
    | some reason => .error (.invalidPattern s reason)
  | identifier =>
    if Identifier.isIdentifier s then .ok s else .error (.invalidIdentifier s)

/-- The literals of texts of one kind; the first rejection wins. -/
def literals (cv : Converter) (k : Kind) : List String → Except Rejection (List String)
  | [] => .ok []
  | s :: ss =>
    match k.literal cv s with
    | .error e => .error e
    | .ok l =>
      match literals cv k ss with
      | .error e => .error e
      | .ok ls => .ok (l :: ls)

def arrayLiteral (cv : Converter) (k : Kind) (items : List String) : Except Rejection String :=
  (k.literals cv items).map Literal.array

end Kind

namespace Value

/-- A value that is left out: one that is absent, or the empty text. An empty list is not. -/
def isOmitted : Value → Bool
  | absent => true
  | scalar s => s.isEmpty
  | list _ => false

def ofText? : Option String → Value
  | none => absent
  | some s => scalar s

def ofList? : Option (List String) → Value
  | none => absent
  | some ss => list ss

/-- The literal of a value; nothing if the value is left out. -/
def literal? (cv : Converter) (k : Kind) : Value → Except Rejection (Option String)
  | absent => .ok none
  | scalar s => if s.isEmpty then .ok none else (k.literal cv s).map some
  | list items => (k.arrayLiteral cv items).map some

theorem literal?_of_isOmitted {cv : Converter} {k : Kind} {v : Value} (h : v.isOmitted = true) :
    v.literal? cv k = .ok none := by
  cases v with
  | absent => rfl
  | scalar s => simp_all [isOmitted, literal?]
  | list => simp [isOmitted] at h

end Value

end LogScript
