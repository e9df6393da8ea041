import LogScript.Config.ReadError

namespace LogScript.Config

open Json (SyntaxError Number Draft Items Members)

/-- Reads a value, and reports the first mistake in the order of the text. -/
abbrev Reader (α : Type) := Draft → Except ReadError α

/-- What is wrong with a draft where another type is expected. Arrays and objects are not looked
into. -/
def mismatch (expected : String) : Draft → ReadError
  | .null => .wrongType .null expected
  | .bool b => .wrongType (.bool b) expected
  | .number n => .wrongType (.number n) expected
  | .string s => .wrongType (.string s) expected
  | .array _ => .wrongType .sequence expected
  | .object _ => .wrongType .map expected
  | .missing => .malformed .endInValue
  | .brokenString e => .malformed e
  | .broken e => .malformed e

def readBool : Reader Bool
  | .bool b => .ok b
  | d => .error (mismatch "a boolean" d)

def readString : Reader String
  | .string s => .ok s
  | d => .error (mismatch "a string" d)

/-- A value that may be null instead. -/
def readOptional {α : Type} (read : Reader α) : Reader (Option α)
  | .null => .ok none
  | d => (read d).map some

def readItems {α : Type} (read : Reader α) : Items → Except ReadError (List α)
  | .close => .ok []
  | .stop e => .error (.malformed e)
  | .item d rest =>
    match read d with
    | .error e => .error e
    | .ok x => (readItems read rest).map (x :: ·)

def readList {α : Type} (read : Reader α) : Reader (List α)
  | .array is => readItems read is
  | d => .error (mismatch "a sequence" d)

/-- The fields of a record and how each of them is read into it. -/
structure Shape (φ σ : Type) where
  /-- How the record is called in messages. -/
  title : String
  /-- The fields in the order in which an array gives them. -/
  fields : List φ
  name : φ → String
  read : φ → Draft → σ → Except ReadError σ

namespace Shape

variable {φ σ : Type} [DecidableEq φ]

def field? (sh : Shape φ σ) (seen : List φ) (key : String) : Except ReadError φ :=
  match sh.fields.find? (sh.name · = key) with
  | none => .error (.unknownField key (sh.fields.map sh.name))
  | some f => if f ∈ seen then .error (.repeatedField key) else .ok f

/-- Reads the members of an object into a record. -/
def ofMembers (sh : Shape φ σ) (seen : List φ) (s : σ) : Members → Except ReadError σ
  | .close => .ok s
  | .stop e => .error (.malformed e)
  | .oddKey _ => .error (.malformed .keyNotString)
  | .bareKey key e =>
    match sh.field? seen key with
    | .error e' => .error e'
    | .ok _ => .error (.malformed e)
  | .member key d rest =>
    match sh.field? seen key with
    | .error e => .error e
    | .ok f =>
      match sh.read f d s with
      | .error e => .error e
      | .ok s' => ofMembers sh (f :: seen) s' rest

/-- What is left of an array when all fields have been read. -/
def endOfItems (s : σ) : Items → Except ReadError σ
  | .close => .ok s
  | .stop .trailingComma => .error (.malformed .trailingComma)
  | .stop .endInList => .error (.malformed .endInList)
  | _ => .error (.malformed .trailingCharacters)

/-- Reads the elements of an array into a record, one for each field. The last ones may be left
out. -/
def ofItems (sh : Shape φ σ) : List φ → σ → Items → Except ReadError σ
  | [], s, is => endOfItems s is
  | _ :: _, s, .close => .ok s
  | _ :: _, _, .stop e => .error (.malformed e)
  | f :: fs, s, .item d rest =>
    match sh.read f d s with
    | .error e => .error e
    | .ok s' => ofItems sh fs s' rest

/-- Reads an object or an array into a record that holds what is read if nothing is given. -/
def readInto (sh : Shape φ σ) (s : σ) : Reader σ
  | .object ms => sh.ofMembers [] s ms
  | .array is => sh.ofItems sh.fields s is
  | d => .error (mismatch sh.title d)

end Shape

/-- Reads a text that holds one value and nothing else. -/
def readText {α : Type} (read : Reader α) (s : String) : Except ReadError α :=
  let (d, rest) := Draft.ofText s
  match read d with
  | .error e => .error e
  | .ok x => if rest.isEmpty then .ok x else .error (.malformed .trailingCharacters)

end LogScript.Config
