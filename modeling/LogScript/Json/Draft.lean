import LogScript.Json.Token

namespace LogScript.Json

mutual

/-- A value as far as a text can be read: all of it, or the part in front of the first mistake. A
reader of a draft decides for itself how much of it to look at, so that of a mistake in the text and
a value of a wrong type the one that comes first is reported. -/
inductive Draft where
  | null
  | bool (b : Bool)
  | number (n : Number)
  | string (s : String)
  | array (items : Items)
  | object (members : Members)
  /-- The text ends where a value should begin. -/
  | missing
  /-- What begins as a string and is none. -/
  | brokenString (e : SyntaxError)
  /-- What is no value, and does not begin as a string. -/
  | broken (e : SyntaxError)

inductive Items where
  | close
  /-- The array cannot be read on. -/
  | stop (e : SyntaxError)
  | item (value : Draft) (rest : Items)

inductive Members where
  | close
  /-- The object cannot be read on. -/
  | stop (e : SyntaxError)
  /-- Another value stands in place of the first key. -/
  | oddKey (value : Draft)
  /-- A key without a colon behind it. -/
  | bareKey (key : String) (e : SyntaxError)
  | member (key : String) (value : Draft) (rest : Members)

end

namespace Draft

/-- Some last ones of given tokens. -/
abbrev Rest (ts : List Token) := { r : List Token // r.length ≤ ts.length }

/-- Reads one value. Nothing is left behind a mistake. -/
abbrev Reader := (ts : List Token) → Draft × Rest ts

/-- The elements behind one that has been read. -/
def moreItems (value : Reader) (ts : List Token) : Items × Rest ts :=
  match ts with
  | .closeArray :: r => (.close, ⟨r, by simp⟩)
  | .comma :: .closeArray :: _ => (.stop .trailingComma, ⟨[], by simp⟩)
  | [.comma] => (.stop .endInValue, ⟨[], by simp⟩)
  | .comma :: r =>
    match value r with
    | (v, ⟨r', h⟩) =>
      let is := moreItems value r'
      (.item v is.1, ⟨is.2.val, by have := is.2.property; simp only [List.length_cons]; omega⟩)
  | [] => (.stop .endInList, ⟨[], by simp⟩)
  | _ => (.stop .expectedCommaOrBracket, ⟨[], by simp⟩)
termination_by ts.length
decreasing_by simp only [List.length_cons]; omega

/-- The elements of an array, of which the opening bracket has been read. -/
def items (value : Reader) (ts : List Token) : Items × Rest ts :=
  match ts with
  | .closeArray :: r => (.close, ⟨r, by simp⟩)
  | [] => (.stop .endInList, ⟨[], by simp⟩)
  | ts =>
    let v := value ts
    let is := moreItems value v.2.val
    (.item v.1 is.1, ⟨is.2.val, Nat.le_trans is.2.property v.2.property⟩)

mutual

/-- A member, of which the key has been read, and those behind it. -/
def member (value : Reader) (key : String) (ts : List Token) : Members × Rest ts :=
  match ts with
  | .colon :: r =>
    match value r with
    | (v, ⟨r', h⟩) =>
      let ms := moreMembers value r'
      (.member key v ms.1,
        ⟨ms.2.val, by have := ms.2.property; simp only [List.length_cons]; omega⟩)
  | [] => (.bareKey key .endInObject, ⟨[], by simp⟩)
  | _ => (.bareKey key .expectedColon, ⟨[], by simp⟩)
termination_by ts.length
decreasing_by simp only [List.length_cons]; omega

/-- The members behind one that has been read. -/
def moreMembers (value : Reader) (ts : List Token) : Members × Rest ts :=
  match ts with
  | .closeObject :: r => (.close, ⟨r, by simp⟩)
  | .comma :: .closeObject :: _ => (.stop .trailingComma, ⟨[], by simp⟩)
  | [.comma] => (.stop .endInValue, ⟨[], by simp⟩)
  | .comma :: .string key :: r =>
    let ms := member value key r
    (ms.1, ⟨ms.2.val, by have := ms.2.property; simp only [List.length_cons]; omega⟩)
  | .comma :: .brokenString e :: _ => (.stop e, ⟨[], by simp⟩)
  | .comma :: _ => (.stop .keyNotString, ⟨[], by simp⟩)
  | [] => (.stop .endInObject, ⟨[], by simp⟩)
  | _ => (.stop .expectedCommaOrBrace, ⟨[], by simp⟩)
termination_by ts.length
decreasing_by simp only [List.length_cons]; omega

end

/-- The members of an object, of which the opening brace has been read. -/
def members (value : Reader) (ts : List Token) : Members × Rest ts :=
  match ts with
  | .closeObject :: r => (.close, ⟨r, by simp⟩)
  | .string key :: r =>
    let ms := member value key r
    (ms.1, ⟨ms.2.val, Nat.le_succ_of_le ms.2.property⟩)
  | .brokenString e :: _ => (.stop e, ⟨[], by simp⟩)
  | [] => (.stop .endInObject, ⟨[], by simp⟩)
  | ts => (.oddKey (value ts).1, ⟨[], by simp⟩)

/-- Reads a value inside which so many arrays and objects may be opened inside one another. -/
def read : Nat → Reader
  | _, [] => (missing, ⟨[], by simp⟩)
  | _, .null :: r => (null, ⟨r, by simp⟩)
  | _, .bool b :: r => (bool b, ⟨r, by simp⟩)
  | _, .number n :: r => (number n, ⟨r, by simp⟩)
  | _, .string s :: r => (string s, ⟨r, by simp⟩)
  | n + 1, .openArray :: r =>
    let is := items (read n) r
    (array is.1, ⟨is.2.val, Nat.le_succ_of_le is.2.property⟩)
  | n + 1, .openObject :: r =>
    let ms := members (read n) r
    (object ms.1, ⟨ms.2.val, Nat.le_succ_of_le ms.2.property⟩)
  | 0, .openArray :: _ => (broken .recursionLimit, ⟨[], by simp⟩)
  | 0, .openObject :: _ => (broken .recursionLimit, ⟨[], by simp⟩)
  | _, .brokenString e :: _ => (brokenString e, ⟨[], by simp⟩)
  | _, .broken e :: _ => (broken e, ⟨[], by simp⟩)
  | _, _ :: _ => (broken .expectedValue, ⟨[], by simp⟩)

/-- How many arrays and objects may be opened inside one another. -/
def deepest : Nat := 127

/-- The value in front of a text, and the tokens behind it. -/
def ofText (s : String) : Draft × List Token :=
  let v := read deepest (Token.ofText s.toList)
  (v.1, v.2.val)

end Draft

mutual

/-- The first mistake in a draft. -/
def Draft.mistake? : Draft → Option SyntaxError
  | .missing => some .endInValue
  | .brokenString e => some e
  | .broken e => some e
  | .array is => is.mistake?
  | .object ms => ms.mistake?
  | _ => none

def Items.mistake? : Items → Option SyntaxError
  | .close => none
  | .stop e => some e
  | .item v rest => v.mistake?.or rest.mistake?

def Members.mistake? : Members → Option SyntaxError
  | .close => none
  | .stop e => some e
  | .oddKey _ => some .keyNotString
  | .bareKey _ e => some e
  | .member _ v rest => v.mistake?.or rest.mistake?

end

end LogScript.Json
