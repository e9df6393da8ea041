import LogScript.Json.Draft
import LogScript.Text.Quoted

namespace LogScript.Config

open Json (SyntaxError Number Draft)

/-- What stands in place of a value of another type. -/
inductive Found where
  | null
  | bool (b : Bool)
  | number (n : Number)
  | string (s : String)
  | sequence
  | map
  deriving DecidableEq, Repr

def Found.message : Found → String
  | null => "null"
  | bool b => "boolean `" ++ (if b then "true" else "false") ++ "`"
  | number (.integer n) => "integer `" ++ n.repr ++ "`"
  | number (.double d) => "floating point `" ++ d.text ++ "`"
  | string s => "string " ++ Text.quoted s
  | sequence => "sequence"
  | map => "map"

inductive ReadError where
  /-- The text is no JSON. -/
  | malformed (e : SyntaxError)
  | wrongType (found : Found) (expected : String)
  /-- An appender is given as an array with too few elements. -/
  | tooShort (length : Nat)
  | unknownField (name : String) (known : List String)
  | repeatedField (name : String)
  | missingField (name : String)
  | unknownKind (name : String)
  /-- A value fits none of the forms that a type may have. -/
  | noForm (type : String)
  /-- An appender that writes to the console has an address. -/
  | unneededUrl (appender : String)
  deriving DecidableEq, Repr

/-- What sort of mistake a text contains. -/
inductive Category where
  /-- The text goes on as JSON cannot. -/
  | grammar
  /-- The text ends too early. -/
  | ending
  /-- The text is JSON up to a value that is out of place. -/
  | data
  deriving DecidableEq, Repr

namespace ReadError

def category : ReadError → Category
  | malformed e => if e.isEnd then .ending else .grammar
  | _ => .data

def message : ReadError → String
  | malformed e => e.message
  | wrongType found expected => "invalid type: " ++ found.message ++ ", expected " ++ expected
  | tooShort n =>
    "invalid length " ++ n.repr ++ ", expected struct RawAppender with 11 elements"
  | unknownField name known =>
    "unknown field `" ++ name ++ "`, expected one of " ++
      ", ".intercalate (known.map fun k => "`" ++ k ++ "`")
  | repeatedField name => "duplicate field `" ++ name ++ "`"
  | missingField name => "missing field `" ++ name ++ "`"
  | unknownKind name => "unknown variant `" ++ name ++ "`, expected `ajax` or `console`"
  | noForm type => "data did not match any variant of untagged enum " ++ type
  | unneededUrl name => "console appender '" ++ name ++ "' does not take a url"

end ReadError

end LogScript.Config
