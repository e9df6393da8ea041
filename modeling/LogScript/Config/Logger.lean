import LogScript.Config.Appender
import LogScript.Text.Blank
import LogScript.Text.Segments

namespace LogScript.Config

/-- Names of appenders: a list, or a text with semicolons between the names. -/
inductive NameList where
  | list (names : List String)
  | joined (text : String)
  deriving DecidableEq, Repr

namespace NameList

/-- The names that are meant. In a text, white space around them and empty ones do not count. -/
def names : NameList → List String
  | list ns => ns
  | joined s =>
    (((Text.segments ';' s.toList).map Text.trim).filter (· ≠ [])).map String.ofList

/-- Reads names. Whatever stands in their place is read to its end first. -/
def read : Reader NameList := fun d =>
  match d.mistake? with
  | some e => .error (.malformed e)
  | none =>
    match d with
    | .string s => .ok (joined s)
    | d =>
      match readList readString d with
      | .ok ns => .ok (list ns)
      | .error _ => .error (.noForm "NameList")

end NameList

/-- A logger without a name is the root of all loggers. If it has no names of appenders, it keeps
the appenders it has; with an empty list it has none. -/
structure Logger where
  name : Option String := none
  appenders : Option NameList := none
  level : Option Scalar := none
  ipRegex : Option Scalar := none
  userAgentRegex : Option Scalar := none
  disallow : Option Scalar := none
  onceOnly : Option (List String) := none
  deriving DecidableEq, Repr

namespace Logger

/-- The name under which the script creates a logger. -/
def scriptName (l : Logger) : String := l.name.getD ""

def appenderNames (l : Logger) : Option (List String) := l.appenders.map NameList.names

/-- The options of a logger, in the order in which they are written, with the script variables of
its appenders. -/
def attributes (l : Logger) (appenders : Value) : List Attribute :=
  [⟨"appenders", .identifier, appenders⟩,
   setting "level" .level l.level,
   setting "ipRegex" .pattern l.ipRegex,
   setting "userAgentRegex" .pattern l.userAgentRegex,
   setting "disallow" .pattern l.disallow,
   ⟨"onceOnly", .pattern, .ofList? l.onceOnly⟩]

end Logger

end LogScript.Config
