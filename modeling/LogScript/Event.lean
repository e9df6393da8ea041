import LogScript.Literal
import LogScript.Text.Quoted

namespace LogScript

inductive Severity where
  | debug
  | info
  | warn
  deriving DecidableEq, Repr

def Severity.name : Severity → String
  | debug => "DEBUG"
  | info => "INFO"
  | warn => "WARN"

/-- Whether events are told that only matter when something has to be found out. -/
def Severity.isTold (verbose : Bool) : Severity → Bool
  | debug => verbose
  | _ => true

inductive Event where
  /-- An appender has the name of an earlier one, which loggers no longer reach. -/
  | replaced (name ident previous : String)
  | appender (name ident : String)
  | logger (name ident : String)
  /-- The elements are left out because logging is off. -/
  | disabled (appenders loggers : Nat)
  | compiled (elements : Nat) (closure library : Bool)
  | wrote (path : String)
  deriving DecidableEq, Repr

namespace Event

def severity : Event → Severity
  | replaced _ _ _ => .warn
  | appender _ _ => .debug
  | logger _ _ => .debug
  | disabled _ _ => .debug
  | compiled _ _ _ => .info
  | wrote _ => .info

/-- The part of the program that tells of an event. -/
def target : Event → String
  | replaced _ _ _ => "jsnlog_config::element"
  | appender _ _ => "jsnlog_config::element"
  | logger _ _ => "jsnlog_config::element"
  | disabled _ _ => "jsnlog_config::render::script"
  | compiled _ _ _ => "jsnlog_config::render::script"
  | wrote _ => "jsnlog_config"

def message : Event → String
  | replaced name ident previous =>
    "appender name '" ++ name ++ "' used more than once; '" ++ ident ++ "' replaces '" ++
      previous ++ "' for later loggers"
  | appender _ _ => "emitted appender"
  | logger _ _ => "emitted logger"
  | disabled _ _ => "logging disabled, no elements emitted"
  | compiled _ _ _ => "compiled logging configuration"
  | wrote path => "Wrote " ++ path

def fields : Event → List (String × String)
  | replaced _ _ _ => []
  | appender name ident => [("appender", name), ("ident", ident)]
  | logger name ident => [("logger", name), ("ident", ident)]
  | disabled appenders loggers => [("appenders", appenders.repr), ("loggers", loggers.repr)]
  | compiled elements closure library =>
    [("elements", elements.repr), ("closure", Literal.ofBool closure),
      ("library", Literal.ofBool library)]
  | wrote _ => []

/-- One character of a message in the log. What a terminal could take for a command is written by
its code. -/
def inert (c : Char) : List Char :=
  if c = '\x07' then "\\x07".toList
  else if c = '\x08' then "\\x08".toList
  else if c = '\x0c' then "\\x0c".toList
  else if c = '\x1b' then "\\x1b".toList
  else if c = '\x7f' then "\\x7f".toList
  else if 0x80 ≤ c.toNat ∧ c.toNat ≤ 0x9f then Text.codeInBraces c
  else [c]

def line (e : Event) : String :=
  e.severity.name ++ " " ++ e.target ++ ": " ++
    String.ofList (e.message.toList.flatMap inert) ++
    String.join (e.fields.map fun f => " " ++ f.1 ++ "=" ++ f.2)

end Event

end LogScript
