import LogScript.Text.Quoted

namespace LogScript

/-- A text that the kind of its value rejects. -/
inductive Rejection where
  | notUnsigned (text : String)
  | malformedUrl (text : String)
  | unknownLevel (text : String)
  | invalidPattern (text reason : String)
  | invalidIdentifier (text : String)
  deriving DecidableEq, Repr

def Rejection.text : Rejection → String
  | notUnsigned s => s
  | malformedUrl s => s
  | unknownLevel s => s
  | invalidPattern s _ => s
  | invalidIdentifier s => s

def Rejection.message : Rejection → String
  | notUnsigned s => Text.quoted s ++ " is not an unsigned integer"
  | malformedUrl s => Text.quoted s ++ " is not a valid url"
  | unknownLevel s => Text.quoted s ++ " is not a level name or integer level"
  | invalidPattern s reason => Text.quoted s ++ " is not a valid regular expression: " ++ reason
  | invalidIdentifier s => Text.quoted s ++ " is not a valid script identifier"

/-- Why no script can be made of a configuration. -/
inductive CompileError where
  | invalidField (field : String) (cause : Rejection)
  | danglingAppender (logger appender : String)
  | invalidLibraryPath (cause : Rejection)
  deriving DecidableEq, Repr

namespace CompileError

def field : CompileError → String
  | invalidField f _ => f
  | danglingAppender _ _ => "appenders"
  | invalidLibraryPath _ => "productionLibraryPath"

def cause? : CompileError → Option Rejection
  | invalidField _ r => some r
  | danglingAppender _ _ => none
  | invalidLibraryPath r => some r

def message : CompileError → String
  | invalidField f r => "invalid value for field " ++ Text.quoted f ++ ": " ++ r.message
  | danglingAppender l a =>
    "logger " ++ Text.quoted l ++ " references unknown appender " ++ Text.quoted a
  | invalidLibraryPath r => "invalid productionLibraryPath: " ++ r.message

end CompileError

end LogScript
