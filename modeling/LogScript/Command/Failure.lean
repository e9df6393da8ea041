import LogScript.Config.ReadError
import LogScript.Rejection

namespace LogScript.Command

inductive FileError where
  | notFound
  | notDirectory
  | isDirectory
  | notText
  | other (text : String)
  deriving DecidableEq, Repr

def FileError.message : FileError → String
  | notFound => "No such file or directory (os error 2)"
  | notDirectory => "Not a directory (os error 20)"
  | isDirectory => "Is a directory (os error 21)"
  | notText => "stream did not contain valid UTF-8"
  | other s => s

/-- Where a reader gives a text up. -/
structure Position where
  line : Nat
  column : Nat
  deriving DecidableEq, Repr

def Position.message (p : Position) : String :=
  " at line " ++ p.line.repr ++ " column " ++ p.column.repr

inductive Failure where
  | unreadable (path : String) (e : FileError)
  | misread (path : String) (e : Config.ReadError) (place : Option Position)
  | uncompiled (path : String) (e : CompileError)
  | unwritable (path : String) (e : FileError)
  deriving DecidableEq, Repr

namespace Failure

def summary : Failure → String
  | unreadable path _ => "read config file " ++ path
  | misread path _ _ => "in config file " ++ path
  | uncompiled path _ => "compile " ++ path
  | unwritable path _ => "write " ++ path

/-- Why it failed, from the outermost reason to the innermost. The message of an error with a
rejection behind it already ends with that of the rejection, which is given once more. -/
def causes : Failure → List String
  | unreadable _ e => [e.message]
  | misread _ e place =>
    ["parse jsnlog configuration", e.message ++ (place.map Position.message).getD ""]
  | uncompiled _ e => e.message :: (e.cause?.map Rejection.message).toList
  | unwritable _ e => [e.message]

/-- A text with so many blanks at the beginning of all lines but the first. -/
def indent (count : Nat) (s : String) : String :=
  String.ofList (s.toList.flatMap fun c =>
    if c = '\n' then '\n' :: List.replicate count ' ' else [c])

/-- Reasons, counted from a number on. -/
def counted : Nat → List String → String
  | _, [] => ""
  | n, s :: ss => "\n    " ++ n.repr ++ ": " ++ indent 7 s ++ counted (n + 1) ss

def report (f : Failure) : String :=
  let reasons :=
    if 1 < f.causes.length then counted 0 f.causes
    else String.join (f.causes.map fun s => "\n    " ++ indent 4 s)
  "Error: " ++ f.summary ++ "\n\nCaused by:" ++ reasons ++ "\n"

end Failure

end LogScript.Command
