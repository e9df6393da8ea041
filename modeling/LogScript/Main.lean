import LogScript.Command.Program
import LogScript.Pattern.Acceptance

namespace LogScript.Main

open Command

/-- What is said about a command line that asks for nothing. -/
def usage : String :=
  "Usage: jsnlog-config [-v] compile|check --config FILE [--user-ip IP] [--request-id ID] " ++
    "[--no-closure] [--app-root ROOT] [-o FILE]"

def fileError : IO.Error → FileError
  | .noFileOrDirectory _ _ _ => .notFound
  | .inappropriateType _ code _ =>
    if code = 20 ∨ code = -20 then .notDirectory else .isDirectory
  | .permissionDenied _ _ _ => .other "Permission denied (os error 13)"
  | e => .other e.toString

/-- Patterns are left to an engine of our own, and positions are not told. -/
def host : Host := ⟨Pattern.engine, fun _ => none⟩

def perform : Program → IO Ending
  | .done e => return e
  | .read path next => do
    let result ← (IO.FS.readBinFile path).toBaseIO
    match result with
    | .ok content =>
      match String.fromUTF8? content with
      | some s => perform (next (.ok s))
      | none => perform (next (.error .notText))
    | .error e => perform (next (.error (fileError e)))
  | .write path content next => do
    let result ← (IO.FS.writeFile path content).toBaseIO
    match result with
    | .ok _ => perform (next (.ok ()))
    | .error e => perform (next (.error (fileError e)))

end LogScript.Main

def main (words : List String) : IO UInt32 := do
  match LogScript.Command.Arguments.ofWords? words with
  | none =>
    IO.eprintln LogScript.Main.usage
    return 2
  | some a =>
    let program := LogScript.Command.Program.ofArguments LogScript.Main.host a
    let e ← LogScript.Main.perform program
    IO.eprint (e.logText ++ e.report)
    IO.print e.output
    return e.code.toUInt32
