import LogScript.Command.Arguments
import LogScript.Command.Failure
import LogScript.Config.Decode
import LogScript.Script

namespace LogScript.Command

open Config (Configuration)

structure Ending where
  output : String := ""
  log : List Event := []
  verbose : Bool := false
  failure : Option Failure := none
  deriving DecidableEq, Repr

namespace Ending

/-- The number that the system is told. -/
def code (e : Ending) : Nat := if e.failure.isSome then 1 else 0

def logText (e : Ending) : String :=
  String.join ((e.log.filter fun v => v.severity.isTold e.verbose).map fun v => v.line ++ "\n")

def report (e : Ending) : String := (e.failure.map Failure.report).getD ""

end Ending

/-- What a command is built on: the engine that patterns are meant for, and how far the reader of
JSON comes in a text that it refuses, if that is known. -/
structure Host where
  engine : Engine
  position : String → Option Position

/-- A command, with its steps on files told apart from what it works out. -/
inductive Program where
  | read (path : String) (next : Except FileError String → Program)
  | write (path content : String) (next : Except FileError Unit → Program)
  | done (e : Ending)

namespace Program

/-- What a script is made of besides the configuration. -/
def request (a : Arguments) : Request := ⟨a.userIp, a.requestId, a.closure⟩

def finish (a : Arguments) (script : String) (log : List Event) : Program :=
  match a.action with
  | .check => done { output := a.config ++ ": ok\n", log := log, verbose := a.verbose }
  | .compile none => done { output := script, log := log, verbose := a.verbose }
  | .compile (some path) =>
    write path script fun
      | .ok () => done { log := log ++ [.wrote path], verbose := a.verbose }
      | .error e => done { log := log, verbose := a.verbose, failure := some (.unwritable path e) }

/-- What the texts of a configuration are converted with. -/
def converter (host : Host) (a : Arguments) : Converter :=
  ⟨Resolver.underRoot a.appRoot, host.engine⟩

/-- Makes the script of a configuration that has been read. -/
def compile (host : Host) (a : Arguments) (text : String) : Program :=
  match Configuration.ofJson text with
  | .error e =>
    done { verbose := a.verbose, failure := some (.misread a.config e (host.position text)) }
  | .ok c =>
    match Script.compileTold (converter host a) c (request a) with
    | (.ok script, log) => finish a script log
    | (.error e, log) =>
      done { log := log, verbose := a.verbose, failure := some (.uncompiled a.config e) }

/-- The command that is asked for. -/
def ofArguments (host : Host) (a : Arguments) : Program :=
  read a.config fun
    | .ok text => compile host a text
    | .error e => done { verbose := a.verbose, failure := some (.unreadable a.config e) }

end Program

end LogScript.Command
