import LogScript.Proofs.Compilation
import LogScript.Proofs.Runs
import Mathlib.Data.List.TakeWhile

namespace LogScript

open Config (Configuration Appender Logger)

namespace Chronicle

/-- The events of the appender with index `i`. It replaces the last one of its name before it. -/
def appender (names : List String) (a : Appender) (i : Nat) : List Event :=
  ((lastIndex? (names.take i) a.name).map fun k =>
    Event.replaced a.name ("a" ++ i.repr) ("a" ++ k.repr)).toList ++
  [.appender a.name ("a" ++ i.repr)]

/-- The event of the logger with number `k`. -/
def logger (l : Logger) (k : Nat) : Event := .logger (l.name.getD "") ("logger" ++ k.repr)

/-- The events of the first appenders and loggers of a configuration. -/
def elements (c : Configuration) (as : List Appender) (ls : List Logger) : List Event :=
  (as.zipIdx.flatMap fun x => appender c.appenderNames x.1 x.2) ++
    (ls.zipIdx c.appenders.length).map fun x => logger x.1 x.2

end Chronicle

namespace Pass

namespace Tells

variable {α : Type} {emit : α → Pass → Except CompileError (List String) × Pass}
  {failure : α → Option CompileError} {block : α → Nat → List String}
  {events : α → Nat → List Event}
  {inv : List α → Pass → Prop} {all : List α}

end Tells

end Pass

namespace Script

variable {cv : Converter} {c : Configuration}

example : (compileTold .sample
    { appenders := [⟨"x", .console, {}⟩, ⟨"x", .console, {}⟩, ⟨"x", .console, {}⟩],
      loggers := [{}, { level := some (.text "LOUD") }] } {}).2 =
    [.appender "x" "a0", .replaced "x" "a1" "a0", .appender "x" "a1", .replaced "x" "a2" "a1",
      .appender "x" "a2", .logger "" "logger3"] := by
  decide +kernel

end Script

end LogScript
