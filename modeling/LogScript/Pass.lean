import LogScript.Config.Basic
import LogScript.Event
import LogScript.Names

namespace LogScript

open Config (Appender Logger)

/-- The object of the script library. -/
def library : String := "JL"

/-- What a pass over the elements of a configuration has come to, appenders before loggers. Each
element takes the next number, whether or not its options are valid, and is known under its name
only if they are. -/
structure Pass where
  names : Names := {}
  /-- The number of the next element. There are fewer than 2 ^ 32 of them, so that the counter never
  starts anew. -/
  next : Nat := 0
  log : List Event := []
  deriving DecidableEq, Repr

namespace Pass

/-- Takes a number that no element gets. -/
def advance (p : Pass) : Pass := { p with next := p.next + 1 }

def declaration (ident value : String) : String := "var " ++ ident ++ "=" ++ value ++ ";"

def appenderLine (a : Appender) (ident : String) : String :=
  declaration ident (library ++ "." ++ a.target.method ++ "(" ++ Literal.quote a.name ++ ")")

def loggerLine (l : Logger) (ident : String) : String :=
  declaration ident (library ++ "(" ++ Literal.quote l.scriptName ++ ")")

/-- The statements of an appender, which is then known under its name. -/
def appender (cv : Converter) (a : Appender) (p : Pass) :
    Except CompileError (List String) × Pass :=
  let ident := ElementKind.appender.ident p.next
  match Options.ofAttributes cv a.attributes with
  | .error e => (.error e, p.advance)
  | .ok o =>
    let warning := match p.names.find? .appender a.name with
      | some previous => [.replaced a.name ident previous]
      | none => []
    (.ok [appenderLine a ident, o.statement ident],
      ⟨p.names.register .appender a.name ident, p.next + 1,
        p.log ++ warning ++ [.appender a.name ident]⟩)

/-- The variables of appenders; the first name without one is an error of the logger. -/
def resolve (t : Names) (logger : String) : List String → Except CompileError (List String)
  | [] => .ok []
  | n :: ns =>
    match t.find? .appender n with
    | none => .error (.danglingAppender logger n)
    | some ident => (resolve t logger ns).map (ident :: ·)

/-- The variables of the appenders of a logger, as a value. -/
def appendersOf (t : Names) (l : Logger) : Except CompileError Value :=
  match l.appenderNames with
  | none => .ok .absent
  | some ns => (resolve t l.scriptName ns).map .list

def loggerOptions (cv : Converter) (t : Names) (l : Logger) : Except CompileError Options :=
  match appendersOf t l with
  | .error e => .error e
  | .ok v => Options.ofAttributes cv (l.attributes v)

/-- The statements of a logger, which is then known under its name. -/
def logger (cv : Converter) (l : Logger) (p : Pass) : Except CompileError (List String) × Pass :=
  let ident := ElementKind.logger.ident p.next
  match loggerOptions cv p.names l with
  | .error e => (.error e, p.advance)
  | .ok o =>
    (.ok [loggerLine l ident, o.statement ident],
      ⟨p.names.register .logger l.scriptName ident, p.next + 1,
        p.log ++ [.logger l.scriptName ident]⟩)

/-- The statements of elements one after the other, up to the first one that fails. -/
def each {α : Type} (emit : α → Pass → Except CompileError (List String) × Pass) :
    List α → Pass → Except CompileError (List String) × Pass
  | [], p => (.ok [], p)
  | x :: xs, p =>
    match emit x p with
    | (.error e, p) => (.error e, p)
    | (.ok lines, p) =>
      match each emit xs p with
      | (.error e, p) => (.error e, p)
      | (.ok more, p) => (.ok (lines ++ more), p)

end Pass

end LogScript
