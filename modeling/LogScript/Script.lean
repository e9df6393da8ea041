import LogScript.Markup
import LogScript.Pass

namespace LogScript

open Config (Configuration)

/-- What differs from one request of the page to the next. Empty texts are left out. -/
structure Request where
  userIp : String := ""
  requestId : String := ""
  /-- Whether the statements stand in a function of their own, errors of which are ignored: then
  the script does nothing if the library has not been loaded. -/
  closure : Bool := true
  deriving DecidableEq, Repr

namespace Script

/-- The function that the statements stand in. -/
def wrapper : String := "__jsnlog_configure"

/-- The line that begins the function. -/
def opening (q : Request) : List String :=
  if q.closure then ["var " ++ wrapper ++ " = function (" ++ library ++ ") \x7b"] else []

/-- The line that ends the function and calls it. -/
def closing (q : Request) : List String :=
  if q.closure then
    ["\x7d; try \x7b " ++ wrapper ++ "(" ++ library ++ "); \x7d catch(e) \x7b\x7d;"]
  else []

/-- The address of the script library; nothing if none is configured. -/
def libraryUrl? (r : Resolver) (c : Configuration) : Except CompileError (Option String) :=
  match c.productionLibraryPath with
  | none => .ok none
  | some path =>
    if Text.trim path.toList = [] then .ok none
    else
      match Url.absolute? r path with
      | some url => .ok (some url)
      | none => .error (.invalidLibraryPath (.malformedUrl path))

def globalOptions (cv : Converter) (c : Configuration) (q : Request) :
    Except CompileError Options :=
  match Options.ofAttributes cv
    [⟨"clientIp", .text, .scalar q.userIp⟩, ⟨"requestId", .text, .scalar q.requestId⟩] with
  | .error e => .error e
  | .ok o =>
    match (o.pushBool "enabled" c.enabled).pushAttributes cv c.attributes with
    | (_, some e) => .error e
    | (o, none) => .ok o

/-- The statements of all elements; none if logging is off. -/
def elements (cv : Converter) (c : Configuration) : Except CompileError (List String) × Pass :=
  if c.enabled then
    match Pass.each (Pass.appender cv) c.appenders {} with
    | (.error e, p) => (.error e, p)
    | (.ok lines, p) =>
      match Pass.each (Pass.logger cv) c.loggers p with
      | (.error e, p) => (.error e, p)
      | (.ok more, p) => (.ok (lines ++ more), p)
  else (.ok [], { log := [.disabled c.appenders.length c.loggers.length] })

/-- The lines of the script around its statements. -/
def lines (q : Request) (global : Options) (statements : List String) (url : Option String) :
    List String :=
  Markup.opening ++ opening q ++ [global.statement library] ++ statements ++ closing q ++
    Markup.closing ++ (url.map Markup.reference).toList

/-- The script of a configuration, and what happened while it was made. The first invalid value
ends the work. -/
def compileTold (cv : Converter) (c : Configuration) (q : Request) :
    Except CompileError String × List Event :=
  match libraryUrl? cv.resolver c with
  | .error e => (.error e, [])
  | .ok url =>
    match globalOptions cv c q with
    | .error e => (.error e, [])
    | .ok global =>
      match elements cv c with
      | (.error e, p) => (.error e, p.log)
      | (.ok statements, p) =>
        (.ok (Markup.ofLines (lines q global statements url)),
          p.log ++ [.compiled p.next q.closure url.isSome])

def compile (cv : Converter) (c : Configuration) (q : Request) : Except CompileError String :=
  (compileTold cv c q).1

end Script

end LogScript
