import LogScript.Value

namespace LogScript

structure Attribute where
  name : String
  kind : Kind
  value : Value
  deriving DecidableEq, Repr

/-- Names with the literals under them. -/
structure Options where
  entries : List (String × String)
  deriving DecidableEq, Repr

namespace Options

def empty : Options := ⟨[]⟩

def push (o : Options) (name literal : String) : Options := ⟨o.entries ++ [(name, literal)]⟩

def pushBool (o : Options) (name : String) (b : Bool) : Options := o.push name (Literal.ofBool b)

/-- Adds the literal of a value, unless the value is left out. -/
def pushValue (cv : Converter) (o : Options) (name : String) (k : Kind) (v : Value) :
    Except CompileError Options :=
  match v.literal? cv k with
  | .ok (some l) => .ok (o.push name l)
  | .ok none => .ok o
  | .error e => .error (.invalidField name e)

/-- Adds attributes until one fails. The options that were added before it stay. -/
def pushAttributes (cv : Converter) (o : Options) : List Attribute → Options × Option CompileError
  | [] => (o, none)
  | a :: as =>
    match o.pushValue cv a.name a.kind a.value with
    | .ok o' => pushAttributes cv o' as
    | .error e => (o, some e)

def ofAttributes (cv : Converter) (as : List Attribute) : Except CompileError Options :=
  match empty.pushAttributes cv as with
  | (o, none) => .ok o
  | (_, some e) => .error e

/-- One option as it is written. -/
def entry (e : String × String) : String := "\"" ++ e.1 ++ "\": " ++ e.2

/-- The object literal of options, one option to a line. -/
def object (o : Options) : String := "\x7b" ++ ",\n".intercalate (o.entries.map entry) ++ "\x7d"

/-- The statement that gives the options to their owner. -/
def statement (o : Options) (owner : String) : String :=
  owner ++ ".setOptions(" ++ o.object ++ ");"

end Options

end LogScript
