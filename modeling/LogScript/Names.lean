namespace LogScript

inductive ElementKind where
  | appender
  | logger
  deriving DecidableEq, Repr

namespace ElementKind

/-- What the variables of a kind begin with. -/
def stem : ElementKind → String
  | appender => "a"
  | logger => "logger"

/-- The variable of an element, made of its number. -/
def ident (k : ElementKind) (n : Nat) : String := k.stem ++ n.repr

end ElementKind

/-- Names with their variables, the latest first. A logger never hides an appender of its name. -/
structure Names where
  appenders : List (String × String) := []
  loggers : List (String × String) := []
  deriving DecidableEq, Repr

namespace Names

def find? (t : Names) (k : ElementKind) (name : String) : Option String :=
  match k with
  | .appender => t.appenders.lookup name
  | .logger => t.loggers.lookup name

/-- Gives a name to a variable; an earlier variable of the name is no longer found. -/
def register (t : Names) (k : ElementKind) (name ident : String) : Names :=
  match k with
  | .appender => { t with appenders := (name, ident) :: t.appenders }
  | .logger => { t with loggers := (name, ident) :: t.loggers }

@[simp] theorem find?_register_self (t : Names) (k : ElementKind) (name ident : String) :
    (t.register k name ident).find? k name = some ident := by
  cases k <;> simp [register, find?]

theorem find?_register_of_ne {t : Names} {k : ElementKind} {name other ident : String}
    (h : other ≠ name) : (t.register k name ident).find? k other = t.find? k other := by
  have hb : (other == name) = false := by simpa using h
  cases k <;> simp [register, find?, List.lookup_cons, hb]

theorem find?_register_of_kind_ne {t : Names} {k l : ElementKind} {name other ident : String}
    (h : l ≠ k) : (t.register k name ident).find? l other = t.find? l other := by
  cases k <;> cases l <;> simp_all [register, find?]

end Names

end LogScript
