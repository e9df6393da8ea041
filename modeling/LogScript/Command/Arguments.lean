namespace LogScript.Command

/-- What to do with a configuration. -/
inductive Action where
  /-- Write its script to a file, or show it. -/
  | compile (out : Option String)
  /-- Only tell whether a script can be made. -/
  | check
  deriving DecidableEq, Repr

structure Arguments where
  action : Action
  config : String
  userIp : String
  requestId : String
  closure : Bool
  appRoot : String
  verbose : Bool
  deriving DecidableEq, Repr

/-- Options that take a value. -/
inductive Setting where
  | config
  | userIp
  | requestId
  | appRoot
  | out
  deriving DecidableEq, Repr

/-- Options that take none. -/
inductive Switch where
  | noClosure
  | verbose
  deriving DecidableEq, Repr

structure Given where
  settings : List (Setting × String) := []
  switches : List Switch := []
  deriving DecidableEq, Repr

/-- One word, as far as its form tells what it is. -/
inductive Word where
  | long (name : String) (value : Option String)
  | short (letters : List Char)
  /-- The end of the options. -/
  | stop
  | plain
  deriving DecidableEq, Repr

/-- A single hyphen is a word like any other. -/
def Word.ofText (s : String) : Word :=
  match s.toList with
  | ['-', '-'] => stop
  | '-' :: '-' :: cs =>
    let name := cs.takeWhile (· ≠ '=')
    match cs.drop name.length with
    | [] => long (String.ofList name) none
    | _ :: v => long (String.ofList name) (some (String.ofList v))
  | '-' :: c :: cs => short (c :: cs)
  | _ => plain

/-- The option with a value that has a name. Only a script that is made has a place to go. -/
def Setting.ofName? (action : Action) (name : String) : Option Setting :=
  match name with
  | "config" => some config
  | "user-ip" => some userIp
  | "request-id" => some requestId
  | "app-root" => some appRoot
  | "out" => if action = .check then none else some out
  | _ => none

def Switch.ofName? (name : String) : Option Switch :=
  match name with
  | "no-closure" => some noClosure
  | "verbose" => some verbose
  | _ => none

namespace Given

def value? (g : Given) (s : Setting) : Option String := g.settings.lookup s

/-- Gives an option its value, which it may have only once. -/
def set? (g : Given) (s : Setting) (v : String) : Option Given :=
  if (g.value? s).isSome then none else some { g with settings := (s, v) :: g.settings }

/-- Turns on an option, which is possible only once. -/
def turnOn? (g : Given) (s : Switch) : Option Given :=
  if g.switches.contains s then none else some { g with switches := s :: g.switches }

/-- Reads a row of short options. The last one may take the rest of the row as its value, or the
next word, which is then told. -/
def readLetters? (action : Action) (g : Given) : List Char → Option (Given × Option Setting)
  | [] => some (g, none)
  | 'v' :: cs =>
    match g.turnOn? .verbose with
    | some g => readLetters? action g cs
    | none => none
  | 'o' :: cs =>
    if action = .check then none
    else match cs with
      | [] => some (g, some .out)
      | '=' :: v => (g.set? .out (String.ofList v)).map (·, none)
      | v => (g.set? .out (String.ofList v)).map (·, none)
  | _ => none

/-- Reads one word of options, and tells which of them takes the next word as its value. -/
def readWord? (action : Action) (g : Given) : Word → Option (Given × Option Setting)
  | .long name none =>
    match Setting.ofName? action name, Switch.ofName? name with
    | some s, _ => some (g, some s)
    | none, some s => (g.turnOn? s).map (·, none)
    | none, none => none
  | .long name (some v) =>
    match Setting.ofName? action name with
    | some s => (g.set? s v).map (·, none)
    | none => none
  | .short letters => g.readLetters? action letters
  | _ => none

def read? (action : Action) (g : Given) : List String → Option Given
  | [] => some g
  | w :: ws =>
    if Word.ofText w = .stop then if ws.isEmpty then some g else none
    else
      match g.readWord? action (Word.ofText w) with
      | none => none
      | some (g, none) => read? action g ws
      | some (g, some s) =>
        match ws with
        | [] => none
        | v :: ws =>
          if Word.ofText v = .plain then
            match g.set? s v with
            | some g => read? action g ws
            | none => none
          else none

end Given

namespace Arguments

/-- The arguments of an action with given options. Only the configuration has to be named. -/
def ofGiven? (action : Action) (verbose : Bool) (g : Given) : Option Arguments :=
  (g.value? .config).map fun config =>
    { action := match action with
        | .compile _ => .compile (g.value? .out)
        | .check => .check
      config := config
      userIp := (g.value? .userIp).getD ""
      requestId := (g.value? .requestId).getD ""
      closure := !g.switches.contains .noClosure
      appRoot := (g.value? .appRoot).getD "/"
      verbose := verbose || g.switches.contains .verbose }

def action? (name : String) : Option Action :=
  match name with
  | "compile" => some (.compile none)
  | "check" => some .check
  | _ => none

/-- Whether a word asks for a longer log. -/
def isVerbose (w : String) : Bool :=
  Word.ofText w == .long "verbose" none || Word.ofText w == .short ['v']

/-- The arguments behind the name of an action. -/
def ofAction? (verbose : Bool) : List String → Option Arguments
  | [] => none
  | w :: ws =>
    match action? w with
    | none => none
    | some action =>
      match Given.read? action {} ws with
      | some g => ofGiven? action verbose g
      | none => none

/-- The arguments that words give. The name of the action comes first; only the wish for a longer
log may stand before it, once. -/
def ofWords? : List String → Option Arguments
  | [] => none
  | w :: ws => if isVerbose w then ofAction? true ws else ofAction? false (w :: ws)

end Arguments

end LogScript.Command
