import LogScript.Config.Basic

namespace LogScript.Config

open Json (Draft Members)

namespace Target

/-- The form of an appender, before it is known whether it has an address. -/
inductive Form where
  | ajax
  | console
  deriving DecidableEq, Repr

namespace Form

def ofName? (name : String) : Except ReadError Form :=
  if name = "ajax" then .ok ajax
  else if name = "console" then .ok console
  else .error (.unknownKind name)

/-- The end of an object with one member. -/
def endOfMembers (k : Form) : Members → Except ReadError Form
  | .close => .ok k
  | .stop .endInObject => .error (.malformed .endInObject)
  | _ => .error (.malformed .expectedValue)

/-- Reads the name of a form, or an object that has null under the name. -/
def read : Reader Form
  | .string s => ofName? s
  | .object .close => .error (.malformed .expectedValue)
  | .object (.stop e) => .error (.malformed e)
  | .object (.oddKey _) => .error (.malformed .keyNotString)
  | .object (.bareKey key e) =>
    match ofName? key with
    | .error e' => .error e'
    | .ok _ => .error (.malformed e)
  | .object (.member key d rest) =>
    match ofName? key with
    | .error e => .error e
    | .ok k =>
      match d with
      | .null => k.endOfMembers rest
      | d => .error (mismatch "unit" d)
  | .missing => .error (.malformed .endInValue)
  | .brokenString e => .error (.malformed e)
  | _ => .error (.malformed .expectedValue)

end Form

end Target

namespace Appender

inductive Field where
  | kind
  | name
  | url
  | level
  | ipRegex
  | userAgentRegex
  | disallow
  | storeInBufferLevel
  | sendWithBufferLevel
  | bufferSize
  | batchSize
  deriving DecidableEq, Repr

/-- An appender as far as its fields have been read. -/
structure Partial where
  kind : Option Target.Form := none
  name : Option String := none
  url : Option Scalar := none
  limits : Limits := {}
  deriving DecidableEq, Repr

namespace Field

def all : List Field :=
  [kind, name, url, level, ipRegex, userAgentRegex, disallow, storeInBufferLevel,
   sendWithBufferLevel, bufferSize, batchSize]

def key : Field → String
  | kind => "kind"
  | name => "name"
  | url => "url"
  | level => "level"
  | ipRegex => "ipRegex"
  | userAgentRegex => "userAgentRegex"
  | disallow => "disallow"
  | storeInBufferLevel => "storeInBufferLevel"
  | sendWithBufferLevel => "sendWithBufferLevel"
  | bufferSize => "bufferSize"
  | batchSize => "batchSize"

/-- Puts an optional value into a field that takes one. -/
def put (f : Field) (v : Option Scalar) (p : Partial) : Partial :=
  match f with
  | kind => p
  | name => p
  | url => { p with url := v }
  | level => { p with limits.level := v }
  | ipRegex => { p with limits.ipRegex := v }
  | userAgentRegex => { p with limits.userAgentRegex := v }
  | disallow => { p with limits.disallow := v }
  | storeInBufferLevel => { p with limits.storeInBufferLevel := v }
  | sendWithBufferLevel => { p with limits.sendWithBufferLevel := v }
  | bufferSize => { p with limits.bufferSize := v }
  | batchSize => { p with limits.batchSize := v }

def read (f : Field) (d : Draft) (p : Partial) : Except ReadError Partial :=
  match f with
  | kind => (Target.Form.read d).map fun k => { p with kind := some k }
  | name => (readString d).map fun s => { p with name := some s }
  | f => (readOptional Scalar.read d).map fun v => f.put v p

end Field

def shape : Shape Field Partial := ⟨"struct RawAppender", Field.all, Field.key, Field.read⟩

/-- The appender that has been read, of which only one with an address may have one. -/
def Partial.finish (p : Partial) (kind : Target.Form) (name : String) :
    Except ReadError Appender :=
  match kind, p.url with
  | .ajax, url => .ok ⟨name, .ajax url, p.limits⟩
  | .console, none => .ok ⟨name, .console, p.limits⟩
  | .console, some _ => .error (.unneededUrl name)

/-- What is wrong with an appender without a kind or a name. -/
def lacking (d : Draft) (f : Field) (position : Nat) : ReadError :=
  match d with
  | .array _ => .tooShort position
  | _ => .missingField f.key

def read : Reader Appender := fun d =>
  match shape.readInto {} d with
  | .error e => .error e
  | .ok p =>
    match p.kind, p.name with
    | none, _ => .error (lacking d .kind 0)
    | some _, none => .error (lacking d .name 1)
    | some kind, some name => p.finish kind name

def ofJson (s : String) : Except ReadError Appender := readText read s

end Appender

namespace Logger

inductive Field where
  | name
  | appenders
  | level
  | ipRegex
  | userAgentRegex
  | disallow
  | onceOnly
  deriving DecidableEq, Repr

namespace Field

def all : List Field := [name, appenders, level, ipRegex, userAgentRegex, disallow, onceOnly]

def key : Field → String
  | name => "name"
  | appenders => "appenders"
  | level => "level"
  | ipRegex => "ipRegex"
  | userAgentRegex => "userAgentRegex"
  | disallow => "disallow"
  | onceOnly => "onceOnly"

def read (f : Field) (d : Draft) (l : Logger) : Except ReadError Logger :=
  match f with
  | name => (readOptional readString d).map fun v => { l with name := v }
  | appenders => (readOptional NameList.read d).map fun v => { l with appenders := v }
  | level => (readOptional Scalar.read d).map fun v => { l with level := v }
  | ipRegex => (readOptional Scalar.read d).map fun v => { l with ipRegex := v }
  | userAgentRegex => (readOptional Scalar.read d).map fun v => { l with userAgentRegex := v }
  | disallow => (readOptional Scalar.read d).map fun v => { l with disallow := v }
  | onceOnly => (readOptional (readList readString) d).map fun v => { l with onceOnly := v }

end Field

def shape : Shape Field Logger := ⟨"struct LoggerConfig", Field.all, Field.key, Field.read⟩

def read : Reader Logger := shape.readInto {}

def ofJson (s : String) : Except ReadError Logger := readText read s

end Logger

namespace Configuration

inductive Field where
  | enabled
  | maxMessages
  | defaultAjaxUrl
  | productionLibraryPath
  | appenders
  | loggers
  deriving DecidableEq, Repr

namespace Field

def all : List Field :=
  [enabled, maxMessages, defaultAjaxUrl, productionLibraryPath, appenders, loggers]

def key : Field → String
  | enabled => "enabled"
  | maxMessages => "maxMessages"
  | defaultAjaxUrl => "defaultAjaxUrl"
  | productionLibraryPath => "productionLibraryPath"
  | appenders => "appenders"
  | loggers => "loggers"

def read (f : Field) (d : Draft) (c : Configuration) : Except ReadError Configuration :=
  match f with
  | enabled => (readBool d).map fun v => { c with enabled := v }
  | maxMessages => (readOptional Scalar.read d).map fun v => { c with maxMessages := v }
  | defaultAjaxUrl => (readOptional Scalar.read d).map fun v => { c with defaultAjaxUrl := v }
  | productionLibraryPath =>
    (readOptional readString d).map fun v => { c with productionLibraryPath := v }
  | appenders => (readList Appender.read d).map fun v => { c with appenders := v }
  | loggers => (readList Logger.read d).map fun v => { c with loggers := v }

end Field

def shape : Shape Field Configuration :=
  ⟨"struct Configuration", Field.all, Field.key, Field.read⟩

def read : Reader Configuration := shape.readInto {}

def ofJson (s : String) : Except ReadError Configuration := readText read s

end Configuration

end LogScript.Config
