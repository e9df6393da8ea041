import LogScript.Config.Basic
import LogScript.Proofs.Numbering

namespace LogScript

open Config (Configuration Appender Logger Scalar setting)

def Config.Configuration.appenderNames (c : Configuration) : List String :=
  c.appenders.map (·.name)

inductive Check where
  /-- The path of the script library has to be an address. -/
  | library (path : String)
  /-- A text under a field has to be of a kind. -/
  | field (name : String) (kind : Kind) (text : String)
  /-- A name that a logger refers to has to be that of an appender. -/
  | reference (logger appender : String)
  deriving DecidableEq, Repr

namespace Check

/-- The error of a check that fails, where `names` are those of the appenders. -/
def failure? (g : Engine) (names : List String) : Check → Option CompileError
  | library path => if Url.isUrl path then none else some (.invalidLibraryPath (.malformedUrl path))
  | field name k s => (k.rejection? g s).map (.invalidField name)
  | reference logger appender =>
    if appender ∈ names then none else some (.danglingAppender logger appender)

/-- A setting is checked unless it is absent or empty. -/
def ofSetting (name : String) (k : Kind) : Option Scalar → List Check
  | none => []
  | some v => if v.asText = "" then [] else [field name k v.asText]

/-- The path of the script library is checked unless it is absent or blank. -/
def ofLibrary : Option String → List Check
  | none => []
  | some path => if Text.trim path.toList = [] then [] else [library path]

def ofAppender (a : Appender) : List Check :=
  ofSetting "level" .level a.limits.level ++
  ofSetting "ipRegex" .pattern a.limits.ipRegex ++
  ofSetting "userAgentRegex" .pattern a.limits.userAgentRegex ++
  ofSetting "disallow" .pattern a.limits.disallow ++
  ofSetting "storeInBufferLevel" .level a.limits.storeInBufferLevel ++
  ofSetting "sendWithBufferLevel" .level a.limits.sendWithBufferLevel ++
  ofSetting "bufferSize" .unsigned a.limits.bufferSize ++
  ofSetting "batchSize" .unsigned a.limits.batchSize ++
  match a.target with
  | .ajax url => ofSetting "url" .url url
  | .console => []

/-- The names that a logger refers to come before its settings. -/
def ofLogger (l : Logger) : List Check :=
  (l.appenderNames.getD []).map (reference (l.name.getD "")) ++
  ofSetting "level" .level l.level ++
  ofSetting "ipRegex" .pattern l.ipRegex ++
  ofSetting "userAgentRegex" .pattern l.userAgentRegex ++
  ofSetting "disallow" .pattern l.disallow ++
  (l.onceOnly.getD []).map (field "onceOnly" .pattern)

/-- All checks of a configuration. Elements are not checked if logging is off. -/
def all (c : Configuration) : List Check :=
  ofLibrary c.productionLibraryPath ++
  ofSetting "maxMessages" .unsigned c.maxMessages ++
  ofSetting "defaultAjaxUrl" .url c.defaultAjaxUrl ++
  if c.enabled then c.appenders.flatMap ofAppender ++ c.loggers.flatMap ofLogger else []

def beforeElements (c : Configuration) : List Check :=
  ofLibrary c.productionLibraryPath ++ ofSetting "maxMessages" .unsigned c.maxMessages ++
    ofSetting "defaultAjaxUrl" .url c.defaultAjaxUrl

def ofElements (c : Configuration) : List Check :=
  if c.enabled then c.appenders.flatMap ofAppender ++ c.loggers.flatMap ofLogger else []

def first? (g : Engine) (names : List String) (ks : List Check) : Option CompileError :=
  ks.findSome? (failure? g names)

variable (g : Engine) (names : List String)

@[simp] theorem first?_nil : first? g names [] = none := rfl

theorem first?_cons (k : Check) (ks : List Check) :
    first? g names (k :: ks) = (k.failure? g names).or (first? g names ks) :=
  findSome?_cons_eq_or (failure? g names) k ks

@[simp] theorem first?_append (ks ls : List Check) :
    first? g names (ks ++ ls) = (first? g names ks).or (first? g names ls) :=
  List.findSome?_append

theorem first?_flatMap {α : Type} (f : α → List Check) (xs : List α) :
    first? g names (xs.flatMap f) = xs.findSome? fun x => first? g names (f x) := by
  induction xs with
  | nil => rfl
  | cons x xs ih => rw [List.flatMap_cons, first?_append, ih, findSome?_cons_eq_or]

theorem first?_all (c : Configuration) :
    first? g names (all c) =
      (first? g names (beforeElements c)).or (first? g names (ofElements c)) :=
  first?_append g names (beforeElements c) (ofElements c)

theorem first?_ofElements {c : Configuration} (h : c.enabled = true) :
    first? g names (ofElements c) =
      (c.appenders.findSome? fun a => first? g names (ofAppender a)).or
        (c.loggers.findSome? fun l => first? g names (ofLogger l)) := by
  rw [ofElements, if_pos h, first?_append, first?_flatMap, first?_flatMap]

theorem first?_field (name : String) (k : Kind) (ss : List String) :
    first? g names (ss.map (field name k)) =
      (ss.findSome? (k.rejection? g)).map (.invalidField name) := by
  induction ss with
  | nil => rfl
  | cons s ss ih =>
    rw [List.map_cons, first?_cons, ih, findSome?_cons_eq_or, failure?]
    cases k.rejection? g s <;> rfl

theorem first?_ofSetting (name : String) (k : Kind) (v : Option Scalar) :
    first? g names (ofSetting name k v) = (setting name k v).failure? g := by
  have htexts : ofSetting name k v = (setting name k v).value.texts.map (field name k) := by
    cases v with
    | none => rfl
    | some v =>
      by_cases hv : v.asText = "" <;> simp [ofSetting, setting, Value.ofText?, Value.texts, hv]
  rw [htexts, first?_field]
  rfl

theorem first?_ofAppender (a : Appender) :
    first? g names (ofAppender a) = a.attributes.findSome? (Attribute.failure? g) := by
  obtain ⟨name, target, limits⟩ := a
  cases target <;>
    simp [ofAppender, Config.Appender.attributes, first?_ofSetting, findSome?_cons_eq_or]

theorem first?_ofLogger (l : Logger) {v : Value}
    (hv : v.texts.findSome? (Kind.identifier.rejection? g) = none) :
    first? g names (ofLogger l) =
      (first? g names ((l.appenderNames.getD []).map (reference l.scriptName))).or
        ((l.attributes v).findSome? (Attribute.failure? g)) := by
  have hids : (⟨"appenders", .identifier, v⟩ : Attribute).failure? g = none := by
    rw [Attribute.failure?, hv, Option.map_none]
  have honce : first? g names ((l.onceOnly.getD []).map (field "onceOnly" .pattern)) =
      (⟨"onceOnly", .pattern, .ofList? l.onceOnly⟩ : Attribute).failure? g := by
    rw [first?_field]
    cases l.onceOnly <;> rfl
  simp [ofLogger, Config.Logger.attributes, Config.Logger.scriptName, first?_ofSetting,
    findSome?_cons_eq_or, hids, honce]

end Check

end LogScript
