import LogScript.Config.Decode
import LogScript.Proofs.Records

namespace LogScript.Config

open Json (Draft)
open Json.Value (IsRecord Given GivenOr IsNullOr IsArrayOf IsBool IsString)

namespace Scalar

/-- How a scalar stands in JSON. -/
def value : Scalar → Json.Value
  | text s => .string s
  | number n => .number n
  | bool b => .bool b

def IsScalar (v : Json.Value) (x : Scalar) : Prop := v = x.value

theorem takes_read (n : Nat) : Takes n read IsScalar where
  sound := by
    intro d x h
    unfold read at h
    split at h
    next => cases h
    next =>
      split at h
      next =>
        cases h
        exact ⟨.string _, rfl, rfl⟩
      next =>
        cases h
        exact ⟨.number _, rfl, rfl⟩
      next =>
        cases h
        exact ⟨.bool _, rfl, rfl⟩
      next => cases h
  complete := by
    rintro v x rfl
    cases x <;> rfl
  within := by
    rintro v x rfl
    cases x <;> simp [value, Json.Value.Within]

end Scalar

namespace NameList

/-- How names stand in JSON. -/
def value : NameList → Json.Value
  | list ns => .array (ns.map .string)
  | joined s => .string s

def IsNames (v : Json.Value) (x : NameList) : Prop := v = x.value

theorem isArrayOf_isString_iff {v : Json.Value} {ns : List String} :
    IsArrayOf IsString v ns ↔ v = .array (ns.map .string) := by
  have hall {vs : List Json.Value} {ns : List String} :
      List.Forall₂ IsString vs ns ↔ vs = ns.map .string := by
    induction ns generalizing vs with
    | nil => simp
    | cons n ns ih => cases vs <;> simp [IsString, ih]
  constructor
  · rintro ⟨vs, rfl, hvs⟩
    rw [hall.mp hvs]
  · rintro rfl
    exact ⟨_, rfl, hall.mpr rfl⟩

theorem takes_read : Takes 1 read IsNames where
  sound := by
    intro d x h
    unfold read at h
    split at h
    next => cases h
    next =>
      split at h
      next =>
        cases h
        exact ⟨.string _, rfl, rfl⟩
      next =>
        split at h
        next ns hns =>
          cases h
          obtain ⟨v, rfl, hv⟩ := (takes_list (takes_string 0)).sound hns
          exact ⟨v, rfl, isArrayOf_isString_iff.mp hv⟩
        next => cases h
  complete := by
    rintro v x rfl
    cases x with
    | joined s => rfl
    | list ns =>
      have hns : readList readString (value (list ns)).draft = .ok ns :=
        (takes_list (takes_string 0)).complete (isArrayOf_isString_iff.mpr rfl)
      simp only [read, Json.Value.mistake?_draft]
      simp only [value, Json.Value.draft] at hns ⊢
      simp only [hns]
  within := by
    rintro v x rfl
    cases x with
    | joined s => simp [value, Json.Value.Within]
    | list ns => exact (takes_list (takes_string 0)).within (isArrayOf_isString_iff.mpr rfl)

end NameList

namespace Target

def Form.name : Form → String
  | ajax => "ajax"
  | console => "console"

/-- The name of a form, or an object with null under the name. -/
def IsForm (v : Json.Value) (k : Form) : Prop :=
  v = .string k.name ∨ v = .object [(k.name, .null)]

def form : Target → Form
  | ajax _ => .ajax
  | console => .console

def url : Target → Option Scalar
  | ajax url => url
  | console => none

theorem Form.ofName?_eq_ok_iff {s : String} {k : Form} : ofName? s = .ok k ↔ s = k.name := by
  constructor
  · intro h
    unfold ofName? at h
    split at h
    next hs =>
      cases h
      exact hs
    next =>
      split at h
      next hs =>
        cases h
        exact hs
      next => cases h
  · rintro rfl
    cases k <;> rfl

theorem Form.takes_read : Takes 1 read IsForm where
  sound := by
    intro d k h
    unfold read at h
    split at h
    next s => exact ⟨.string s, rfl, Or.inl (congrArg _ (ofName?_eq_ok_iff.mp h))⟩
    next => cases h
    next => cases h
    next => cases h
    next =>
      split at h
      next => cases h
      next => cases h
    next key d rest =>
      split at h
      next => cases h
      next k' hk =>
        split at h
        next =>
          unfold endOfMembers at h
          split at h
          next =>
            cases h
            exact ⟨.object [(key, .null)], rfl,
              Or.inr (by rw [ofName?_eq_ok_iff.mp hk])⟩
          next => cases h
          next => cases h
        next => cases h
    all_goals cases h
  complete := by
    rintro v k (rfl | rfl) <;> cases k <;> rfl
  within := by
    rintro v k (rfl | rfl) <;> simp [Json.Value.Within]

end Target

namespace Appender

open Target (IsForm)
open Scalar (IsScalar)

/-- The keys of an appender, in the order in which an array gives what stands under them. -/
def keys : List String :=
  ["kind", "name", "url", "level", "ipRegex", "userAgentRegex", "disallow", "storeInBufferLevel",
   "sendWithBufferLevel", "bufferSize", "batchSize"]

/-- What is given under the keys of an appender. -/
structure GivenBy (ms : List (String × Json.Value)) (a : Appender) : Prop where
  kind : Given ms "kind" IsForm a.target.form
  name : Given ms "name" IsString a.name
  url : GivenOr none ms "url" (IsNullOr IsScalar) a.target.url
  level : GivenOr none ms "level" (IsNullOr IsScalar) a.limits.level
  ipRegex : GivenOr none ms "ipRegex" (IsNullOr IsScalar) a.limits.ipRegex
  userAgentRegex : GivenOr none ms "userAgentRegex" (IsNullOr IsScalar) a.limits.userAgentRegex
  disallow : GivenOr none ms "disallow" (IsNullOr IsScalar) a.limits.disallow
  storeInBufferLevel :
    GivenOr none ms "storeInBufferLevel" (IsNullOr IsScalar) a.limits.storeInBufferLevel
  sendWithBufferLevel :
    GivenOr none ms "sendWithBufferLevel" (IsNullOr IsScalar) a.limits.sendWithBufferLevel
  bufferSize : GivenOr none ms "bufferSize" (IsNullOr IsScalar) a.limits.bufferSize
  batchSize : GivenOr none ms "batchSize" (IsNullOr IsScalar) a.limits.batchSize

/-- A value that describes an appender. -/
def IsAppender (v : Json.Value) (a : Appender) : Prop :=
  ∃ ms, v.IsRecord keys ms ∧ GivenBy ms a

namespace Field

/-- What a field holds while an appender is read. -/
abbrev Content : Field → Type
  | kind => Option Target.Form
  | name => Option String
  | url | level | ipRegex | userAgentRegex | disallow | storeInBufferLevel | sendWithBufferLevel
  | bufferSize | batchSize => Option Scalar

def get : (f : Field) → Partial → f.Content
  | kind, p => p.kind
  | name, p => p.name
  | url, p => p.url
  | level, p => p.limits.level
  | ipRegex, p => p.limits.ipRegex
  | userAgentRegex, p => p.limits.userAgentRegex
  | disallow, p => p.limits.disallow
  | storeInBufferLevel, p => p.limits.storeInBufferLevel
  | sendWithBufferLevel, p => p.limits.sendWithBufferLevel
  | bufferSize, p => p.limits.bufferSize
  | batchSize, p => p.limits.batchSize

/-- Something is read into a field. -/
def IsRead : (f : Field) → Json.Value → f.Content → Prop
  | kind, v, x => ∃ k, IsForm v k ∧ x = some k
  | name, v, x => ∃ s, IsString v s ∧ x = some s
  | url, v, x | level, v, x | ipRegex, v, x | userAgentRegex, v, x | disallow, v, x
  | storeInBufferLevel, v, x | sendWithBufferLevel, v, x | bufferSize, v, x | batchSize, v, x =>
    IsNullOr IsScalar v x

end Field

theorem lawful_shape : shape.Lawful Field.get Field.IsRead 1 where
  all f := by cases f <;> decide
  distinct := by decide
  reads f := by
    cases f
    case' kind =>
      refine Shape.readsField_of_takes (takes_some Target.Form.takes_read)
        (fun d p => map_some_map (Target.Form.read d) fun k => ({ p with kind := k } : Partial))
        (fun _ _ => rfl) ?_
    case' name =>
      refine Shape.readsField_of_takes (takes_some (takes_string 1))
        (fun d p => map_some_map (readString d) fun s => ({ p with name := s } : Partial))
        (fun _ _ => rfl) ?_
    case' url | level | ipRegex | userAgentRegex | disallow | storeInBufferLevel
        | sendWithBufferLevel | bufferSize | batchSize =>
      refine Shape.readsField_of_takes (takes_optional (Scalar.takes_read 1)) (fun _ _ => rfl)
        (fun _ _ => rfl) ?_
    all_goals
      intro x p g hg
      cases g <;> first | rfl | exact absurd rfl hg
  ext := by
    rintro ⟨k, s, u, l⟩ ⟨k', s', u', l'⟩ h
    have hlimits : l = l' := by
      cases l
      cases l'
      congr 1
      · exact h .level
      · exact h .ipRegex
      · exact h .userAgentRegex
      · exact h .disallow
      · exact h .storeInBufferLevel
      · exact h .sendWithBufferLevel
      · exact h .bufferSize
      · exact h .batchSize
    rw [show k = k' from h .kind, show s = s' from h .name, show u = u' from h .url, hlimits]

theorem finish_eq_ok_iff {p : Partial} {k : Target.Form} {s : String} {a : Appender} :
    p.finish k s = .ok a ↔
      k = a.target.form ∧ s = a.name ∧ p.url = a.target.url ∧ p.limits = a.limits := by
  obtain ⟨kind, name, url, limits⟩ := p
  obtain ⟨name', target, limits'⟩ := a
  cases k <;> cases url <;> cases target <;>
    simp [Partial.finish, Target.form, Target.url, eq_comm]

theorem read_eq_ok_iff {d : Draft} {a : Appender} :
    read d = .ok a ↔ shape.readInto {} d =
      .ok ⟨some a.target.form, some a.name, a.target.url, a.limits⟩ := by
  unfold read
  constructor
  · intro h
    split at h
    next => cases h
    next p hp =>
      split at h
      next => cases h
      next => cases h
      next k s hk hs =>
        obtain ⟨rfl, rfl, hurl, hlimits⟩ := finish_eq_ok_iff.mp h
        rw [hp, ← hk, ← hs, ← hurl, ← hlimits]
  · intro h
    rw [h]
    exact finish_eq_ok_iff.mpr ⟨rfl, rfl, rfl, rfl⟩

/-- What is given for an appender is what is read into its fields. -/
theorem givenBy_iff {ms : List (String × Json.Value)} {a : Appender} :
    GivenBy ms a ↔ ∀ f : Field, GivenOr (f.get {}) ms f.key f.IsRead
      (f.get ⟨some a.target.form, some a.name, a.target.url, a.limits⟩) := by
  have hgiven {α : Type} {key : String} {P : Json.Value → α → Prop} {x : α} :
      GivenOr none ms key (fun v y => ∃ z, P v z ∧ y = some z) (some x) ↔ Given ms key P x := by
    constructor
    · rintro (⟨v, hv, y, hP, heq⟩ | ⟨-, heq⟩)
      · cases heq
        exact ⟨v, hv, hP⟩
      · cases heq
    · rintro ⟨v, hv, hP⟩
      exact Or.inl ⟨v, hv, x, hP, rfl⟩
  constructor
  · intro h f
    cases f
    · exact hgiven.mpr h.kind
    · exact hgiven.mpr h.name
    · exact h.url
    · exact h.level
    · exact h.ipRegex
    · exact h.userAgentRegex
    · exact h.disallow
    · exact h.storeInBufferLevel
    · exact h.sendWithBufferLevel
    · exact h.bufferSize
    · exact h.batchSize
  · intro h
    exact ⟨hgiven.mp (h .kind), hgiven.mp (h .name), h .url, h .level, h .ipRegex,
      h .userAgentRegex, h .disallow, h .storeInBufferLevel, h .sendWithBufferLevel,
      h .bufferSize, h .batchSize⟩

theorem takes_read : Takes 2 read IsAppender where
  sound := by
    intro d a h
    obtain ⟨v, rfl, ms, hms, hfields⟩ :=
      (lawful_shape.takes_readInto {}).sound (read_eq_ok_iff.mp h)
    exact ⟨v, rfl, ms, hms, givenBy_iff.mpr hfields⟩
  complete := by
    rintro v a ⟨ms, hms, hgiven⟩
    exact read_eq_ok_iff.mpr
      ((lawful_shape.takes_readInto {}).complete ⟨ms, hms, givenBy_iff.mp hgiven⟩)
  within := by
    rintro v a ⟨ms, hms, hgiven⟩
    exact (lawful_shape.takes_readInto {}).within ⟨ms, hms, givenBy_iff.mp hgiven⟩

end Appender

namespace Logger

open NameList (IsNames)
open Scalar (IsScalar)

def keys : List String :=
  ["name", "appenders", "level", "ipRegex", "userAgentRegex", "disallow", "onceOnly"]

structure GivenBy (ms : List (String × Json.Value)) (l : Logger) : Prop where
  name : GivenOr none ms "name" (IsNullOr IsString) l.name
  appenders : GivenOr none ms "appenders" (IsNullOr IsNames) l.appenders
  level : GivenOr none ms "level" (IsNullOr IsScalar) l.level
  ipRegex : GivenOr none ms "ipRegex" (IsNullOr IsScalar) l.ipRegex
  userAgentRegex : GivenOr none ms "userAgentRegex" (IsNullOr IsScalar) l.userAgentRegex
  disallow : GivenOr none ms "disallow" (IsNullOr IsScalar) l.disallow
  onceOnly : GivenOr none ms "onceOnly" (IsNullOr (IsArrayOf IsString)) l.onceOnly

def IsLogger (v : Json.Value) (l : Logger) : Prop := ∃ ms, v.IsRecord keys ms ∧ GivenBy ms l

namespace Field

abbrev Content : Field → Type
  | name => Option String
  | appenders => Option NameList
  | level | ipRegex | userAgentRegex | disallow => Option Scalar
  | onceOnly => Option (List String)

def get : (f : Field) → Logger → f.Content
  | name, l => l.name
  | appenders, l => l.appenders
  | level, l => l.level
  | ipRegex, l => l.ipRegex
  | userAgentRegex, l => l.userAgentRegex
  | disallow, l => l.disallow
  | onceOnly, l => l.onceOnly

def IsRead : (f : Field) → Json.Value → f.Content → Prop
  | name, v, x => IsNullOr IsString v x
  | appenders, v, x => IsNullOr IsNames v x
  | level, v, x | ipRegex, v, x | userAgentRegex, v, x | disallow, v, x => IsNullOr IsScalar v x
  | onceOnly, v, x => IsNullOr (IsArrayOf IsString) v x

end Field

theorem lawful_shape : shape.Lawful Field.get Field.IsRead 1 where
  all f := by cases f <;> decide
  distinct := by decide
  reads f := by
    cases f
    case' name =>
      refine Shape.readsField_of_takes (takes_optional (takes_string 1)) (fun _ _ => rfl)
        (fun _ _ => rfl) ?_
    case' appenders =>
      refine Shape.readsField_of_takes (takes_optional NameList.takes_read) (fun _ _ => rfl)
        (fun _ _ => rfl) ?_
    case' onceOnly =>
      refine Shape.readsField_of_takes (takes_optional (takes_list (takes_string 0)))
        (fun _ _ => rfl) (fun _ _ => rfl) ?_
    case' level | ipRegex | userAgentRegex | disallow =>
      refine Shape.readsField_of_takes (takes_optional (Scalar.takes_read 1)) (fun _ _ => rfl)
        (fun _ _ => rfl) ?_
    all_goals
      intro x l g hg
      cases g <;> first | rfl | exact absurd rfl hg
  ext := by
    intro l l' h
    cases l
    cases l'
    congr 1
    · exact h .name
    · exact h .appenders
    · exact h .level
    · exact h .ipRegex
    · exact h .userAgentRegex
    · exact h .disallow
    · exact h .onceOnly

theorem givenBy_iff {ms : List (String × Json.Value)} {l : Logger} :
    GivenBy ms l ↔ ∀ f : Field, GivenOr (f.get {}) ms f.key f.IsRead (f.get l) := by
  constructor
  · intro h f
    cases f
    · exact h.name
    · exact h.appenders
    · exact h.level
    · exact h.ipRegex
    · exact h.userAgentRegex
    · exact h.disallow
    · exact h.onceOnly
  · intro h
    exact ⟨h .name, h .appenders, h .level, h .ipRegex, h .userAgentRegex, h .disallow,
      h .onceOnly⟩

theorem takes_read : Takes 2 read IsLogger := by
  have htakes := lawful_shape.takes_readInto {}
  simp only [shape, ← givenBy_iff] at htakes
  exact htakes

end Logger

namespace Configuration

open Appender (IsAppender)
open Logger (IsLogger)
open Scalar (IsScalar)

def keys : List String :=
  ["enabled", "maxMessages", "defaultAjaxUrl", "productionLibraryPath", "appenders", "loggers"]

structure GivenBy (ms : List (String × Json.Value)) (c : Configuration) : Prop where
  enabled : GivenOr true ms "enabled" IsBool c.enabled
  maxMessages : GivenOr none ms "maxMessages" (IsNullOr IsScalar) c.maxMessages
  defaultAjaxUrl : GivenOr none ms "defaultAjaxUrl" (IsNullOr IsScalar) c.defaultAjaxUrl
  productionLibraryPath :
    GivenOr none ms "productionLibraryPath" (IsNullOr IsString) c.productionLibraryPath
  appenders : GivenOr [] ms "appenders" (IsArrayOf IsAppender) c.appenders
  loggers : GivenOr [] ms "loggers" (IsArrayOf IsLogger) c.loggers

def IsConfiguration (v : Json.Value) (c : Configuration) : Prop :=
  ∃ ms, v.IsRecord keys ms ∧ GivenBy ms c

namespace Field

abbrev Content : Field → Type
  | enabled => Bool
  | maxMessages | defaultAjaxUrl => Option Scalar
  | productionLibraryPath => Option String
  | appenders => List Appender
  | loggers => List Logger

def get : (f : Field) → Configuration → f.Content
  | enabled, c => c.enabled
  | maxMessages, c => c.maxMessages
  | defaultAjaxUrl, c => c.defaultAjaxUrl
  | productionLibraryPath, c => c.productionLibraryPath
  | appenders, c => c.appenders
  | loggers, c => c.loggers

def IsRead : (f : Field) → Json.Value → f.Content → Prop
  | enabled, v, x => IsBool v x
  | maxMessages, v, x | defaultAjaxUrl, v, x => IsNullOr IsScalar v x
  | productionLibraryPath, v, x => IsNullOr IsString v x
  | appenders, v, x => IsArrayOf IsAppender v x
  | loggers, v, x => IsArrayOf IsLogger v x

end Field

theorem lawful_shape : shape.Lawful Field.get Field.IsRead 3 where
  all f := by cases f <;> decide
  distinct := by decide
  reads f := by
    cases f
    case' enabled =>
      refine Shape.readsField_of_takes (takes_bool 3) (fun _ _ => rfl) (fun _ _ => rfl) ?_
    case' productionLibraryPath =>
      refine Shape.readsField_of_takes (takes_optional (takes_string 3)) (fun _ _ => rfl)
        (fun _ _ => rfl) ?_
    case' appenders =>
      refine Shape.readsField_of_takes (takes_list Appender.takes_read) (fun _ _ => rfl)
        (fun _ _ => rfl) ?_
    case' loggers =>
      refine Shape.readsField_of_takes (takes_list Logger.takes_read) (fun _ _ => rfl)
        (fun _ _ => rfl) ?_
    case' maxMessages | defaultAjaxUrl =>
      refine Shape.readsField_of_takes (takes_optional (Scalar.takes_read 3)) (fun _ _ => rfl)
        (fun _ _ => rfl) ?_
    all_goals
      intro x c g hg
      cases g <;> first | rfl | exact absurd rfl hg
  ext := by
    intro c c' h
    cases c
    cases c'
    congr 1
    · exact h .enabled
    · exact h .maxMessages
    · exact h .defaultAjaxUrl
    · exact h .productionLibraryPath
    · exact h .appenders
    · exact h .loggers

theorem givenBy_iff {ms : List (String × Json.Value)} {c : Configuration} :
    GivenBy ms c ↔ ∀ f : Field, GivenOr (f.get {}) ms f.key f.IsRead (f.get c) := by
  constructor
  · intro h f
    cases f
    · exact h.enabled
    · exact h.maxMessages
    · exact h.defaultAjaxUrl
    · exact h.productionLibraryPath
    · exact h.appenders
    · exact h.loggers
  · intro h
    exact ⟨h .enabled, h .maxMessages, h .defaultAjaxUrl, h .productionLibraryPath,
      h .appenders, h .loggers⟩

theorem takes_read : Takes 4 read IsConfiguration := by
  have htakes := lawful_shape.takes_readInto {}
  simp only [shape, ← givenBy_iff] at htakes
  exact htakes

example : ofJson "[false, null, \"/log\"]" =
    .ok { enabled := false, defaultAjaxUrl := some (.text "/log") } := by
  decide +kernel

end Configuration

end LogScript.Config
