import LogScript.Proofs.Schema
import Mathlib.Data.List.ReduceOption

namespace LogScript.Json

/-- A number that is read as it is written in digits. -/
def Number.IsWhole (n : Number) : Prop := ∃ i, n = .integer i ∧ Numeral.IsKept i

namespace Token

/-- The plain spelling of a token: strings are literals of the script, and numbers are written in
digits. -/
def plain : Token → List Char
  | null => "null".toList
  | bool b => (Literal.ofBool b).toList
  | number n => n.text.toList
  | string s => (Literal.quote s).toList
  | openArray => ['[']
  | closeArray => [']']
  | openObject => ['\x7b']
  | closeObject => ['\x7d']
  | comma => [',']
  | colon => [':']
  | brokenString _ => []
  | broken _ => []

theorem spells_plain {t : Token} (hbroken : t.isBroken = Bool.false)
    (hnumber : ∀ n, t = number n → n.IsWhole) : Spells t t.plain := by
  cases t with
  | null => exact .null
  | bool b =>
    cases b
    · exact .false
    · exact .true
  | number n =>
    obtain ⟨i, rfl, hi⟩ := hnumber n rfl
    obtain ⟨x, hx, hvalue⟩ := NumberLiteral.spells_repr hi
    exact .number hx hvalue
  | string s =>
    rw [plain, Literal.toList_quote]
    exact .string (Literal.spells_flatMap_escape s.toList)
  | openArray => exact .openArray
  | closeArray => exact .closeArray
  | openObject => exact .openObject
  | closeObject => exact .closeObject
  | comma => exact .comma
  | colon => exact .colon
  | brokenString => cases hbroken
  | broken => cases hbroken

end Token

namespace Value

/-- A plain text of a value: the plain spellings of its tokens, with white space around them. -/
def IsPlainText (v : Value) (cs : List Char) : Prop :=
  Token.Spelled (fun t ds => ds = t.plain) v.tokens cs

theorem exists_isPlainText (v : Value) : ∃ cs, v.IsPlainText cs := by
  have hspelled (ts : List Token) : Token.Spelled (fun t ds => ds = t.plain) ts
      (ts.flatMap Token.plain) := by
    induction ts with
    | nil => exact .nil (by simp)
    | cons t ts ih =>
      have hnil : ∀ c ∈ ([] : List Char), Token.isSpace c = true := by simp
      exact .cons hnil rfl ih
  exact ⟨_, hspelled v.tokens⟩

/-- A value in which all numbers are whole. -/
def AllWhole (v : Value) : Prop := ∀ n, .number n ∈ v.tokens → n.IsWhole

theorem IsPlainText.isText {v : Value} {cs : List Char} (h : v.IsPlainText cs)
    (hv : v.AllWhole) : v.IsText cs := by
  refine Token.Spelled.imp h fun t ht ds hds => ?_
  rw [hds]
  exact Token.spells_plain (isBroken_of_mem_tokens ht) fun n hn => hv n (hn ▸ ht)

theorem allWhole_null : null.AllWhole := by
  intro n hn
  simp [tokens] at hn

theorem allWhole_bool (b : Bool) : (bool b).AllWhole := by
  intro n hn
  simp [tokens] at hn

theorem allWhole_string (s : String) : (string s).AllWhole := by
  intro n hn
  simp [tokens] at hn

theorem allWhole_number {n : Number} (h : n.IsWhole) : (number n).AllWhole := by
  intro m hm
  simp only [tokens, List.mem_singleton, Token.number.injEq] at hm
  exact hm ▸ h

theorem allWhole_array {vs : List Value} (h : ∀ v ∈ vs, v.AllWhole) : (array vs).AllWhole := by
  intro n hn
  rcases mem_tokens_array hn with hn | hn | hn | ⟨v, hv, hn⟩
  · cases hn
  · cases hn
  · cases hn
  · exact h v hv n hn

theorem allWhole_object {ms : List (String × Value)} (h : ∀ m ∈ ms, m.2.AllWhole) :
    (object ms).AllWhole := by
  intro n hn
  rcases mem_tokens_object hn with hn | hn | hn | hn | ⟨m, hm, hn | hn⟩
  · cases hn
  · cases hn
  · cases hn
  · cases hn
  · cases hn
  · exact h m hm n hn

/-- Null in place of what is missing. -/
def orNull {α : Type} (f : α → Value) : Option α → Value
  | none => null
  | some x => f x

/-- A field of a record as it is written, and whether it may be left out. -/
structure Entry where
  key : String
  value : Value
  optional : Bool

namespace Entry

def member (e : Entry) : String × Value := (e.key, e.value)

/-- A field that may be missing from the record itself. -/
def ofOption {α : Type} (key : String) (f : α → Value) (x : Option α) : Entry :=
  ⟨key, orNull f x, x.isNone⟩

end Entry

/-- A record is written as an object with its fields in any order, or as an array with its fields
in their order. -/
inductive IsWritten (es : List Entry) : Value → Prop
  | object {given left : List Entry} (hall : (given ++ left).Perm es)
      (hleft : ∀ e ∈ left, e.optional = true) : IsWritten es (.object (given.map Entry.member))
  | array {given left : List Entry} (hall : given ++ left = es)
      (hleft : ∀ e ∈ left, e.optional = true) : IsWritten es (.array (given.map Entry.value))

/-- Members that give the fields of a record, but for some that may be left out. -/
def Gives (ms : List (String × Value)) (es : List Entry) : Prop :=
  ∀ e ∈ es, e.member ∈ ms ∨ (∀ v, (e.key, v) ∉ ms) ∧ e.optional = true

theorem nodup_keys_of_perm {es given left : List Entry} (hes : (es.map Entry.key).Nodup)
    (hall : (given ++ left).Perm es) :
    (given.map Entry.key).Nodup ∧ ∀ e ∈ given, ∀ e' ∈ left, e.key ≠ e'.key := by
  have hdistinct : ((given ++ left).map Entry.key).Nodup := (hall.map _).nodup_iff.mpr hes
  rw [List.map_append, List.nodup_append] at hdistinct
  exact ⟨hdistinct.1, fun e he e' he' =>
    hdistinct.2.2 _ (List.mem_map_of_mem he) _ (List.mem_map_of_mem he')⟩

theorem gives_of_perm {es given left : List Entry} (hes : (es.map Entry.key).Nodup)
    (hall : (given ++ left).Perm es) (hleft : ∀ e ∈ left, e.optional = true) :
    Gives (given.map Entry.member) es := by
  intro e he
  rcases List.mem_append.mp (hall.mem_iff.mpr he) with hgiven | hl
  · exact Or.inl (List.mem_map_of_mem hgiven)
  · refine Or.inr ⟨fun v hv => ?_, hleft e hl⟩
    obtain ⟨e', he', heq⟩ := List.mem_map.mp hv
    exact (nodup_keys_of_perm hes hall).2 e' he' e hl (congrArg Prod.fst heq)

theorem IsWritten.isRecord {es : List Entry} {keys : List String} {v : Value}
    (h : IsWritten es v) (hkeys : es.map Entry.key = keys) (hes : keys.Nodup) :
    ∃ ms, v.IsRecord keys ms ∧ Gives ms es := by
  subst hkeys
  cases h with
  | @object given left hall hleft =>
    refine ⟨_, .object (fun m hm => ?_) ?_, gives_of_perm hes hall hleft⟩
    · obtain ⟨e, he, rfl⟩ := List.mem_map.mp hm
      exact List.mem_map_of_mem (hall.mem_iff.mp (List.mem_append_left _ he))
    · have hkeys : (given.map Entry.member).map Prod.fst = given.map Entry.key := by
        simp [Entry.member]
      rw [hkeys]
      exact (nodup_keys_of_perm hes hall).1
  | @array given left hall hleft =>
    -- The keys of the fields that are left out find no element.
    have hzip : (es.map Entry.key).zip (given.map Entry.value) = given.map Entry.member := by
      rw [← hall, List.map_append]
      have happend : (given.map Entry.key ++ left.map Entry.key).zip
          (given.map Entry.value ++ []) =
            (given.map Entry.key).zip (given.map Entry.value) ++ (left.map Entry.key).zip [] :=
        List.zip_append (by simp)
      rw [List.append_nil, List.zip_nil_right, List.append_nil] at happend
      rw [happend, List.zip_map']
      rfl
    have hlen : (given.map Entry.value).length ≤ (es.map Entry.key).length := by
      rw [← hall]
      simp
    refine ⟨_, .array hlen, ?_⟩
    rw [hzip]
    exact gives_of_perm hes (hall ▸ List.Perm.refl _) hleft

theorem IsWritten.allWhole {es : List Entry} {v : Value} (h : IsWritten es v)
    (hes : ∀ e ∈ es, e.value.AllWhole) : v.AllWhole := by
  cases h with
  | @object given left hall =>
    refine allWhole_object fun m hm => ?_
    obtain ⟨e, he, rfl⟩ := List.mem_map.mp hm
    exact hes e (hall.mem_iff.mp (List.mem_append_left _ he))
  | @array given left hall =>
    refine allWhole_array fun v hv => ?_
    obtain ⟨e, he, rfl⟩ := List.mem_map.mp hv
    exact hes e (hall ▸ List.mem_append_left _ he)

theorem exists_isWritten (es : List Entry) : ∃ v, IsWritten es v := by
  have hall : (es ++ []).Perm es := by rw [List.append_nil]
  exact ⟨_, .object hall (by simp)⟩

variable {α : Type} {ms : List (String × Value)} {es : List Entry} {key : String} {v : Value}
  {P : Value → α → Prop} {x : α}

theorem Gives.given (h : Gives ms es) (he : ⟨key, v, false⟩ ∈ es) (hP : P v x) :
    Given ms key P x := by
  rcases h _ he with hmem | ⟨-, hoptional⟩
  · exact ⟨v, hmem, hP⟩
  · cases hoptional

theorem Gives.givenOr (h : Gives ms es) {optional : Bool} (he : ⟨key, v, optional⟩ ∈ es)
    (hP : P v x) {default : α} (hdefault : optional = true → x = default) :
    GivenOr default ms key P x := by
  rcases h _ he with hmem | ⟨hnone, hoptional⟩
  · exact Or.inl ⟨v, hmem, hP⟩
  · exact Or.inr ⟨hnone, hdefault hoptional⟩

theorem isNullOr_orNull {f : α → Value} (hP : ∀ x, P (f x) x) (hnull : ∀ x, f x ≠ .null)
    (x : Option α) : IsNullOr P (orNull f x) x := by
  cases x with
  | none => rfl
  | some y =>
    have hne := hnull y
    have hy := hP y
    rw [orNull]
    cases hf : f y with
    | null => exact absurd hf hne
    | _ =>
      rw [hf] at hy
      exact ⟨y, hy, rfl⟩

theorem Gives.ofOption (h : Gives ms es) {f : α → Value} {x : Option α}
    (he : Entry.ofOption key f x ∈ es) (hP : ∀ x, P (f x) x) (hnull : ∀ x, f x ≠ .null) :
    GivenOr none ms key (IsNullOr P) x :=
  h.givenOr he (isNullOr_orNull hP hnull x) Option.isNone_iff_eq_none.mp

end Value

end LogScript.Json

namespace LogScript.Config

open Json.Value (Entry IsWritten Gives AllWhole IsString IsArrayOf)

theorem Scalar.value_ne_null (x : Scalar) : x.value ≠ .null := by
  cases x <;> exact nofun

theorem Scalar.allWhole_value {x : Scalar} (h : ∀ n, x = number n → n.IsWhole) :
    x.value.AllWhole := by
  cases x with
  | text s => exact Json.Value.allWhole_string s
  | number n => exact Json.Value.allWhole_number (h n rfl)
  | bool b => exact Json.Value.allWhole_bool b

theorem NameList.value_ne_null (x : NameList) : x.value ≠ .null := by
  cases x <;> exact nofun

def textsValue (ss : List String) : Json.Value := .array (ss.map .string)

theorem allWhole_textsValue (ss : List String) : (textsValue ss).AllWhole := by
  refine Json.Value.allWhole_array fun v hv => ?_
  obtain ⟨s, -, rfl⟩ := List.mem_map.mp hv
  exact Json.Value.allWhole_string s

theorem NameList.allWhole_value (x : NameList) : x.value.AllWhole := by
  cases x with
  | list ns => exact allWhole_textsValue ns
  | joined s => exact Json.Value.allWhole_string s

theorem allWhole_ofOption {α : Type} {key : String} {f : α → Json.Value} {x : Option α}
    (h : ∀ y, x = some y → (f y).AllWhole) : (Entry.ofOption key f x).value.AllWhole := by
  cases x with
  | none => exact Json.Value.allWhole_null
  | some y => exact h y rfl

namespace Appender

/-- The fields of an appender as they are written. -/
def entries (a : Appender) : List Entry :=
  [⟨"kind", .string a.target.form.name, false⟩,
   ⟨"name", .string a.name, false⟩,
   .ofOption "url" Scalar.value a.target.url,
   .ofOption "level" Scalar.value a.limits.level,
   .ofOption "ipRegex" Scalar.value a.limits.ipRegex,
   .ofOption "userAgentRegex" Scalar.value a.limits.userAgentRegex,
   .ofOption "disallow" Scalar.value a.limits.disallow,
   .ofOption "storeInBufferLevel" Scalar.value a.limits.storeInBufferLevel,
   .ofOption "sendWithBufferLevel" Scalar.value a.limits.sendWithBufferLevel,
   .ofOption "bufferSize" Scalar.value a.limits.bufferSize,
   .ofOption "batchSize" Scalar.value a.limits.batchSize]

def scalars (a : Appender) : List Scalar :=
  [a.target.url, a.limits.level, a.limits.ipRegex, a.limits.userAgentRegex, a.limits.disallow,
   a.limits.storeInBufferLevel, a.limits.sendWithBufferLevel, a.limits.bufferSize,
   a.limits.batchSize].reduceOption

theorem isAppender_of_isWritten {a : Appender} {v : Json.Value} (h : IsWritten a.entries v) :
    IsAppender v a := by
  have hkeys : a.entries.map Entry.key = keys := rfl
  obtain ⟨ms, hms, hgives⟩ := h.isRecord hkeys (by decide)
  have hscalar {key : String} {x : Option Scalar}
      (he : Entry.ofOption key Scalar.value x ∈ a.entries) :=
    hgives.ofOption he (P := Scalar.IsScalar) (fun _ => rfl) Scalar.value_ne_null
  exact ⟨ms, hms, {
    kind := hgives.given (by simp [entries]) (Or.inl rfl)
    name := hgives.given (by simp [entries]) rfl
    url := hscalar (by simp [entries])
    level := hscalar (by simp [entries])
    ipRegex := hscalar (by simp [entries])
    userAgentRegex := hscalar (by simp [entries])
    disallow := hscalar (by simp [entries])
    storeInBufferLevel := hscalar (by simp [entries])
    sendWithBufferLevel := hscalar (by simp [entries])
    bufferSize := hscalar (by simp [entries])
    batchSize := hscalar (by simp [entries]) }⟩

theorem allWhole_of_isWritten {a : Appender} {v : Json.Value} (h : IsWritten a.entries v)
    (ha : ∀ n, .number n ∈ a.scalars → n.IsWhole) : v.AllWhole := by
  have hscalar {key : String} {x : Option Scalar}
      (hx : x ∈ [a.target.url, a.limits.level, a.limits.ipRegex, a.limits.userAgentRegex,
        a.limits.disallow, a.limits.storeInBufferLevel, a.limits.sendWithBufferLevel,
        a.limits.bufferSize, a.limits.batchSize]) :
      (Entry.ofOption key Scalar.value x).value.AllWhole :=
    allWhole_ofOption fun y hy => Scalar.allWhole_value fun n hn =>
      ha n (List.reduceOption_mem_iff.mpr (hn ▸ hy ▸ hx))
  refine h.allWhole fun e he => ?_
  simp only [entries, List.mem_cons, List.not_mem_nil, or_false] at he
  rcases he with rfl | rfl | rfl | rfl | rfl | rfl | rfl | rfl | rfl | rfl | rfl
  · exact Json.Value.allWhole_string _
  · exact Json.Value.allWhole_string _
  all_goals exact hscalar (by simp)

end Appender

namespace Logger

def entries (l : Logger) : List Entry :=
  [.ofOption "name" .string l.name,
   .ofOption "appenders" NameList.value l.appenders,
   .ofOption "level" Scalar.value l.level,
   .ofOption "ipRegex" Scalar.value l.ipRegex,
   .ofOption "userAgentRegex" Scalar.value l.userAgentRegex,
   .ofOption "disallow" Scalar.value l.disallow,
   .ofOption "onceOnly" textsValue l.onceOnly]

def scalars (l : Logger) : List Scalar :=
  [l.level, l.ipRegex, l.userAgentRegex, l.disallow].reduceOption

theorem isLogger_of_isWritten {l : Logger} {v : Json.Value} (h : IsWritten l.entries v) :
    IsLogger v l := by
  have hkeys : l.entries.map Entry.key = keys := rfl
  obtain ⟨ms, hms, hgives⟩ := h.isRecord hkeys (by decide)
  have hscalar {key : String} {x : Option Scalar}
      (he : Entry.ofOption key Scalar.value x ∈ l.entries) :=
    hgives.ofOption he (P := Scalar.IsScalar) (fun _ => rfl) Scalar.value_ne_null
  exact ⟨ms, hms, {
    name := hgives.ofOption (f := .string) (by simp [entries]) (fun _ => rfl) nofun
    appenders :=
      hgives.ofOption (f := NameList.value) (by simp [entries]) (fun _ => rfl)
        NameList.value_ne_null
    level := hscalar (by simp [entries])
    ipRegex := hscalar (by simp [entries])
    userAgentRegex := hscalar (by simp [entries])
    disallow := hscalar (by simp [entries])
    onceOnly :=
      hgives.ofOption (f := textsValue) (by simp [entries])
        (fun _ => NameList.isArrayOf_isString_iff.mpr rfl) nofun }⟩

theorem allWhole_of_isWritten {l : Logger} {v : Json.Value} (h : IsWritten l.entries v)
    (hl : ∀ n, .number n ∈ l.scalars → n.IsWhole) : v.AllWhole := by
  have hscalar {key : String} {x : Option Scalar}
      (hx : x ∈ [l.level, l.ipRegex, l.userAgentRegex, l.disallow]) :
      (Entry.ofOption key Scalar.value x).value.AllWhole :=
    allWhole_ofOption fun y hy => Scalar.allWhole_value fun n hn =>
      hl n (List.reduceOption_mem_iff.mpr (hn ▸ hy ▸ hx))
  refine h.allWhole fun e he => ?_
  simp only [entries, List.mem_cons, List.not_mem_nil, or_false] at he
  rcases he with rfl | rfl | rfl | rfl | rfl | rfl | rfl
  · exact allWhole_ofOption fun s _ => Json.Value.allWhole_string s
  · exact allWhole_ofOption fun x _ => x.allWhole_value
  · exact hscalar (by simp)
  · exact hscalar (by simp)
  · exact hscalar (by simp)
  · exact hscalar (by simp)
  · exact allWhole_ofOption fun ss _ => allWhole_textsValue ss

end Logger

namespace Configuration

/-- The fields of a configuration as they are written, with its appenders and loggers as they are
written. -/
def entries (c : Configuration) (appenders loggers : List Json.Value) : List Entry :=
  [⟨"enabled", .bool c.enabled, c.enabled⟩,
   .ofOption "maxMessages" Scalar.value c.maxMessages,
   .ofOption "defaultAjaxUrl" Scalar.value c.defaultAjaxUrl,
   .ofOption "productionLibraryPath" .string c.productionLibraryPath,
   ⟨"appenders", .array appenders, c.appenders.isEmpty⟩,
   ⟨"loggers", .array loggers, c.loggers.isEmpty⟩]

/-- A value that a configuration may be written as. -/
def IsWrittenAs (c : Configuration) (v : Json.Value) : Prop :=
  ∃ appenders loggers,
    List.Forall₂ (fun v a => IsWritten (Appender.entries a) v) appenders c.appenders ∧
    List.Forall₂ (fun v l => IsWritten (Logger.entries l) v) loggers c.loggers ∧
    IsWritten (c.entries appenders loggers) v

/-- A text that a configuration may be written as. -/
def IsWrittenIn (c : Configuration) (s : String) : Prop :=
  ∃ v, c.IsWrittenAs v ∧ v.IsPlainText s.toList

def scalars (c : Configuration) : List Scalar :=
  [c.maxMessages, c.defaultAjaxUrl].reduceOption ++
    (c.appenders.flatMap Appender.scalars ++ c.loggers.flatMap Logger.scalars)

/-- A configuration in which all numbers are whole and fit in 64 bits. -/
def AllWhole (c : Configuration) : Prop := ∀ n, .number n ∈ c.scalars → n.IsWhole

theorem isConfiguration_of_isWrittenAs {c : Configuration} {v : Json.Value}
    (h : c.IsWrittenAs v) : IsConfiguration v c := by
  obtain ⟨appenders, loggers, happenders, hloggers, hv⟩ := h
  have hkeys : (c.entries appenders loggers).map Entry.key = keys := rfl
  obtain ⟨ms, hms, hgives⟩ := hv.isRecord hkeys (by decide)
  have hscalar {key : String} {x : Option Scalar}
      (he : Entry.ofOption key Scalar.value x ∈ c.entries appenders loggers) :=
    hgives.ofOption he (P := Scalar.IsScalar) (fun _ => rfl) Scalar.value_ne_null
  exact ⟨ms, hms, {
    enabled := hgives.givenOr (P := Json.Value.IsBool) List.mem_cons_self rfl id
    maxMessages := hscalar (by simp [entries])
    defaultAjaxUrl := hscalar (by simp [entries])
    productionLibraryPath := hgives.ofOption (f := .string) (by simp [entries]) (fun _ => rfl) nofun
    appenders := hgives.givenOr (by simp [entries])
      ⟨_, rfl, happenders.imp fun _ _ => Appender.isAppender_of_isWritten⟩ List.isEmpty_iff.mp
    loggers := hgives.givenOr (by simp [entries])
      ⟨_, rfl, hloggers.imp fun _ _ => Logger.isLogger_of_isWritten⟩ List.isEmpty_iff.mp }⟩

/-- What is written for the parts of a configuration has only whole numbers in it. -/
theorem allWhole_of_forall₂ {α : Type} {entries : α → List Entry} {scalars : α → List Scalar}
    (hentries : ∀ {x v}, IsWritten (entries x) v →
      (∀ n, .number n ∈ scalars x → n.IsWhole) → v.AllWhole)
    {vs : List Json.Value} {xs : List α}
    (h : List.Forall₂ (fun v x => IsWritten (entries x) v) vs xs)
    (hxs : ∀ n, .number n ∈ xs.flatMap scalars → n.IsWhole) : (Json.Value.array vs).AllWhole := by
  refine Json.Value.allWhole_array ?_
  induction h with
  | nil => simp
  | cons hv _ ih =>
    simp only [List.flatMap_cons, List.mem_append] at hxs
    exact List.forall_mem_cons.mpr
      ⟨hentries hv fun n hn => hxs n (Or.inl hn), ih fun n hn => hxs n (Or.inr hn)⟩

theorem allWhole_of_isWrittenAs {c : Configuration} {v : Json.Value} (h : c.IsWrittenAs v)
    (hc : c.AllWhole) : v.AllWhole := by
  obtain ⟨appenders, loggers, happenders, hloggers, hv⟩ := h
  simp only [AllWhole, scalars, List.mem_append] at hc
  have hscalar {key : String} {x : Option Scalar} (hx : x ∈ [c.maxMessages, c.defaultAjaxUrl]) :
      (Entry.ofOption key Scalar.value x).value.AllWhole :=
    allWhole_ofOption fun y hy => Scalar.allWhole_value fun n hn =>
      hc n (Or.inl (List.reduceOption_mem_iff.mpr (hn ▸ hy ▸ hx)))
  refine hv.allWhole fun e he => ?_
  simp only [entries, List.mem_cons, List.not_mem_nil, or_false] at he
  rcases he with rfl | rfl | rfl | rfl | rfl | rfl
  · exact Json.Value.allWhole_bool c.enabled
  · exact hscalar (by simp)
  · exact hscalar (by simp)
  · exact allWhole_ofOption fun s _ => Json.Value.allWhole_string s
  · exact allWhole_of_forall₂ Appender.allWhole_of_isWritten happenders
      fun n hn => hc n (Or.inr (Or.inl hn))
  · exact allWhole_of_forall₂ Logger.allWhole_of_isWritten hloggers
      fun n hn => hc n (Or.inr (Or.inr hn))

theorem exists_forall₂_isWritten {α : Type} (entries : α → List Entry) (xs : List α) :
    ∃ vs, List.Forall₂ (fun v x => IsWritten (entries x) v) vs xs := by
  induction xs with
  | nil => exact ⟨[], .nil⟩
  | cons x xs ih =>
    obtain ⟨v, hv⟩ := Json.Value.exists_isWritten (entries x)
    obtain ⟨vs, hvs⟩ := ih
    exact ⟨v :: vs, .cons hv hvs⟩

theorem exists_isWrittenIn (c : Configuration) : ∃ s, c.IsWrittenIn s := by
  obtain ⟨appenders, happenders⟩ := exists_forall₂_isWritten Appender.entries c.appenders
  obtain ⟨loggers, hloggers⟩ := exists_forall₂_isWritten Logger.entries c.loggers
  obtain ⟨v, hv⟩ := Json.Value.exists_isWritten (c.entries appenders loggers)
  obtain ⟨cs, hcs⟩ := v.exists_isPlainText
  refine ⟨String.ofList cs, v, ⟨appenders, loggers, happenders, hloggers, hv⟩, ?_⟩
  rw [String.toList_ofList]
  exact hcs

/-- A configuration can be written, and is read back from all texts that it may be written as, if
its numbers are whole and fit in 64 bits. -/
theorem read_back {c : Configuration} (hc : c.AllWhole) :
    (∃ s, c.IsWrittenIn s) ∧ ∀ s, c.IsWrittenIn s → ofJson s = .ok c := by
  refine ⟨c.exists_isWrittenIn, fun s hs => ?_⟩
  obtain ⟨v, hv, htext⟩ := hs
  have hdescribed : IsConfiguration v c := isConfiguration_of_isWrittenAs hv
  have hspelled : v.IsText s.toList := htext.isText (allWhole_of_isWrittenAs hv hc)
  exact (readText_eq_ok_iff takes_read (by decide)).mpr ⟨v, hspelled, hdescribed⟩

/-- Values that look alike in the configuration stay apart. -/
theorem read_back_lookalikes :
    let c : Configuration :=
      { enabled := false
        maxMessages := some (.number (.integer (-9223372036854775808)))
        defaultAjaxUrl := some (.text "-9223372036854775808")
        productionLibraryPath := some ""
        appenders :=
          [⟨"a\"\\</script>\n", .ajax (some (.text "null")),
            { level := some (.number (.integer 18446744073709551615))
              disallow := some (.bool true) }⟩,
           ⟨"", .console, { level := some (.text "true") }⟩]
        loggers :=
          [{ name := some "", appenders := some (.list []) },
           { appenders := some (.joined ""), onceOnly := some [] },
           { level := some (.number (.integer 0)), onceOnly := some ["5", "\u2028"] }] }
    c.AllWhole ∧ (∃ s, c.IsWrittenIn s) ∧ ∀ s, c.IsWrittenIn s → ofJson s = .ok c := by
  intro c
  have hc : c.AllWhole := by
    intro n hn
    have hn' : n = .integer (-9223372036854775808) ∨ n = .integer 18446744073709551615 ∨
        n = .integer 0 := by
      simpa [c, scalars, Appender.scalars, Logger.scalars, List.reduceOption, Target.url] using hn
    rcases hn' with rfl | rfl | rfl
    · exact ⟨_, rfl, by decide, by decide⟩
    · exact ⟨_, rfl, by decide, by decide⟩
    · exact ⟨_, rfl, by decide, by decide⟩
  exact ⟨hc, read_back hc⟩

end Configuration

end LogScript.Config
