import LogScript.Proofs.Exchange
import LogScript.Proofs.WrittenForms

namespace LogScript.Json.Value

variable {α : Type} {n : Number} {y : Value} {P : Value → α → Prop} {R : α → α → Prop}

/-- Whatever is read from a value, something is read again after the exchange, and is related to
it. -/
def Carries (n : Number) (y : Value) (P : Value → α → Prop) (R : α → α → Prop) : Prop :=
  ∀ ⦃v w : Value⦄ ⦃a : α⦄, Exchanged (number n) y v w → P v a → ∃ b, P w b ∧ R a b

theorem Carries.imp {S : α → α → Prop} (h : Carries n y P R) (hRS : ∀ a b, R a b → S a b) :
    Carries n y P S := by
  intro v w a hvw hv
  obtain ⟨b, hw, hR⟩ := h hvw hv
  exact ⟨b, hw, hRS a b hR⟩

theorem Exchanged.of_array {vs : List Value} {w : Value}
    (h : Exchanged (number n) y (array vs) w) :
    ∃ left v v' right, vs = left ++ v :: right ∧ w = array (left ++ v' :: right) ∧
      Exchanged (number n) y v v' := by
  generalize hv : array vs = v at h
  cases h with
  | here => cases hv
  | element h =>
    cases hv
    exact ⟨_, _, _, _, rfl, rfl, h⟩
  | member => cases hv

theorem Exchanged.of_object {ms : List (String × Value)} {w : Value}
    (h : Exchanged (number n) y (object ms) w) :
    ∃ left key v v' right, ms = left ++ (key, v) :: right ∧
      w = object (left ++ (key, v') :: right) ∧ Exchanged (number n) y v v' := by
  generalize hv : object ms = v at h
  cases h with
  | here => cases hv
  | element => cases hv
  | member h =>
    cases hv
    exact ⟨_, _, _, _, _, rfl, rfl, h⟩

theorem Exchanged.ne_null {x v w : Value} (h : Exchanged x y v w) (hy : y ≠ null) : w ≠ null := by
  cases h with
  | here => exact hy
  | element => exact nofun
  | member => exact nofun

/-- Nothing is read from a value with the number in it. -/
def Excludes (n : Number) (y : Value) (P : Value → α → Prop) : Prop :=
  Carries n y P fun _ _ => False

theorem excludes_isBool : Excludes n y IsBool := by
  rintro v w b h rfl
  cases h

theorem excludes_isString : Excludes n y IsString := by
  rintro v w s h rfl
  cases h

theorem isNullOr_iff {v : Value} (hv : v ≠ null) {a : Option α} :
    IsNullOr P v a ↔ ∃ b, P v b ∧ a = some b := by
  cases v with
  | null => exact absurd rfl hv
  | _ => exact Iff.rfl

/-- The two options are both given, and so related. -/
def BothGiven (R : α → α → Prop) (a b : Option α) : Prop :=
  ∃ a' b', a = some a' ∧ b = some b' ∧ R a' b'

theorem carries_isNullOr (hy : y ≠ null) (h : Carries n y P R) :
    Carries n y (IsNullOr P) (BothGiven R) := by
  intro v w a hvw hv
  have hnull : v ≠ null := by
    rintro rfl
    cases hvw
  obtain ⟨a', ha', rfl⟩ := (isNullOr_iff hnull).mp hv
  obtain ⟨b', hb', hR⟩ := h hvw ha'
  exact ⟨some b', (isNullOr_iff (hvw.ne_null hy)).mpr ⟨b', hb', rfl⟩, a', b', rfl, rfl, hR⟩

theorem excludes_isNullOr (hy : y ≠ null) (h : Excludes n y P) : Excludes n y (IsNullOr P) :=
  (carries_isNullOr hy h).imp fun _ _ ⟨_, _, _, _, hfalse⟩ => hfalse

/-- The two lists are the same but for one entry, which is so related to the other one. -/
def OneDiffers (R : α → α → Prop) (as bs : List α) : Prop :=
  ∃ left a b right, as = left ++ a :: right ∧ bs = left ++ b :: right ∧ R a b

theorem OneDiffers.cons {as bs : List α} (a : α) (h : OneDiffers R as bs) :
    OneDiffers R (a :: as) (a :: bs) := by
  obtain ⟨left, b, b', right, rfl, rfl, hR⟩ := h
  exact ⟨a :: left, b, b', right, rfl, rfl, hR⟩

theorem exists_oneDiffers (h : Carries n y P R) {left right : List Value} {v v' : Value}
    (hv : Exchanged (number n) y v v') {as : List α}
    (has : List.Forall₂ P (left ++ v :: right) as) :
    ∃ bs, List.Forall₂ P (left ++ v' :: right) bs ∧ OneDiffers R as bs := by
  induction left generalizing as with
  | nil =>
    cases has with
    | cons ha has =>
      obtain ⟨b, hb, hR⟩ := h hv ha
      exact ⟨_, .cons hb has, [], _, b, _, rfl, rfl, hR⟩
  | cons u left ih =>
    cases has with
    | cons ha has =>
      obtain ⟨bs, hbs, hdiffers⟩ := ih has
      exact ⟨_, .cons ha hbs, hdiffers.cons _⟩

theorem carries_isArrayOf (h : Carries n y P R) : Carries n y (IsArrayOf P) (OneDiffers R) := by
  rintro v w as hvw ⟨vs, rfl, has⟩
  obtain ⟨left, v, v', right, rfl, rfl, hv⟩ := hvw.of_array
  obtain ⟨bs, hbs, hdiffers⟩ := exists_oneDiffers h hv has
  exact ⟨bs, ⟨_, rfl, hbs⟩, hdiffers⟩

theorem excludes_isArrayOf (h : Excludes n y P) : Excludes n y (IsArrayOf P) :=
  (carries_isArrayOf h).imp fun _ _ ⟨_, _, _, _, _, _, hfalse⟩ => hfalse

/-- What the first keys of a record stand for in an array, whatever stands in one of its places. -/
theorem exists_zip_append_cons {keys : List String} {left right : List Value} {v : Value}
    (hlen : (left ++ v :: right).length ≤ keys.length) :
    ∃ before key after, ∀ u, keys.zip (left ++ u :: right) = before ++ (key, u) :: after := by
  have hlt : left.length < keys.length := by
    simp only [List.length_append, List.length_cons] at hlen
    omega
  refine ⟨(keys.take left.length).zip left, keys[left.length],
    (keys.drop (left.length + 1)).zip right, fun u => ?_⟩
  have hkeys : keys =
      keys.take left.length ++ keys[left.length] :: keys.drop (left.length + 1) := by
    simp
  conv_lhs => rw [hkeys]
  rw [List.zip_append (by simp; omega), List.zip_cons_cons]

theorem IsRecord.exchange {keys : List String} {v w : Value} {ms : List (String × Value)}
    (h : v.IsRecord keys ms) (hvw : Exchanged (number n) y v w) :
    ∃ left key u u' right, ms = left ++ (key, u) :: right ∧
      w.IsRecord keys (left ++ (key, u') :: right) ∧ Exchanged (number n) y u u' := by
  cases h with
  | object hkeys hdistinct =>
    obtain ⟨left, key, u, u', right, rfl, rfl, hu⟩ := hvw.of_object
    refine ⟨left, key, u, u', right, rfl, .object ?_ ?_, hu⟩
    · simp only [List.forall_mem_append, List.forall_mem_cons] at hkeys ⊢
      exact hkeys
    · simpa using hdistinct
  | array hlen =>
    obtain ⟨left, u, u', right, rfl, rfl, hu⟩ := hvw.of_array
    obtain ⟨before, key, after, hzip⟩ := exists_zip_append_cons hlen
    refine ⟨before, key, u, u', after, hzip u, ?_, hu⟩
    rw [← hzip]
    exact .array (by simpa using hlen)

end LogScript.Json.Value

namespace LogScript.Config

open Json (Number)
open Json.Value (Exchanged Carries Excludes GivenOr IsRecord)

namespace Shape

variable {φ σ : Type} {sh : Shape φ σ} {C : φ → Type} {get : (f : φ) → σ → C f}
  {P : (f : φ) → Json.Value → C f → Prop} {R : (f : φ) → C f → C f → Prop} {m : Nat} {n : Number}
  {y : Json.Value}

/-- The two records are the same but for one field, whose contents are so related. -/
def FieldDiffers (get : (f : φ) → σ → C f) (R : (f : φ) → C f → C f → Prop) (s t : σ) : Prop :=
  ∃ f, R f (get f s) (get f t) ∧ ∀ g, g ≠ f → get g t = get g s

theorem Lawful.carries (h : sh.Lawful get P m) (hR : ∀ f, Carries n y (P f) (R f)) (s : σ) :
    Carries n y (fun v t => ∃ ms, v.IsRecord (sh.fields.map sh.name) ms ∧
      ∀ f, GivenOr (get f s) ms (sh.name f) (P f) (get f t)) (FieldDiffers get R) := by
  rintro v w t hvw ⟨ms, hms, hfields⟩
  have hdistinct := hms.distinct h.distinct
  obtain ⟨left, key, u, u', right, rfl, hw, hu⟩ := hms.exchange hvw
  have hmem : (key, u) ∈ left ++ (key, u) :: right := List.mem_append_right _ List.mem_cons_self
  obtain ⟨f, -, rfl⟩ := List.mem_map.mp (hms.known hmem)
  have hP : P f u (get f t) := by
    rcases hfields f with ⟨u₁, hu₁, hP⟩ | ⟨hnone, -⟩
    · have heq := List.inj_on_of_nodup_map hdistinct hmem hu₁ rfl
      exact (Prod.mk.inj heq).2 ▸ hP
    · exact absurd hmem (hnone u)
  obtain ⟨b, hb, hRb⟩ := hR f hu hP
  -- Reading the new value into the record that was read makes the record that is read now.
  obtain ⟨t', -, hget, hothers⟩ := (h.reads f).complete (s := t) hb
  refine ⟨t', ⟨_, hw, fun g => ?_⟩, f, hget.symm ▸ hRb, hothers⟩
  by_cases hgf : g = f
  · subst hgf
    exact Or.inl ⟨u', List.mem_append_right _ List.mem_cons_self, hget.symm ▸ hb⟩
  · have hname : sh.name g ≠ sh.name f := fun heq => hgf (h.name_inj.mp heq)
    have hiff (u₁ : Json.Value) : (sh.name g, u₁) ∈ left ++ (sh.name f, u') :: right ↔
        (sh.name g, u₁) ∈ left ++ (sh.name f, u) :: right := by
      simp [hname]
    rw [hothers g hgf]
    simpa only [GivenOr, Json.Value.Given, hiff] using hfields g

end Shape

/-- A number that is exchanged for another scalar is read as that scalar. -/
def Swapped (n : Number) (x a b : Scalar) : Prop := a = .number n ∧ b = x

theorem Scalar.carries_isScalar {n : Number} {x : Scalar} :
    Carries n x.value IsScalar (Swapped n x) := by
  rintro v w a hvw rfl
  cases a with
  | number m =>
    cases hvw
    exact ⟨x, rfl, rfl, rfl⟩
  | _ => cases hvw

variable {n : Number} {y : Json.Value} {x : Scalar}

theorem NameList.excludes_isNames : Excludes n y IsNames := by
  rintro v w a hvw rfl
  cases a with
  | joined s => cases hvw
  | list ns =>
    obtain ⟨_, -, hfalse⟩ := Json.Value.excludes_isArrayOf Json.Value.excludes_isString hvw
      (isArrayOf_isString_iff.mpr rfl)
    exact hfalse.elim

theorem Target.excludes_isForm : Excludes n y IsForm := by
  rintro v w k hvw (rfl | rfl)
  · cases hvw
  · obtain ⟨left, key, u, u', right, hms, -, hu⟩ := hvw.of_object
    rcases List.singleton_eq_append_iff.mp hms with ⟨-, h⟩ | ⟨-, h⟩
    · cases h
      cases hu
    · cases h

/-- The target with another address, if it has one. -/
def Target.withUrl : Target → Option Scalar → Target
  | ajax _, url => ajax url
  | console, _ => console

namespace Appender

def scalar? (a : Appender) : Field → Option Scalar
  | .kind | .name => none
  | .url => a.target.url
  | .level => a.limits.level
  | .ipRegex => a.limits.ipRegex
  | .userAgentRegex => a.limits.userAgentRegex
  | .disallow => a.limits.disallow
  | .storeInBufferLevel => a.limits.storeInBufferLevel
  | .sendWithBufferLevel => a.limits.sendWithBufferLevel
  | .bufferSize => a.limits.bufferSize
  | .batchSize => a.limits.batchSize

/-- The fields of an appender that has been read. -/
def fields (a : Appender) : Partial := ⟨some a.target.form, some a.name, a.target.url, a.limits⟩

def put (f : Field) (x : Scalar) (a : Appender) : Appender :=
  let p := f.put (some x) a.fields
  { a with target := a.target.withUrl p.url, limits := p.limits }

/-- How the content of a field differs after the exchange. Only scalars do. -/
def Field.Differs (n : Number) (x : Scalar) : (f : Field) → f.Content → f.Content → Prop
  | kind, _, _ | name, _, _ => False
  | url, a, b | level, a, b | ipRegex, a, b | userAgentRegex, a, b | disallow, a, b
  | storeInBufferLevel, a, b | sendWithBufferLevel, a, b | bufferSize, a, b | batchSize, a, b =>
    Json.Value.BothGiven (Swapped n x) a b

theorem carries_isRead (f : Field) : Carries n x.value f.IsRead (f.Differs n x) := by
  cases f with
  | kind =>
    rintro v w k hvw ⟨k', hv, -⟩
    obtain ⟨_, -, hfalse⟩ := Target.excludes_isForm hvw hv
    exact hfalse.elim
  | name =>
    rintro v w s hvw ⟨s', hv, -⟩
    obtain ⟨_, -, hfalse⟩ := Json.Value.excludes_isString hvw hv
    exact hfalse.elim
  | _ => exact Json.Value.carries_isNullOr x.value_ne_null Scalar.carries_isScalar

theorem fields_put {f : Field} {a : Appender} {p : Partial}
    (hf : f.Differs n x (f.get a.fields) (f.get p))
    (hothers : ∀ g : Field, g ≠ f → g.get p = g.get a.fields) :
    a.scalar? f = some (.number n) ∧ p = (a.put f x).fields := by
  obtain ⟨name, target, limits⟩ := a
  cases f
  case kind => exact hf.elim
  case name => exact hf.elim
  case url =>
    obtain ⟨_, _, hbefore, hafter, rfl, rfl⟩ := hf
    cases target with
    | console => cases hbefore
    | ajax url =>
      refine ⟨hbefore, lawful_shape.ext fun g => ?_⟩
      have hg := hothers g
      cases g <;> first | exact hafter | exact hg nofun
  all_goals
    obtain ⟨_, _, hbefore, hafter, rfl, rfl⟩ := hf
    refine ⟨hbefore, lawful_shape.ext fun g => ?_⟩
    have hg := hothers g
    cases target <;> cases g <;> first | exact hafter | exact hg nofun

theorem carries_isAppender : Carries n x.value IsAppender
    fun a b => ∃ f, a.scalar? f = some (.number n) ∧ b = a.put f x := by
  rintro v w a hvw ⟨ms, hms, hgiven⟩
  obtain ⟨p, ⟨ms', hms', hfields⟩, f, hf, hothers⟩ :=
    lawful_shape.carries carries_isRead {} hvw ⟨ms, hms, givenBy_iff.mp hgiven⟩
  obtain ⟨hscalar, rfl⟩ := fields_put hf hothers
  exact ⟨a.put f x, ⟨ms', hms', givenBy_iff.mpr hfields⟩, f, hscalar, rfl⟩

end Appender

namespace Logger

def scalar? (l : Logger) : Field → Option Scalar
  | .name | .appenders | .onceOnly => none
  | .level => l.level
  | .ipRegex => l.ipRegex
  | .userAgentRegex => l.userAgentRegex
  | .disallow => l.disallow

def put (f : Field) (x : Scalar) (l : Logger) : Logger :=
  match f with
  | .name | .appenders | .onceOnly => l
  | .level => { l with level := some x }
  | .ipRegex => { l with ipRegex := some x }
  | .userAgentRegex => { l with userAgentRegex := some x }
  | .disallow => { l with disallow := some x }

def Field.Differs (n : Number) (x : Scalar) : (f : Field) → f.Content → f.Content → Prop
  | name, _, _ | appenders, _, _ | onceOnly, _, _ => False
  | level, a, b | ipRegex, a, b | userAgentRegex, a, b | disallow, a, b =>
    Json.Value.BothGiven (Swapped n x) a b

theorem carries_isRead (f : Field) : Carries n x.value f.IsRead (f.Differs n x) := by
  have hnull := x.value_ne_null
  cases f with
  | name => exact Json.Value.excludes_isNullOr hnull Json.Value.excludes_isString
  | appenders => exact Json.Value.excludes_isNullOr hnull NameList.excludes_isNames
  | onceOnly =>
    exact Json.Value.excludes_isNullOr hnull
      (Json.Value.excludes_isArrayOf Json.Value.excludes_isString)
  | _ => exact Json.Value.carries_isNullOr hnull Scalar.carries_isScalar

theorem eq_put {f : Field} {l l' : Logger} (hf : f.Differs n x (f.get l) (f.get l'))
    (hothers : ∀ g : Field, g ≠ f → g.get l' = g.get l) :
    l.scalar? f = some (.number n) ∧ l' = l.put f x := by
  cases f
  case name | appenders | onceOnly => exact hf.elim
  all_goals
    obtain ⟨_, _, hbefore, hafter, rfl, rfl⟩ := hf
    refine ⟨hbefore, lawful_shape.ext fun g => ?_⟩
    have hg := hothers g
    cases g <;> first | exact hafter | exact hg nofun

theorem carries_isLogger : Carries n x.value IsLogger
    fun l l' => ∃ f, l.scalar? f = some (.number n) ∧ l' = l.put f x := by
  rintro v w l hvw ⟨ms, hms, hgiven⟩
  obtain ⟨l', ⟨ms', hms', hfields⟩, f, hf, hothers⟩ :=
    lawful_shape.carries carries_isRead {} hvw ⟨ms, hms, givenBy_iff.mp hgiven⟩
  exact ⟨l', ⟨ms', hms', givenBy_iff.mpr hfields⟩, f, eq_put hf hothers⟩

end Logger

namespace Configuration

/-- Where a scalar may stand in a configuration. -/
inductive Place where
  | maxMessages
  | defaultAjaxUrl
  | appender (index : Nat) (field : Appender.Field)
  | logger (index : Nat) (field : Logger.Field)
  deriving DecidableEq, Repr

def scalar? (c : Configuration) : Place → Option Scalar
  | .maxMessages => c.maxMessages
  | .defaultAjaxUrl => c.defaultAjaxUrl
  | .appender i f => c.appenders[i]?.bind (·.scalar? f)
  | .logger i f => c.loggers[i]?.bind (·.scalar? f)

def put (p : Place) (x : Scalar) (c : Configuration) : Configuration :=
  match p with
  | .maxMessages => { c with maxMessages := some x }
  | .defaultAjaxUrl => { c with defaultAjaxUrl := some x }
  | .appender i f => { c with appenders := c.appenders.modify i (Appender.put f x) }
  | .logger i f => { c with loggers := c.loggers.modify i (Logger.put f x) }

def Field.Differs (n : Number) (x : Scalar) : (f : Field) → f.Content → f.Content → Prop
  | enabled, _, _ | productionLibraryPath, _, _ => False
  | maxMessages, a, b | defaultAjaxUrl, a, b => Json.Value.BothGiven (Swapped n x) a b
  | appenders, as, bs => Json.Value.OneDiffers
      (fun a b => ∃ f, a.scalar? f = some (.number n) ∧ b = a.put f x) as bs
  | loggers, ls, ls' => Json.Value.OneDiffers
      (fun l l' => ∃ f, l.scalar? f = some (.number n) ∧ l' = l.put f x) ls ls'

theorem carries_isRead (f : Field) : Carries n x.value f.IsRead (f.Differs n x) := by
  have hnull := x.value_ne_null
  cases f with
  | enabled => exact Json.Value.excludes_isBool
  | productionLibraryPath =>
    exact Json.Value.excludes_isNullOr hnull Json.Value.excludes_isString
  | maxMessages => exact Json.Value.carries_isNullOr hnull Scalar.carries_isScalar
  | defaultAjaxUrl => exact Json.Value.carries_isNullOr hnull Scalar.carries_isScalar
  | appenders => exact Json.Value.carries_isArrayOf Appender.carries_isAppender
  | loggers => exact Json.Value.carries_isArrayOf Logger.carries_isLogger

theorem modify_append_cons {α : Type} (f : α → α) (left right : List α) (a : α) :
    (left ++ a :: right).modify left.length f = left ++ f a :: right := by
  induction left with
  | nil => rfl
  | cons b left ih => simp [ih]

theorem eq_put {f : Field} {c c' : Configuration} (hf : f.Differs n x (f.get c) (f.get c'))
    (hothers : ∀ g : Field, g ≠ f → g.get c' = g.get c) :
    ∃ p, c.scalar? p = some (.number n) ∧ c' = c.put p x := by
  have hext {p : Place} (hput : ∀ g : Field, g.get c' = g.get (c.put p x)) : c' = c.put p x :=
    lawful_shape.ext hput
  cases f with
  | enabled => exact hf.elim
  | productionLibraryPath => exact hf.elim
  | maxMessages =>
    obtain ⟨_, _, hbefore, hafter, rfl, rfl⟩ := hf
    refine ⟨.maxMessages, hbefore, hext fun g => ?_⟩
    have hg := hothers g
    cases g <;> first | exact hafter | exact hg nofun
  | defaultAjaxUrl =>
    obtain ⟨_, _, hbefore, hafter, rfl, rfl⟩ := hf
    refine ⟨.defaultAjaxUrl, hbefore, hext fun g => ?_⟩
    have hg := hothers g
    cases g <;> first | exact hafter | exact hg nofun
  | appenders =>
    obtain ⟨left, a, b, right, hbefore, hafter, f, hscalar, rfl⟩ := hf
    have hbefore : c.appenders = left ++ a :: right := hbefore
    have hafter : c'.appenders = left ++ a.put f x :: right := hafter
    refine ⟨.appender left.length f, by simp [scalar?, hbefore, hscalar], hext fun g => ?_⟩
    have hg := hothers g
    cases g
    case appenders => simp [Field.get, put, hbefore, hafter, modify_append_cons]
    all_goals exact hg nofun
  | loggers =>
    obtain ⟨left, l, l', right, hbefore, hafter, f, hscalar, rfl⟩ := hf
    have hbefore : c.loggers = left ++ l :: right := hbefore
    have hafter : c'.loggers = left ++ l.put f x :: right := hafter
    refine ⟨.logger left.length f, by simp [scalar?, hbefore, hscalar], hext fun g => ?_⟩
    have hg := hothers g
    cases g
    case loggers => simp [Field.get, put, hbefore, hafter, modify_append_cons]
    all_goals exact hg nofun

theorem carries_isConfiguration : Carries n x.value IsConfiguration
    fun c c' => ∃ p, c.scalar? p = some (.number n) ∧ c' = c.put p x := by
  rintro v w c hvw ⟨ms, hms, hgiven⟩
  obtain ⟨c', ⟨ms', hms', hfields⟩, f, hf, hothers⟩ :=
    lawful_shape.carries carries_isRead {} hvw ⟨ms, hms, givenBy_iff.mp hgiven⟩
  exact ⟨c', ⟨ms', hms', givenBy_iff.mpr hfields⟩, eq_put hf hothers⟩

/-- A number that stands by itself in the text of a configuration is one of its scalars, and if
another scalar is written in its place, the text is one of the configuration with that scalar. -/
theorem ofJson_exchange {left d d' right : String} {c : Configuration}
    (hread : ofJson (left ++ d ++ right) = .ok c) (hapart : Json.Token.StandsApart left d right)
    (hd : Json.Token.ofText d.toList = [.number n]) (hx : x.value.IsText d'.toList) :
    ∃ p, c.scalar? p = some (.number n) ∧ ofJson (left ++ d' ++ right) = .ok (c.put p x) := by
  obtain ⟨v, htext, hv⟩ := (readText_eq_ok_iff takes_read (by decide)).mp hread
  obtain ⟨w, hvw, htext'⟩ := htext.exchange hapart hd hx
  obtain ⟨c', hw, p, hscalar, rfl⟩ := carries_isConfiguration hvw hv
  exact ⟨p, hscalar, (readText_eq_ok_iff takes_read (by decide)).mpr ⟨w, htext', hw⟩⟩

end Configuration

end LogScript.Config
