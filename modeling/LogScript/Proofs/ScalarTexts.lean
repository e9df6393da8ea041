import LogScript.Proofs.Numbering
import LogScript.Proofs.Rereading
import LogScript.Proofs.Severities
import LogScript.Script

namespace LogScript.Config

/-- The text that a scalar counts as, as a scalar. -/
def Scalar.toText (x : Scalar) : Scalar := text x.asText

theorem Scalar.toText_eq_iff {x y : Scalar} : x.toText = y.toText ↔ x.asText = y.asText :=
  text.injEq _ _ ▸ Iff.rfl

theorem setting_map_toText (name : String) (k : Kind) (v : Option Scalar) :
    setting name k (v.map Scalar.toText) = setting name k v := by
  rw [setting, setting, Option.map_map]
  rfl

def Target.withTexts : Target → Target
  | ajax url => ajax (url.map Scalar.toText)
  | console => console

def Limits.withTexts (l : Limits) : Limits where
  level := l.level.map Scalar.toText
  ipRegex := l.ipRegex.map Scalar.toText
  userAgentRegex := l.userAgentRegex.map Scalar.toText
  disallow := l.disallow.map Scalar.toText
  storeInBufferLevel := l.storeInBufferLevel.map Scalar.toText
  sendWithBufferLevel := l.sendWithBufferLevel.map Scalar.toText
  bufferSize := l.bufferSize.map Scalar.toText
  batchSize := l.batchSize.map Scalar.toText

def Appender.withTexts (a : Appender) : Appender := ⟨a.name, a.target.withTexts, a.limits.withTexts⟩

def Logger.withTexts (l : Logger) : Logger :=
  { l with
    level := l.level.map Scalar.toText
    ipRegex := l.ipRegex.map Scalar.toText
    userAgentRegex := l.userAgentRegex.map Scalar.toText
    disallow := l.disallow.map Scalar.toText }

def Configuration.withTexts (c : Configuration) : Configuration :=
  { c with
    maxMessages := c.maxMessages.map Scalar.toText
    defaultAjaxUrl := c.defaultAjaxUrl.map Scalar.toText
    appenders := c.appenders.map Appender.withTexts
    loggers := c.loggers.map Logger.withTexts }

theorem Target.method_withTexts (t : Target) : t.withTexts.method = t.method := by
  cases t <;> rfl

theorem Appender.attributes_withTexts (a : Appender) : a.withTexts.attributes = a.attributes := by
  obtain ⟨name, target, limits⟩ := a
  cases target <;> simp [attributes, withTexts, Target.withTexts, Limits.withTexts,
    setting_map_toText]

theorem Logger.attributes_withTexts (l : Logger) (v : Value) :
    l.withTexts.attributes v = l.attributes v := by
  simp [attributes, withTexts, setting_map_toText]

theorem Configuration.attributes_withTexts (c : Configuration) :
    c.withTexts.attributes = c.attributes := by
  simp [attributes, withTexts, setting_map_toText]

end LogScript.Config

namespace LogScript

open Config (Appender Logger Configuration)

namespace Pass

theorem appender_withTexts (cv : Converter) (a : Appender) :
    appender cv a.withTexts = appender cv a := by
  have hline (ident : String) : appenderLine a.withTexts ident = appenderLine a ident := by
    rw [appenderLine, appenderLine, Appender.withTexts, Config.Target.method_withTexts]
  funext p
  simp only [appender, Appender.attributes_withTexts, hline]
  rfl

theorem logger_withTexts (cv : Converter) (l : Logger) : logger cv l.withTexts = logger cv l := by
  have hoptions (t : Names) : loggerOptions cv t l.withTexts = loggerOptions cv t l := by
    simp only [loggerOptions, Logger.attributes_withTexts]
    rfl
  funext p
  rw [logger, logger, hoptions]
  rfl

theorem each_map {α : Type} {emit : α → Pass → Except CompileError (List String) × Pass}
    {f : α → α} (h : ∀ x, emit (f x) = emit x) (xs : List α) :
    each emit (xs.map f) = each emit xs :=
  funext (each_congr (List.forall₂_map_right_iff.mpr (List.forall₂_same.mpr fun x _ => h x)))

end Pass

namespace Script

variable {c c' : Configuration}

theorem globalOptions_withTexts (cv : Converter) (c : Configuration) (q : Request) :
    globalOptions cv c.withTexts q = globalOptions cv c q := by
  rw [globalOptions, globalOptions, Configuration.attributes_withTexts]
  rfl

theorem elements_withTexts (cv : Converter) (c : Configuration) :
    elements cv c.withTexts = elements cv c := by
  simp only [elements, Configuration.withTexts, Pass.each_map (Pass.appender_withTexts cv),
    Pass.each_map (Pass.logger_withTexts cv), List.length_map]

theorem compileTold_withTexts (cv : Converter) (c : Configuration) (q : Request) :
    compileTold cv c.withTexts q = compileTold cv c q := by
  rw [compileTold, compileTold, globalOptions_withTexts, elements_withTexts]
  rfl

/-- All that a script takes from the scalars of a configuration is their texts. -/
theorem compileTold_of_withTexts_eq (cv : Converter) (q : Request)
    (h : c'.withTexts = c.withTexts) :
    compileTold cv c' q = compileTold cv c q := by
  rw [← compileTold_withTexts cv c', h, compileTold_withTexts]

end Script

end LogScript

namespace LogScript.Config

theorem Target.withUrl_url (t : Target) : t.withUrl t.url = t := by
  cases t <;> rfl

variable {x y : Scalar}

namespace Appender

variable {a : Appender} {f : Field}

theorem scalar?_put (h : a.scalar? f = some x) : (a.put f y).scalar? f = some y := by
  obtain ⟨name, target, limits⟩ := a
  cases f with
  | kind | name => cases h
  | url =>
    cases target with
    | ajax url => rfl
    | console => cases h
  | _ => rfl

theorem withTexts_put (h : a.scalar? f = some x) (hxy : y.asText = x.asText) :
    (a.put f y).withTexts = a.withTexts := by
  have htext := Scalar.toText_eq_iff.mpr hxy
  obtain ⟨name, target, limits⟩ := a
  cases f with
  | kind | name => cases h
  | url =>
    cases target with
    | ajax url =>
      cases h
      simp [withTexts, put, fields, Field.put, Target.withUrl, Target.withTexts, htext]
    | console => cases h
  | _ =>
    simp only [scalar?] at h
    simp [withTexts, put, fields, Field.put, Limits.withTexts, Target.withUrl_url, h, htext]

end Appender

namespace Logger

variable {l : Logger} {f : Field}

theorem scalar?_put (h : l.scalar? f = some x) : (l.put f y).scalar? f = some y := by
  cases f with
  | name | appenders | onceOnly => cases h
  | _ => rfl

theorem withTexts_put (h : l.scalar? f = some x) (hxy : y.asText = x.asText) :
    (l.put f y).withTexts = l.withTexts := by
  have htext := Scalar.toText_eq_iff.mpr hxy
  cases f with
  | name | appenders | onceOnly => rfl
  | _ =>
    simp only [scalar?] at h
    simp [withTexts, put, h, htext]

end Logger

namespace Configuration

variable {c : Configuration} {p : Place}

theorem map_modify {α β : Type} {f : α → α} {g : α → β} {xs : List α} {i : Nat} {a : α}
    (ha : xs[i]? = some a) (hfg : g (f a) = g a) : (xs.modify i f).map g = xs.map g := by
  refine List.ext_getElem? fun j => ?_
  rw [List.getElem?_map, List.getElem?_map, List.getElem?_modify]
  split
  next hij => simp [← hij, ha, hfg]
  next => simp

theorem scalar?_put (h : c.scalar? p = some x) : (c.put p y).scalar? p = some y := by
  cases p with
  | maxMessages | defaultAjaxUrl => rfl
  | appender i f =>
    obtain ⟨a, ha, hscalar⟩ := Option.bind_eq_some_iff.mp h
    simp [put, scalar?, ha, Appender.scalar?_put hscalar]
  | logger i f =>
    obtain ⟨l, hl, hscalar⟩ := Option.bind_eq_some_iff.mp h
    simp [put, scalar?, hl, Logger.scalar?_put hscalar]

theorem withTexts_put (h : c.scalar? p = some x) (hxy : y.asText = x.asText) :
    (c.put p y).withTexts = c.withTexts := by
  have htext := Scalar.toText_eq_iff.mpr hxy
  cases p with
  | maxMessages =>
    have hbefore : c.maxMessages = some x := h
    simp [put, withTexts, hbefore, htext]
  | defaultAjaxUrl =>
    have hbefore : c.defaultAjaxUrl = some x := h
    simp [put, withTexts, hbefore, htext]
  | appender i f =>
    obtain ⟨a, ha, hscalar⟩ := Option.bind_eq_some_iff.mp h
    simp only [put, withTexts, map_modify ha (Appender.withTexts_put hscalar hxy)]
  | logger i f =>
    obtain ⟨l, hl, hscalar⟩ := Option.bind_eq_some_iff.mp h
    simp only [put, withTexts, map_modify hl (Logger.withTexts_put hscalar hxy)]

/-- The compiler does not tell two scalars with the same text apart. -/
theorem compileTold_put (cv : Converter) (q : Request) (h : c.scalar? p = some x)
    (hxy : y.asText = x.asText) :
    Script.compileTold cv (c.put p y) q = Script.compileTold cv c q :=
  Script.compileTold_of_withTexts_eq cv q (withTexts_put h hxy)

end Configuration

variable {d : String} {n : Int}

theorem ofText_of_isCanonicalSigned (hd : Text.IsCanonicalSigned d.toList n)
    (hn : Json.Numeral.IsKept n) : Json.Token.ofText d.toList = [.number (.integer n)] := by
  obtain ⟨x, hx, hvalue⟩ := Json.NumberLiteral.spells_repr hn
  rw [Text.isCanonicalSigned_toList_iff.mp hd]
  exact Json.Token.ofText_of_spelled (.single (.number hx hvalue)) (.singleton _)

theorem isText_quoted (hd : Text.IsCanonicalSigned d.toList n) :
    (Scalar.text d).value.IsText ("\"" ++ d ++ "\"").toList := by
  have hplain : ∀ c ∈ d.toList, Json.IsBare c := by
    refine hd.writesSigned.forall_mem (fun c hc => ?_) (by decide) (by decide)
    have hrange : 48 ≤ c.toNat ∧ c.toNat ≤ 57 := Char.isDigit_iff_toNat.mp hc
    refine ⟨?_, ?_, by omega⟩ <;>
    · rintro rfl
      cases hc
  have htext : ("\"" ++ d ++ "\"").toList = '"' :: (d.toList ++ ['"']) := by simp
  rw [htext, Json.Value.IsText, Scalar.value, Json.Value.tokens]
  exact .single (.string (Json.StringLiteral.spells_self hplain))

namespace Configuration

/-- An integer that stands by itself in the text of a configuration is one of its scalars, and may
be put in quotes: the text is still one of a configuration, which has a text of the same digits in
the place of the integer and is the same otherwise, and the script or the error stays the same. -/
theorem number_may_be_quoted {left right : String} {c : Configuration}
    (hd : Text.IsCanonicalSigned d.toList n) (hn : Json.Numeral.IsKept n)
    (hapart : Json.Token.StandsApart left d right) (hread : ofJson (left ++ d ++ right) = .ok c) :
    ∃ p c', ofJson (left ++ ("\"" ++ d ++ "\"") ++ right) = .ok c' ∧ c' = c.put p (.text d) ∧
      c.scalar? p = some (.number (.integer n)) ∧ c'.scalar? p = some (.text d) ∧
      (c.scalar? p).map Scalar.asText = some d ∧ (c'.scalar? p).map Scalar.asText = some d ∧
      ∀ cv q, Script.compile cv c' q = Script.compile cv c q := by
  have htext : (Scalar.text d).asText = (Scalar.number (.integer n)).asText :=
    Text.isCanonicalSigned_toList_iff.mp hd
  obtain ⟨p, hscalar, hread'⟩ :=
    ofJson_exchange hread hapart (ofText_of_isCanonicalSigned hd hn) (isText_quoted hd)
  have hscalar' : (c.put p (.text d)).scalar? p = some (.text d) := scalar?_put hscalar
  refine ⟨p, _, hread', rfl, hscalar, hscalar', ?_, ?_, fun cv q => ?_⟩
  · rw [hscalar, Option.map_some, ← htext, Scalar.asText]
  · rw [hscalar', Option.map_some, Scalar.asText]
  · rw [Script.compile, Script.compile, compileTold_put cv q hscalar htext]

/-- The text of a configuration up to a number. The same digits are the name of an appender, and a
key is written with a code. -/
def textToNumber : String :=
  "\x7b\"app\\u0065nders\": [[\"console\", \"-9223372036854775808\", null,\n"

/-- The text behind the number. -/
def textFromNumber : String := " ]]\x7d"

/-- The least number that is kept, as a level. No such level exists. -/
def leastNumber : Configuration where
  appenders := [⟨"-9223372036854775808", .console,
    { level := some (.number (.integer (-9223372036854775808))) }⟩]

theorem number_may_be_quoted_least :
    (Text.IsCanonicalSigned "-9223372036854775808".toList (-9223372036854775808) ∧
      Json.Numeral.IsKept (-9223372036854775808) ∧
      Json.Token.StandsApart textToNumber "-9223372036854775808" textFromNumber ∧
      ofJson (textToNumber ++ "-9223372036854775808" ++ textFromNumber) = .ok leastNumber) ∧
    ∃ p c', ofJson (textToNumber ++ ("\"" ++ "-9223372036854775808" ++ "\"") ++ textFromNumber) =
        .ok c' ∧
      c'.scalar? p = some (.text "-9223372036854775808") ∧
      Script.compile .sample c' {} =
        .error (.invalidField "level" (.unknownLevel "-9223372036854775808")) := by
  have hd : Text.IsCanonicalSigned "-9223372036854775808".toList (-9223372036854775808) :=
    Text.isCanonicalSigned_toList_iff.mpr (by decide +kernel)
  have hn : Json.Numeral.IsKept (-9223372036854775808) := ⟨by decide, by decide⟩
  have hapart : Json.Token.StandsApart textToNumber "-9223372036854775808" textFromNumber := by
    rw [Json.Token.StandsApart]
    decide +kernel
  have hread : ofJson (textToNumber ++ "-9223372036854775808" ++ textFromNumber) =
      .ok leastNumber := by
    decide +kernel
  obtain ⟨p, c', hread', -, -, hscalar, -, -, hcompile⟩ := number_may_be_quoted hd hn hapart hread
  have herror : Script.compile .sample leastNumber {} =
      .error (.invalidField "level" (.unknownLevel "-9223372036854775808")) := by
    decide +kernel
  exact ⟨⟨hd, hn, hapart, hread⟩, p, c', hread', hscalar, (hcompile _ _).trans herror⟩

end Configuration

end LogScript.Config
