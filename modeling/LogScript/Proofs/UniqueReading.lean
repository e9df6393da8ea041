import LogScript.Proofs.Entities
import LogScript.Proofs.Likeness

namespace LogScript

open Config (Configuration Appender Logger Target)

namespace Layout

theorem eq_of_between_eq {before after s t : String}
    (h : before ++ s ++ after = before ++ t ++ after) : s = t := by
  have hchars := congrArg String.toList h
  simp only [String.toList_append] at hchars
  exact String.toList_inj.mp (List.append_cancel_left (List.append_cancel_right hchars))

theorem reference_inj {u v : String} (h : reference u = reference v) : u = v := by
  unfold reference at h
  exact Markup.attributeText_inj (eq_of_between_eq h)

theorem chars_appender (r : Resolver) (a : Appender) (i : Nat) :
    Markup.chars (appender r a i) =
      "var a".toList ++ (i.repr.toList ++ ("=JL.".toList ++ (a.target.method.toList ++
        '(' :: ((Literal.quote a.name).toList ++ (");\na".toList ++ (i.repr.toList ++
          (".setOptions(".toList ++ ((options r a.attributes).object.toList ++
            ");\n".toList)))))))) := by
  simp only [appender, Markup.chars_cons, Markup.chars_nil, String.toList_append,
    String.reduceToList, List.append_assoc, List.cons_append, List.nil_append]

theorem chars_logger (r : Resolver) (names : List String) (l : Logger) (k : Nat) :
    Markup.chars (logger r names l k) =
      "var logger".toList ++ (k.repr.toList ++ ("=JL(".toList ++
        ((Literal.quote (l.name.getD "")).toList ++ (");\nlogger".toList ++ (k.repr.toList ++
          (".setOptions(".toList ++
            ((options r (l.attributes (references names l))).object.toList ++
              ");\n".toList))))))) := by
  simp only [logger, Markup.chars_cons, Markup.chars_nil, String.toList_append,
    String.reduceToList, List.append_assoc, List.cons_append, List.nil_append]

theorem method_append_inj {a b : Target} {s t : List Char}
    (h : a.method.toList ++ '(' :: s = b.method.toList ++ '(' :: t) :
    a.method = b.method ∧ s = t := by
  cases a <;> cases b <;> simp [Target.method] at h ⊢ <;> exact h

theorem quote_not_mem_appender (a : Appender) : ∀ x ∈ a.attributes, '"' ∉ x.name.toList := by
  cases h : a.target <;> simp [Config.Appender.attributes, Config.setting, h]

theorem quote_not_mem_logger (l : Logger) (v : Value) :
    ∀ x ∈ l.attributes v, '"' ∉ x.name.toList := by
  simp [Config.Logger.attributes, Config.setting]

variable {cv₁ cv₂ : Converter} {s t : List Char}

/-- The lines of an appender end where those of another one do. -/
theorem appender_append_inj {a b : Appender} {i : Nat}
    (ha : ∀ x ∈ a.attributes, x.failure? cv₁.engine = none)
    (hb : ∀ x ∈ b.attributes, x.failure? cv₂.engine = none)
    (h : Markup.chars (appender cv₁.resolver a i) ++ s =
      Markup.chars (appender cv₂.resolver b i) ++ t) :
    a.Alike cv₁ cv₂ b ∧ s = t := by
  simp only [chars_appender, List.append_assoc, List.cons_append] at h
  obtain ⟨hmethod, hrest⟩ := method_append_inj
    (List.append_cancel_left (List.append_cancel_left (List.append_cancel_left h)))
  obtain ⟨hname, hrest⟩ := Literal.quote_append_inj hrest
  obtain ⟨hoptions, hrest⟩ := Options.object_append_inj
    (isEntry_options (quote_not_mem_appender a) ha) (isEntry_options (quote_not_mem_appender b) hb)
    (List.append_cancel_left (List.append_cancel_left (List.append_cancel_left hrest)))
  exact ⟨Config.Appender.alike_of_options_eq ha hb hname hmethod hoptions,
    List.append_cancel_left hrest⟩

theorem logger_append_inj {names₁ names₂ : List String} {a b : Logger} {k : Nat}
    (ha : (∀ n ∈ a.appenderNames.getD [], n ∈ names₁) ∧
      ∀ x ∈ a.attributes (references names₁ a), x.failure? cv₁.engine = none)
    (hb : (∀ n ∈ b.appenderNames.getD [], n ∈ names₂) ∧
      ∀ x ∈ b.attributes (references names₂ b), x.failure? cv₂.engine = none)
    (h : Markup.chars (logger cv₁.resolver names₁ a k) ++ s =
      Markup.chars (logger cv₂.resolver names₂ b k) ++ t) :
    a.Alike cv₁ cv₂ names₁ names₂ b ∧ s = t := by
  simp only [chars_logger, List.append_assoc] at h
  obtain ⟨hname, hrest⟩ := Literal.quote_append_inj
    (List.append_cancel_left (List.append_cancel_left (List.append_cancel_left h)))
  obtain ⟨hoptions, hrest⟩ := Options.object_append_inj
    (isEntry_options (quote_not_mem_logger a _) ha.2)
    (isEntry_options (quote_not_mem_logger b _) hb.2)
    (List.append_cancel_left (List.append_cancel_left (List.append_cancel_left hrest)))
  exact ⟨Config.Logger.alike_of_options_eq ha.2 hb.2 ha.1 hb.1 hname hoptions,
    List.append_cancel_left hrest⟩

/-- Blocks one after the other, each of which begins with `head`, up to something else. -/
theorem forall₂_of_blocks {α : Type} {f g : α → Nat → List Char} {P Q : α → Prop}
    {R : α → α → Prop} {head : List Char}
    (hblock : ∀ {a b i s t}, P a → Q b → f a i ++ s = g b i ++ t → R a b ∧ s = t)
    (hf : ∀ a i, head <+: f a i) (hg : ∀ b i, head <+: g b i)
    {as bs : List α} (k : Nat) (ha : ∀ a ∈ as, P a) (hb : ∀ b ∈ bs, Q b)
    (hs : ¬head <+: s) (ht : ¬head <+: t)
    (h : ((as.zipIdx k).flatMap fun x => f x.1 x.2) ++ s =
      ((bs.zipIdx k).flatMap fun x => g x.1 x.2) ++ t) :
    List.Forall₂ R as bs ∧ s = t := by
  induction as generalizing bs k with
  | nil =>
    cases bs with
    | nil => exact ⟨.nil, h⟩
    | cons b bs =>
      simp only [List.zipIdx_nil, List.flatMap_nil, List.nil_append, List.zipIdx_cons,
        List.flatMap_cons, List.append_assoc] at h
      exact absurd (h ▸ (hg b k).trans (List.prefix_append _ _)) hs
  | cons a as ih =>
    rw [List.forall_mem_cons] at ha
    cases bs with
    | nil =>
      simp only [List.zipIdx_nil, List.flatMap_nil, List.nil_append, List.zipIdx_cons,
        List.flatMap_cons, List.append_assoc] at h
      exact absurd (h ▸ (hf a k).trans (List.prefix_append _ _)) ht
    | cons b bs =>
      rw [List.forall_mem_cons] at hb
      simp only [List.zipIdx_cons, List.flatMap_cons, List.append_assoc] at h
      obtain ⟨hab, hrest⟩ := hblock ha.1 hb.1 h
      obtain ⟨hall, hst⟩ := ih (k + 1) ha.2 hb.2 hrest
      exact ⟨.cons hab hall, hst⟩

theorem prefix_appender (r : Resolver) (a : Appender) (i : Nat) :
    "var a".toList <+: Markup.chars (appender r a i) := by
  rw [chars_appender]
  exact List.prefix_append _ _

theorem prefix_logger (r : Resolver) (names : List String) (l : Logger) (k : Nat) :
    "var logger".toList <+: Markup.chars (logger r names l k) := by
  rw [chars_logger]
  exact List.prefix_append _ _

/-- No declaration of any kind begins here. -/
def NoDeclaration (u : List Char) : Prop := ¬"var ".toList <+: u

theorem NoDeclaration.not_logger {u : List Char} (h : NoDeclaration u) :
    ¬"var logger".toList <+: u :=
  fun hp => h (List.IsPrefix.trans (by simp) hp)

theorem NoDeclaration.not_appender {u : List Char} (h : NoDeclaration u) (r : Resolver)
    (names : List String) (ls : List Logger) (k : Nat) :
    ¬"var a".toList <+:
      ((ls.zipIdx k).flatMap fun x => Markup.chars (logger r names x.1 x.2)) ++ u := by
  cases ls with
  | nil => exact fun hp => h (List.IsPrefix.trans (by simp) hp)
  | cons l ls =>
    rw [List.zipIdx_cons, List.flatMap_cons, chars_logger]
    simp

theorem elements_append_inj {c₁ c₂ : Configuration} (h₁ : Script.Accepted cv₁.engine c₁)
    (h₂ : Script.Accepted cv₂.engine c₂) (hen₁ : c₁.enabled = true) (hen₂ : c₂.enabled = true)
    (hs : NoDeclaration s) (ht : NoDeclaration t)
    (h : Markup.chars (elements cv₁.resolver c₁) ++ s =
      Markup.chars (elements cv₂.resolver c₂) ++ t) :
    List.Forall₂ (Config.Appender.Alike cv₁ cv₂) c₁.appenders c₂.appenders ∧
      List.Forall₂ (Config.Logger.Alike cv₁ cv₂ c₁.appenderNames c₂.appenderNames)
        c₁.loggers c₂.loggers ∧ s = t := by
  simp only [elements, Markup.chars_append, Markup.chars_flatMap, List.append_assoc] at h
  obtain ⟨happenders, hrest⟩ := forall₂_of_blocks
    (f := fun a i => Markup.chars (appender cv₁.resolver a i))
    (g := fun a i => Markup.chars (appender cv₂.resolver a i))
    (P := fun a => ∀ x ∈ a.attributes, x.failure? cv₁.engine = none)
    (Q := fun a => ∀ x ∈ a.attributes, x.failure? cv₂.engine = none)
    (R := Config.Appender.Alike cv₁ cv₂) appender_append_inj (prefix_appender cv₁.resolver)
    (prefix_appender cv₂.resolver) 0 (h₁.appenders hen₁) (h₂.appenders hen₂)
    (hs.not_appender cv₁.resolver _ _ _) (ht.not_appender cv₂.resolver _ _ _) h
  rw [happenders.length_eq] at hrest
  obtain ⟨hloggers, hst⟩ := forall₂_of_blocks
    (f := fun l k => Markup.chars (logger cv₁.resolver c₁.appenderNames l k))
    (g := fun l k => Markup.chars (logger cv₂.resolver c₂.appenderNames l k))
    (R := Config.Logger.Alike cv₁ cv₂ c₁.appenderNames c₂.appenderNames)
    logger_append_inj (prefix_logger cv₁.resolver _) (prefix_logger cv₂.resolver _) _
    (h₁.loggers hen₁) (h₂.loggers hen₂) hs.not_logger ht.not_logger hrest
  exact ⟨happenders, hloggers, hst⟩

/-- The statements of elements, which are left out if logging is off. -/
theorem statements_append_inj {c₁ c₂ : Configuration} (h₁ : Script.Accepted cv₁.engine c₁)
    (h₂ : Script.Accepted cv₂.engine c₂) (hen : c₁.enabled = c₂.enabled) (hs : NoDeclaration s)
    (ht : NoDeclaration t)
    (h : Markup.chars (if c₁.enabled then elements cv₁.resolver c₁ else []) ++ s =
      Markup.chars (if c₂.enabled then elements cv₂.resolver c₂ else []) ++ t) :
    (c₁.enabled = true →
      List.Forall₂ (Config.Appender.Alike cv₁ cv₂) c₁.appenders c₂.appenders ∧
        List.Forall₂ (Config.Logger.Alike cv₁ cv₂ c₁.appenderNames c₂.appenderNames)
          c₁.loggers c₂.loggers) ∧ s = t := by
  cases hen₁ : c₁.enabled with
  | false =>
    rw [hen₁] at hen
    rw [hen₁, ← hen] at h
    exact ⟨by simp, h⟩
  | true =>
    rw [hen₁] at hen
    rw [hen₁, ← hen] at h
    obtain ⟨happenders, hloggers, hst⟩ := elements_append_inj h₁ h₂ hen₁ hen.symm hs ht h
    exact ⟨fun _ => ⟨happenders, hloggers⟩, hst⟩

theorem quote_not_mem_global (c : Configuration) (q : Request) :
    ∀ a ∈ globalAttributes c q, '"' ∉ a.name.toList := by
  simp [globalAttributes, Configuration.attributes, Config.setting]

theorem globalOptions_append_inj {c₁ c₂ : Configuration} {q₁ q₂ : Request}
    (h₁ : ∀ a ∈ c₁.attributes, a.failure? cv₁.engine = none)
    (h₂ : ∀ a ∈ c₂.attributes, a.failure? cv₂.engine = none)
    (h : (globalOptions cv₁.resolver c₁ q₁).object.toList ++ s =
      (globalOptions cv₂.resolver c₂ q₂).object.toList ++ t) :
    q₁.userIp = q₂.userIp ∧ q₁.requestId = q₂.requestId ∧ c₁.enabled = c₂.enabled ∧
      List.Forall₂ (Attribute.Alike cv₁ cv₂) c₁.attributes c₂.attributes ∧ s = t := by
  have hacc₁ := globalAttributes_accepted q₁ h₁
  have hacc₂ := globalAttributes_accepted q₂ h₂
  rw [globalOptions_eq_options, globalOptions_eq_options] at h
  obtain ⟨hoptions, hst⟩ := Options.object_append_inj
    (isEntry_options (quote_not_mem_global c₁ q₁) hacc₁)
    (isEntry_options (quote_not_mem_global c₂ q₂) hacc₂) h
  have hnodup : ((globalAttributes c₁ q₁).map (·.name)).Nodup := by
    simp [globalAttributes, Configuration.attributes, Config.setting]
  have hall := alike_of_options_eq hacc₁ hacc₂ rfl hnodup hoptions
  have hwritten := Attribute.forall₂_written? hall hacc₁ hacc₂
  simp only [globalAttributes, List.cons_append, List.nil_append, List.forall₂_cons]
    at hall hwritten
  obtain ⟨-, -, -, hattributes⟩ := hall
  obtain ⟨hip, hid, hen, -⟩ := hwritten
  refine ⟨?_, ?_, ?_, hattributes, hst⟩
  · exact Value.text_eq_of_written?_eq (v := some q₁.userIp) (w := some q₂.userIp) (fun _ _ => rfl)
      hip
  · exact Value.text_eq_of_written?_eq (v := some q₁.requestId) (w := some q₂.requestId)
      (fun _ _ => rfl) hid
  · cases hb : c₁.enabled <;> cases hc : c₂.enabled <;>
      simp [Value.written?, Kind.write, Literal.ofBool, hb, hc] at hen ⊢

/-- The lines in front of the statements. -/
def beginning (closure : Bool) : List String :=
  ["<script type=\"text/javascript\">", "//<![CDATA["] ++
    if closure then ["var __jsnlog_configure = function (JL) \x7b"] else []

/-- The lines behind the statements that end the inline script. -/
def ending (closure : Bool) : List String :=
  (if closure then ["\x7d; try \x7b __jsnlog_configure(JL); \x7d catch(e) \x7b\x7d;"] else []) ++
    ["//]]>", "</script>"]

theorem beginning_append_inj {p q : Bool}
    (h : Markup.chars (beginning p) ++ ("JL.setOptions(".toList ++ s) =
      Markup.chars (beginning q) ++ ("JL.setOptions(".toList ++ t)) : p = q ∧ s = t := by
  cases p <;> cases q
  · exact ⟨rfl, List.append_cancel_left (List.append_cancel_left h)⟩
  · simp [beginning] at h
  · simp [beginning] at h
  · exact ⟨rfl, List.append_cancel_left (List.append_cancel_left h)⟩

theorem noDeclaration_ending (closure : Bool) (u : List Char) :
    NoDeclaration (Markup.chars (ending closure) ++ u) := by
  unfold NoDeclaration
  cases closure <;> simp [ending]

theorem references_chars_inj {u v : Option String}
    (h : Markup.chars (u.map reference).toList = Markup.chars (v.map reference).toList) :
    u = v := by
  cases u with
  | none =>
    cases v with
    | none => rfl
    | some v => simp at h
  | some u =>
    cases v with
    | none => simp at h
    | some v =>
      simp only [Option.map_some, Option.toList_some, Markup.chars_cons] at h
      rw [reference_inj (String.toList_inj.mp (List.append_cancel_right h))]

theorem chars_lines (r : Resolver) (c : Configuration) (q : Request) :
    Markup.chars (lines r c q) =
      Markup.chars (beginning q.closure) ++
      ("JL.setOptions(".toList ++ ((globalOptions r c q).object.toList ++ (");\n".toList ++
      (Markup.chars (if c.enabled then elements r c else []) ++
      (Markup.chars (ending q.closure) ++
        Markup.chars ((libraryUrl? r c).map reference).toList))))) := by
  have hset : Markup.chars ["JL.setOptions(" ++ (globalOptions r c q).object ++ ");"] =
      "JL.setOptions(".toList ++ ((globalOptions r c q).object.toList ++ ");\n".toList) := by
    simp only [Markup.chars_cons, Markup.chars_nil, String.toList_append, String.reduceToList,
      List.append_assoc, List.cons_append, List.nil_append]
  rw [lines, body, beginning, ending]
  simp only [Markup.chars_append, hset, List.append_assoc]

end Layout

namespace Script

/-- The elements of `repeatedName` written otherwise. -/
def rewrittenName : Configuration where
  maxMessages := some (.text " 5 ")
  defaultAjaxUrl := some (.text "")
  productionLibraryPath := some "/app/lib.js"
  appenders := [⟨"x", .console, { level := some (.text "") }⟩,
    ⟨"x", .ajax (some (.text "/log")), { level := some (.text "+3000") }⟩]
  loggers := [{ name := some "x", appenders := some (.list ["x", "x"]), onceOnly := some [] }]

/-- A script can be read in only one way: configurations that it is made of are alike. -/
theorem alike_of_compile {cv₁ cv₂ : Converter} {c₁ c₂ : Configuration} {q₁ q₂ : Request}
    {text : String} (h₁ : compile cv₁ c₁ q₁ = .ok text) (h₂ : compile cv₂ c₂ q₂ = .ok text) :
    Alike cv₁ cv₂ c₁ c₂ q₁ q₂ := by
  obtain ⟨hacc₁, htext₁⟩ := accepted_of_compile h₁
  obtain ⟨hacc₂, htext₂⟩ := accepted_of_compile h₂
  have h : Markup.chars (Layout.lines cv₁.resolver c₁ q₁) =
      Markup.chars (Layout.lines cv₂.resolver c₂ q₂) := by
    rw [← Markup.toList_ofLines, ← Markup.toList_ofLines, ← htext₁, ← htext₂]
  rw [Layout.chars_lines, Layout.chars_lines] at h
  obtain ⟨hclosure, hrest⟩ := Layout.beginning_append_inj h
  obtain ⟨hip, hid, hen, hattributes, hrest⟩ :=
    Layout.globalOptions_append_inj hacc₁.attributes hacc₂.attributes hrest
  replace hrest := List.append_cancel_left hrest
  obtain ⟨helements, htail⟩ := Layout.statements_append_inj hacc₁ hacc₂ hen
    (Layout.noDeclaration_ending _ _) (Layout.noDeclaration_ending _ _) hrest
  rw [hclosure] at htail
  have hlibrary := Layout.references_chars_inj (List.append_cancel_left htail)
  refine ⟨hclosure, hip, hid, hen, hattributes, ?_, fun he => (helements he).1,
    fun he => (helements he).2⟩
  rw [libraryUrl?_of_accepted cv₁.resolver hacc₁, libraryUrl?_of_accepted cv₂.resolver hacc₂,
    hlibrary]

theorem alike_of_compile_rewrittenName :
    compile ⟨Resolver.underRoot "/app", .refusing []⟩ repeatedName ⟨"<1>", "", false⟩ =
        .ok repeatedNameScript ∧
      compile .sample rewrittenName ⟨"<1>", "", false⟩ = .ok repeatedNameScript ∧
      Alike ⟨Resolver.underRoot "/app", .refusing []⟩ .sample repeatedName rewrittenName
        ⟨"<1>", "", false⟩ ⟨"<1>", "", false⟩ :=
  have h₁ : compile ⟨Resolver.underRoot "/app", .refusing []⟩ repeatedName ⟨"<1>", "", false⟩ =
      .ok repeatedNameScript := by decide +kernel
  have h₂ : compile .sample rewrittenName ⟨"<1>", "", false⟩ =
      .ok repeatedNameScript := by decide +kernel
  ⟨h₁, h₂, alike_of_compile h₁ h₂⟩

end Script

end LogScript
