import LogScript.Proofs.Layout

namespace LogScript.Script

open Config (Configuration)

theorem libraryUrl?_eq (r : Resolver) (g : Engine) (c : Configuration) (names : List String) :
    libraryUrl? r c =
      outcome (Check.first? g names (Check.ofLibrary c.productionLibraryPath))
        (Layout.libraryUrl? r c) := by
  unfold libraryUrl? Layout.libraryUrl?
  cases c.productionLibraryPath with
  | none => rfl
  | some path =>
    by_cases hblank : Text.trim path.toList = []
    · simp [Check.ofLibrary, hblank]
    · by_cases hurl : Url.isUrl path = true <;>
        simp [Check.ofLibrary, Check.first?_cons, Check.failure?, Url.absolute?_eq, hblank, hurl]

theorem globalOptions_eq (cv : Converter) (c : Configuration) (q : Request) (names : List String) :
    globalOptions cv c q =
      outcome (Check.first? cv.engine names
          (Check.ofSetting "maxMessages" .unsigned c.maxMessages ++
            Check.ofSetting "defaultAjaxUrl" .url c.defaultAjaxUrl))
        (Layout.globalOptions cv.resolver c q) := by
  have hchecks : Check.first? cv.engine names
      (Check.ofSetting "maxMessages" .unsigned c.maxMessages ++
        Check.ofSetting "defaultAjaxUrl" .url c.defaultAjaxUrl) =
      c.attributes.findSome? (Attribute.failure? cv.engine) := by
    simp [Configuration.attributes, Check.first?_ofSetting, findSome?_cons_eq_or]
  have hrequest : [(⟨"clientIp", .text, .scalar q.userIp⟩ : Attribute),
      ⟨"requestId", .text, .scalar q.requestId⟩].findSome?
        (Attribute.failure? cv.engine) = none := by
    by_cases hi : q.userIp = "" <;> by_cases hq : q.requestId = "" <;>
      simp [findSome?_cons_eq_or, Attribute.failure?, Value.texts, Kind.rejection?, hi, hq]
  rw [globalOptions, Options.ofAttributes_eq, hrequest, hchecks]
  simp only [outcome_none]
  cases h : c.attributes.findSome? (Attribute.failure? cv.engine) with
  | some e => simp [Options.pushAttributes_eq, h]
  | none =>
    rw [Options.pushAttributes_of_accepted cv _ h, outcome_none, Layout.globalOptions]
    by_cases hi : q.userIp = "" <;> by_cases hq : q.requestId = "" <;>
      simp [Options.pushBool, Options.push, Literal.ofBool, Attribute.option?, Value.written?,
        Kind.write, hi, hq]

/-- The checks of all elements, which are left out if logging is off. -/
theorem fst_elements (cv : Converter) (c : Configuration) :
    (elements cv c).1 =
      outcome (Check.first? cv.engine c.appenderNames (Check.ofElements c))
        (if c.enabled then Layout.elements cv.resolver c else []) := by
  unfold elements
  by_cases hen : c.enabled = true
  · have happ := Pass.fst_each_appender cv c.appenders
    simp only [if_pos hen, Check.first?_ofElements _ _ hen, Check.first?_ofAppender]
    cases hfail : c.appenders.findSome? fun a =>
      a.attributes.findSome? (Attribute.failure? cv.engine) with
    | some e =>
      rw [hfail, outcome_some] at happ
      generalize Pass.each (Pass.appender cv) c.appenders {} = first at happ ⊢
      obtain ⟨result, p⟩ := first
      cases happ
      rfl
    | none =>
      obtain ⟨hknows, hnext⟩ := Pass.snd_each_appender cv hfail
      rw [hfail, outcome_none] at happ
      generalize Pass.each (Pass.appender cv) c.appenders {} = first at happ hknows hnext ⊢
      obtain ⟨result, p⟩ := first
      cases happ
      have hlog := Pass.fst_each_logger cv hknows c.loggers
      rw [hnext] at hlog
      dsimp only
      generalize Pass.each (Pass.logger cv) c.loggers p = second at hlog ⊢
      obtain ⟨result, p'⟩ := second
      cases hlog
      rw [Option.none_or]
      simp only [Configuration.appenderNames, Layout.elements]
      cases c.loggers.findSome? fun l =>
        Check.first? cv.engine (c.appenders.map (·.name)) (Check.ofLogger l) <;> rfl
  · simp [Check.ofElements, hen]

/-- Elements are only reached if nothing before them fails. -/
theorem compileTold_eq (cv : Converter) (c : Configuration) (q : Request) :
    compileTold cv c q =
      match Check.first? cv.engine c.appenderNames (Check.beforeElements c) with
      | some e => (.error e, [])
      | none =>
        match elements cv c with
        | (.error e, p) => (.error e, p.log)
        | (.ok statements, p) =>
          (.ok (Markup.ofLines
            (lines q (Layout.globalOptions cv.resolver c q) statements
              (Layout.libraryUrl? cv.resolver c))),
            p.log ++ [.compiled p.next q.closure (Layout.libraryUrl? cv.resolver c).isSome]) := by
  rw [compileTold, libraryUrl?_eq cv.resolver cv.engine c c.appenderNames,
    globalOptions_eq cv c q c.appenderNames, Check.beforeElements, List.append_assoc,
    Check.first?_append cv.engine c.appenderNames (Check.ofLibrary c.productionLibraryPath)]
  cases Check.first? cv.engine c.appenderNames (Check.ofLibrary c.productionLibraryPath) with
  | some e => rfl
  | none =>
    rw [Option.none_or]
    cases Check.first? cv.engine c.appenderNames
      (Check.ofSetting "maxMessages" .unsigned c.maxMessages ++
        Check.ofSetting "defaultAjaxUrl" .url c.defaultAjaxUrl) <;> rfl

/-- A configuration has the error of its first check that fails, or else the script with the lines
of its layout. -/
theorem compile_eq (cv : Converter) (c : Configuration) (q : Request) :
    compile cv c q =
      outcome (Check.first? cv.engine c.appenderNames (Check.all c))
        (Markup.ofLines (Layout.lines cv.resolver c q)) := by
  have hlines : lines q (Layout.globalOptions cv.resolver c q)
      (if c.enabled then Layout.elements cv.resolver c else []) (Layout.libraryUrl? cv.resolver c) =
      Layout.lines cv.resolver c q := by
    simp only [lines, Layout.lines, Layout.body, List.append_assoc]
    rfl
  have hel := fst_elements cv c
  rw [Check.first?_all, compile, compileTold_eq, ← hlines]
  generalize Check.first? cv.engine c.appenderNames (Check.beforeElements c) = early
  generalize Check.first? cv.engine c.appenderNames (Check.ofElements c) = late at hel ⊢
  generalize elements cv c = result at hel ⊢
  obtain ⟨out, p⟩ := result
  cases hel
  cases early with
  | some e => rfl
  | none => cases late <;> rfl

/-- A configuration that passes all checks. Elements do not matter if logging is off. -/
structure Accepted (g : Engine) (c : Configuration) : Prop where
  library : Check.first? g c.appenderNames (Check.ofLibrary c.productionLibraryPath) = none
  attributes : ∀ a ∈ c.attributes, a.failure? g = none
  appenders : c.enabled = true → ∀ a ∈ c.appenders, ∀ x ∈ a.attributes, x.failure? g = none
  loggers : c.enabled = true → ∀ l ∈ c.loggers,
    (∀ n ∈ l.appenderNames.getD [], n ∈ c.appenderNames) ∧
      ∀ x ∈ l.attributes (Layout.references c.appenderNames l), x.failure? g = none

theorem accepted_of_first? {g : Engine} {c : Configuration}
    (h : Check.first? g c.appenderNames (Check.all c) = none) : Accepted g c := by
  simp only [Check.all, Check.first?_append, Option.or_eq_none_iff] at h
  obtain ⟨⟨⟨hlibrary, hmessages⟩, hurl⟩, helements⟩ := h
  rw [Check.first?_ofSetting] at hmessages hurl
  have hen : c.enabled = true →
      (∀ a ∈ c.appenders, a.attributes.findSome? (Attribute.failure? g) = none) ∧
        ∀ l ∈ c.loggers, Check.first? g c.appenderNames (Check.ofLogger l) = none := by
    intro hen
    simpa only [if_pos hen, Check.first?_append, Option.or_eq_none_iff, Check.first?_flatMap,
      Check.first?_ofAppender, List.findSome?_eq_none_iff] using helements
  refine ⟨hlibrary, ?_, fun he a ha => List.findSome?_eq_none_iff.mp ((hen he).1 a ha), ?_⟩
  · simp [Configuration.attributes, hmessages, hurl]
  · intro he l hl
    have hlogger := (hen he).2 l hl
    rw [Check.first?_ofLogger _ _ l (Layout.references_accepted g _ l),
      Option.or_eq_none_iff] at hlogger
    refine ⟨fun n hn => ?_, List.findSome?_eq_none_iff.mp hlogger.2⟩
    have hreference := List.findSome?_eq_none_iff.mp hlogger.1 (.reference l.scriptName n)
      (List.mem_map_of_mem hn)
    by_contra hmem
    simp [Check.failure?, hmem] at hreference

theorem Accepted.isUrl_path {g : Engine} {c : Configuration} (h : Accepted g c) {path : String}
    (hpath : c.productionLibraryPath = some path) (hblank : Text.trim path.toList ≠ []) :
    Url.isUrl path = true := by
  have hlibrary := h.library
  rw [hpath, Check.ofLibrary, if_neg hblank] at hlibrary
  simpa [Check.first?_cons, Check.failure?] using hlibrary

theorem libraryUrl?_of_accepted (r : Resolver) {g : Engine} {c : Configuration}
    (h : Accepted g c) : libraryUrl? r c = .ok (Layout.libraryUrl? r c) := by
  rw [libraryUrl?_eq r g c c.appenderNames, h.library, outcome_none]

theorem accepted_of_compile {cv : Converter} {c : Configuration} {q : Request} {text : String}
    (h : compile cv c q = .ok text) :
    Accepted cv.engine c ∧ text = Markup.ofLines (Layout.lines cv.resolver c q) := by
  rw [compile_eq, outcome_eq_ok_iff] at h
  exact ⟨accepted_of_first? h.1, h.2.symm⟩

/-- Two appenders of one name, and a logger that refers to the name twice. -/
def repeatedName : Configuration where
  maxMessages := some (.number (.integer 5))
  productionLibraryPath := some "~/lib.js"
  appenders := [⟨"x", .console, {}⟩,
    ⟨"x", .ajax (some (.text "/log")), { level := some (.text "info") }⟩]
  loggers := [{ name := some "x", appenders := some (.joined "x; x"), onceOnly := some [] }]

/-- Its script, where both references are to the second appender. -/
def repeatedNameScript : String :=
  "<script type=\"text/javascript\">\n//<![CDATA[\n" ++
  "JL.setOptions(\x7b\"clientIp\": \"\\u003c1\\u003e\",\n\"enabled\": true,\n" ++
  "\"maxMessages\": 5\x7d);\n" ++
  "var a0=JL.createConsoleAppender(\"x\");\na0.setOptions(\x7b\x7d);\n" ++
  "var a1=JL.createAjaxAppender(\"x\");\n" ++
  "a1.setOptions(\x7b\"level\": 3000,\n\"url\": \"/log\"\x7d);\n" ++
  "var logger2=JL(\"x\");\n" ++
  "logger2.setOptions(\x7b\"appenders\": [a1, a1],\n\"onceOnly\": []\x7d);\n" ++
  "//]]>\n</script>\n" ++
  "<script type=\"text/javascript\" src=\"/app/lib.js\"></script>\n"

/-- A script is made if and only if no check fails, and then it consists of the lines of the
layout. -/
theorem compile_ok_iff (cv : Converter) (c : Configuration) (q : Request) (text : String) :
    compile cv c q = .ok text ↔
      (∀ k ∈ Check.all c, k.failure? cv.engine c.appenderNames = none) ∧
        text = String.join ((Layout.lines cv.resolver c q).map (· ++ "\n")) := by
  rw [compile_eq, outcome_eq_ok_iff, Check.first?, List.findSome?_eq_none_iff]
  constructor
  · intro h
    exact ⟨h.1, h.2.symm⟩
  · intro h
    exact ⟨h.1, h.2.symm⟩

example : compile ⟨Resolver.underRoot "/app", .refusing []⟩ repeatedName ⟨"<1>", "", false⟩ =
    .ok repeatedNameScript := by
  decide +kernel

/-- A script cannot be made if and only if a check fails, and the error is that of the first check
that does. -/
theorem compile_error_iff (cv : Converter) (c : Configuration) (q : Request) :
    (∀ e, compile cv c q = .error e ↔
      ∃ before k after, Check.all c = before ++ k :: after ∧
        (∀ b ∈ before, b.failure? cv.engine c.appenderNames = none) ∧
        k.failure? cv.engine c.appenderNames = some e) ∧
    ((∃ e, compile cv c q = .error e) ↔
      ∃ k ∈ Check.all c, (k.failure? cv.engine c.appenderNames).isSome = true) := by
  have hfirst : ∀ e, compile cv c q = .error e ↔
      Check.first? cv.engine c.appenderNames (Check.all c) = some e := fun e => by
    rw [compile_eq, outcome_eq_error_iff]
  constructor
  · intro e
    rw [hfirst, Check.first?, List.findSome?_eq_some_iff]
    constructor
    · rintro ⟨before, k, after, hsplit, hk, hbefore⟩
      exact ⟨before, k, after, hsplit, hbefore, hk⟩
    · rintro ⟨before, k, after, hsplit, hbefore, hk⟩
      exact ⟨before, k, after, hsplit, hk, hbefore⟩
  · simp only [hfirst, ← Option.isSome_iff_exists]
    exact List.findSome?_isSome_iff

end LogScript.Script
