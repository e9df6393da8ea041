import LogScript.Proofs.CommandLines
import LogScript.Proofs.Conversion
import LogScript.Proofs.FileWriting

namespace LogScript.Command

open Config (Configuration)

/-- The script of the configuration in a file, or why there is none. -/
def Arguments.script (host : Host) (t : Files) (a : Arguments) : Except Failure String :=
  match t.read a.config with
  | .error e => .error (.unreadable a.config e)
  | .ok text =>
    match Configuration.ofJson text with
    | .error e => .error (.misread a.config e (host.position text))
    | .ok c =>
      match Script.compile (Program.converter host a) c (Program.request a) with
      | .error e => .error (.uncompiled a.config e)
      | .ok script => .ok script

namespace Program

variable {host : Host} {t : Files}

/-- A command succeeds with a text shown, and leaves the files as they were. -/
structure Shows (t : Files) (text : String) (r : Files × Ending) : Prop where
  code : r.2.code = 0
  output : r.2.output = text
  files : r.1 = t

/-- A command succeeds with nothing shown and with a text in the file at a path, and leaves all
other files as they were. -/
structure Writes (t : Files) (path text : String) (r : Files × Ending) : Prop where
  code : r.2.code = 0
  output : r.2.output = ""
  read : r.1.read path = .ok text
  files : ∃ place, t.CanWrite path place ∧ r.1.find? place = some text.toUTF8 ∧
    ∀ other ≠ place, r.1.find? other = t.find? other

/-- A command fails with nothing shown, and leaves the files as they were. -/
structure Fails (t : Files) (r : Files × Ending) : Prop where
  code : r.2.code = 1
  output : r.2.output = ""
  files : r.1 = t

variable {a : Arguments} {c : Configuration} {text script path : String} {f : Failure}

theorem ofArguments_read {e : FileError} (h : t.read a.config = .error e) :
    (ofArguments host a).run t =
      (t, { verbose := a.verbose, failure := some (.unreadable a.config e) }) := by
  rw [ofArguments, run, h]
  rfl

theorem run_ofArguments (h : t.read a.config = .ok text) :
    (ofArguments host a).run t = (compile host a text).run t := by
  rw [ofArguments, run, h]

theorem compile_misread {e : Config.ReadError} (h : Configuration.ofJson text = .error e) :
    compile host a text = done
      { verbose := a.verbose, failure := some (.misread a.config e (host.position text)) } := by
  rw [compile, h]

def events (host : Host) (a : Arguments) (c : Configuration) : List Event :=
  (Script.compileTold (converter host a) c (request a)).2

theorem compile_uncompiled {e : CompileError} (hjson : Configuration.ofJson text = .ok c)
    (h : Script.compile (converter host a) c (request a) = .error e) :
    compile host a text = done
      { log := events host a c
        verbose := a.verbose
        failure := some (.uncompiled a.config e) } := by
  have hpair : Script.compileTold (converter host a) c (request a) =
      (.error e, events host a c) := Prod.ext h rfl
  rw [compile, hjson]
  simp only [hpair]

theorem compile_compiled (hjson : Configuration.ofJson text = .ok c)
    (h : Script.compile (converter host a) c (request a) = .ok script) :
    compile host a text = finish a script (events host a c) := by
  have hpair : Script.compileTold (converter host a) c (request a) =
      (.ok script, events host a c) := Prod.ext h rfl
  rw [compile, hjson]
  simp only [hpair]

/-- Whether the script is shown, written or only checked is decided when it has been made. -/
theorem run_of_script (h : a.script host t = .ok script) :
    ∃ log, ∀ action, (ofArguments host (a.asking action)).run t =
      (finish (a.asking action) script log).run t := by
  unfold Arguments.script at h
  split at h
  next => cases h
  next text hread =>
    split at h
    next => cases h
    next c hjson =>
      split at h
      next => cases h
      next s hcompile =>
        cases h
        refine ⟨events host a c, fun action => ?_⟩
        have hrun : (ofArguments host (a.asking action)).run t =
            (compile host (a.asking action) text).run t := run_ofArguments hread
        have hcompiled := compile_compiled (a := a.asking action) hjson hcompile
        rw [hrun, hcompiled]
        rfl

theorem run_of_failure (h : a.script host t = .error f) :
    ∃ log, ∀ action, (ofArguments host (a.asking action)).run t =
      (t, { log := log, verbose := a.verbose, failure := some f }) := by
  unfold Arguments.script at h
  split at h
  next e hread =>
    cases h
    exact ⟨[], fun action => ofArguments_read hread⟩
  next text hread =>
    split at h
    next e hjson =>
      cases h
      refine ⟨[], fun action => ?_⟩
      have hrun : (ofArguments host (a.asking action)).run t =
          (compile host (a.asking action) text).run t := run_ofArguments hread
      rw [hrun, compile_misread hjson]
      rfl
    next c hjson =>
      split at h
      next e hcompile =>
        cases h
        refine ⟨events host a c, fun action => ?_⟩
        have hrun : (ofArguments host (a.asking action)).run t =
            (compile host (a.asking action) text).run t := run_ofArguments hread
        have huncompiled := compile_uncompiled (a := a.asking action) hjson hcompile
        rw [hrun, huncompiled]
        rfl
      next => cases h

theorem finish_shown (h : a.action = .compile none) (log : List Event) :
    Shows t script ((finish a script log).run t) := by
  rw [finish, h]
  exact ⟨rfl, rfl, rfl⟩

theorem finish_checked (h : a.action = .check) (log : List Event) :
    Shows t (a.config ++ ": ok\n") ((finish a script log).run t) := by
  rw [finish, h]
  exact ⟨rfl, rfl, rfl⟩

theorem finish_written {place : List String} (h : a.action = .compile (some path))
    (hplace : t.CanWrite path place) (log : List Event) :
    Writes t path script ((finish a script log).run t) := by
  have hrun : (finish a script log).run t = (t.put place script.toUTF8,
      { log := log ++ [.wrote path], verbose := a.verbose }) := by
    rw [finish, h]
    simp only [run, Files.write_of_canWrite hplace]
  rw [hrun]
  have hread := Files.read_put hplace script
  have hcontent := Files.find?_put_self t place script.toUTF8
  exact ⟨rfl, rfl, hread, place, hplace, hcontent,
    fun other hother => Files.find?_put_of_ne t script.toUTF8 hother⟩

theorem finish_unwritable (h : a.action = .compile (some path))
    (hplace : ¬ ∃ place, t.CanWrite path place) (log : List Event) :
    Fails t ((finish a script log).run t) := by
  cases hwrite : t.write path script with
  | ok t' => exact absurd (Files.canWrite_of_write hwrite) hplace
  | error e =>
    have hrun : (finish a script log).run t =
        (t, { log := log, verbose := a.verbose, failure := some (.unwritable path e) }) := by
      rw [finish, h]
      simp only [run, hwrite]
    rw [hrun]
    exact ⟨rfl, rfl, rfl⟩

/-- The options of a check are those of a script, and a script may be given a place besides them.
A check succeeds if there is a script; what is shown and what is written is this script. If there is
none, all of them fail alike. -/
theorem commands_agree (host : Host) (t : Files) (a : Arguments) :
    (∀ (front : Option String) (options : List String),
      (∀ w ∈ front, Arguments.isVerbose w = true) →
      (Arguments.ofWords? (front.toList ++ "check" :: options) = some (a.asking .check) ↔
        ∀ place words, GoesTo place words →
          Arguments.ofWords? (front.toList ++ "compile" :: (words ++ options)) =
            some (a.asking (.compile place)))) ∧
    match a.script host t with
    | .ok script =>
      Shows t script ((ofArguments host (a.asking (.compile none))).run t) ∧
      Shows t (a.config ++ ": ok\n") ((ofArguments host (a.asking .check)).run t) ∧
      ∀ path,
        Writes t path script ((ofArguments host (a.asking (.compile (some path)))).run t) ∨
        (¬ ∃ place, t.CanWrite path place) ∧
          Fails t ((ofArguments host (a.asking (.compile (some path)))).run t)
    | .error f =>
      ∃ r, Fails t r ∧ r.2.report = f.report ∧
        ∀ action, (ofArguments host (a.asking action)).run t = r := by
  constructor
  · intro front options hfront
    have hcompile : Arguments.isVerbose "compile" = false := by decide +kernel
    have hcheck : Arguments.isVerbose "check" = false := by decide +kernel
    rw [Arguments.ofWords?_eq hfront hcheck]
    constructor
    · intro h place words hplace
      rw [Arguments.ofWords?_eq hfront hcompile]
      exact Arguments.ofAction?_compile_of_check hplace h
    · intro h
      have hshown := h none [] .shown
      rw [Arguments.ofWords?_eq hfront hcompile] at hshown
      exact Arguments.ofAction?_check_of_compile hshown
  · split
    next script hscript =>
      obtain ⟨log, hrun⟩ := run_of_script hscript
      refine ⟨?_, ?_, fun path => ?_⟩
      · rw [hrun]
        exact finish_shown rfl log
      · rw [hrun]
        exact finish_checked (a := a.asking .check) rfl log
      · rw [hrun]
        by_cases hplace : ∃ place, t.CanWrite path place
        · obtain ⟨place, hplace⟩ := hplace
          exact Or.inl (finish_written rfl hplace log)
        · exact Or.inr ⟨hplace, finish_unwritable rfl hplace log⟩
    next f hfailure =>
      obtain ⟨log, hrun⟩ := run_of_failure hfailure
      exact ⟨_, ⟨rfl, rfl, rfl⟩, rfl, hrun⟩

/-- A configuration of one logger, a text with too many brackets, and a configuration with a pattern
that is none. -/
def oneLoggerFiles : Files where
  entries := [(["log.json"], "\x7b\"loggers\": [\x7b\"name\": \"a\"\x7d]\x7d".toUTF8),
    (["old", "log.json"], "[]]".toUTF8),
    (["ip.json"], "\x7b\"loggers\": [\x7b\"ipRegex\": \"(\"\x7d]\x7d".toUTF8)]

/-- What is known of the pattern and of the text with too many brackets. -/
def oneLoggerHost : Host where
  engine := .refusing [("(", unclosed)]
  position := fun s => List.lookup s [("[]]", ⟨1, 3⟩)]

/-- What is asked of one of them. -/
def bareRequest (config : String) : Arguments where
  action := .check
  config := config
  userIp := ""
  requestId := ""
  closure := false
  appRoot := "/"
  verbose := true

def oneLoggerScript : String :=
  "<script type=\"text/javascript\">\n//<![CDATA[\nJL.setOptions(\x7b\"enabled\": true\x7d);\n" ++
    "var logger0=JL(\"a\");\nlogger0.setOptions(\x7b\x7d);\n//]]>\n</script>\n"

def tooManyBrackets : String :=
  "Error: in config file old/log.json\n\nCaused by:\n    0: parse jsnlog configuration\n" ++
    "    1: trailing characters at line 1 column 3\n"

def refusedPattern : String :=
  "Error: compile ip.json\n\nCaused by:\n    0: invalid value for field \"ipRegex\": " ++
    "\"(\" is not a valid regular expression: " ++ unclosed ++ "\n    1: " ++
    "\"(\" is not a valid regular expression: " ++ unclosed ++ "\n"

/-- The configuration itself may be written over. -/
theorem commands_agree_oneLogger :
    Arguments.ofWords? ["-v", "compile", "-o", "log.json", "--config", "log.json", "--no-closure"] =
      some ((bareRequest "log.json").asking (.compile (some "log.json"))) ∧
    Writes oneLoggerFiles "log.json" oneLoggerScript
      ((ofArguments oneLoggerHost ((bareRequest "log.json").asking
        (.compile (some "log.json")))).run oneLoggerFiles) ∧
    Fails oneLoggerFiles ((ofArguments oneLoggerHost ((bareRequest "log.json").asking
      (.compile (some "new/log.html")))).run oneLoggerFiles) ∧
    (∃ r, Fails oneLoggerFiles r ∧ r.2.report = tooManyBrackets ∧
      ∀ action, (ofArguments oneLoggerHost ((bareRequest "old/log.json").asking action)).run
        oneLoggerFiles = r) ∧
    ∃ r, Fails oneLoggerFiles r ∧ r.2.report = refusedPattern ∧
      ∀ action, (ofArguments oneLoggerHost ((bareRequest "ip.json").asking action)).run
        oneLoggerFiles = r := by
  have hwords := (commands_agree oneLoggerHost oneLoggerFiles (bareRequest "log.json")).1
    (some "-v") ["--config", "log.json", "--no-closure"] (by decide +kernel)
  have hcheck : Arguments.ofWords? ["-v", "check", "--config", "log.json", "--no-closure"] =
      some ((bareRequest "log.json").asking .check) := by
    decide +kernel
  have hscript : (bareRequest "log.json").script oneLoggerHost oneLoggerFiles =
      .ok oneLoggerScript := by
    decide +kernel
  have hmisread : (bareRequest "old/log.json").script oneLoggerHost oneLoggerFiles =
      .error (.misread "old/log.json" (.malformed .trailingCharacters) (some ⟨1, 3⟩)) := by
    decide +kernel
  have hrefused : (bareRequest "ip.json").script oneLoggerHost oneLoggerFiles =
      .error (.uncompiled "ip.json" (.invalidField "ipRegex" (.invalidPattern "(" unclosed))) := by
    decide +kernel
  have hgood := (commands_agree oneLoggerHost oneLoggerFiles (bareRequest "log.json")).2
  have hbrackets := (commands_agree oneLoggerHost oneLoggerFiles (bareRequest "old/log.json")).2
  have hpattern := (commands_agree oneLoggerHost oneLoggerFiles (bareRequest "ip.json")).2
  rw [hscript] at hgood
  rw [hmisread] at hbrackets
  rw [hrefused] at hpattern
  refine ⟨hwords.mp hcheck (some "log.json") ["-o", "log.json"] (.shortApart (by decide +kernel)),
    ?_, ?_, ?_, ?_⟩
  · rcases hgood.2.2 "log.json" with hwritten | ⟨hplace, -⟩
    · exact hwritten
    · exact absurd ⟨["log.json"], by decide +kernel, by decide +kernel, by decide +kernel,
        by decide +kernel⟩ hplace
  · rcases hgood.2.2 "new/log.html" with hwritten | ⟨-, hfails⟩
    · obtain ⟨place, hplace, -⟩ := hwritten.files
      have hmissing : oneLoggerFiles.follow (Files.start "new/log.html")
          (Files.names "new/log.html") = .error .notFound := by
        decide +kernel
      rw [hplace.leads] at hmissing
      cases hmissing
    · exact hfails
  · obtain ⟨r, hfails, hreport, hrun⟩ := hbrackets
    exact ⟨r, hfails, hreport.trans (by decide +kernel), hrun⟩
  · obtain ⟨r, hfails, hreport, hrun⟩ := hpattern
    exact ⟨r, hfails, hreport.trans (by decide +kernel), hrun⟩

end Program

end LogScript.Command
