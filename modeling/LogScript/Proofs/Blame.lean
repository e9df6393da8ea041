import LogScript.Proofs.Compilation
import LogScript.Proofs.Runs

namespace LogScript

open Config (Configuration Appender Logger Scalar)

/-- An error that only the configuration can be blamed for. Under `appenders` it is about a name
that no appender has. -/
structure CompileError.BlamesConfiguration (e : CompileError) : Prop where
  cause : ∀ s, e.cause? ≠ some (.invalidIdentifier s)
  dangling : e.field = "appenders" → ∃ logger appender, e = .danglingAppender logger appender

theorem Kind.rejection?_ne_invalidIdentifier {g : Engine} {k : Kind} {s : String}
    {x : Rejection} (hk : k ≠ .identifier) (h : k.rejection? g s = some x) (t : String) :
    x ≠ .invalidIdentifier t := by
  rintro rfl
  cases k with
  | identifier => exact hk rfl
  | text => cases h
  | _ => simp [rejection?] at h

namespace CompileError

theorem blamesConfiguration_field {g : Engine} {name : String} {k : Kind} {s : String}
    {x : Rejection} (hname : name ≠ "appenders") (hk : k ≠ .identifier)
    (h : k.rejection? g s = some x) : BlamesConfiguration (.invalidField name x) where
  cause t hx := Kind.rejection?_ne_invalidIdentifier hk h t (Option.some.inj hx)
  dangling hfield := absurd hfield hname

theorem blamesConfiguration_dangling (logger appender : String) :
    BlamesConfiguration (.danglingAppender logger appender) where
  cause _ h := nomatch h
  dangling _ := ⟨logger, appender, rfl⟩

end CompileError

namespace Check

/-- A check of a text that stands in the configuration. -/
def IsOfText : Check → Prop
  | field name k _ => name ≠ "appenders" ∧ k ≠ .identifier
  | _ => True

theorem blamesConfiguration_of_failure? {g : Engine} {names : List String} {k : Check}
    {e : CompileError} (hk : k.IsOfText) (h : k.failure? g names = some e) :
    e.BlamesConfiguration := by
  cases k with
  | library path =>
    rw [failure?] at h
    split at h
    next => cases h
    next =>
      cases h
      refine ⟨fun t hx => ?_, fun hfield => ?_⟩
      · cases hx
      · exact absurd hfield (show "productionLibraryPath" ≠ "appenders" by decide)
  | field name k s =>
    obtain ⟨x, hx, rfl⟩ := Option.map_eq_some_iff.mp h
    exact CompileError.blamesConfiguration_field hk.1 hk.2 hx
  | reference logger appender =>
    rw [failure?] at h
    split at h
    next => cases h
    next =>
      cases h
      exact CompileError.blamesConfiguration_dangling logger appender

theorem isOfText_ofSetting {name : String} {k : Kind} (hname : name ≠ "appenders")
    (hk : k ≠ .identifier) (v : Option Scalar) : ∀ x ∈ ofSetting name k v, x.IsOfText := by
  intro x hx
  unfold ofSetting at hx
  split at hx
  next => cases hx
  next =>
    split at hx
    next => cases hx
    next =>
      rw [List.mem_singleton.mp hx]
      exact ⟨hname, hk⟩

theorem isOfText_ofAppender (a : Appender) : ∀ x ∈ ofAppender a, x.IsOfText := by
  simp only [ofAppender, List.forall_mem_append]
  constructor
  · refine ⟨⟨⟨⟨⟨⟨⟨?_, ?_⟩, ?_⟩, ?_⟩, ?_⟩, ?_⟩, ?_⟩, ?_⟩
    all_goals exact isOfText_ofSetting (by decide) (by decide) _
  · cases a.target with
    | ajax url => exact isOfText_ofSetting (by decide) (by decide) url
    | console => exact List.forall_mem_nil _

theorem isOfText_ofLogger (l : Logger) : ∀ x ∈ ofLogger l, x.IsOfText := by
  have hreferences : ∀ x ∈ (l.appenderNames.getD []).map (reference (l.name.getD "")),
      x.IsOfText := by
    intro x hx
    obtain ⟨n, -, rfl⟩ := List.mem_map.mp hx
    trivial
  have honce : ∀ x ∈ (l.onceOnly.getD []).map (field "onceOnly" .pattern), x.IsOfText := by
    intro x hx
    obtain ⟨s, -, rfl⟩ := List.mem_map.mp hx
    exact ⟨by decide, by decide⟩
  simp only [ofLogger, List.forall_mem_append]
  refine ⟨⟨⟨⟨⟨hreferences, ?_⟩, ?_⟩, ?_⟩, ?_⟩, honce⟩
  all_goals exact isOfText_ofSetting (by decide) (by decide) _

theorem isOfText_all (c : Configuration) : ∀ x ∈ all c, x.IsOfText := by
  have hlibrary : ∀ x ∈ ofLibrary c.productionLibraryPath, x.IsOfText := by
    intro x hx
    unfold ofLibrary at hx
    split at hx
    next => cases hx
    next =>
      split at hx
      next => cases hx
      next =>
        rw [List.mem_singleton.mp hx]
        trivial
  have helements : ∀ x ∈ (if c.enabled then
      c.appenders.flatMap ofAppender ++ c.loggers.flatMap ofLogger else []), x.IsOfText := by
    intro x hx
    split at hx
    next =>
      rcases List.mem_append.mp hx with hx | hx
      · obtain ⟨a, -, hx⟩ := List.mem_flatMap.mp hx
        exact isOfText_ofAppender a x hx
      · obtain ⟨l, -, hx⟩ := List.mem_flatMap.mp hx
        exact isOfText_ofLogger l x hx
    next => cases hx
  simp only [all, List.forall_mem_append]
  refine ⟨⟨⟨hlibrary, ?_⟩, ?_⟩, helements⟩
  all_goals exact isOfText_ofSetting (by decide) (by decide) _

end Check

theorem Script.blamesConfiguration_of_compile {cv : Converter} {c : Configuration} {q : Request}
    {e : CompileError} (h : compile cv c q = .error e) : e.BlamesConfiguration := by
  rw [compile_eq, outcome_eq_error_iff] at h
  obtain ⟨k, hk, hfail⟩ := List.exists_of_findSome?_eq_some h
  exact Check.blamesConfiguration_of_failure? (Check.isOfText_all c k hk) hfail

/-- Every name of an appender stands for an identifier. -/
def Names.Valid (t : Names) : Prop :=
  ∀ name ident, t.find? .appender name = some ident → Identifier.isIdentifier ident = true

namespace Options

theorem blamesConfiguration_of_ofAttributes {cv : Converter} {as : List Attribute}
    {e : CompileError}
    (has : ∀ a ∈ as, a.failure? cv.engine ≠ none → a.name ≠ "appenders" ∧ a.kind ≠ .identifier)
    (h : ofAttributes cv as = .error e) : e.BlamesConfiguration := by
  rw [ofAttributes_eq, outcome_eq_error_iff] at h
  obtain ⟨a, ha, hfail⟩ := List.exists_of_findSome?_eq_some h
  obtain ⟨hname, hkind⟩ := has a ha (by rw [hfail]; exact Option.some_ne_none e)
  obtain ⟨x, hx, rfl⟩ := Option.map_eq_some_iff.mp hfail
  obtain ⟨s, -, hs⟩ := List.exists_of_findSome?_eq_some hx
  exact CompileError.blamesConfiguration_field hname hkind hs

end Options

namespace Pass

theorem valid_reached (steps : List Step) : (reached steps).names.Valid := by
  intro name ident h
  obtain ⟨k, -, rfl⟩ := find?_reached_eq_some_iff.mp h
  exact ElementKind.isIdentifier_ident _ k

theorem resolve_of_error {t : Names} {logger : String} {ns : List String} {e : CompileError}
    (h : resolve t logger ns = .error e) : ∃ n, e = .danglingAppender logger n := by
  induction ns with
  | nil => cases h
  | cons n ns ih =>
    rw [resolve] at h
    split at h
    next =>
      cases h
      exact ⟨n, rfl⟩
    next ident _ =>
      cases hrest : resolve t logger ns with
      | error x =>
        rw [hrest] at h
        cases h
        exact ih hrest
      | ok idents =>
        rw [hrest] at h
        cases h

theorem appendersOf_of_error {t : Names} {l : Logger} {e : CompileError}
    (h : appendersOf t l = .error e) : ∃ n, e = .danglingAppender l.scriptName n := by
  unfold appendersOf at h
  split at h
  next => cases h
  next ns _ =>
    cases hres : resolve t l.scriptName ns with
    | error x =>
      rw [hres] at h
      cases h
      exact resolve_of_error hres
    | ok idents =>
      rw [hres] at h
      cases h

/-- What stands for the appenders of a logger comes from the table alone. -/
theorem appendersOf_accepted (g : Engine) {t : Names} {l : Logger} {v : Value} (ht : t.Valid)
    (h : appendersOf t l = .ok v) : v.texts.findSome? (Kind.identifier.rejection? g) = none := by
  rw [List.findSome?_eq_none_iff]
  intro s hs
  rcases appendersOf_of_ok h with ⟨-, rfl⟩ | ⟨ns, idents, -, rfl, hidents⟩
  · cases hs
  · have hboth := hidents.flip.imp fun ident n hn => And.intro (ht n ident hn) hn
    have hident := ((List.forall₂_and_left idents ns).mp hboth).1 s hs
    simp [Kind.rejection?, hident]

theorem blamesConfiguration_of_loggerOptions {cv : Converter} {t : Names} {l : Logger}
    {e : CompileError} (ht : t.Valid) (h : loggerOptions cv t l = .error e) :
    e.BlamesConfiguration := by
  unfold loggerOptions at h
  split at h
  next x hx =>
    cases h
    obtain ⟨n, rfl⟩ := appendersOf_of_error hx
    exact CompileError.blamesConfiguration_dangling _ n
  next v hv =>
    refine Options.blamesConfiguration_of_ofAttributes (fun a ha hfail => ?_) h
    simp only [Logger.attributes, List.mem_cons, List.not_mem_nil, or_false] at ha
    rcases ha with rfl | rfl | rfl | rfl | rfl | rfl
    · exact absurd (by rw [Attribute.failure?, appendersOf_accepted cv.engine ht hv]; rfl) hfail
    all_goals exact ⟨by simp [Config.setting], by simp [Config.setting]⟩

theorem blamesConfiguration_of_appender {cv : Converter} {a : Appender} {p : Pass}
    {e : CompileError} (h : (Pass.appender cv a p).1 = .error e) : e.BlamesConfiguration := by
  rw [fst_appender, outcome_eq_error_iff, ← Check.first?_ofAppender cv.engine []] at h
  obtain ⟨k, hk, hfail⟩ := List.exists_of_findSome?_eq_some h
  exact Check.blamesConfiguration_of_failure? (Check.isOfText_ofAppender a k hk) hfail

theorem blamesConfiguration_of_perform {s : Step} {p : Pass} {e : CompileError}
    (hp : p.names.Valid) (h : (s.perform p).1 = .error e) : e.BlamesConfiguration := by
  cases s with
  | appender cv a => exact blamesConfiguration_of_appender h
  | logger cv l =>
    change (Pass.logger cv l p).1 = .error e at h
    rw [Pass.logger] at h
    split at h
    next x hx =>
      cases h
      exact blamesConfiguration_of_loggerOptions hp hx
    next => cases h
  | advance => cases h

/-- No error is about a variable of the script, whether it ends a compilation or a step after any
others, and what stands for the appenders of a logger always passes its check. -/
theorem error_blames_configuration :
    (∀ (cv : Converter) (c : Configuration) (q : Request) (e : CompileError),
      Script.compile cv c q = .error e → e.BlamesConfiguration) ∧
    (∀ (steps : List Step) (s : Step) (e : CompileError),
      (s.perform (reached steps)).1 = .error e → e.BlamesConfiguration) ∧
    ∀ (steps : List Step) (cv : Converter) (l : Logger) (v : Value),
      appendersOf (reached steps).names l = .ok v →
        ∃ literal, v.literal? cv .identifier = .ok literal := by
  refine ⟨fun cv c q e h => Script.blamesConfiguration_of_compile h,
    fun steps s e h => blamesConfiguration_of_perform (valid_reached steps) h,
    fun steps cv l v h => ⟨v.written? cv.resolver .identifier, ?_⟩⟩
  rw [Value.literal?_eq, appendersOf_accepted cv.engine (valid_reached steps) h, outcome_none]

/-- An appender of the name fails before another one is written, and a logger of the name after
it. -/
def troubled : List Step :=
  [.appender .sample ⟨"x", .console, { level := some (.text "LOUD") }⟩,
   .appender .sample ⟨"x", .console, {}⟩,
   .logger .sample { name := some "x", appenders := some (.list ["y"]) }]

theorem error_blames_configuration_troubled :
    (Script.compile .sample { loggers := [{ appenders := some (.list ["x"]) }] } {} =
        .error (.danglingAppender "" "x") ∧
      (CompileError.danglingAppender "" "x").BlamesConfiguration) ∧
    (((Step.logger .sample
        { appenders := some (.joined "x;"), ipRegex := some (.text "(") }).perform
        (reached troubled)).1 = .error (.invalidField "ipRegex" (.invalidPattern "(" unclosed)) ∧
      (CompileError.invalidField "ipRegex" (.invalidPattern "(" unclosed)).BlamesConfiguration) ∧
    (appendersOf (reached troubled).names { appenders := some (.joined "x; x") } =
        .ok (.list ["a1", "a1"]) ∧
      ∃ literal, (Value.list ["a1", "a1"]).literal? .sample .identifier = .ok literal) := by
  have hcompile : Script.compile .sample { loggers := [{ appenders := some (.list ["x"]) }] } {} =
      .error (.danglingAppender "" "x") := by decide +kernel
  have hstep : ((Step.logger .sample
      { appenders := some (.joined "x;"), ipRegex := some (.text "(") }).perform
        (reached troubled)).1 =
      .error (.invalidField "ipRegex" (.invalidPattern "(" unclosed)) := by
    decide +kernel
  have hvalue : appendersOf (reached troubled).names { appenders := some (.joined "x; x") } =
      .ok (.list ["a1", "a1"]) := by decide +kernel
  exact ⟨⟨hcompile, error_blames_configuration.1 _ _ _ _ hcompile⟩,
    ⟨hstep, error_blames_configuration.2.1 _ _ _ hstep⟩,
    ⟨hvalue, error_blames_configuration.2.2 _ _ _ _ hvalue⟩⟩

end Pass

end LogScript
