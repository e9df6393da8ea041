import LogScript.Proofs.Layout
import LogScript.Proofs.Likeness
import Mathlib.Data.Nat.Find

namespace LogScript

open Config (Appender Logger)

namespace Pass

/-- What can be done with a pass. Each step may have a resolver of its own. -/
inductive Step where
  | appender (cv : Converter) (a : Appender)
  | logger (cv : Converter) (l : Logger)
  /-- Takes a number that no element gets. -/
  | advance

/-- The statements that a step writes, and the pass after it. -/
def Step.perform : Step → Pass → Except CompileError (List String) × Pass
  | appender cv a, p => Pass.appender cv a p
  | logger cv l, p => Pass.logger cv l p
  | advance, p => (.ok [], p.advance)

/-- The pass after steps that begin with an empty table and the number zero. -/
def reached (steps : List Step) : Pass := steps.foldl (fun p s => (s.perform p).2) {}

/-- The step at a position does not fail, and writes these statements. -/
def Writes (steps : List Step) (k : Nat) (s : Step) (statements : List String) : Prop :=
  steps[k]? = some s ∧ (s.perform (reached (steps.take k))).1 = .ok statements

/-- The first of some statements declares a variable. -/
def Declares (statements : List String) (ident : String) : Prop :=
  ∃ value more, statements = ("var " ++ ident ++ "=" ++ value ++ ";") :: more ∧
    '=' ∉ ident.toList

/-- The step at a position declares a variable. -/
def DeclaredAt (steps : List Step) (k : Nat) (ident : String) : Prop :=
  ∃ s statements, Writes steps k s statements ∧ Declares statements ident

/-- The step at a position writes an appender of a name. -/
def NamedAt (steps : List Step) (k : Nat) (name : String) : Prop :=
  ∃ cv a statements, Writes steps k (.appender cv a) statements ∧ a.name = name

/-- The last of the steps that write an appender of a name. -/
def LastNamedAt (steps : List Step) (k : Nat) (name : String) : Prop :=
  NamedAt steps k name ∧ ∀ j, k < j → ¬NamedAt steps j name

theorem reached_concat (steps : List Step) (s : Step) :
    reached (steps ++ [s]) = (s.perform (reached steps)).2 := by
  rw [reached, List.foldl_append, ← reached]
  rfl

theorem next_perform (s : Step) (p : Pass) : (s.perform p).2.next = p.next + 1 := by
  cases s with
  | appender cv a => exact next_appender cv a p
  | logger cv l => exact next_logger cv l p
  | advance => rfl

theorem appender_of_error {cv : Converter} {a : Appender} {p : Pass} {e : CompileError}
    (h : (appender cv a p).1 = .error e) : (appender cv a p).2 = p.advance := by
  rw [appender] at h ⊢
  split at h
  next => rfl
  next => cases h

theorem logger_of_error {cv : Converter} {l : Logger} {p : Pass} {e : CompileError}
    (h : (logger cv l p).1 = .error e) : (logger cv l p).2 = p.advance := by
  rw [logger] at h ⊢
  split at h
  next => rfl
  next => cases h

/-- A step that fails takes its number and does nothing else. -/
theorem perform_of_error {s : Step} {p : Pass} {e : CompileError}
    (h : (s.perform p).1 = .error e) : (s.perform p).2 = p.advance := by
  cases s with
  | appender cv a => exact appender_of_error h
  | logger cv l => exact logger_of_error h
  | advance => cases h

theorem find?_logger (cv : Converter) (l : Logger) (p : Pass) (name : String) :
    (logger cv l p).2.names.find? .appender name = p.names.find? .appender name := by
  rw [logger]
  split
  next => rfl
  next => exact Names.find?_register_of_kind_ne (show ElementKind.appender ≠ .logger by decide)

theorem appender_of_ok {cv : Converter} {a : Appender} {p : Pass} {statements : List String}
    (h : (appender cv a p).1 = .ok statements) :
    statements = Layout.appender cv.resolver a p.next ∧
      (appender cv a p).2.names =
        p.names.register .appender a.name (ElementKind.appender.ident p.next) := by
  rw [fst_appender, outcome_eq_ok_iff] at h
  exact ⟨h.2.symm, names_appender cv p h.1⟩

/-- A step changes the appender of a name only by writing an appender of this name. -/
theorem find?_perform (s : Step) (p : Pass) (name : String) :
    (∃ cv a statements, s = .appender cv a ∧ (s.perform p).1 = .ok statements ∧ a.name = name) ∧
        (s.perform p).2.names.find? .appender name =
          some (ElementKind.appender.ident p.next) ∨
      (¬∃ cv a statements, s = .appender cv a ∧ (s.perform p).1 = .ok statements ∧ a.name = name) ∧
        (s.perform p).2.names.find? .appender name = p.names.find? .appender name := by
  cases s with
  | appender cv a =>
    cases h : (appender cv a p).1 with
    | error e =>
      refine Or.inr ⟨?_, by rw [Step.perform, appender_of_error h]; rfl⟩
      rintro ⟨cv', a', statements, hs, hok, -⟩
      rw [Step.perform, h] at hok
      cases hok
    | ok statements =>
      have hnames := (appender_of_ok h).2
      by_cases hn : a.name = name
      · refine Or.inl ⟨⟨cv, a, statements, rfl, h, hn⟩, ?_⟩
        rw [Step.perform, hnames, hn, Names.find?_register_self]
      · refine Or.inr ⟨?_, ?_⟩
        · rintro ⟨cv', a', _, hs, -, hn'⟩
          cases hs
          exact hn hn'
        · rw [Step.perform, hnames, Names.find?_register_of_ne (Ne.symm hn)]
  | logger cv l =>
    refine Or.inr ⟨?_, find?_logger cv l p name⟩
    rintro ⟨_, _, _, hs, -⟩
    cases hs
  | advance =>
    refine Or.inr ⟨?_, rfl⟩
    rintro ⟨_, _, _, hs, -⟩
    cases hs

theorem next_reached (steps : List Step) : (reached steps).next = steps.length := by
  induction steps using List.reverseRecOn with
  | nil => rfl
  | append_singleton steps s ih =>
    rw [reached_concat, next_perform, ih, List.length_append, List.length_singleton]

theorem Writes.lt {steps : List Step} {k : Nat} {s : Step} {statements : List String}
    (h : Writes steps k s statements) : k < steps.length :=
  (List.getElem?_eq_some_iff.mp h.1).1

theorem Writes.next_eq {steps : List Step} {k : Nat} {s : Step} {statements : List String}
    (h : Writes steps k s statements) : (reached (steps.take k)).next = k := by
  rw [next_reached, List.length_take, Nat.min_eq_left (Nat.le_of_lt h.lt)]

/-- What is written at a position depends on the steps up to it. -/
theorem writes_take_iff {steps : List Step} {j k : Nat} (h : j < k) {s : Step}
    {statements : List String} :
    Writes (steps.take k) j s statements ↔ Writes steps j s statements := by
  rw [Writes, Writes, List.getElem?_take_of_lt h, List.take_take, Nat.min_eq_left (Nat.le_of_lt h)]

theorem writes_concat_iff {steps : List Step} {last : Step} {k : Nat} {s : Step}
    {statements : List String} :
    Writes (steps ++ [last]) k s statements ↔
      Writes steps k s statements ∨
        k = steps.length ∧ s = last ∧ (last.perform (reached steps)).1 = .ok statements := by
  rcases Nat.lt_trichotomy k steps.length with hk | rfl | hk
  · have htake : (steps ++ [last]).take steps.length = steps := by simp
    rw [← writes_take_iff hk, htake]
    constructor
    · exact Or.inl
    · rintro (h | ⟨rfl, -⟩)
      · exact h
      · omega
  · constructor
    · rintro ⟨hs, hok⟩
      have hlast : last = s := by simpa using hs
      subst hlast
      exact Or.inr ⟨rfl, rfl, by simpa using hok⟩
    · rintro (h | ⟨-, rfl, hok⟩)
      · exact absurd h.lt (Nat.lt_irrefl _)
      · exact ⟨by simp, by simpa using hok⟩
  · constructor
    · intro h
      have := h.lt
      rw [List.length_append, List.length_singleton] at this
      omega
    · rintro (h | ⟨rfl, -⟩)
      · have := h.lt
        omega
      · omega

theorem namedAt_concat_iff {steps : List Step} {last : Step} {k : Nat} {name : String} :
    NamedAt (steps ++ [last]) k name ↔
      NamedAt steps k name ∨
        k = steps.length ∧ ∃ cv a statements, last = .appender cv a ∧
          (last.perform (reached steps)).1 = .ok statements ∧ a.name = name := by
  constructor
  · rintro ⟨cv, a, statements, hw, hn⟩
    rcases writes_concat_iff.mp hw with hw | ⟨hk, hs, hok⟩
    · exact Or.inl ⟨cv, a, statements, hw, hn⟩
    · exact Or.inr ⟨hk, cv, a, statements, hs.symm, hok, hn⟩
  · rintro (⟨cv, a, statements, hw, hn⟩ | ⟨hk, cv, a, statements, hs, hok, hn⟩)
    · exact ⟨cv, a, statements, writes_concat_iff.mpr (Or.inl hw), hn⟩
    · exact ⟨cv, a, statements, writes_concat_iff.mpr (Or.inr ⟨hk, hs.symm, hok⟩), hn⟩

theorem NamedAt.lt {steps : List Step} {k : Nat} {name : String} (h : NamedAt steps k name) :
    k < steps.length := by
  obtain ⟨_, _, _, hw, -⟩ := h
  exact hw.lt

/-- The table knows a name by the last appender that was written for it. -/
theorem find?_reached_eq_some_iff {steps : List Step} {name ident : String} :
    (reached steps).names.find? .appender name = some ident ↔
      ∃ k, LastNamedAt steps k name ∧ ident = ElementKind.appender.ident k := by
  induction steps using List.reverseRecOn generalizing ident with
  | nil =>
    constructor
    · intro h
      cases h
    · rintro ⟨k, ⟨hk, -⟩, -⟩
      exact absurd hk.lt (Nat.not_lt_zero k)
  | append_singleton steps s ih =>
    rw [reached_concat]
    rcases find?_perform s (reached steps) name with ⟨hs, hfind⟩ | ⟨hs, hfind⟩
    · -- The last step writes an appender of the name.
      have hlast : LastNamedAt (steps ++ [s]) steps.length name := by
        refine ⟨namedAt_concat_iff.mpr (Or.inr ⟨rfl, hs⟩), fun j hj hn => ?_⟩
        have := hn.lt
        rw [List.length_append, List.length_singleton] at this
        omega
      rw [hfind, next_reached, Option.some.injEq]
      constructor
      · intro h
        exact ⟨steps.length, hlast, h.symm⟩
      · rintro ⟨k, hk, rfl⟩
        rcases Nat.lt_trichotomy k steps.length with hlt | rfl | hlt
        · exact absurd hlast.1 (hk.2 _ hlt)
        · rfl
        · exact absurd hk.1 (hlast.2 _ hlt)
    · have hnamed : ∀ k, NamedAt (steps ++ [s]) k name ↔ NamedAt steps k name := by
        intro k
        rw [namedAt_concat_iff]
        exact ⟨fun h => h.resolve_right fun hk => hs hk.2, Or.inl⟩
      rw [hfind, ih]
      simp only [LastNamedAt, hnamed]

theorem resolve_eq_ok_iff {t : Names} {logger : String} {ns idents : List String} :
    resolve t logger ns = .ok idents ↔
      List.Forall₂ (fun n ident => t.find? .appender n = some ident) ns idents := by
  induction ns generalizing idents with
  | nil =>
    rw [resolve, List.forall₂_nil_left_iff]
    constructor
    · intro h
      cases h
      rfl
    · rintro rfl
      rfl
  | cons n ns ih =>
    rw [resolve, List.forall₂_cons_left_iff]
    cases hn : t.find? .appender n with
    | none => simp
    | some ident =>
      cases hns : resolve t logger ns with
      | error e => simp [Except.map, ← ih, hns]
      | ok rest =>
        simp only [Except.map, Except.ok.injEq, Option.some.injEq, ← ih, hns]
        constructor
        · rintro rfl
          exact ⟨ident, rest, rfl, rfl, rfl⟩
        · rintro ⟨_, _, rfl, rfl, rfl⟩
          rfl

theorem appendersOf_of_ok {t : Names} {l : Logger} {v : Value} (h : appendersOf t l = .ok v) :
    l.appenderNames = none ∧ v = .absent ∨
      ∃ ns idents, l.appenderNames = some ns ∧ v = .list idents ∧
        List.Forall₂ (fun n ident => t.find? .appender n = some ident) ns idents := by
  unfold appendersOf at h
  split at h
  next hn =>
    cases h
    exact Or.inl ⟨hn, rfl⟩
  next ns hn =>
    cases hres : resolve t l.scriptName ns with
    | error e =>
      rw [hres] at h
      cases h
    | ok idents =>
      rw [hres] at h
      cases h
      exact Or.inr ⟨ns, idents, hn, rfl, resolve_eq_ok_iff.mp hres⟩

/-- The option of a logger for its appenders, which comes first. -/
theorem loggerOptions_of_ok {cv : Converter} {t : Names} {l : Logger} {o : Options}
    (h : loggerOptions cv t l = .ok o) :
    (l.appenderNames = none → ∀ e ∈ o.entries, e.1 ≠ "appenders") ∧
      ∀ ns, l.appenderNames = some ns → ∃ idents,
        List.Forall₂ (fun n ident => t.find? .appender n = some ident) ns idents ∧
          o.entries.head? = some ("appenders", Literal.array idents) := by
  rw [loggerOptions] at h
  split at h
  next => cases h
  next v hv =>
    rw [Options.ofAttributes_eq, outcome_eq_ok_iff] at h
    obtain ⟨-, rfl⟩ := h
    rcases appendersOf_of_ok hv with ⟨hn, rfl⟩ | ⟨ns, idents, hn, rfl, hidents⟩
    · refine ⟨fun _ e he => ?_, by simp [hn]⟩
      rw [Config.Logger.attributes, List.filterMap_cons_none rfl] at he
      have hname := Layout.name_mem_of_mem_filterMap he
      intro heq
      rw [heq] at hname
      simp [Config.setting] at hname
    · refine ⟨by simp [hn], fun ns' hns => ⟨idents, ?_, ?_⟩⟩
      · obtain rfl := Option.some.inj (hn.symm.trans hns)
        exact hidents
      · have hwrite : Kind.write cv.resolver .identifier = id := rfl
        simp [Config.Logger.attributes, Attribute.option?, Value.written?, hwrite]

theorem logger_of_ok {cv : Converter} {l : Logger} {p : Pass} {statements : List String}
    (h : (logger cv l p).1 = .ok statements) :
    ∃ o, loggerOptions cv p.names l = .ok o ∧
      statements = [loggerLine l (ElementKind.logger.ident p.next),
        o.statement (ElementKind.logger.ident p.next)] := by
  rw [logger] at h
  split at h
  next => cases h
  next o ho =>
    cases h
    exact ⟨o, ho, rfl⟩

theorem equals_not_mem_ident (k : ElementKind) (n : Nat) : '=' ∉ (k.ident n).toList := by
  intro h
  have hplain := Literal.isPlain_of_isIdentifier (k.isIdentifier_ident n)
  rcases hplain.2 '=' h with hpart | hdash
  · revert hpart
    decide
  · revert hdash
    decide

theorem Declares.unique {statements : List String} {i j : String} (hi : Declares statements i)
    (hj : Declares statements j) : i = j := by
  obtain ⟨value, more, rfl, hi⟩ := hi
  obtain ⟨value', more', heq, hj⟩ := hj
  have hline := congrArg String.toList (List.cons.inj heq).1
  simp only [String.toList_append, List.append_assoc, List.append_cancel_left_eq] at hline
  have hident := append_inj_of_stop (· = '=') (fun c hc he => hi (he ▸ hc))
    (fun c hc he => hj (he ▸ hc)) (beginsWith_cons rfl) (beginsWith_cons rfl) hline
  exact String.toList_inj.mp hident.1

theorem declares_appender (r : Resolver) (a : Appender) (k : Nat) :
    Declares (Layout.appender r a k) (ElementKind.appender.ident k) := by
  have hline :
      "var a" ++ k.repr ++ "=JL." ++ a.target.method ++ "(" ++ Literal.quote a.name ++ ");" =
      "var " ++ ElementKind.appender.ident k ++ "=" ++
        ("JL." ++ a.target.method ++ "(" ++ Literal.quote a.name ++ ")") ++ ";" := by
    simp [ElementKind.ident, ElementKind.stem, ← String.toList_inj]
  exact ⟨_, _, congrArg (· :: _) hline, equals_not_mem_ident _ _⟩

theorem Writes.declares {steps : List Step} {k : Nat} {s : Step} {statements : List String}
    (h : Writes steps k s statements) (hs : s ≠ .advance) :
    ∃ kind : ElementKind, Declares statements (kind.ident k) := by
  have hnext := h.next_eq
  have hok := h.2
  cases s with
  | advance => exact absurd rfl hs
  | appender cv a =>
    obtain ⟨rfl, -⟩ := appender_of_ok hok
    rw [hnext]
    exact ⟨.appender, declares_appender cv.resolver a k⟩
  | logger cv l =>
    obtain ⟨o, -, rfl⟩ := logger_of_ok hok
    rw [hnext]
    exact ⟨.logger, _, _, rfl, equals_not_mem_ident _ _⟩

theorem DeclaredAt.eq_ident {steps : List Step} {k : Nat} {ident : String}
    (h : DeclaredAt steps k ident) : ∃ kind : ElementKind, ident = kind.ident k := by
  obtain ⟨s, statements, hw, hdeclares⟩ := h
  by_cases hs : s = .advance
  · subst hs
    obtain ⟨_, hok⟩ := hw
    cases hok
    obtain ⟨_, _, hnil, -⟩ := hdeclares
    cases hnil
  · obtain ⟨kind, hident⟩ := hw.declares hs
    exact ⟨kind, hdeclares.unique hident⟩

theorem NamedAt.declaredAt {steps : List Step} {k : Nat} {name : String}
    (h : NamedAt steps k name) : DeclaredAt steps k (ElementKind.appender.ident k) := by
  obtain ⟨cv, a, statements, hw, -⟩ := h
  obtain ⟨rfl, -⟩ := appender_of_ok hw.2
  rw [hw.next_eq] at hw
  exact ⟨_, _, hw, declares_appender cv.resolver a k⟩

theorem namedAt_take_iff {steps : List Step} {j k : Nat} (h : j < k) {name : String} :
    NamedAt (steps.take k) j name ↔ NamedAt steps j name := by
  simp only [NamedAt, writes_take_iff h]

theorem exists_lastNamedAt {steps : List Step} {k : Nat} {name : String}
    (h : NamedAt steps k name) : ∃ j, LastNamedAt steps j name := by
  classical
  have hle := Nat.le_of_lt h.lt
  have hspec := Nat.findGreatest_spec (P := fun i => NamedAt steps i name) hle h
  exact ⟨_, hspec, fun j hj hn => Nat.findGreatest_is_greatest hj (Nat.le_of_lt hn.lt) hn⟩

end Pass

theorem ElementKind.ident_ne {j k : Nat} (h : j ≠ k) (kind kind' : ElementKind) :
    kind.ident j ≠ kind'.ident k := by
  intro heq
  by_cases hkind : kind = kind'
  · subst hkind
    exact h (kind.ident_injective heq)
  · -- The two kinds of variables begin with different letters.
    have hhead := congrArg (fun s : String => s.toList.head?) heq
    cases kind <;> cases kind' <;> simp [ident, stem] at hkind hhead

theorem ElementKind.ident_ne_reserved (kind : ElementKind) (k : Nat) :
    kind.ident k ≠ "JL" ∧ kind.ident k ≠ "__jsnlog_configure" := by
  constructor
  all_goals
    intro heq
    have hhead := congrArg (fun s : String => s.toList.head?) heq
    cases kind <;> simp [ident, stem] at hhead

namespace Pass

/-- What holds after steps, in any order and whether or not some of them have failed. -/
structure Sound (steps : List Step) : Prop where
  /-- Each step has taken one number. -/
  next : (reached steps).next = steps.length
  /-- The names of the appenders that have been written are known, and no others. -/
  known : ∀ name, ((reached steps).names.find? .appender name).isSome = true ↔
    ∃ k, NamedAt steps k name
  /-- A name stands for the variable with the number that was next when its last appender was
  written. -/
  latest : ∀ name k, LastNamedAt steps k name →
    (reached steps).names.find? .appender name =
      some ("a" ++ (reached (steps.take k)).next.repr)
  /-- A step that fails leaves the table as it is. -/
  names_of_error : ∀ (s : Step) e, (s.perform (reached steps)).1 = .error e →
    (s.perform (reached steps)).2.names = (reached steps).names
  /-- No logger hides an appender. -/
  find?_logger : ∀ cv l name,
    ((Step.logger cv l).perform (reached steps)).2.names.find? .appender name =
      (reached steps).names.find? .appender name
  /-- Every element that has been written has a variable. -/
  declares : ∀ k s statements, Writes steps k s statements → s ≠ .advance →
    ∃ ident, Declares statements ident
  distinct : ∀ j k ident ident', j ≠ k → DeclaredAt steps j ident → DeclaredAt steps k ident' →
    ident ≠ ident'
  unreserved : ∀ k ident, DeclaredAt steps k ident →
    ident ≠ "JL" ∧ ident ≠ "__jsnlog_configure"
  /-- The options of a logger that has been written begin with the variables of its appenders, if
  it names any. Each of them was declared by the last appender of its name before the logger. -/
  references : ∀ k cv l statements, Writes steps k (.logger cv l) statements →
    ∃ o ident, loggerOptions cv (reached (steps.take k)).names l = .ok o ∧
      statements = [loggerLine l ident, o.statement ident] ∧
      (l.appenderNames = none → ∀ e ∈ o.entries, e.1 ≠ "appenders") ∧
      ∀ ns, l.appenderNames = some ns → ∃ idents,
        o.entries.head? = some ("appenders", Literal.array idents) ∧
        List.Forall₂ (fun n ident => ∃ j < k, LastNamedAt (steps.take k) j n ∧
          DeclaredAt steps j ident) ns idents

/-- Whatever is done to a pass, and whatever fails, its table and its counter stay sound. -/
theorem sound_reached (steps : List Step) : Sound steps where
  next := next_reached steps
  known name := by
    rw [Option.isSome_iff_exists]
    simp only [find?_reached_eq_some_iff]
    constructor
    · rintro ⟨ident, k, hk, -⟩
      exact ⟨k, hk.1⟩
    · rintro ⟨k, hk⟩
      obtain ⟨j, hj⟩ := exists_lastNamedAt hk
      exact ⟨_, j, hj, rfl⟩
  latest name k hk := by
    obtain ⟨cv, a, statements, hw, -⟩ := hk.1
    rw [hw.next_eq]
    exact find?_reached_eq_some_iff.mpr ⟨k, hk, rfl⟩
  names_of_error s e h := by
    rw [perform_of_error h]
    rfl
  find?_logger cv l name := find?_logger cv l _ name
  declares k s statements hw hs := by
    obtain ⟨kind, hident⟩ := hw.declares hs
    exact ⟨_, hident⟩
  distinct j k ident ident' hjk hj hk := by
    obtain ⟨kind, rfl⟩ := hj.eq_ident
    obtain ⟨kind', rfl⟩ := hk.eq_ident
    exact kind.ident_ne hjk kind'
  unreserved k ident h := by
    obtain ⟨kind, rfl⟩ := h.eq_ident
    exact kind.ident_ne_reserved k
  references k cv l statements hw := by
    obtain ⟨o, ho, hstatements⟩ := logger_of_ok hw.2
    obtain ⟨hnone, hsome⟩ := loggerOptions_of_ok ho
    refine ⟨o, _, ho, hstatements, hnone, fun ns hns => ?_⟩
    obtain ⟨idents, hidents, hentry⟩ := hsome ns hns
    refine ⟨idents, hentry, hidents.imp fun n ident hn => ?_⟩
    obtain ⟨j, hj, rfl⟩ := find?_reached_eq_some_iff.mp hn
    have hjk : j < k := Nat.lt_of_lt_of_le hj.1.lt (List.length_take_le k steps)
    exact ⟨j, hjk, hj, ((namedAt_take_iff hjk).mp hj.1).declaredAt⟩

/-- The appender that fails takes a number, and the logger does not take the name. -/
example : (reached
    [.appender .sample ⟨"x", .console, { level := some (.text "LOUD") }⟩,
      .appender .sample ⟨"x", .console, {}⟩,
      .logger .sample { name := some "x" }]).names.find? .appender "x" =
    some "a1" := by
  decide +kernel

end Pass

end LogScript
