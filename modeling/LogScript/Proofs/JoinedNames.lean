import LogScript.Proofs.Numbering
import LogScript.Proofs.Trimming
import LogScript.Script
import Mathlib.Data.List.Forall2

namespace LogScript

theorem Text.segments_eq_splitOn (sep : Char) (cs : List Char) :
    segments sep cs = cs.splitOn sep := by
  induction cs with
  | nil => rfl
  | cons c cs ih =>
    rw [segments, List.splitOn_cons_eq_if_modifyHead, ih]
    by_cases hc : c = sep
    · simp [hc]
    · obtain ⟨first, more, hsplit⟩ :=
        List.exists_cons_of_ne_nil (List.splitOn_ne_nil sep cs)
      simp [hc, hsplit]

namespace Config.NameList

/-- A name that a text with semicolons can hold. -/
structure IsName (n : String) : Prop where
  nonempty : n ≠ ""
  noSemicolon : ';' ∉ n.toList
  tight : Text.IsTight n.toList

instance : DecidablePred IsName := fun n =>
  decidable_of_iff (n ≠ "" ∧ ';' ∉ n.toList ∧ Text.IsTight n.toList)
    ⟨fun h => ⟨h.1, h.2.1, h.2.2⟩, fun h => ⟨h.nonempty, h.noSemicolon, h.tight⟩⟩

/-- Parts of a text, one for each name with white space around it, and blank ones anywhere among
them. -/
inductive HasParts : List String → List String → Prop
  | done : HasParts [] []
  | blank {ns ps : List String} {gap : String} : Text.IsGap gap.toList → HasParts ns ps →
    HasParts ns (gap :: ps)
  | name {ns ps : List String} {left n right : String} : Text.IsGap left.toList →
    Text.IsGap right.toList → HasParts ns ps → HasParts (n :: ns) ((left ++ n ++ right) :: ps)

/-- A text that joins names with semicolons. -/
def Joins (ns : List String) (s : String) : Prop :=
  ∃ ps, HasParts ns ps ∧ s = ";".intercalate ps

variable {ns ps : List String} {s : String}

theorem isName_of_mem_names {n : String} (h : n ∈ (joined s).names) : IsName n := by
  simp only [names, List.mem_map, List.mem_filter] at h
  obtain ⟨_, ⟨⟨part, hpart, rfl⟩, hne⟩, rfl⟩ := h
  refine ⟨?_, ?_, ?_⟩
  · simpa using hne
  · rw [String.toList_ofList]
    exact fun hmem => Text.not_mem_of_mem_segments hpart (Text.mem_of_mem_trim hmem)
  · rw [String.toList_ofList]
    exact Text.isTight_trim part

def namesIn (parts : List (List Char)) : List String :=
  ((parts.map Text.trim).filter (· ≠ [])).map String.ofList

theorem namesIn_cons (part : List Char) (parts : List (List Char)) :
    namesIn (part :: parts) =
      if Text.trim part = [] then namesIn parts
      else String.ofList (Text.trim part) :: namesIn parts := by
  by_cases h : Text.trim part = [] <;> simp [namesIn, h]

theorem names_joined (s : String) : (joined s).names = namesIn (Text.segments ';' s.toList) := rfl

theorem namesIn_of_hasParts (h : HasParts ns ps) (hns : ∀ n ∈ ns, IsName n) :
    namesIn (ps.map String.toList) = ns := by
  induction h with
  | done => rfl
  | blank hgap _ ih =>
    rw [List.map_cons, namesIn_cons, if_pos (Text.trim_eq_nil_iff.mpr hgap), ih hns]
  | @name ns ps left n right hleft hright _ ih =>
    obtain ⟨hname, hns⟩ := List.forall_mem_cons.mp hns
    have htrim : Text.trim (left ++ n ++ right).toList = n.toList := by
      rw [String.toList_append, String.toList_append, Text.trim_append hleft hright,
        hname.tight.trim_eq]
    have hne : n.toList ≠ [] := by simpa using hname.nonempty
    rw [List.map_cons, namesIn_cons, htrim, if_neg hne, ih hns, String.ofList_toList]

theorem semicolon_not_mem_of_isGap {cs : List Char} (h : Text.IsGap cs) : ';' ∉ cs := by
  intro hmem
  exact absurd (h _ hmem) (by decide)

theorem HasParts.semicolon_not_mem (h : HasParts ns ps) (hns : ∀ n ∈ ns, IsName n) :
    ∀ part ∈ ps.map String.toList, ';' ∉ part := by
  induction h with
  | done => simp
  | blank hgap _ ih =>
    exact List.forall_mem_cons.mpr ⟨semicolon_not_mem_of_isGap hgap, ih hns⟩
  | name hleft hright _ ih =>
    obtain ⟨hname, hns⟩ := List.forall_mem_cons.mp hns
    refine List.forall_mem_cons.mpr ⟨?_, ih hns⟩
    simp [semicolon_not_mem_of_isGap hleft, semicolon_not_mem_of_isGap hright,
      hname.noSemicolon]

theorem segments_intercalate (hne : ps ≠ []) (h : ∀ part ∈ ps.map String.toList, ';' ∉ part) :
    Text.segments ';' (";".intercalate ps).toList = ps.map String.toList := by
  rw [Text.segments_eq_splitOn, String.toList_intercalate]
  exact List.splitOn_intercalate ';' h (by simpa using hne)

theorem names_of_joins (hns : ∀ n ∈ ns, IsName n) (h : Joins ns s) : (joined s).names = ns := by
  obtain ⟨ps, hparts, rfl⟩ := h
  by_cases hps : ps = []
  · subst hps
    cases hparts
    rfl
  · rw [names_joined, segments_intercalate hps (hparts.semicolon_not_mem hns),
      namesIn_of_hasParts hparts hns]

theorem hasParts_namesIn (parts : List (List Char)) :
    HasParts (namesIn parts) (parts.map String.ofList) := by
  induction parts with
  | nil => exact .done
  | cons part parts ih =>
    rw [namesIn_cons, List.map_cons]
    split
    next hblank =>
      exact .blank (by rw [String.toList_ofList]; exact Text.trim_eq_nil_iff.mp hblank) ih
    next =>
      obtain ⟨left, right, hleft, hright, hpart⟩ := Text.isPadded_trim part
      have hjoin : String.ofList part =
          String.ofList left ++ String.ofList (Text.trim part) ++ String.ofList right := by
        rw [← String.ofList_append, ← String.ofList_append, ← hpart]
      rw [hjoin]
      exact .name (by rwa [String.toList_ofList]) (by rwa [String.toList_ofList]) ih

theorem joins_names (s : String) : Joins (joined s).names s := by
  refine ⟨_, hasParts_namesIn (Text.segments ';' s.toList), String.toList_inj.mp ?_⟩
  have hid : String.toList ∘ String.ofList = id := funext fun _ => String.toList_ofList
  rw [String.toList_intercalate, List.map_map, hid, List.map_id, Text.segments_eq_splitOn]
  exact (List.intercalate_splitOn ';').symm

theorem joins_intercalate (ns : List String) : Joins ns (";".intercalate ns) := by
  refine ⟨ns, ?_, rfl⟩
  induction ns with
  | nil => exact .done
  | cons n ns ih =>
    have hname : HasParts (n :: ns) (("" ++ n ++ "") :: ns) :=
      .name Text.IsGap.nil Text.IsGap.nil ih
    simpa using hname

end NameList

/-- A logger with the same names of appenders, which may be one text instead of a list. -/
inductive Logger.Rejoined : Logger → Logger → Prop
  | same (l : Logger) : Rejoined l l
  | joined {l : Logger} {ns : List String} {s : String} : l.appenders = some (.list ns) →
    (∀ n ∈ ns, NameList.IsName n) → NameList.Joins ns s →
      Rejoined l { l with appenders := some (.joined s) }

end LogScript.Config

namespace LogScript

open Config (Configuration Logger NameList)

theorem Pass.logger_eq_of_rejoined (cv : Converter) {l l' : Logger} (h : l.Rejoined l') :
    logger cv l' = logger cv l := by
  cases h with
  | same => rfl
  | @joined ns s hlist hns hjoins =>
    have hnames : Logger.appenderNames { l with appenders := some (.joined s) } =
        l.appenderNames := by
      rw [Logger.appenderNames, Logger.appenderNames, hlist, Option.map_some, Option.map_some,
        NameList.names_of_joins hns hjoins, NameList.names]
    funext p
    -- The names are all that a logger's step takes from their form.
    have hoptions : loggerOptions cv p.names { l with appenders := some (.joined s) } =
        loggerOptions cv p.names l := by
      rw [loggerOptions, loggerOptions, appendersOf, appendersOf, hnames]
      rfl
    rw [logger, logger, hoptions]
    rfl

namespace Script

variable {c : Configuration} {ls : List Logger}

theorem elements_of_rejoined (cv : Converter) (h : List.Forall₂ Logger.Rejoined c.loggers ls) :
    elements cv { c with loggers := ls } = elements cv c := by
  have heach : Pass.each (Pass.logger cv) ls = Pass.each (Pass.logger cv) c.loggers :=
    funext (Pass.each_congr (h.imp fun _ _ => Pass.logger_eq_of_rejoined cv))
  simp only [elements, heach, h.length_eq]

/-- The events are the same as well. -/
theorem compileTold_of_rejoined (cv : Converter) (q : Request)
    (h : List.Forall₂ Logger.Rejoined c.loggers ls) :
    compileTold cv { c with loggers := ls } q = compileTold cv c q := by
  rw [compileTold, compileTold, elements_of_rejoined cv h]
  rfl

end Script

namespace Config.NameList

/-- A text with semicolons and the list of its names stand for each other. -/
theorem joined_stands_for_list :
    (∀ s : String, (∀ n ∈ (joined s).names, IsName n) ∧
      (joined (";".intercalate (joined s).names)).names = (joined s).names) ∧
    (∀ (ns : List String) (s : String), (∀ n ∈ ns, IsName n) →
      (Joins ns s ↔ (joined s).names = ns)) ∧
    ∀ (cv : Converter) (c : Configuration) (q : Request) (ls : List Logger),
      List.Forall₂ Logger.Rejoined c.loggers ls →
        Script.compile cv { c with loggers := ls } q = Script.compile cv c q := by
  refine ⟨fun s => ?_, fun ns s hns => ?_, fun cv c q ls h => ?_⟩
  · have hnames : ∀ n ∈ (joined s).names, IsName n := fun n => isName_of_mem_names
    exact ⟨hnames, names_of_joins hnames (joins_intercalate _)⟩
  · exact ⟨names_of_joins hns, fun hnames => hnames ▸ joins_names s⟩
  · rw [Script.compile, Script.compile, Script.compileTold_of_rejoined cv q h]

/-- A name with a space in it, given twice. -/
def repeatedNames : List String := ["a b", "x", "a b"]

/-- The names with white space of several kinds around them, and blank parts at both ends and in
the middle. -/
def repeatedNamesText : String := "; a b ;  ;x;;	a b　; "

/-- The root logger gives the names as they are; another one refers to the second alone. -/
def listedNames : Configuration where
  appenders := [⟨"a b", .console, {}⟩, ⟨"x", .console, {}⟩]
  loggers := [{ appenders := some (.list repeatedNames) },
    { name := some "y", appenders := some (.list ["x"]) }]

theorem joined_stands_for_list_repeated :
    (∀ n ∈ repeatedNames, IsName n) ∧
    (Joins repeatedNames repeatedNamesText ∧
      (joined repeatedNamesText).names = repeatedNames) ∧
    ∃ ls, List.Forall₂ Logger.Rejoined listedNames.loggers ls ∧
      ls.map (·.appenders) = [some (.joined repeatedNamesText), some (.list ["x"])] ∧
      Script.compile .sample { listedNames with loggers := ls } {} =
        Script.compile .sample listedNames {} := by
  have hns : ∀ n ∈ repeatedNames, IsName n := by decide +kernel
  have hnames : (joined repeatedNamesText).names = repeatedNames := by decide +kernel
  have hjoins := (joined_stands_for_list.2.1 _ _ hns).mpr hnames
  have hloggers : List.Forall₂ Logger.Rejoined listedNames.loggers
      [{ appenders := some (.joined repeatedNamesText) },
        { name := some "y", appenders := some (.list ["x"]) }] :=
    .cons (.joined rfl hns hjoins) (.cons (.same _) .nil)
  exact ⟨hns, ⟨hjoins, hnames⟩, _, hloggers, rfl, joined_stands_for_list.2.2 _ _ _ _ hloggers⟩

end Config.NameList

end LogScript
