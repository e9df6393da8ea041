import LogScript.Proofs.Checks
import LogScript.Script

namespace LogScript

open Config (Configuration Appender Logger)

namespace Layout

/-- The options that attributes become, one for each that is not left out. -/
def options (r : Resolver) (as : List Attribute) : Options :=
  ⟨as.filterMap (Attribute.option? r)⟩

def globalOptions (r : Resolver) (c : Configuration) (q : Request) : Options :=
  ⟨(if q.userIp = "" then [] else [("clientIp", Literal.quote q.userIp)]) ++
    (if q.requestId = "" then [] else [("requestId", Literal.quote q.requestId)]) ++
    [("enabled", if c.enabled then "true" else "false")] ++
    c.attributes.filterMap (Attribute.option? r)⟩

/-- The variables of the appenders that a logger refers to, each of them the last one of its
name. -/
def references (names : List String) (l : Logger) : Value :=
  .ofList? (l.appenderNames.map fun ns =>
    (ns.filterMap (lastIndex? names)).map fun i => "a" ++ i.repr)

/-- The two lines of the appender with index `i`. -/
def appender (r : Resolver) (a : Appender) (i : Nat) : List String :=
  ["var a" ++ i.repr ++ "=JL." ++ a.target.method ++ "(" ++ Literal.quote a.name ++ ");",
   "a" ++ i.repr ++ ".setOptions(" ++ (options r a.attributes).object ++ ");"]

/-- The two lines of the logger with number `k`. -/
def logger (r : Resolver) (names : List String) (l : Logger) (k : Nat) : List String :=
  ["var logger" ++ k.repr ++ "=JL(" ++ Literal.quote (l.name.getD "") ++ ");",
   "logger" ++ k.repr ++ ".setOptions(" ++ (options r (l.attributes (references names l))).object ++
     ");"]

/-- The lines of all elements. The numbers of loggers go on from those of appenders. -/
def elements (r : Resolver) (c : Configuration) : List String :=
  (c.appenders.zipIdx.flatMap fun x => appender r x.1 x.2) ++
  (c.loggers.zipIdx c.appenders.length).flatMap fun x => logger r c.appenderNames x.1 x.2

def libraryUrl? (r : Resolver) (c : Configuration) : Option String :=
  match c.productionLibraryPath with
  | none => none
  | some path => if Text.trim path.toList = [] then none else some (Url.target r path)

/-- The lines between those that open and close the inline script. -/
def body (r : Resolver) (c : Configuration) (q : Request) : List String :=
  (if q.closure then ["var __jsnlog_configure = function (JL) \x7b"] else []) ++
  ["JL.setOptions(" ++ (globalOptions r c q).object ++ ");"] ++
  (if c.enabled then elements r c else []) ++
  (if q.closure then ["\x7d; try \x7b __jsnlog_configure(JL); \x7d catch(e) \x7b\x7d;"] else [])

/-- The line that loads the script library. -/
def reference (url : String) : String :=
  "<script type=\"text/javascript\" src=\"" ++ Markup.attributeText url ++ "\"></script>"

def lines (r : Resolver) (c : Configuration) (q : Request) : List String :=
  ["<script type=\"text/javascript\">", "//<![CDATA["] ++ body r c q ++
  ["//]]>", "</script>"] ++ ((libraryUrl? r c).map reference).toList

end Layout

/-- The characters of lines, each ended by a line feed. -/
def Markup.chars (lines : List String) : List Char := lines.flatMap fun l => l.toList ++ ['\n']

namespace Markup

theorem toList_ofLines (lines : List String) : (ofLines lines).toList = chars lines := by
  rw [ofLines, chars, String.toList_join, List.flatMap_map]
  simp

@[simp] theorem chars_nil : chars [] = [] := rfl

@[simp] theorem chars_cons (l : String) (ls : List String) :
    chars (l :: ls) = l.toList ++ '\n' :: chars ls := by
  simp [chars]

@[simp] theorem chars_append (ls ms : List String) : chars (ls ++ ms) = chars ls ++ chars ms :=
  List.flatMap_append

theorem chars_flatMap {α : Type} (f : α → List String) (xs : List α) :
    chars (xs.flatMap f) = xs.flatMap fun x => chars (f x) :=
  List.flatMap_assoc

end Markup

theorem ElementKind.isIdentifier_ident (k : ElementKind) (n : Nat) :
    Identifier.isIdentifier (k.ident n) = true := by
  have hdigits : (Nat.toDigits 10 n).all Identifier.isPart = true :=
    List.all_eq_true.mpr fun c hc => by
      simp [Identifier.isPart, Nat.isDigit_of_mem_toDigits (by decide) (by decide) hc]
  cases k with
  | appender =>
    simp only [Identifier.isIdentifier, ident, stem, String.toList_append, Nat.toList_repr,
      String.reduceToList, List.cons_append, List.nil_append, hdigits]
    decide
  | logger =>
    simp only [Identifier.isIdentifier, ident, stem, String.toList_append, Nat.toList_repr,
      String.reduceToList, List.cons_append, List.nil_append, List.all_cons, hdigits]
    decide

namespace Layout

/-- The options of the library as attributes. -/
def globalAttributes (c : Configuration) (q : Request) : List Attribute :=
  [⟨"clientIp", .text, .scalar q.userIp⟩, ⟨"requestId", .text, .scalar q.requestId⟩,
    ⟨"enabled", .identifier, .scalar (Literal.ofBool c.enabled)⟩] ++ c.attributes

theorem globalOptions_eq_options (r : Resolver) (c : Configuration) (q : Request) :
    globalOptions r c q = options r (globalAttributes c q) := by
  cases hen : c.enabled <;> by_cases hip : q.userIp = "" <;> by_cases hid : q.requestId = "" <;>
    simp [globalOptions, options, globalAttributes, Attribute.option?, Value.written?, Kind.write,
      Literal.ofBool, hen, hip, hid]

theorem globalAttributes_accepted {g : Engine} {c : Configuration} (q : Request)
    (h : ∀ a ∈ c.attributes, a.failure? g = none) :
    ∀ a ∈ globalAttributes c q, a.failure? g = none := by
  have hen : Identifier.isIdentifier (Literal.ofBool c.enabled) = true := by
    cases c.enabled <;> decide
  intro a ha
  rcases List.mem_append.mp ha with ha | ha
  · simp only [List.mem_cons, List.not_mem_nil, or_false] at ha
    rcases ha with rfl | rfl | rfl <;>
      simp [Attribute.failure?, Value.texts, apply_ite, Kind.rejection?, hen]
  · exact h a ha

end Layout

theorem Layout.references_accepted (g : Engine) (names : List String) (l : Logger) :
    (references names l).texts.findSome? (Kind.identifier.rejection? g) = none := by
  rw [List.findSome?_eq_none_iff]
  intro s hs
  have hident : ∃ i : Nat, s = ElementKind.appender.ident i := by
    unfold references at hs
    cases hn : l.appenderNames with
    | none => simp [hn, Value.ofList?, Value.texts] at hs
    | some ns =>
      simp only [hn, Option.map_some, Value.ofList?, Value.texts, List.mem_map] at hs
      obtain ⟨i, _, rfl⟩ := hs
      exact ⟨i, rfl⟩
  obtain ⟨i, rfl⟩ := hident
  simp [Kind.rejection?, ElementKind.isIdentifier_ident]

namespace Pass

theorem resolve_eq (g : Engine) {names : List String} {p : Pass} (hp : p.Knows names)
    (logger : String) (ns : List String) :
    resolve p.names logger ns =
      outcome (Check.first? g names (ns.map (Check.reference logger)))
        ((ns.filterMap (lastIndex? names)).map ElementKind.appender.ident) := by
  induction ns with
  | nil => rfl
  | cons n ns ih =>
    rw [resolve, hp n, ih, List.map_cons, Check.first?_cons, Check.failure?, List.filterMap_cons]
    cases hi : lastIndex? names n with
    | none =>
      have hn : n ∉ names := by
        rw [← isSome_lastIndex?_iff, hi]
        simp
      simp [hn]
    | some i =>
      have hn : n ∈ names := isSome_lastIndex?_iff.mp (by simp [hi])
      simp only [Option.map_some, if_pos hn, Option.none_or, List.map_cons]
      cases Check.first? g names (ns.map (Check.reference logger)) <;> rfl

theorem loggerOptions_eq (cv : Converter) {names : List String} {p : Pass} (hp : p.Knows names)
    (l : Logger) :
    loggerOptions cv p.names l =
      outcome (Check.first? cv.engine names (Check.ofLogger l))
        (Layout.options cv.resolver (l.attributes (Layout.references names l))) := by
  have happenders : appendersOf p.names l =
      outcome (Check.first? cv.engine names
          ((l.appenderNames.getD []).map (Check.reference l.scriptName)))
        (Layout.references names l) := by
    unfold appendersOf Layout.references
    cases l.appenderNames with
    | none => rfl
    | some ns =>
      simp only [resolve_eq cv.engine hp, Option.getD_some]
      cases Check.first? cv.engine names (ns.map (Check.reference l.scriptName)) <;> rfl
  rw [loggerOptions, happenders,
    Check.first?_ofLogger cv.engine names l (Layout.references_accepted cv.engine names l)]
  cases Check.first? cv.engine names
    ((l.appenderNames.getD []).map (Check.reference l.scriptName)) with
  | some e => rfl
  | none => exact Options.ofAttributes_eq cv _

theorem fst_appender (cv : Converter) (a : Appender) (p : Pass) :
    (appender cv a p).1 =
      outcome (a.attributes.findSome? (Attribute.failure? cv.engine))
        (Layout.appender cv.resolver a p.next) := by
  have hlines : [appenderLine a (ElementKind.appender.ident p.next),
      (Layout.options cv.resolver a.attributes).statement (ElementKind.appender.ident p.next)] =
      Layout.appender cv.resolver a p.next := by
    simp [appenderLine, declaration, Options.statement, Layout.appender, ElementKind.ident,
      ElementKind.stem, library, ← String.toList_inj]
  rw [appender, Options.ofAttributes_eq, ← hlines]
  cases a.attributes.findSome? (Attribute.failure? cv.engine) <;> rfl

theorem next_appender (cv : Converter) (a : Appender) (p : Pass) :
    (appender cv a p).2.next = p.next + 1 := by
  rw [appender]
  split <;> rfl

theorem names_appender (cv : Converter) {a : Appender} (p : Pass)
    (ha : a.attributes.findSome? (Attribute.failure? cv.engine) = none) :
    (appender cv a p).2.names =
      p.names.register .appender a.name (ElementKind.appender.ident p.next) := by
  rw [appender, Options.ofAttributes_eq, ha]
  rfl

theorem Knows.register {names : List String} {p p' : Pass} {name : String} (hp : p.Knows names)
    (hn : p.next = names.length)
    (h : p'.names = p.names.register .appender name (ElementKind.appender.ident p.next)) :
    p'.Knows (names ++ [name]) := by
  intro other
  rw [h, lastIndex?_concat]
  by_cases ho : other = name
  · subst ho
    simp [hn]
  · rw [Names.find?_register_of_ne ho, if_neg (Ne.symm ho), hp other]

theorem stepwise_appender (cv : Converter) :
    Stepwise (appender cv) (fun a => a.attributes.findSome? (Attribute.failure? cv.engine))
      (Layout.appender cv.resolver)
      fun done p => p.Knows (done.map (·.name)) ∧ p.next = done.length where
  fst a _ := fst_appender cv a _
  next := next_appender cv
  keep := by
    intro done p a ⟨hp, hn⟩ ha
    refine ⟨?_, by rw [next_appender, hn, List.length_append, List.length_singleton]⟩
    rw [List.map_append]
    exact hp.register (by rw [hn, List.length_map]) (names_appender cv p ha)

theorem fst_each_appender (cv : Converter) (as : List Appender) :
    (each (appender cv) as {}).1 =
      outcome (as.findSome? fun a => a.attributes.findSome? (Attribute.failure? cv.engine))
        (as.zipIdx.flatMap fun x => Layout.appender cv.resolver x.1 x.2) := by
  exact (stepwise_appender cv).fst_each as [] ⟨knows_start, rfl⟩

theorem snd_each_appender (cv : Converter) {as : List Appender}
    (h : (as.findSome? fun a => a.attributes.findSome? (Attribute.failure? cv.engine)) = none) :
    (each (appender cv) as {}).2.Knows (as.map (·.name)) ∧
      (each (appender cv) as {}).2.next = as.length := by
  exact ((stepwise_appender cv).snd_each as [] ⟨knows_start, rfl⟩ h).1

theorem fst_logger (cv : Converter) {names : List String} {p : Pass} (hp : p.Knows names)
    (l : Logger) :
    (logger cv l p).1 =
      outcome (Check.first? cv.engine names (Check.ofLogger l))
        (Layout.logger cv.resolver names l p.next) := by
  have hlines : [loggerLine l (ElementKind.logger.ident p.next),
      (Layout.options cv.resolver (l.attributes (Layout.references names l))).statement
        (ElementKind.logger.ident p.next)] = Layout.logger cv.resolver names l p.next := by
    simp [loggerLine, declaration, Options.statement, Layout.logger, ElementKind.ident,
      ElementKind.stem, library, Config.Logger.scriptName, ← String.toList_inj]
  rw [logger, loggerOptions_eq cv hp, ← hlines]
  cases Check.first? cv.engine names (Check.ofLogger l) <;> rfl

theorem next_logger (cv : Converter) (l : Logger) (p : Pass) :
    (logger cv l p).2.next = p.next + 1 := by
  rw [logger]
  split <;> rfl

theorem Knows.logger {names : List String} {p : Pass} (hp : p.Knows names) (cv : Converter)
    (l : Logger) : (Pass.logger cv l p).2.Knows names := by
  intro name
  rw [← hp name, Pass.logger]
  split
  · rfl
  · exact Names.find?_register_of_kind_ne (show ElementKind.appender ≠ .logger by decide)

theorem stepwise_logger (cv : Converter) (names : List String) :
    Stepwise (logger cv) (fun l => Check.first? cv.engine names (Check.ofLogger l))
      (Layout.logger cv.resolver names) fun _ p => p.Knows names where
  fst l hp := fst_logger cv hp l
  next := next_logger cv
  keep l hp _ := hp.logger cv l

theorem fst_each_logger (cv : Converter) {names : List String} {p : Pass} (hp : p.Knows names)
    (ls : List Logger) :
    (each (logger cv) ls p).1 =
      outcome (ls.findSome? fun l => Check.first? cv.engine names (Check.ofLogger l))
        ((ls.zipIdx p.next).flatMap fun x => Layout.logger cv.resolver names x.1 x.2) := by
  exact (stepwise_logger cv names).fst_each ls [] hp

end Pass

end LogScript
