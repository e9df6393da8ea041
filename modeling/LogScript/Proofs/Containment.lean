import LogScript.Proofs.Compilation
import Mathlib.Data.List.Infix

namespace LogScript

open Config (Configuration Appender Logger)

namespace Markup

/-- A character that can stand in an inline script. None of them is part of markup, and none but
the line feed ends a line. -/
def IsInert (c : Char) : Prop :=
  c = '\n' ∨ 0x20 ≤ c.toNat ∧ c ∉ ['<', '>', '&', '\'', '\x7f', '\u2028', '\u2029']

instance : DecidablePred IsInert := fun _ => inferInstanceAs (Decidable (_ ∨ _ ∧ _))

def Inert (s : String) : Prop := ∀ c ∈ s.toList, IsInert c

instance : DecidablePred Inert := fun s => List.decidableBAll IsInert s.toList

theorem inert_append_iff {s t : String} : Inert (s ++ t) ↔ Inert s ∧ Inert t := by
  simp only [Inert, String.toList_append, List.mem_append, or_imp, forall_and]

theorem inert_intercalate {sep : String} {ss : List String} (hsep : Inert sep)
    (h : ∀ s ∈ ss, Inert s) : Inert (sep.intercalate ss) := by
  induction ss with
  | nil => simp [Inert]
  | cons s ss ih =>
    rw [List.forall_mem_cons] at h
    cases ss with
    | nil => simpa using h.1
    | cons t ts =>
      rw [String.intercalate_cons_cons]
      exact inert_append_iff.mpr ⟨inert_append_iff.mpr ⟨h.1, hsep⟩, ih h.2⟩

end Markup

open Markup (IsInert Inert)

namespace Literal

theorem isInert_digitChar {d : Nat} (h : d < 16) : IsInert d.digitChar := by
  have hall : ∀ d < 16, IsInert (Nat.digitChar d) := by decide
  exact hall d h

theorem isInert_of_needsCode {c : Char} (h : needsCode c = false) : IsInert c := by
  simp only [needsCode, Bool.or_eq_false_iff, decide_eq_false_iff_not, beq_eq_false_iff_ne] at h
  obtain ⟨⟨⟨⟨⟨⟨⟨hcontrol, hdelete⟩, hline⟩, hparagraph⟩, hapostrophe⟩, hless⟩, hgreater⟩, hamp⟩ := h
  refine Or.inr ⟨Nat.le_of_not_lt hcontrol, ?_⟩
  simp [hdelete, hline, hparagraph, hapostrophe, hless, hgreater, hamp]

theorem isInert_pair {c d : Char} (hc : IsInert c) (hd : IsInert d) : ∀ x ∈ [c, d], IsInert x := by
  simp [hc, hd]

theorem isInert_escape (c : Char) : ∀ d ∈ escape c, IsInert d := by
  have hcode : ∀ d ∈ '\\' :: 'u' :: Text.hex4 c.toNat, IsInert d := by
    simp only [Text.hex4, List.forall_mem_cons]
    exact ⟨by decide, by decide, isInert_digitChar (Nat.mod_lt _ (by decide)),
      isInert_digitChar (Nat.mod_lt _ (by decide)), isInert_digitChar (Nat.mod_lt _ (by decide)),
      isInert_digitChar (Nat.mod_lt _ (by decide)), by simp⟩
  unfold escape
  iterate 7
    split
    next => exact isInert_pair (by decide) (by decide)
  split
  next => exact hcode
  next h =>
    rw [Bool.not_eq_true] at h
    simpa using isInert_of_needsCode h

theorem inert_quote (s : String) : Inert (quote s) := by
  intro c hc
  rw [toList_quote] at hc
  simp only [List.mem_cons, List.mem_append, List.not_mem_nil, or_false] at hc
  rcases hc with rfl | hc | rfl
  · decide
  · obtain ⟨d, -, hd⟩ := List.mem_flatMap.mp hc
    exact isInert_escape d c hd
  · decide

theorem isInert_of_isPart {c : Char} (h : Identifier.isPart c = true) : IsInert c := by
  have hcontrol : ∀ n < 0x20, Identifier.isPart (Char.ofNat n) = false := by decide
  refine Or.inr ⟨?_, fun hmem => ?_⟩
  · by_contra hlt
    have hpart := hcontrol c.toNat (Nat.lt_of_not_le hlt)
    rw [Char.ofNat_toNat, h] at hpart
    cases hpart
  · simp only [List.mem_cons, List.not_mem_nil, or_false] at hmem
    rcases hmem with rfl | rfl | rfl | rfl | rfl | rfl | rfl <;> revert h <;> decide

theorem IsPlain.inert {s : String} (h : IsPlain s) : Inert s := by
  intro c hc
  rcases h.2 c hc with hpart | rfl
  · exact isInert_of_isPart hpart
  · decide

theorem inert_array {items : List String} (h : ∀ x ∈ items, Inert x) : Inert (array items) := by
  have hitems : Inert (", ".intercalate items) := Markup.inert_intercalate (by decide) h
  simp +decide only [array, Markup.inert_append_iff, hitems]

end Literal

theorem Kind.inert_write (r : Resolver) {g : Engine} {k : Kind} {s : String}
    (h : k.rejection? g s = none) : Inert (k.write r s) := by
  rcases k.isPlain_or_quote r h with hplain | ⟨t, ht⟩
  · exact hplain.inert
  · rw [ht]
    exact Literal.inert_quote t

theorem Value.inert_of_written? {g : Engine} {r : Resolver} {k : Kind} {v : Value} {l : String}
    (h : v.texts.findSome? (k.rejection? g) = none) (hl : v.written? r k = some l) : Inert l := by
  refine written?_induction (fun s hs => k.inert_write r hs) (fun items hitems => ?_) h hl
  refine Literal.inert_array fun x hx => ?_
  obtain ⟨s, hs, rfl⟩ := List.mem_map.mp hx
  exact k.inert_write r (hitems s hs)

namespace Layout

theorem inert_options (r : Resolver) {g : Engine} {as : List Attribute}
    (hnames : ∀ a ∈ as, Inert a.name) (ha : ∀ a ∈ as, a.failure? g = none) :
    Inert (options r as).object := by
  have hentry : ∀ x ∈ (options r as).entries.map Options.entry, Inert x := by
    intro x hx
    obtain ⟨e, he, rfl⟩ := List.mem_map.mp hx
    obtain ⟨a, hmem, he⟩ := List.mem_filterMap.mp he
    obtain ⟨l, hl, rfl⟩ := Option.map_eq_some_iff.mp he
    have htexts : a.value.texts.findSome? (a.kind.rejection? g) = none :=
      Option.map_eq_none_iff.mp (ha a hmem)
    simp +decide only [Options.entry, Markup.inert_append_iff, hnames a hmem,
      Value.inert_of_written? htexts hl]
  have hsep : Inert ",\n" := by decide
  have hentries := Markup.inert_intercalate hsep hentry
  simp +decide only [Options.object, Markup.inert_append_iff, hentries]

theorem inert_names_appender (a : Appender) : ∀ x ∈ a.attributes, Inert x.name := by
  cases h : a.target <;>
    simp +decide only [Config.Appender.attributes, Config.setting, h, List.cons_append,
      List.nil_append, List.forall_mem_cons]

theorem inert_names_logger (l : Logger) (v : Value) : ∀ x ∈ l.attributes v, Inert x.name := by
  simp +decide only [Config.Logger.attributes, Config.setting, List.forall_mem_cons]

theorem inert_names_global (c : Configuration) (q : Request) :
    ∀ x ∈ globalAttributes c q, Inert x.name := by
  simp +decide only [globalAttributes, Configuration.attributes, Config.setting, List.cons_append,
    List.nil_append, List.forall_mem_cons]

theorem inert_appender (r : Resolver) {g : Engine} {a : Appender}
    (h : ∀ x ∈ a.attributes, x.failure? g = none) (i : Nat) :
    ∀ line ∈ appender r a i, Inert line := by
  have hname := Literal.inert_quote a.name
  have hnumber := (Literal.isPlain_repr i).inert
  have hoptions := inert_options r (inert_names_appender a) h
  have hmethod : Inert a.target.method := by
    cases a.target with
    | ajax => exact (by decide : Inert "createAjaxAppender")
    | console => decide
  simp +decide only [appender, List.forall_mem_cons, Markup.inert_append_iff, hname, hnumber,
    hoptions, hmethod]

theorem inert_logger (r : Resolver) {g : Engine} {names : List String} {l : Logger}
    (h : ∀ x ∈ l.attributes (references names l), x.failure? g = none) (k : Nat) :
    ∀ line ∈ logger r names l k, Inert line := by
  have hname := Literal.inert_quote (l.name.getD "")
  have hnumber := (Literal.isPlain_repr k).inert
  have hoptions := inert_options r (inert_names_logger l _) h
  simp +decide only [logger, List.forall_mem_cons, Markup.inert_append_iff, hname, hnumber,
    hoptions]

theorem inert_elements (r : Resolver) {g : Engine} {c : Configuration}
    (h : Script.Accepted g c) (hen : c.enabled = true) : ∀ line ∈ elements r c, Inert line := by
  intro line hline
  rcases List.mem_append.mp hline with hline | hline
  · obtain ⟨⟨a, i⟩, hmem, hline⟩ := List.mem_flatMap.mp hline
    exact inert_appender r (h.appenders hen a (List.fst_mem_of_mem_zipIdx hmem)) i line hline
  · obtain ⟨⟨l, k⟩, hmem, hline⟩ := List.mem_flatMap.mp hline
    exact inert_logger r (h.loggers hen l (List.fst_mem_of_mem_zipIdx hmem)).2 k line hline

theorem inert_body (r : Resolver) {g : Engine} {c : Configuration}
    (h : Script.Accepted g c) (q : Request) : ∀ line ∈ body r c q, Inert line := by
  have hoptions := inert_options r (inert_names_global c q)
    (globalAttributes_accepted q h.attributes)
  rw [← globalOptions_eq_options] at hoptions
  intro line hline
  simp only [body, List.mem_append] at hline
  rcases hline with ((hline | hline) | hline) | hline
  · split at hline
    next =>
      obtain rfl := List.mem_singleton.mp hline
      decide
    next => simp at hline
  · obtain rfl := List.mem_singleton.mp hline
    simp +decide only [Markup.inert_append_iff, hoptions]
  · split at hline
    next hen => exact inert_elements r h hen line hline
    next => simp at hline
  · split at hline
    next =>
      obtain rfl := List.mem_singleton.mp hline
      decide
    next => simp at hline

end Layout

namespace Markup

/-- In how many places of a text another one stands. -/
def occurrences (p cs : List Char) : Nat := cs.tails.countP fun t => p.isPrefixOf t

theorem occurrences_cons (p : List Char) (c : Char) (cs : List Char) :
    occurrences p (c :: cs) = occurrences p cs + if p <+: c :: cs then 1 else 0 := by
  simp [occurrences, List.countP_cons]

/-- A part of a text does not matter if no occurrence begins in it. -/
theorem occurrences_append {p l : List Char} (m : List Char)
    (h : ∀ t ∈ l.tails, t ≠ [] → ¬p <+: t ∧ ¬t <+: p) :
    occurrences p (l ++ m) = occurrences p m := by
  induction l with
  | nil => rfl
  | cons c l ih =>
    rw [List.tails_cons, List.forall_mem_cons] at h
    obtain ⟨hshort, hlong⟩ := h.1 (List.cons_ne_nil c l)
    have hnot : ¬p <+: c :: (l ++ m) := fun hp =>
      (List.prefix_or_prefix_of_prefix hp (List.prefix_append (c :: l) m)).elim hshort hlong
    rw [List.cons_append, occurrences_cons, if_neg hnot, ih h.2, Nat.add_zero]

theorem occurrences_append_of_head {x : Char} {p l : List Char} (m : List Char) (h : x ∉ l) :
    occurrences (x :: p) (l ++ m) = occurrences (x :: p) m := by
  refine occurrences_append m fun t ht hne => ?_
  have hx : x ∉ t := fun hmem => h (((List.mem_tails _ _).mp ht).subset hmem)
  cases t with
  | nil => exact absurd rfl hne
  | cons c t =>
    have hne : x ≠ c := fun hxc => hx (hxc ▸ List.mem_cons_self)
    refine ⟨fun hp => hne ?_, fun hp => hne ?_⟩
    · exact (List.cons_prefix_cons.mp hp).1
    · exact (List.cons_prefix_cons.mp hp).1.symm

/-- No occurrence stands across a character that is not part of it. -/
theorem occurrences_append_of_break {x y : Char} {p l : List Char} (m : List Char) (hx : x ∈ p)
    (hl : x ∉ l) (hy : y ∉ p) : occurrences p (l ++ y :: m) = occurrences p m := by
  have happ : l ++ y :: m = (l ++ [y]) ++ m := by simp
  rw [happ]
  refine occurrences_append m fun t ht hne => ?_
  rcases List.suffix_concat_iff.mp ((List.mem_tails _ _).mp ht) with rfl | ⟨u, rfl, hu⟩
  · exact absurd rfl hne
  · refine ⟨fun hp => ?_, fun hp => hy (hp.subset (by simp))⟩
    rcases List.mem_append.mp (hp.subset hx) with hxu | hxy
    · exact hl (hu.subset hxu)
    · exact hy (List.mem_singleton.mp hxy ▸ hx)

/-- A text that does not overlap with itself. -/
theorem occurrences_self_append {p : List Char} (m : List Char) (hp : p ≠ [])
    (h : ∀ t ∈ p.tail.tails, t ≠ [] → ¬p <+: t ∧ ¬t <+: p) :
    occurrences p (p ++ m) = occurrences p m + 1 := by
  cases p with
  | nil => exact absurd rfl hp
  | cons c p =>
    rw [List.tail_cons] at h
    have hself : c :: p <+: c :: (p ++ m) := List.prefix_append (c :: p) m
    rw [List.cons_append, occurrences_cons, if_pos hself, occurrences_append m h]

/-- The markup in a text: how many angle brackets there are of either kind, how many ends of script
elements, and how many ends of sections. -/
structure Tags (cs : List Char) (brackets ends sections : Nat) : Prop where
  less : cs.count '<' = brackets
  greater : cs.count '>' = brackets
  ends : occurrences "</script>".toList cs = ends
  sections : occurrences "]]>".toList cs = sections

theorem tags_nil : Tags [] 0 0 0 := ⟨rfl, rfl, rfl, rfl⟩

/-- The characters of an inline script with a body, and of what follows it. -/
def inline (body tail : List Char) : List Char :=
  "<script type=\"text/javascript\">\n//<![CDATA[\n".toList ++ (body ++
    ("//]]>\n</script>\n".toList ++ tail))

section Inline

variable {body : List Char} (tail : List Char)

theorem count_inline {c : Char} (hc : c ∈ ['<', '>']) (h : c ∉ body) :
    (inline body tail).count c = tail.count c + 3 := by
  have hfront : "<script type=\"text/javascript\">\n//<![CDATA[\n".toList.count c +
      "//]]>\n</script>\n".toList.count c = 3 := by
    simp only [List.mem_cons, List.not_mem_nil, or_false] at hc
    rcases hc with rfl | rfl <;> decide +kernel
  unfold inline
  rw [List.count_append, List.count_append, List.count_append, List.count_eq_zero.mpr h]
  omega

theorem ends_inline (h : '<' ∉ body) :
    occurrences "</script>".toList (inline body tail) =
      occurrences "</script>".toList tail + 1 := by
  have hhead : "</script>".toList = '<' :: "/script>".toList := by simp
  have hbody : ∀ m, occurrences "</script>".toList (body ++ m) =
      occurrences "</script>".toList m := by
    intro m
    rw [hhead]
    exact occurrences_append_of_head m h
  have hsplit : "//]]>\n</script>\n".toList ++ tail =
      "//]]>\n".toList ++ ("</script>".toList ++ ("\n".toList ++ tail)) := by simp
  unfold inline
  rw [occurrences_append _ (by decide +kernel), hbody, hsplit,
    occurrences_append _ (by decide +kernel),
    occurrences_self_append _ (by simp) (by decide +kernel),
    occurrences_append _ (by decide +kernel)]

theorem sections_inline (h : '>' ∉ body) :
    occurrences "]]>".toList (inline body tail) = occurrences "]]>".toList tail + 1 := by
  have hbody : ∀ m, occurrences "]]>".toList (body ++ '/' :: m) = occurrences "]]>".toList m :=
    fun m => occurrences_append_of_break m (by simp : '>' ∈ "]]>".toList) h (by simp)
  have hsplit : "//]]>\n</script>\n".toList ++ tail =
      '/' :: ("/".toList ++ ("]]>".toList ++ ("\n</script>\n".toList ++ tail))) := by simp
  unfold inline
  rw [occurrences_append _ (by decide +kernel), hsplit, hbody,
    occurrences_append _ (by decide +kernel),
    occurrences_self_append _ (by simp) (by decide +kernel),
    occurrences_append _ (by decide +kernel)]

end Inline

theorem Tags.inline {body tail : List Char} {brackets ends sections : Nat}
    (hbody : ∀ c ∈ body, IsInert c) (h : Tags tail brackets ends sections) :
    Tags (inline body tail) (brackets + 3) (ends + 1) (sections + 1) := by
  have hless : '<' ∉ body := fun hmem => absurd (hbody _ hmem) (by decide)
  have hgreater : '>' ∉ body := fun hmem => absurd (hbody _ hmem) (by decide)
  refine ⟨?_, ?_, ?_, ?_⟩
  · rw [count_inline tail (by simp) hless, h.less]
  · rw [count_inline tail (by simp) hgreater, h.greater]
  · rw [ends_inline tail hless, h.ends]
  · rw [sections_inline tail hgreater, h.sections]

/-- A character that can stand in an attribute value. -/
def IsAttributeChar (c : Char) : Prop := c ∉ ['"', '<', '>']

instance : DecidablePred IsAttributeChar := fun c => inferInstanceAs (Decidable (c ∉ _))

theorem isAttributeChar_escape (c : Char) : ∀ d ∈ escape c, IsAttributeChar d := by
  unfold escape
  iterate 4
    split
    next => simp [IsAttributeChar]
  next hquote hless hgreater => simp [IsAttributeChar, hquote, hless, hgreater]

theorem isAttributeChar_attributeText (s : String) :
    ∀ c ∈ (attributeText s).toList, IsAttributeChar c := by
  intro c hc
  rw [attributeText, String.toList_ofList] at hc
  obtain ⟨d, -, hd⟩ := List.mem_flatMap.mp hc
  exact isAttributeChar_escape d c hd

theorem tags_reference {value : List Char} (h : ∀ c ∈ value, IsAttributeChar c) :
    Tags ("<script type=\"text/javascript\" src=\"".toList ++ (value ++
      "\"></script>\n".toList)) 2 1 0 := by
  have hless : '<' ∉ value := fun hmem => h _ hmem (by decide)
  have hgreater : '>' ∉ value := fun hmem => h _ hmem (by decide)
  refine ⟨?_, ?_, ?_, ?_⟩
  · rw [List.count_append, List.count_append, List.count_eq_zero.mpr hless]
    decide +kernel
  · rw [List.count_append, List.count_append, List.count_eq_zero.mpr hgreater]
    decide +kernel
  · have hhead : "</script>".toList = '<' :: "/script>".toList := by simp
    rw [occurrences_append _ (by decide +kernel), hhead, occurrences_append_of_head _ hless]
    decide +kernel
  · have hsplit : "\"></script>\n".toList = '"' :: "></script>\n".toList := by simp
    rw [occurrences_append _ (by decide +kernel), hsplit,
      occurrences_append_of_break _ (by simp : '>' ∈ "]]>".toList) hgreater (by simp)]
    decide +kernel

end Markup

namespace Script

/-- A configuration of texts that are markup. -/
def hostile : Configuration where
  productionLibraryPath := some "~/lib.js"
  appenders := [⟨"</script>]]>", .console, { disallow := some (.text "<!--|]]>") }⟩]
  loggers := [{ name := some "'&", onceOnly := some ["</script>"] }]

/-- An address that would end its attribute, its element and the script. -/
def hostileResolver : Resolver := fun _ => "\"></script>]]>"

/-- Its script, where all of them have been written by their codes. -/
def hostileScript : String :=
  "<script type=\"text/javascript\">\n//<![CDATA[\n" ++
  "var __jsnlog_configure = function (JL) \x7b\nJL.setOptions(\x7b\"enabled\": true\x7d);\n" ++
  "var a0=JL.createConsoleAppender(\"\\u003c/script\\u003e]]\\u003e\");\n" ++
  "a0.setOptions(\x7b\"disallow\": \"\\u003c!--|]]\\u003e\"\x7d);\n" ++
  "var logger1=JL(\"\\u0027\\u0026\");\n" ++
  "logger1.setOptions(\x7b\"onceOnly\": [\"\\u003c/script\\u003e\"]\x7d);\n" ++
  "\x7d; try \x7b __jsnlog_configure(JL); \x7d catch(e) \x7b\x7d;\n//]]>\n</script>\n" ++
  "<script type=\"text/javascript\" src=\"&quot;&gt;&lt;/script&gt;]]&gt;\"></script>\n"

/-- The markup of a script is that of its own lines, whatever texts are configured: what stands
between them is inert, and so is the address of the library. -/
theorem contained_of_compile {cv : Converter} {c : Configuration} {q : Request} {text : String}
    (h : compile cv c q = .ok text) :
    ∃ body tail : String,
      text = "<script type=\"text/javascript\">\n//<![CDATA[\n" ++ body ++
        "//]]>\n</script>\n" ++ tail ∧
      (∀ x ∈ body.toList, IsInert x) ∧
      ((libraryUrl? cv.resolver c = .ok none ∧ tail = "" ∧ Markup.Tags text.toList 3 1 1) ∨
        ∃ url value, libraryUrl? cv.resolver c = .ok (some url) ∧
          tail = "<script type=\"text/javascript\" src=\"" ++ value ++ "\"></script>\n" ∧
          (∀ x ∈ value.toList, Markup.IsAttributeChar x) ∧ Markup.Tags text.toList 5 2 1) := by
  obtain ⟨hacc, htext⟩ := accepted_of_compile h
  have hbody : ∀ x ∈ (Markup.ofLines (Layout.body cv.resolver c q)).toList, IsInert x := by
    intro x hx
    rw [Markup.toList_ofLines, Markup.chars] at hx
    obtain ⟨line, hline, hx⟩ := List.mem_flatMap.mp hx
    rcases List.mem_append.mp hx with hx | hx
    · exact Layout.inert_body cv.resolver hacc q line hline x hx
    · exact Or.inl (List.mem_singleton.mp hx)
  have hsplit : text = "<script type=\"text/javascript\">\n//<![CDATA[\n" ++
      Markup.ofLines (Layout.body cv.resolver c q) ++ "//]]>\n</script>\n" ++
      Markup.ofLines ((Layout.libraryUrl? cv.resolver c).map Layout.reference).toList := by
    rw [htext, ← String.toList_inj]
    simp [Markup.toList_ofLines, Layout.lines]
  have hchars : text.toList = Markup.inline (Markup.ofLines (Layout.body cv.resolver c q)).toList
      (Markup.ofLines ((Layout.libraryUrl? cv.resolver c).map Layout.reference).toList).toList := by
    unfold Markup.inline
    rw [hsplit]
    simp only [String.toList_append, List.append_assoc]
  refine ⟨_, _, hsplit, hbody, ?_⟩
  rw [libraryUrl?_of_accepted cv.resolver hacc, hchars]
  cases Layout.libraryUrl? cv.resolver c with
  | none => exact Or.inl ⟨rfl, rfl, Markup.Tags.inline hbody Markup.tags_nil⟩
  | some url =>
    have htail : Markup.ofLines [Layout.reference url] =
        "<script type=\"text/javascript\" src=\"" ++ Markup.attributeText url ++
          "\"></script>\n" := by
      unfold Layout.reference
      rw [← String.toList_inj]
      simp [Markup.toList_ofLines]
    have htags : Markup.Tags (Markup.ofLines [Layout.reference url]).toList 2 1 0 := by
      rw [htail, String.toList_append, String.toList_append, List.append_assoc]
      exact Markup.tags_reference (Markup.isAttributeChar_attributeText url)
    exact Or.inr ⟨url, Markup.attributeText url, rfl, htail,
      Markup.isAttributeChar_attributeText url, Markup.Tags.inline hbody htags⟩

theorem contained_of_compile_hostile :
    compile ⟨hostileResolver, .refusing []⟩ hostile {} = .ok hostileScript ∧
      Markup.Tags hostileScript.toList 5 2 1 := by
  have h : compile ⟨hostileResolver, .refusing []⟩ hostile {} = .ok hostileScript := by
    decide +kernel
  obtain ⟨body, tail, -, -, ⟨hnone, -⟩ | ⟨url, value, -, -, -, htags⟩⟩ := contained_of_compile h
  · exact absurd hnone (by decide +kernel)
  · exact ⟨h, htags⟩

end Script

end LogScript
