import LogScript.Proofs.Containment

namespace LogScript.Text

open String.Slice.Pattern String.Slice.Pattern.Model

/-- What is written for one character if another one is replaced. -/
def put (c : Char) (t : String) (d : Char) : List Char := if d = c then t.toList else [d]

/-- A text goes on with the replacement, or with a part in which a search found nothing. -/
def extend {s : String.Slice} (t done : String) : SearchStep s → String
  | .matched _ _ => done ++ t
  | .rejected start stop => done ++ (s.slice! start stop).copy

variable {c : Char} {t : String}

theorem flatMap_put_of_not_mem {cs : List Char} (h : c ∉ cs) : cs.flatMap (put c t) = cs := by
  induction cs with
  | nil => rfl
  | cons d cs ih =>
    rw [List.mem_cons, not_or] at h
    rw [List.flatMap_cons, ih h.2, put, if_neg (Ne.symm h.1)]
    rfl

/-- A part of a text in which a search finds nothing does not have the character in it. -/
theorem not_mem_of_not_matchesAt {s : String.Slice} {p q : s.Pos}
    {before between after : String} (hp : p.Splits before (between ++ after))
    (hq : q.Splits (before ++ between) after) (h : ∀ r, p ≤ r → r < q → ¬MatchesAt c r) :
    c ∉ between.toList := by
  intro hmem
  obtain ⟨us, vs, hsplit⟩ := List.append_of_mem hmem
  have hbetween : between = String.ofList us ++ (String.singleton c ++ String.ofList vs) := by
    rw [← String.toList_inj]
    simpa using hsplit
  subst hbetween
  have htext : s.copy = (before ++ String.ofList us) ++
      (String.singleton c ++ (String.ofList vs ++ after)) := by
    rw [hp.eq_append]
    simp only [String.append_assoc]
  have hr := String.Slice.Pos.splits_ofEqAppend htext
  refine h _ ?_ ?_ (Char.matchesAt_iff_splits.mpr ⟨_, _, hr⟩)
  · exact (hp.le_iff_exists_eq_append hr).mpr ⟨String.ofList us, rfl, by simp [String.append_assoc]⟩
  · refine (hr.lt_iff_exists_eq_append hq).mpr ⟨String.singleton c ++ String.ofList vs, ?_, ?_, ?_⟩
    · intro hempty
      have hchars := congrArg String.toList hempty
      simp at hchars
    · simp [String.append_assoc]
    · simp [String.append_assoc]

theorem toList_foldl_extend {s : String.Slice} {p : s.Pos} {steps : List (SearchStep s)}
    (h : IsValidSearchFrom c p steps) {before after : String} (hp : p.Splits before after)
    (done : String) :
    (steps.foldl (extend t) done).toList = done.toList ++ after.toList.flatMap (put c t) := by
  induction h generalizing before after done with
  | endPos =>
    have hafter : after = "" := hp.eq_endPos_iff.mp rfl
    simp [hafter]
  | matched hmatch _ ih =>
    obtain ⟨hne, rfl, hget⟩ := Char.isLongestMatchAt_iff.mp hmatch
    obtain ⟨rest, rfl⟩ := hp.exists_eq_singleton_append hne
    rw [List.foldl_cons, ih hp.next]
    simp [extend, put, hget]
  | @mismatched l p q hlt hnone _ ih =>
    obtain ⟨between, hbefore, rfl⟩ :=
      (hp.le_iff_exists_eq_append q.splits).mp (Std.le_of_lt hlt)
    have hq : q.Splits (before ++ between) (s.sliceFrom q).copy := hbefore ▸ q.splits
    obtain ⟨hle, hslice⟩ := String.Slice.copy_slice_eq_iff_splits.mpr ⟨_, _, hp, hq⟩
    have hnot := not_mem_of_not_matchesAt hp hq hnone
    rw [List.foldl_cons, ih hq, extend, ← String.Slice.slice_eq_slice! (h := hle), hslice,
      String.toList_append, String.toList_append, List.flatMap_append,
      flatMap_put_of_not_mem hnot, List.append_assoc]

theorem toList_replace (s : String) (c : Char) (t : String) :
    (s.replace c t).toList = s.toList.flatMap (put c t) := by
  have hsearch : IsValidSearchFrom c s.toSlice.startPos
      (ToForwardSearcher.toSearcher c s.toSlice).toList :=
    LawfulToForwardSearcherModel.isValidSearchFrom_toList s.toSlice
  have hfold : s.replace c t =
      (ToForwardSearcher.toSearcher c s.toSlice).toList.foldl (extend t) "" := by
    rw [String.replace, String.Slice.replace, ← Std.Iter.foldl_toList]
    congr 1
    funext done step
    cases step <;> simp [extend, String.ToSlice.toSlice]
  rw [hfold, toList_foldl_extend hsearch s.toSlice.splits_startPos]
  simp

end LogScript.Text

namespace LogScript.Markup

/-- What stands for an ampersand, a quotation mark, and the brackets of a tag. -/
def entities : List String := ["&amp;", "&quot;", "&lt;", "&gt;"]

/-- Every ampersand begins an entity. -/
def AmpersandsBeginEntities (cs : List Char) : Prop :=
  ∀ before after, cs = before ++ '&' :: after → ∃ e ∈ entities, e.toList <+: '&' :: after

/-- Characters read from left to right, with entities taken for what they stand for. -/
def plain : List Char → List Char
  | [] => []
  | '&' :: 'a' :: 'm' :: 'p' :: ';' :: r => '&' :: plain r
  | '&' :: 'q' :: 'u' :: 'o' :: 't' :: ';' :: r => '"' :: plain r
  | '&' :: 'l' :: 't' :: ';' :: r => '<' :: plain r
  | '&' :: 'g' :: 't' :: ';' :: r => '>' :: plain r
  | c :: r => c :: plain r

def plainText (s : String) : String := String.ofList (plain s.toList)

/-- The ampersands that a replacement brings in are not replaced again. -/
theorem escape_eq_flatMap_put (c : Char) :
    (((Text.put '&' "&amp;" c).flatMap (Text.put '"' "&quot;")).flatMap
      (Text.put '<' "&lt;")).flatMap (Text.put '>' "&gt;") = escape c := by
  unfold escape
  iterate 4
    split
    next h => subst h; decide
  next hamp hquote hless hgreater => simp [Text.put, hamp, hquote, hless, hgreater]

theorem attributeText_eq_replace (s : String) :
    attributeText s = (((s.replace '&' "&amp;").replace '"' "&quot;").replace '<' "&lt;").replace
      '>' "&gt;" := by
  rw [← String.toList_inj, attributeText, String.toList_ofList]
  simp only [Text.toList_replace, List.flatMap_assoc]
  apply List.flatMap_congr
  intro c _
  rw [← escape_eq_flatMap_put]
  simp only [List.flatMap_assoc]

/-- An ampersand in what is written for a character is the first of an entity. -/
theorem escape_of_ampersand {c : Char} {before after : List Char}
    (h : escape c = before ++ '&' :: after) :
    before = [] ∧ ∃ e ∈ entities, e.toList = '&' :: after := by
  have htail : '&' ∉ (escape c).tail := by
    unfold escape
    iterate 4
      split
      next => decide
    exact List.not_mem_nil
  cases before with
  | cons d before =>
    rw [h] at htail
    exact absurd (List.mem_append_right before List.mem_cons_self) htail
  | nil =>
    refine ⟨rfl, String.ofList (escape c), ?_, by rw [String.toList_ofList, h, List.nil_append]⟩
    unfold escape at h ⊢
    iterate 4
      split
      next => decide
    next hamp _ _ _ =>
      rw [if_neg hamp] at h
      simp_all

theorem ampersandsBeginEntities_flatMap_escape (cs : List Char) :
    AmpersandsBeginEntities (cs.flatMap escape) := by
  induction cs with
  | nil =>
    intro before after h
    simp at h
  | cons c cs ih =>
    intro before after h
    rw [List.flatMap_cons, List.append_eq_append_iff] at h
    rcases h with ⟨rest, rfl, hrest⟩ | ⟨inside, hinside, hrest⟩
    · exact ih rest after hrest
    · cases inside with
      | nil => exact ih [] after hrest.symm
      | cons d inside =>
        obtain ⟨rfl, rfl⟩ := List.cons.inj hrest
        obtain ⟨-, e, he, hentity⟩ := escape_of_ampersand hinside
        exact ⟨e, he, hentity ▸ List.prefix_append ('&' :: inside) (cs.flatMap escape)⟩

theorem plain_cons {c : Char} (h : c ≠ '&') (r : List Char) : plain (c :: r) = c :: plain r := by
  rw [plain] <;> simp [h]

theorem plain_escape_append (c : Char) (r : List Char) :
    plain (escape c ++ r) = c :: plain r := by
  unfold escape
  iterate 4
    split
    next h => subst h; rfl
  next hamp _ _ _ => exact plain_cons hamp r

theorem plain_flatMap_escape (cs : List Char) : plain (cs.flatMap escape) = cs := by
  induction cs with
  | nil => rfl
  | cons c cs ih => rw [List.flatMap_cons, plain_escape_append, ih]

theorem plainText_attributeText (s : String) : plainText (attributeText s) = s := by
  rw [plainText, attributeText, String.toList_ofList, plain_flatMap_escape, String.ofList_toList]

theorem attributeText_inj {s t : String} (h : attributeText s = attributeText t) : s = t := by
  rw [← plainText_attributeText s, h, plainText_attributeText]

/-- An attribute value is written by four replacements, and what they do can be undone: the line
that loads a script tells its address. -/
theorem attributeText_undone (s : String) :
    attributeText s = (((s.replace '&' "&amp;").replace '"' "&quot;").replace '<' "&lt;").replace
      '>' "&gt;" ∧
    (attributeText s).toList = s.toList.flatMap (fun c =>
      if c = '&' then "&amp;".toList else if c = '"' then "&quot;".toList
      else if c = '<' then "&lt;".toList else if c = '>' then "&gt;".toList else [c]) ∧
    (∀ c ∈ (attributeText s).toList, c ∉ ['"', '<', '>']) ∧
    AmpersandsBeginEntities (attributeText s).toList ∧
    plainText (attributeText s) = s ∧
    ∀ t, reference t = reference s ↔ t = s := by
  have hchars : (attributeText s).toList = s.toList.flatMap escape := String.toList_ofList
  have hentities : AmpersandsBeginEntities (attributeText s).toList := by
    rw [hchars]
    exact ampersandsBeginEntities_flatMap_escape s.toList
  have hline : ∀ t, reference t = reference s ↔ t = s := by
    intro t
    constructor
    · intro h
      unfold reference at h
      exact attributeText_inj ((String.append_right_inj _).mp ((String.append_left_inj _).mp h))
    · exact congrArg reference
  exact ⟨attributeText_eq_replace s, hchars, isAttributeChar_attributeText s, hentities,
    plainText_attributeText s, hline⟩

/-- A text in which an entity stands already, and half of another one. -/
def entityLike : String := "&amp;<&lt"

theorem attributeText_undone_entityLike :
    attributeText entityLike = "&amp;amp;&lt;&amp;lt" ∧
    ('&' ∈ (attributeText entityLike).toList ∧ '&' ∉ ['"', '<', '>']) ∧
    ((attributeText entityLike).toList = "&amp;amp;&lt;".toList ++ '&' :: "amp;lt".toList ∧
      ∃ e ∈ entities, e.toList <+: '&' :: "amp;lt".toList) ∧
    plainText "&amp;amp;&lt;&amp;lt" = entityLike := by
  have hvalue : attributeText entityLike = "&amp;amp;&lt;&amp;lt" := by decide +kernel
  have hmem : '&' ∈ (attributeText entityLike).toList := by decide +kernel
  have hsplit : (attributeText entityLike).toList =
      "&amp;amp;&lt;".toList ++ '&' :: "amp;lt".toList := by decide +kernel
  obtain ⟨-, -, hclean, hentities, hback, -⟩ := attributeText_undone entityLike
  exact ⟨hvalue, ⟨hmem, hclean _ hmem⟩, ⟨hsplit, hentities _ _ hsplit⟩, hvalue ▸ hback⟩

end LogScript.Markup
