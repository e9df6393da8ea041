import LogScript.Proofs.OptionObject
import LogScript.Proofs.Schema

namespace LogScript.Literal

/-- What a letter behind a backslash stands for. -/
def ofLetter? : Char → Option Char
  | '"' => some '"'
  | '\\' => some '\\'
  | 'n' => some '\n'
  | 'r' => some '\r'
  | 't' => some '\t'
  | 'b' => some '\x08'
  | 'f' => some '\x0c'
  | _ => none

/-- The character with a code. The codes from 0xD800 to 0xDFFF are those of no character. -/
def ofCode? (hex : List Char) : Option Char :=
  ((Text.hexNumber? hex).filter fun n => n < 0xD800 || 0xDFFF < n).map Char.ofNat

/-- The characters up to a closing quote, and what follows it. -/
def untilQuote? : List Char → Option (List Char × List Char)
  | [] => none
  | '"' :: r => some ([], r)
  | '\\' :: 'u' :: a :: b :: c :: d :: r => do
    let e ← ofCode? [a, b, c, d]
    let (cs, r') ← untilQuote? r
    return (e :: cs, r')
  | '\\' :: l :: r => do
    let e ← ofLetter? l
    let (cs, r') ← untilQuote? r
    return (e :: cs, r')
  | c :: r =>
    if c = '\\' ∨ c.toNat < 0x20 then none
    else do
      let (cs, r') ← untilQuote? r
      return (c :: cs, r')

/-- The text of a literal that stands in front, and what follows the literal. -/
def unquote? : List Char → Option (String × List Char)
  | '"' :: r => (untilQuote? r).map fun p => (String.ofList p.1, p.2)
  | _ => none

theorem untilQuote?_letter {l c : Char} (h : ofLetter? l = some c) (r : List Char) :
    untilQuote? ('\\' :: l :: r) = (untilQuote? r).map fun p => (c :: p.1, p.2) := by
  have hl : l ≠ 'u' := by
    rintro rfl
    cases h
  cases hr : untilQuote? r <;> simp [untilQuote?, h, hr, hl]

/-- A code below those of no character is the code of its character. -/
theorem untilQuote?_hex4 {c : Char} (h : c.toNat < 0xD800) (r : List Char) :
    untilQuote? ('\\' :: 'u' :: (Text.hex4 c.toNat ++ r)) =
      (untilQuote? r).map fun p => (c :: p.1, p.2) := by
  have hcode : ofCode? (Text.hex4 c.toNat) = some c := by
    rw [ofCode?, Text.hexNumber?_hex4 (show c.toNat < 65536 by omega)]
    simp [h]
  unfold Text.hex4 at hcode ⊢
  cases hr : untilQuote? r <;> simp [untilQuote?, hcode, hr]

theorem untilQuote?_plain {c : Char} (hquote : c ≠ '"') (hbackslash : c ≠ '\\')
    (hcontrol : ¬c.toNat < 0x20) (r : List Char) :
    untilQuote? (c :: r) = (untilQuote? r).map fun p => (c :: p.1, p.2) := by
  cases hr : untilQuote? r <;> simp [untilQuote?, hbackslash, hcontrol, hr]

theorem untilQuote?_escape (c : Char) (r : List Char) :
    untilQuote? (escape c ++ r) = (untilQuote? r).map fun p => (c :: p.1, p.2) := by
  unfold escape
  -- The seven letters come first, then the codes, then the characters that stand as they are.
  iterate 7
    split
    next h => subst h; exact untilQuote?_letter rfl r
  split
  next h => exact untilQuote?_hex4 (toNat_lt_of_needsCode h) r
  next hquote hbackslash _ _ _ _ _ hcode =>
    refine untilQuote?_plain hquote hbackslash (fun hcontrol => hcode ?_) r
    simp [needsCode, hcontrol]

theorem untilQuote?_flatMap_escape (cs r : List Char) :
    untilQuote? (cs.flatMap escape ++ '"' :: r) = some (cs, r) := by
  induction cs with
  | nil => rw [List.flatMap_nil, List.nil_append, untilQuote?]
  | cons c cs ih =>
    rw [List.flatMap_cons, List.append_assoc, untilQuote?_escape, ih]
    rfl

theorem unquote?_quote_append (t : String) (r : List Char) :
    unquote? ((quote t).toList ++ r) = some (t, r) := by
  rw [toList_quote, List.cons_append, List.append_assoc, List.singleton_append, unquote?,
    untilQuote?_flatMap_escape]
  simp

/-- The literal of a text begins that of another only if the texts are equal. -/
theorem quote_prefix_iff {t u : String} : (quote u).toList <+: (quote t).toList ↔ u = t := by
  constructor
  · rintro ⟨r, hr⟩
    have ht := unquote?_quote_append t []
    rw [List.append_nil, ← hr, unquote?_quote_append u r] at ht
    exact (Prod.mk.inj (Option.some.inj ht)).1
  · rintro rfl
    exact List.prefix_refl _

end LogScript.Literal

namespace LogScript.Config.Configuration

/-- A configuration in which nothing but the path of the library is given. -/
theorem isConfiguration_path (t : String) :
    IsConfiguration (.object [("productionLibraryPath", .string t)])
      { productionLibraryPath := some t } := by
  refine ⟨_, .object (by simp [keys]) (by simp), ?_⟩
  constructor
  case productionLibraryPath => exact Or.inl ⟨_, List.mem_singleton_self _, t, rfl, rfl⟩
  all_goals exact Or.inr ⟨by simp, rfl⟩

theorem isText_path (t : String) :
    (Json.Value.object [("productionLibraryPath", .string t)]).IsText
      ("\x7b\"productionLibraryPath\": " ++ Literal.quote t ++ "\x7d").toList := by
  have hbare : ∀ c ∈ "productionLibraryPath".toList, Json.IsBare c := by decide
  have hmember : Options.IsMember ("productionLibraryPath", .string t)
      ("productionLibraryPath", Literal.quote t) :=
    ⟨rfl, hbare, Kind.isText_quote t, by simp [Json.Value.Within]⟩
  have hgap : Json.Token.isSpace '\n' = true := by decide
  have htext := Json.Value.isText_object hgap (.cons hmember.spelled .nil)
  simpa [Options.toList_entry] using htext

end LogScript.Config.Configuration

namespace LogScript.Literal

/-- A literal is read back and left behind in any context, by the strict rules as well as by those
of JSON. -/
theorem quote_undone (t : String) :
    (∀ r, unquote? ((quote t).toList ++ r) = some (t, r)) ∧
    (∀ r, Json.StringLiteral.read? ((quote t).toList.tail ++ r) = .ok (t.toList, r)) ∧
    (∀ u, quote u = quote t ↔ u = t) ∧
    (∀ u, (quote u).toList <+: (quote t).toList ↔ u = t) ∧
    Config.Configuration.ofJson ("\x7b\"productionLibraryPath\": " ++ quote t ++ "\x7d") =
      .ok { productionLibraryPath := some t } := by
  refine ⟨unquote?_quote_append t, fun r => ?_, fun u => ?_, fun u => quote_prefix_iff, ?_⟩
  · rw [toList_quote, List.tail_cons, List.append_assoc, List.singleton_append]
    exact read?_flatMap_escape t.toList r
  · exact ⟨quote_inj, congrArg quote⟩
  · exact (Config.readText_eq_ok_iff Config.Configuration.takes_read (by decide)).mpr
      ⟨_, Config.Configuration.isText_path t, Config.Configuration.isConfiguration_path t⟩

/-- Text that looks like an escape is not taken for one. -/
example : quote "\\u0041\\\"" = "\"\\\\u0041\\\\\\\"\"" ∧
    unquote? "\"\\\\u0041\\\\\\\"\"\"".toList = some ("\\u0041\\\"", ['"']) := by
  decide +kernel

end LogScript.Literal
