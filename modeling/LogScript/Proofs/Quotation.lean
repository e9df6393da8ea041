import LogScript.Json.StringLiteral
import LogScript.Literal

namespace LogScript.Json.StringLiteral

theorem read?_backslash {cs r : List Char} {c : Char} (h : escape? cs = .ok (c, r)) :
    read? ('\\' :: cs) = (read? r).map fun p => (c :: p.1, p.2) := by
  rw [read?, if_neg (by decide), if_pos rfl]
  split
  next he => rw [h] at he; cases he
  next he => rw [h] at he; cases he; rfl

theorem read?_plain {c : Char} (hq : c ≠ '"') (hb : c ≠ '\\') (hc : ¬c.toNat < 0x20)
    (r : List Char) : read? (c :: r) = (read? r).map fun p => (c :: p.1, p.2) := by
  rw [read?, if_neg hq, if_neg hb, if_neg hc]

/-- A code below those of pairs is the code of its character. -/
theorem escape?_hex4 {c : Char} (h : c.toNat < 0xD800) (r : List Char) :
    escape? ('u' :: (Text.hex4 c.toNat ++ r)) = .ok (c, r) := by
  have hcode : code? (Text.hex4 c.toNat ++ r) = .ok (c.toNat, r) := by
    have hnum := Text.hexNumber?_hex4 (show c.toNat < 65536 by omega)
    unfold Text.hex4 at hnum ⊢
    simp only [List.cons_append, List.nil_append, code?, hnum]
  have hfirst : isFirst c.toNat = false := by simp [isFirst]; omega
  have hsecond : isSecond c.toNat = false := by simp [isSecond]; omega
  simp [escape?, unicode?, hcode, hfirst, hsecond, Char.ofNat_toNat]

end LogScript.Json.StringLiteral

namespace LogScript.Literal

open Json.StringLiteral

theorem toNat_lt_of_needsCode {c : Char} (h : needsCode c = true) : c.toNat < 0xD800 := by
  simp only [needsCode, Bool.or_eq_true, decide_eq_true_eq, beq_iff_eq] at h
  rcases h with ((((((h | rfl) | rfl) | rfl) | rfl) | rfl) | rfl) | rfl
  · omega
  all_goals decide

theorem read?_escape (c : Char) (r : List Char) :
    read? (escape c ++ r) = (read? r).map fun p => (c :: p.1, p.2) := by
  unfold escape
  iterate 7
    split
    next h => subst h; exact read?_backslash rfl
  split
  next h => exact read?_backslash (escape?_hex4 (toNat_lt_of_needsCode h) r)
  next hq hb _ _ _ _ _ hcode =>
    refine read?_plain hq hb (fun hlt => hcode ?_) r
    simp [needsCode, hlt]

/-- What is inside a literal is read back, up to the closing quote. -/
theorem read?_flatMap_escape (cs r : List Char) :
    read? (cs.flatMap escape ++ '"' :: r) = .ok (cs, r) := by
  induction cs with
  | nil => rw [List.flatMap_nil, List.nil_append, read?, if_pos rfl]
  | cons c cs ih =>
    rw [List.flatMap_cons, List.append_assoc, read?_escape, ih]
    rfl

/-- A literal determines its text and what follows. -/
theorem quote_append_inj {a b : String} {s t : List Char}
    (h : (quote a).toList ++ s = (quote b).toList ++ t) : a = b ∧ s = t := by
  simp only [toList_quote, List.cons_append, List.append_assoc, List.nil_append,
    List.cons.injEq, true_and] at h
  have ha := read?_flatMap_escape a.toList s
  rw [h, read?_flatMap_escape b.toList t] at ha
  obtain ⟨htext, hrest⟩ := Prod.mk.inj (Except.ok.inj ha)
  exact ⟨String.toList_inj.mp htext.symm, hrest.symm⟩

theorem quote_inj {a b : String} (h : quote a = quote b) : a = b := by
  have happ : (quote a).toList ++ [] = (quote b).toList ++ [] := by rw [h]
  exact (quote_append_inj happ).1

end LogScript.Literal
