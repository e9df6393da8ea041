import LogScript.Options
import LogScript.Proofs.Quotation
import Mathlib.Data.List.Forall2

namespace LogScript

/-- What `f` writes for values of a class can be told from what follows, if that is as `follow`
says. -/
def Delimited {α : Type} (follow : List Char → Prop) (P : α → Prop) (f : α → List Char) : Prop :=
  ∀ ⦃a b : α⦄ ⦃s t : List Char⦄, P a → P b → follow s → follow t → f a ++ s = f b ++ t →
    a = b ∧ s = t

/-- A text that begins with a character of a class. -/
def BeginsWith (stop : Char → Prop) (s : List Char) : Prop := ∃ c r, s = c :: r ∧ stop c

theorem beginsWith_cons {stop : Char → Prop} {c : Char} {r : List Char} (h : stop c) :
    BeginsWith stop (c :: r) :=
  ⟨c, r, rfl, h⟩

theorem append_inj_of_stop (stop : Char → Prop) {l m s t : List Char} (hl : ∀ c ∈ l, ¬stop c)
    (hm : ∀ c ∈ m, ¬stop c) (hs : BeginsWith stop s) (ht : BeginsWith stop t)
    (h : l ++ s = m ++ t) : l = m ∧ s = t := by
  obtain ⟨c, r, rfl, hc⟩ := hs
  obtain ⟨d, u, rfl, hd⟩ := ht
  induction l generalizing m with
  | nil =>
    cases m with
    | nil => exact ⟨rfl, h⟩
    | cons e m =>
      obtain ⟨rfl, -⟩ := List.cons.inj h
      exact absurd hc (hm _ (by simp))
  | cons e l ih =>
    cases m with
    | nil =>
      obtain ⟨rfl, -⟩ := List.cons.inj h
      exact absurd hd (hl _ (by simp))
    | cons e' m =>
      obtain ⟨rfl, htail⟩ := List.cons.inj h
      obtain ⟨rfl, hr⟩ := ih (fun x hx => hl x (List.mem_cons_of_mem _ hx))
        (fun x hx => hm x (List.mem_cons_of_mem _ hx)) htail
      exact ⟨rfl, hr⟩

section Rows

variable {α : Type} {P : α → Prop} {f : α → List Char} {stop : Char → Prop} {sep close : Char}

/-- What stands behind the first entry of a row. -/
def rowEnd (f : α → List Char) (sep close : Char) (gap : List Char) : List α → List Char
  | [] => [close]
  | x :: xs => sep :: (gap ++ f x ++ rowEnd f sep close gap xs)

theorem intercalate_cons_eq_rowEnd (gap : List Char) (x : α) (xs : List α) :
    (sep :: gap).intercalate ((x :: xs).map f) ++ [close] =
      f x ++ rowEnd f sep close gap xs := by
  induction xs generalizing x with
  | nil => simp [rowEnd]
  | cons y ys ih =>
    have hy := ih y
    rw [List.map_cons] at hy
    rw [List.map_cons, List.map_cons, List.intercalate_cons_cons, List.append_assoc, hy, rowEnd]
    simp

theorem beginsWith_rowEnd (hsep : stop sep) (hclose : stop close) (gap : List Char) (xs : List α)
    (s : List Char) : BeginsWith stop (rowEnd f sep close gap xs ++ s) := by
  cases xs with
  | nil => exact beginsWith_cons hclose
  | cons x xs => exact beginsWith_cons hsep

theorem Delimited.rowEnd (h : Delimited (BeginsWith stop) P f) (hsep : stop sep)
    (hclose : stop close) (hne : sep ≠ close) (gap : List Char) :
    Delimited (fun _ => True) (fun xs => ∀ x ∈ xs, P x) (rowEnd f sep close gap) := by
  intro xs ys s t hx hy _ _ heq
  induction xs generalizing ys with
  | nil =>
    cases ys with
    | nil => exact ⟨rfl, (List.cons.inj heq).2⟩
    | cons y ys => exact absurd (List.cons.inj heq).1.symm hne
  | cons x xs ih =>
    cases ys with
    | nil => exact absurd (List.cons.inj heq).1 hne
    | cons y ys =>
      rw [List.forall_mem_cons] at hx hy
      simp only [LogScript.rowEnd, List.cons_append, List.append_assoc, List.cons.injEq,
        true_and] at heq
      obtain ⟨rfl, hrest⟩ := h hx.1 hy.1 (beginsWith_rowEnd hsep hclose gap xs s)
        (beginsWith_rowEnd hsep hclose gap ys t) (List.append_cancel_left heq)
      obtain ⟨rfl, hst⟩ := ih hx.2 hy.2 hrest
      exact ⟨rfl, hst⟩

/-- A row up to its closing character, which no entry begins with. -/
theorem Delimited.intercalate (h : Delimited (BeginsWith stop) P f) (hsep : stop sep)
    (hclose : stop close) (hne : sep ≠ close) (gap : List Char)
    (hhead : ∀ a, P a → BeginsWith (· ≠ close) (f a)) :
    Delimited (fun _ => True) (fun xs => ∀ x ∈ xs, P x)
      fun xs : List α => (sep :: gap).intercalate (xs.map f) ++ [close] := by
  have hempty : ∀ x xs (s t : List Char), P x →
      (sep :: gap).intercalate ((x :: xs).map f) ++ [close] ++ s ≠ close :: t := by
    intro x xs s t hx heq
    obtain ⟨c, u, hc, hcne⟩ := hhead x hx
    rw [intercalate_cons_eq_rowEnd, hc] at heq
    exact hcne (List.cons.inj heq).1
  intro xs ys s t hx hy _ _ heq
  dsimp only at heq
  cases xs with
  | nil =>
    cases ys with
    | nil => exact ⟨rfl, (List.cons.inj heq).2⟩
    | cons y ys => exact absurd heq.symm (hempty y ys t s (hy y (by simp)))
  | cons x xs =>
    cases ys with
    | nil => exact absurd heq (hempty x xs s t (hx x (by simp)))
    | cons y ys =>
      rw [List.forall_mem_cons] at hx hy
      rw [intercalate_cons_eq_rowEnd, intercalate_cons_eq_rowEnd, List.append_assoc,
        List.append_assoc] at heq
      obtain ⟨rfl, hrest⟩ := h hx.1 hy.1 (beginsWith_rowEnd hsep hclose gap xs s)
        (beginsWith_rowEnd hsep hclose gap ys t) heq
      obtain ⟨rfl, hst⟩ := h.rowEnd hsep hclose hne gap hx.2 hy.2 trivial trivial hrest
      exact ⟨rfl, hst⟩

end Rows

namespace Literal

/-- Characters that literals inside objects and arrays are followed by. -/
def IsEnd (c : Char) : Prop := c = ',' ∨ c = ']' ∨ c = '}'

/-- A number, a truth value or a variable: no character in it ends it or begins another literal. -/
def IsWord (s : String) : Prop :=
  s ≠ "" ∧ ∀ c ∈ s.toList, ¬IsEnd c ∧ c ≠ '[' ∧ c ≠ '"'

def IsItem (s : String) : Prop := IsWord s ∨ ∃ t, s = quote t

def IsValue (s : String) : Prop :=
  IsItem s ∨ ∃ items, (∀ x ∈ items, IsItem x) ∧ s = array items

theorem IsWord.beginsWith {s : String} (h : IsWord s) :
    BeginsWith (fun c => ¬IsEnd c ∧ c ≠ '[' ∧ c ≠ '"') s.toList := by
  cases hs : s.toList with
  | nil => exact absurd (String.toList_inj.mp (hs.trans String.toList_empty.symm)) h.1
  | cons c r => exact beginsWith_cons (h.2 c (by simp [hs]))

theorem IsItem.beginsWith {s : String} (h : IsItem s) :
    BeginsWith (fun c => c ≠ ']' ∧ c ≠ '[') s.toList := by
  rcases h with h | ⟨t, rfl⟩
  · obtain ⟨c, r, hc, hend, hopen, -⟩ := h.beginsWith
    exact ⟨c, r, hc, fun hcl => hend (Or.inr (Or.inl hcl)), hopen⟩
  · rw [toList_quote]
    exact beginsWith_cons ⟨by decide, by decide⟩

theorem IsWord.append_ne_quote {a b : String} (h : IsWord a) (s t : List Char) :
    a.toList ++ s ≠ (quote b).toList ++ t := by
  obtain ⟨c, r, hc, -, -, hquote⟩ := h.beginsWith
  rw [hc, toList_quote]
  intro heq
  exact hquote (List.cons.inj heq).1

theorem delimited_item : Delimited (BeginsWith IsEnd) IsItem String.toList := by
  intro a b s t ha hb hs ht h
  rcases ha with ha | ⟨a, rfl⟩ <;> rcases hb with hb | ⟨b, rfl⟩
  · obtain ⟨hab, hst⟩ := append_inj_of_stop IsEnd (fun c hc => (ha.2 c hc).1)
      (fun c hc => (hb.2 c hc).1) hs ht h
    exact ⟨String.toList_inj.mp hab, hst⟩
  · exact absurd h (ha.append_ne_quote s t)
  · exact absurd h.symm (hb.append_ne_quote t s)
  · obtain ⟨rfl, hst⟩ := quote_append_inj h
    exact ⟨rfl, hst⟩

theorem toList_array (items : List String) :
    (array items).toList = '[' :: ([',', ' '].intercalate (items.map String.toList) ++ [']']) := by
  simp [array]

theorem array_append_inj {xs ys : List String} {s t : List Char} (hx : ∀ x ∈ xs, IsItem x)
    (hy : ∀ y ∈ ys, IsItem y) (h : (array xs).toList ++ s = (array ys).toList ++ t) :
    xs = ys ∧ s = t := by
  rw [toList_array, toList_array] at h
  have hrow := delimited_item.intercalate (Or.inl rfl) (Or.inr (Or.inl rfl)) (by decide) [' ']
    fun a ha => by
      obtain ⟨c, r, hc, hcne, -⟩ := ha.beginsWith
      exact ⟨c, r, hc, hcne⟩
  exact hrow hx hy trivial trivial (List.cons.inj h).2

theorem array_inj {xs ys : List String} (hx : ∀ x ∈ xs, IsItem x) (hy : ∀ y ∈ ys, IsItem y)
    (h : array xs = array ys) : xs = ys := by
  have happ : (array xs).toList ++ [] = (array ys).toList ++ [] := by rw [h]
  exact (array_append_inj hx hy happ).1

theorem IsItem.append_ne_array {a : String} {items : List String} (h : IsItem a)
    (s t : List Char) : a.toList ++ s ≠ (array items).toList ++ t := by
  obtain ⟨c, r, hc, -, hopen⟩ := h.beginsWith
  rw [hc, toList_array]
  intro heq
  exact hopen (List.cons.inj heq).1

theorem delimited_value : Delimited (BeginsWith IsEnd) IsValue String.toList := by
  intro a b s t ha hb hs ht h
  rcases ha with ha | ⟨xs, hxs, rfl⟩ <;> rcases hb with hb | ⟨ys, hys, rfl⟩
  · exact delimited_item ha hb hs ht h
  · exact absurd h (ha.append_ne_array s t)
  · exact absurd h.symm (hb.append_ne_array t s)
  · obtain ⟨rfl, hst⟩ := array_append_inj hxs hys h
    exact ⟨rfl, hst⟩

end Literal

namespace Options

/-- An option that can be read back: its name ends at the first quote. -/
def IsEntry (e : String × String) : Prop := '"' ∉ e.1.toList ∧ Literal.IsValue e.2

theorem toList_entry (e : String × String) :
    (entry e).toList = '"' :: (e.1.toList ++ '"' :: ':' :: ' ' :: e.2.toList) := by
  simp [entry]

theorem delimited_entry :
    Delimited (BeginsWith Literal.IsEnd) IsEntry fun e => (entry e).toList := by
  intro d e s t hd he hs ht h
  simp only [toList_entry, List.cons_append, List.append_assoc, List.cons.injEq, true_and] at h
  obtain ⟨hname, hrest⟩ := append_inj_of_stop (· = '"')
    (fun c hc hq => hd.1 (hq ▸ hc)) (fun c hc hq => he.1 (hq ▸ hc))
    (beginsWith_cons rfl) (beginsWith_cons rfl) h
  simp only [List.cons.injEq, true_and] at hrest
  obtain ⟨hvalue, hst⟩ := Literal.delimited_value hd.2 he.2 hs ht hrest
  exact ⟨Prod.ext (String.toList_inj.mp hname) hvalue, hst⟩

theorem toList_object (o : Options) :
    o.object.toList =
      '\x7b' :: ([',', '\n'].intercalate (o.entries.map fun e => (entry e).toList) ++
        ['\x7d']) := by
  simp [object, Function.comp_def]

/-- An object determines its options and what follows. -/
theorem object_append_inj {o o' : Options} {s t : List Char} (ho : ∀ e ∈ o.entries, IsEntry e)
    (ho' : ∀ e ∈ o'.entries, IsEntry e)
    (h : o.object.toList ++ s = o'.object.toList ++ t) : o = o' ∧ s = t := by
  rw [toList_object, toList_object] at h
  have hrow := delimited_entry.intercalate (Or.inl rfl) (Or.inr (Or.inr rfl)) (by decide) ['\n']
    fun e _ => by
      rw [toList_entry]
      exact beginsWith_cons (by decide)
  obtain ⟨hentries, hst⟩ := hrow ho ho' trivial trivial (List.cons.inj h).2
  exact ⟨by cases o; cases o'; cases hentries; rfl, hst⟩

end Options

end LogScript
