import LogScript.Proofs.JsonValue

namespace LogScript.Json

/-- A text between two others, with no token that runs over its ends. -/
def Token.StandsApart (left d right : String) : Prop :=
  ofText (left ++ d ++ right).toList =
    ofText left.toList ++ (ofText d.toList ++ ofText right.toList)

namespace Value

/-- The second value is the first one with `y` in the place of an `x` in it. -/
inductive Exchanged (x y : Value) : Value → Value → Prop
  | here : Exchanged x y x y
  | element {v w : Value} {left right : List Value} (h : Exchanged x y v w) :
      Exchanged x y (.array (left ++ v :: right)) (.array (left ++ w :: right))
  | member {v w : Value} {left right : List (String × Value)} {key : String}
      (h : Exchanged x y v w) :
      Exchanged x y (.object (left ++ (key, v) :: right)) (.object (left ++ (key, w) :: right))

/-- An entry of one of two lists in a row is an entry of the first or of the second. -/
theorem append_eq_append_cons {as bs ts us : List Token} {t : Token}
    (h : as ++ bs = ts ++ t :: us) :
    (∃ us', as = ts ++ t :: us' ∧ us = us' ++ bs) ∨
      ∃ ts', bs = ts' ++ t :: us ∧ ts = as ++ ts' := by
  rcases List.append_eq_append_iff.mp h with ⟨ts', rfl, hbs⟩ | ⟨rest, rfl, hrest⟩
  · exact Or.inr ⟨ts', hbs, rfl⟩
  · rcases List.cons_eq_append_iff.mp hrest with ⟨rfl, hbs⟩ | ⟨us', rfl, hus⟩
    · exact Or.inr ⟨[], hbs, by simp⟩
    · exact Or.inl ⟨us', rfl, hus⟩

/-- A token among elements or members behind commas belongs to one of them. -/
theorem exchange_row {α : Type} {row : α → List Token} {R : α → α → Prop} {t close : Token}
    {new : List Token} (hcomma : t ≠ .comma) (hclose : t ≠ close) {xs : List α}
    (hrow : ∀ x ∈ xs, ∀ ts us, row x = ts ++ t :: us → ∃ y, R x y ∧ row y = ts ++ (new ++ us))
    {ts us : List Token} (h : xs.flatMap (fun x => .comma :: row x) ++ [close] = ts ++ t :: us) :
    ∃ left x y right, xs = left ++ x :: right ∧ R x y ∧
      (left ++ y :: right).flatMap (fun x => .comma :: row x) ++ [close] = ts ++ (new ++ us) := by
  induction xs generalizing ts with
  | nil =>
    rcases List.singleton_eq_append_iff.mp h with ⟨-, h⟩ | ⟨-, h⟩
    · exact absurd (List.cons.inj h).1 hclose
    · cases h
  | cons x xs ih =>
    rw [List.forall_mem_cons] at hrow
    rw [List.flatMap_cons, List.cons_append, List.cons_append, List.append_assoc] at h
    cases ts with
    | nil => exact absurd (List.cons.inj h).1.symm hcomma
    | cons t' ts =>
      obtain ⟨rfl, hrest⟩ := List.cons.inj h
      rcases append_eq_append_cons hrest with ⟨us', hx, rfl⟩ | ⟨ts', hxs, rfl⟩
      · obtain ⟨y, hR, hy⟩ := hrow.1 ts us' hx
        exact ⟨[], x, y, xs, rfl, hR, by simp [hy]⟩
      · obtain ⟨left, x', y, right, rfl, hR, hy⟩ := ih hrow.2 hxs
        refine ⟨x :: left, x', y, right, rfl, hR, ?_⟩
        rw [List.cons_append, List.flatMap_cons, List.append_assoc, hy]
        simp

theorem tokens_array_of_itemsEnd {vs : List Value} {ts : List Token}
    (h : itemsEnd vs = .comma :: ts) : (array vs).tokens = .openArray :: ts := by
  cases vs with
  | nil => cases h
  | cons v vs =>
    rw [itemsEnd_cons] at h
    rw [tokens_array_cons, (List.cons.inj h).2]

theorem tokens_object_of_membersEnd {ms : List (String × Value)} {ts : List Token}
    (h : membersEnd ms = .comma :: ts) : (object ms).tokens = .openObject :: ts := by
  cases ms with
  | nil => cases h
  | cons m ms =>
    rw [membersEnd_cons] at h
    rw [tokens_object_cons, (List.cons.inj h).2]

theorem exchange_single {n : Number} {t : Token} {ts us : List Token}
    (h : [t] = ts ++ .number n :: us) : t = .number n ∧ ts = [] ∧ us = [] := by
  rcases List.singleton_eq_append_iff.mp h with ⟨rfl, h⟩ | ⟨-, h⟩
  · obtain ⟨rfl, rfl⟩ := List.cons.inj h
    exact ⟨rfl, rfl, rfl⟩
  · cases h

/-- A number among the tokens of a value is one inside the value, and the tokens of any value may
stand in its place. -/
theorem exists_exchanged {n : Number} (y : Value) {v : Value} {ts us : List Token}
    (h : v.tokens = ts ++ .number n :: us) :
    ∃ w, Exchanged (number n) y v w ∧ w.tokens = ts ++ (y.tokens ++ us) := by
  induction v using Value.induction generalizing ts us with
  | null => cases (exchange_single (tokens.eq_1 ▸ h)).1
  | bool b => cases (exchange_single (tokens.eq_2 b ▸ h)).1
  | number m =>
    obtain ⟨hm, rfl, rfl⟩ := exchange_single (tokens.eq_3 m ▸ h)
    cases hm
    exact ⟨y, .here, by simp⟩
  | string s => cases (exchange_single (tokens.eq_4 s ▸ h)).1
  | array vs ih =>
    cases vs with
    | nil =>
      have hmem : .number n ∈ (array []).tokens := h ▸ List.mem_append_right ts List.mem_cons_self
      simp [tokens_array_nil] at hmem
    | cons v vs =>
      rw [tokens_array_cons, List.cons_eq_append_iff] at h
      rcases h with ⟨-, h⟩ | ⟨ts, rfl, h⟩
      · cases h
      have hrow : itemsEnd (v :: vs) = .comma :: ts ++ .number n :: us := by
        rw [itemsEnd_cons, h, List.cons_append]
      obtain ⟨left, x, y, right, hvs, hexchanged, htokens⟩ :=
        exchange_row (by simp) (by simp) (fun x hx ts us h => ih x hx h) hrow
      rw [hvs]
      exact ⟨_, .element hexchanged, tokens_array_of_itemsEnd htokens⟩
  | object ms ih =>
    cases ms with
    | nil =>
      have hmem : .number n ∈ (object []).tokens := h ▸ List.mem_append_right ts List.mem_cons_self
      simp [tokens_object_nil] at hmem
    | cons m ms =>
      rw [tokens_object_cons, List.cons_eq_append_iff] at h
      rcases h with ⟨-, h⟩ | ⟨ts, rfl, h⟩
      · cases h
      have hrow : membersEnd (m :: ms) = .comma :: ts ++ .number n :: us := by
        rw [membersEnd_cons, h, List.cons_append]
      have hmember : ∀ m' ∈ m :: ms, ∀ ts us, member m' = ts ++ .number n :: us →
          ∃ m'', (∃ w, m'' = (m'.1, w) ∧ Exchanged (number n) y m'.2 w) ∧
            member m'' = ts ++ (y.tokens ++ us) := by
        intro m' hm' ts us h
        rw [member, List.cons_eq_append_iff] at h
        rcases h with ⟨-, h⟩ | ⟨ts, rfl, h⟩
        · cases h
        rw [List.cons_eq_append_iff] at h
        rcases h with ⟨-, h⟩ | ⟨ts, rfl, h⟩
        · cases h
        obtain ⟨w, hexchanged, htokens⟩ := ih m' hm' h
        exact ⟨(m'.1, w), ⟨w, rfl, hexchanged⟩, by rw [member, htokens]; rfl⟩
      obtain ⟨left, x, y, right, hms, ⟨w, rfl, hexchanged⟩, htokens⟩ :=
        exchange_row (by simp) (by simp) hmember hrow
      rw [hms]
      exact ⟨_, .member hexchanged, tokens_object_of_membersEnd htokens⟩

/-- A part of a text stands apart if and only if the tokens fall into those in front of it, its own,
and those behind it. -/
theorem IsText.standsApart_iff {left d right : String} {v : Value}
    (hv : v.IsText (left ++ d ++ right).toList) :
    Token.StandsApart left d right ↔
      ∃ ts ds us, Token.Spelled Token.Spells ts left.toList ∧
        Token.Spelled Token.Spells ds d.toList ∧ Token.Spelled Token.Spells us right.toList ∧
        v.tokens = ts ++ (ds ++ us) := by
  have htokens := Token.ofText_of_spelled hv v.apart_tokens
  rw [Token.StandsApart, htokens]
  constructor
  · intro h
    have hbroken : ∀ t ∈ v.tokens, t.isBroken = false := fun t => isBroken_of_mem_tokens
    rw [h, List.forall_mem_append, List.forall_mem_append] at hbroken
    exact ⟨_, _, _, Token.spelled_ofText hbroken.1, Token.spelled_ofText hbroken.2.1,
      Token.spelled_ofText hbroken.2.2, h⟩
  · rintro ⟨ts, ds, us, hleft, hd, hright, h⟩
    have hapart : Token.Apart (ts ++ (ds ++ us)) := h ▸ v.apart_tokens
    rw [Token.ofText_of_spelled hleft hapart.left_of_append,
      Token.ofText_of_spelled hd hapart.right_of_append.left_of_append,
      Token.ofText_of_spelled hright hapart.right_of_append.right_of_append, h]

/-- Where a number stands apart in a text of a value, the text of any value may stand. -/
theorem IsText.exchange {left d d' right : String} {n : Number} {v y : Value}
    (hv : v.IsText (left ++ d ++ right).toList) (hapart : Token.StandsApart left d right)
    (hd : Token.ofText d.toList = [.number n]) (hy : y.IsText d'.toList) :
    ∃ w, Exchanged (number n) y v w ∧ w.IsText (left ++ d' ++ right).toList := by
  obtain ⟨ts, ds, us, hleft, hds, hright, htokens⟩ := hv.standsApart_iff.mp hapart
  have hown : Token.Apart (ts ++ (ds ++ us)) := htokens ▸ v.apart_tokens
  rw [Token.ofText_of_spelled hds hown.right_of_append.left_of_append] at hd
  rw [hd, List.singleton_append] at htokens
  obtain ⟨w, hexchanged, hw⟩ := exists_exchanged y htokens
  refine ⟨w, hexchanged, ?_⟩
  rw [IsText, hw, String.toList_append, String.toList_append, List.append_assoc]
  exact hleft.append (hy.append hright)

end Value

end LogScript.Json
