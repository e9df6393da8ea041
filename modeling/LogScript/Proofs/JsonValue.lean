import LogScript.Json.Draft
import LogScript.Proofs.TokenSpelling

namespace LogScript.Json

/-- A value of JSON. An object has its members in the order of the text, repeated keys included. -/
inductive Value where
  | null
  | bool (b : Bool)
  | number (n : Number)
  | string (s : String)
  | array (items : List Value)
  | object (members : List (String × Value))

namespace Value

/-- The tokens of a value. -/
def tokens : Value → List Token
  | null => [.null]
  | bool b => [.bool b]
  | number n => [.number n]
  | string s => [.string s]
  | array vs => .openArray :: ([Token.comma].intercalate (vs.map tokens) ++ [.closeArray])
  | object ms =>
    .openObject :: ([Token.comma].intercalate
      (ms.map fun m => .string m.1 :: .colon :: tokens m.2) ++ [.closeObject])
decreasing_by
  · have hlt := List.sizeOf_lt_of_mem ‹_›
    simp only [array.sizeOf_spec]
    omega
  · have hlt := List.sizeOf_lt_of_mem ‹m ∈ ms›
    obtain ⟨k, v⟩ := m
    simp only [object.sizeOf_spec, Prod.mk.sizeOf_spec] at hlt ⊢
    omega

/-- A strict JSON text of a value: its tokens, with white space around them. -/
def IsText (v : Value) (cs : List Char) : Prop := Token.Spelled Token.Spells v.tokens cs

/-- A value in which at most so many arrays and objects are open inside one another. -/
def Within : Nat → Value → Prop
  | n + 1, array vs => ∀ v ∈ vs, Within n v
  | n + 1, object ms => ∀ m ∈ ms, Within n m.2
  | 0, array _ => False
  | 0, object _ => False
  | _, _ => True

mutual

/-- What is read of a value of which nothing is missing. -/
def draft : Value → Draft
  | null => .null
  | bool b => .bool b
  | number n => .number n
  | string s => .string s
  | array vs => .array (items vs)
  | object ms => .object (members ms)

def items : List Value → Items
  | [] => .close
  | v :: vs => .item v.draft (items vs)

def members : List (String × Value) → Members
  | [] => .close
  | (k, v) :: ms => .member k v.draft (members ms)

end

theorem induction {P : Value → Prop} (null : P null) (bool : ∀ b, P (bool b))
    (number : ∀ n, P (number n)) (string : ∀ s, P (string s))
    (array : ∀ vs, (∀ v ∈ vs, P v) → P (array vs))
    (object : ∀ ms, (∀ m ∈ ms, P m.2) → P (object ms)) (v : Value) : P v := by
  refine @Value.rec P (fun vs => ∀ v ∈ vs, P v) (fun ms => ∀ m ∈ ms, P m.2) (fun m => P m.2)
    null bool number string array object (by simp) ?_ (by simp) ?_ ?_ v
  · intro v vs hv hvs
    exact List.forall_mem_cons.mpr ⟨hv, hvs⟩
  · intro m ms hm hms
    exact List.forall_mem_cons.mpr ⟨hm, hms⟩
  · intro k v hv
    exact hv

theorem Within.mono {m n : Nat} (hmn : m ≤ n) {v : Value} (h : v.Within m) : v.Within n := by
  induction v using Value.induction generalizing m n with
  | array vs ih =>
    match m, n, h with
    | m + 1, n + 1, h =>
      rw [Within] at h ⊢
      exact fun v hv => ih v hv (Nat.le_of_succ_le_succ hmn) (h v hv)
  | object ms ih =>
    match m, n, h with
    | m + 1, n + 1, h =>
      rw [Within] at h ⊢
      exact fun m hm => ih m hm (Nat.le_of_succ_le_succ hmn) (h m hm)
  | _ => simp [Within]

theorem mistake?_draft (v : Value) : v.draft.mistake? = none := by
  induction v using Value.induction with
  | array vs ih =>
    rw [draft, Draft.mistake?]
    induction vs with
    | nil => rfl
    | cons v vs ihs =>
      rw [List.forall_mem_cons] at ih
      rw [items, Items.mistake?, ih.1, ihs ih.2]
      rfl
  | object ms ih =>
    rw [draft, Draft.mistake?]
    induction ms with
    | nil => rfl
    | cons m ms ihs =>
      obtain ⟨key, v⟩ := m
      rw [List.forall_mem_cons] at ih
      rw [members, Members.mistake?, ih.1, ihs ih.2]
      rfl
  | _ => rfl

theorem intercalate_cons_eq_flatMap (sep : Token) (row : List Token) (rows : List (List Token)) :
    [sep].intercalate (row :: rows) = row ++ rows.flatMap (sep :: ·) := by
  induction rows generalizing row with
  | nil => simp
  | cons next rows ih => rw [List.intercalate_cons_cons, ih, List.flatMap_cons]; simp

theorem tokens_array_nil : (array []).tokens = [.openArray, .closeArray] := by
  rw [tokens]
  rfl

/-- The tokens behind an element. -/
def itemsEnd (vs : List Value) : List Token :=
  vs.flatMap (fun v => .comma :: v.tokens) ++ [.closeArray]

def member (m : String × Value) : List Token := .string m.1 :: .colon :: m.2.tokens

def membersEnd (ms : List (String × Value)) : List Token :=
  ms.flatMap (fun m => .comma :: member m) ++ [.closeObject]

theorem tokens_array_cons (v : Value) (vs : List Value) :
    (array (v :: vs)).tokens = .openArray :: (v.tokens ++ itemsEnd vs) := by
  rw [tokens, List.map_cons, intercalate_cons_eq_flatMap, List.flatMap_map, itemsEnd,
    List.append_assoc]

theorem tokens_object_nil : (object []).tokens = [.openObject, .closeObject] := by
  rw [tokens]
  rfl

theorem tokens_object_cons (m : String × Value) (ms : List (String × Value)) :
    (object (m :: ms)).tokens = .openObject :: (member m ++ membersEnd ms) := by
  rw [tokens, List.map_cons, intercalate_cons_eq_flatMap, List.flatMap_map, membersEnd,
    List.append_assoc]
  rfl

/-- A value does not begin as an array ends. -/
theorem tokens_eq_cons (v : Value) : ∃ t ts, v.tokens = t :: ts ∧ t ≠ .closeArray := by
  cases v <;> rw [tokens] <;> exact ⟨_, _, rfl, by simp⟩

/-- A reader that takes the tokens of a value if it has a property, and does not find the value in
any others. -/
structure Reads (value : Draft.Reader) (Q : Value → Prop) (v : Value) : Prop where
  sound : ∀ {ts : List Token}, (value ts).1 = v.draft →
    ts = v.tokens ++ (value ts).2.val ∧ Q v
  complete : Q v → ∀ r, (value (v.tokens ++ r)).1 = v.draft ∧ (value (v.tokens ++ r)).2.val = r

variable {value : Draft.Reader} {Q : Value → Prop}

theorem itemsEnd_cons (v : Value) (vs : List Value) :
    itemsEnd (v :: vs) = .comma :: (v.tokens ++ itemsEnd vs) := by
  simp [itemsEnd]

theorem moreItems_close (value : Draft.Reader) (ts : List Token) :
    (Draft.moreItems value (.closeArray :: ts)).1 = .close ∧
      (Draft.moreItems value (.closeArray :: ts)).2.val = ts := by
  rw [Draft.moreItems]
  exact ⟨rfl, rfl⟩

theorem moreItems_comma (value : Draft.Reader) (ts : List Token)
    (hclose : ∀ us, ts ≠ .closeArray :: us) (hne : ts ≠ []) :
    (Draft.moreItems value (.comma :: ts)).1 =
        .item (value ts).1 (Draft.moreItems value (value ts).2.val).1 ∧
      (Draft.moreItems value (.comma :: ts)).2.val =
        (Draft.moreItems value (value ts).2.val).2.val := by
  rw [Draft.moreItems]
  · exact ⟨rfl, rfl⟩
  · exact hclose
  · exact hne

/-- Elements end, or go on behind a comma, or cannot be read on. -/
theorem moreItems_cases (value : Draft.Reader) (ts : List Token) :
    (∃ us, ts = .closeArray :: us) ∨
      (∃ us, ts = .comma :: us ∧ (∀ ws, us ≠ .closeArray :: ws) ∧ us ≠ []) ∨
      ∃ e, (Draft.moreItems value ts).1 = .stop e := by
  unfold Draft.moreItems
  split
  case h_1 us => exact Or.inl ⟨us, rfl⟩
  case h_4 us hclose hne => exact Or.inr (Or.inl ⟨us, rfl, hclose, hne⟩)
  all_goals exact Or.inr (Or.inr ⟨_, rfl⟩)

theorem moreItems_sound {vs : List Value} (hvs : ∀ v ∈ vs, Reads value Q v) {ts : List Token}
    (h : (Draft.moreItems value ts).1 = items vs) :
    ts = itemsEnd vs ++ (Draft.moreItems value ts).2.val ∧ ∀ v ∈ vs, Q v := by
  -- On the elements that were read: they decide which of the ways to go on was taken.
  induction vs generalizing ts with
  | nil =>
    rcases moreItems_cases value ts with ⟨us, rfl⟩ | ⟨us, rfl, hclose, hne⟩ | ⟨e, he⟩
    · rw [(moreItems_close value us).2]
      exact ⟨rfl, by simp⟩
    · rw [(moreItems_comma value us hclose hne).1] at h
      cases h
    · rw [he] at h
      cases h
  | cons v vs ih =>
    rw [List.forall_mem_cons] at hvs
    rcases moreItems_cases value ts with ⟨us, rfl⟩ | ⟨us, rfl, hclose, hne⟩ | ⟨e, he⟩
    · rw [(moreItems_close value us).1] at h
      cases h
    · obtain ⟨hfst, hsnd⟩ := moreItems_comma value us hclose hne
      rw [hfst] at h
      obtain ⟨hv, hitems⟩ := Items.item.inj h
      obtain ⟨hus, hQ⟩ := hvs.1.sound hv
      obtain ⟨hmore, hQs⟩ := ih hvs.2 hitems
      refine ⟨?_, List.forall_mem_cons.mpr ⟨hQ, hQs⟩⟩
      rw [hsnd, itemsEnd_cons, List.cons_append, List.append_assoc, ← hmore, ← hus]
    · rw [he] at h
      cases h

theorem moreItems_complete {vs : List Value} (hvs : ∀ v ∈ vs, Reads value Q v)
    (hQ : ∀ v ∈ vs, Q v) (r : List Token) :
    (Draft.moreItems value (itemsEnd vs ++ r)).1 = items vs ∧
      (Draft.moreItems value (itemsEnd vs ++ r)).2.val = r := by
  induction vs with
  | nil => exact moreItems_close value r
  | cons v vs ih =>
    rw [List.forall_mem_cons] at hvs hQ
    obtain ⟨hv, hrest⟩ := hvs.1.complete hQ.1 (itemsEnd vs ++ r)
    obtain ⟨hitems, hend⟩ := ih hvs.2 hQ.2
    obtain ⟨t, us, htokens, hclose⟩ := v.tokens_eq_cons
    obtain ⟨hfst, hsnd⟩ := moreItems_comma value (v.tokens ++ (itemsEnd vs ++ r))
      (by rw [htokens]; exact fun ws h => hclose (List.cons.inj h).1) (by rw [htokens]; simp)
    rw [itemsEnd_cons, List.cons_append, List.append_assoc, hfst, hsnd, hv, hrest, hitems, hend]
    exact ⟨rfl, rfl⟩

theorem items_of_ne (value : Draft.Reader) (ts : List Token)
    (hclose : ∀ us, ts ≠ .closeArray :: us) (hne : ts ≠ []) :
    (Draft.items value ts).1 = .item (value ts).1 (Draft.moreItems value (value ts).2.val).1 ∧
      (Draft.items value ts).2.val = (Draft.moreItems value (value ts).2.val).2.val := by
  rw [Draft.items]
  · exact ⟨rfl, rfl⟩
  · exact hclose
  · exact hne

theorem items_sound {vs : List Value} (hvs : ∀ v ∈ vs, Reads value Q v) {ts : List Token}
    (h : (Draft.items value ts).1 = items vs) :
    (array vs).tokens ++ (Draft.items value ts).2.val = .openArray :: ts ∧ ∀ v ∈ vs, Q v := by
  by_cases hclose : ∃ us, ts = .closeArray :: us
  · obtain ⟨us, rfl⟩ := hclose
    cases vs with
    | nil => exact ⟨by rw [tokens_array_nil]; rfl, by simp⟩
    | cons => cases h
  · by_cases hne : ts = []
    · subst hne
      cases vs <;> cases h
    · simp only [not_exists] at hclose
      obtain ⟨hfst, hsnd⟩ := items_of_ne value ts hclose hne
      rw [hfst] at h
      cases vs with
      | nil => cases h
      | cons v vs =>
        rw [List.forall_mem_cons] at hvs
        obtain ⟨hv, hitems⟩ := Items.item.inj h
        obtain ⟨hts, hQ⟩ := hvs.1.sound hv
        obtain ⟨hmore, hQs⟩ := moreItems_sound hvs.2 hitems
        refine ⟨?_, List.forall_mem_cons.mpr ⟨hQ, hQs⟩⟩
        rw [hsnd, tokens_array_cons, List.cons_append, List.append_assoc, ← hmore, ← hts]

theorem items_complete {vs : List Value} (hvs : ∀ v ∈ vs, Reads value Q v)
    (hQ : ∀ v ∈ vs, Q v) (r : List Token) :
    ∃ ts, (array vs).tokens ++ r = .openArray :: ts ∧ (Draft.items value ts).1 = items vs ∧
      (Draft.items value ts).2.val = r := by
  cases vs with
  | nil => exact ⟨.closeArray :: r, by rw [tokens_array_nil]; rfl, rfl, rfl⟩
  | cons v vs =>
    rw [List.forall_mem_cons] at hvs hQ
    obtain ⟨hv, hrest⟩ := hvs.1.complete hQ.1 (itemsEnd vs ++ r)
    obtain ⟨hitems, hend⟩ := moreItems_complete hvs.2 hQ.2 r
    obtain ⟨t, us, htokens, hclose⟩ := v.tokens_eq_cons
    obtain ⟨hfst, hsnd⟩ := items_of_ne value (v.tokens ++ (itemsEnd vs ++ r))
      (by rw [htokens]; exact fun ws h => hclose (List.cons.inj h).1) (by rw [htokens]; simp)
    refine ⟨v.tokens ++ (itemsEnd vs ++ r), ?_, ?_, ?_⟩
    · rw [tokens_array_cons, List.cons_append, List.append_assoc]
    · rw [hfst, hv, hrest, hitems]
      rfl
    · rw [hsnd, hrest, hend]

theorem membersEnd_cons (m : String × Value) (ms : List (String × Value)) :
    membersEnd (m :: ms) = .comma :: (member m ++ membersEnd ms) := by
  simp [membersEnd]

theorem member_colon (value : Draft.Reader) (key : String) (ts : List Token) :
    (Draft.member value key (.colon :: ts)).1 =
        .member key (value ts).1 (Draft.moreMembers value (value ts).2.val).1 ∧
      (Draft.member value key (.colon :: ts)).2.val =
        (Draft.moreMembers value (value ts).2.val).2.val := by
  rw [Draft.member]
  exact ⟨rfl, rfl⟩

theorem member_cases (value : Draft.Reader) (key : String) (ts : List Token) :
    (∃ us, ts = .colon :: us) ∨ ∃ e, (Draft.member value key ts).1 = .bareKey key e := by
  unfold Draft.member
  split
  case h_1 us => exact Or.inl ⟨us, rfl⟩
  all_goals exact Or.inr ⟨_, rfl⟩

theorem moreMembers_close (value : Draft.Reader) (ts : List Token) :
    (Draft.moreMembers value (.closeObject :: ts)).1 = .close ∧
      (Draft.moreMembers value (.closeObject :: ts)).2.val = ts := by
  rw [Draft.moreMembers]
  exact ⟨rfl, rfl⟩

theorem moreMembers_key (value : Draft.Reader) (key : String) (ts : List Token) :
    (Draft.moreMembers value (.comma :: .string key :: ts)).1 = (Draft.member value key ts).1 ∧
      (Draft.moreMembers value (.comma :: .string key :: ts)).2.val =
        (Draft.member value key ts).2.val := by
  rw [Draft.moreMembers]
  exact ⟨rfl, rfl⟩

/-- Members end, or go on with a key behind a comma, or cannot be read on. -/
theorem moreMembers_cases (value : Draft.Reader) (ts : List Token) :
    (∃ us, ts = .closeObject :: us) ∨ (∃ key us, ts = .comma :: .string key :: us) ∨
      ∃ e, (Draft.moreMembers value ts).1 = .stop e := by
  unfold Draft.moreMembers
  split
  case h_1 us => exact Or.inl ⟨us, rfl⟩
  case h_4 key us => exact Or.inr (Or.inl ⟨key, us, rfl⟩)
  all_goals exact Or.inr (Or.inr ⟨_, rfl⟩)

/-- A member and those behind it, if the ones behind it are read rightly. -/
theorem member_sound {m : String × Value} {ms : List (String × Value)} (hm : Reads value Q m.2)
    (hms : ∀ {ts}, (Draft.moreMembers value ts).1 = members ms →
      ts = membersEnd ms ++ (Draft.moreMembers value ts).2.val ∧ ∀ m ∈ ms, Q m.2)
    {key : String} {ts : List Token} (h : (Draft.member value key ts).1 = members (m :: ms)) :
    .string key :: ts = member m ++ membersEnd ms ++ (Draft.member value key ts).2.val ∧
      ∀ m' ∈ m :: ms, Q m'.2 := by
  obtain ⟨k, v⟩ := m
  rcases member_cases value key ts with ⟨us, rfl⟩ | ⟨e, he⟩
  · obtain ⟨hfst, hsnd⟩ := member_colon value key us
    rw [hfst] at h
    obtain ⟨rfl, hv, hmembers⟩ := Members.member.inj h
    obtain ⟨hus, hQ⟩ := hm.sound hv
    obtain ⟨hmore, hQs⟩ := hms hmembers
    refine ⟨?_, List.forall_mem_cons.mpr ⟨hQ, hQs⟩⟩
    rw [hsnd, List.append_assoc, ← hmore, member, List.cons_append, List.cons_append, ← hus]
  · rw [he] at h
    cases h

theorem moreMembers_sound {ms : List (String × Value)} (hms : ∀ m ∈ ms, Reads value Q m.2)
    {ts : List Token} (h : (Draft.moreMembers value ts).1 = members ms) :
    ts = membersEnd ms ++ (Draft.moreMembers value ts).2.val ∧ ∀ m ∈ ms, Q m.2 := by
  induction ms generalizing ts with
  | nil =>
    rcases moreMembers_cases value ts with ⟨us, rfl⟩ | ⟨key, us, rfl⟩ | ⟨e, he⟩
    · rw [(moreMembers_close value us).2]
      exact ⟨rfl, by simp⟩
    · rw [(moreMembers_key value key us).1] at h
      rcases member_cases value key us with ⟨ws, rfl⟩ | ⟨e, he⟩
      · rw [(member_colon value key ws).1] at h
        cases h
      · rw [he] at h
        cases h
    · rw [he] at h
      cases h
  | cons m ms ih =>
    rw [List.forall_mem_cons] at hms
    rcases moreMembers_cases value ts with ⟨us, rfl⟩ | ⟨key, us, rfl⟩ | ⟨e, he⟩
    · rw [(moreMembers_close value us).1] at h
      cases h
    · obtain ⟨hfst, hsnd⟩ := moreMembers_key value key us
      rw [hfst] at h
      obtain ⟨hus, hQ⟩ := member_sound hms.1 (ih hms.2) h
      exact ⟨by rw [hsnd, membersEnd_cons, List.cons_append, ← hus], hQ⟩
    · rw [he] at h
      cases h

theorem moreMembers_complete {ms : List (String × Value)} (hms : ∀ m ∈ ms, Reads value Q m.2)
    (hQ : ∀ m ∈ ms, Q m.2) (r : List Token) :
    (Draft.moreMembers value (membersEnd ms ++ r)).1 = members ms ∧
      (Draft.moreMembers value (membersEnd ms ++ r)).2.val = r := by
  induction ms with
  | nil => exact moreMembers_close value r
  | cons m ms ih =>
    rw [List.forall_mem_cons] at hms hQ
    obtain ⟨k, v⟩ := m
    obtain ⟨hv, hrest⟩ := hms.1.complete hQ.1 (membersEnd ms ++ r)
    obtain ⟨hmembers, hend⟩ := ih hms.2 hQ.2
    have htokens : membersEnd ((k, v) :: ms) ++ r =
        .comma :: .string k :: .colon :: (v.tokens ++ (membersEnd ms ++ r)) := by
      rw [membersEnd_cons, member]
      simp
    obtain ⟨hfst, hsnd⟩ := moreMembers_key value k (.colon :: (v.tokens ++ (membersEnd ms ++ r)))
    obtain ⟨hfst', hsnd'⟩ := member_colon value k (v.tokens ++ (membersEnd ms ++ r))
    rw [htokens, hfst, hsnd, hfst', hsnd', hv, hrest, hmembers, hend]
    exact ⟨rfl, rfl⟩

theorem members_key (value : Draft.Reader) (key : String) (ts : List Token) :
    (Draft.members value (.string key :: ts)).1 = (Draft.member value key ts).1 ∧
      (Draft.members value (.string key :: ts)).2.val = (Draft.member value key ts).2.val := by
  rw [Draft.members]
  exact ⟨rfl, rfl⟩

/-- An object is empty, or begins with a key, or cannot be read on. -/
theorem members_cases (value : Draft.Reader) (ts : List Token) :
    (∃ us, ts = .closeObject :: us) ∨ (∃ key us, ts = .string key :: us) ∨
      (∃ e, (Draft.members value ts).1 = .stop e) ∨
      ∃ d, (Draft.members value ts).1 = .oddKey d := by
  unfold Draft.members
  split
  case h_1 us => exact Or.inl ⟨us, rfl⟩
  case h_2 key us => exact Or.inr (Or.inl ⟨key, us, rfl⟩)
  case h_5 => exact Or.inr (Or.inr (Or.inr ⟨_, rfl⟩))
  all_goals exact Or.inr (Or.inr (Or.inl ⟨_, rfl⟩))

theorem members_sound {ms : List (String × Value)} (hms : ∀ m ∈ ms, Reads value Q m.2)
    {ts : List Token} (h : (Draft.members value ts).1 = members ms) :
    (object ms).tokens ++ (Draft.members value ts).2.val = .openObject :: ts ∧
      ∀ m ∈ ms, Q m.2 := by
  rcases members_cases value ts with ⟨us, rfl⟩ | ⟨key, us, rfl⟩ | ⟨e, he⟩ | ⟨d, hd⟩
  · cases ms with
    | nil => exact ⟨by rw [tokens_object_nil]; rfl, by simp⟩
    | cons => cases h
  · obtain ⟨hfst, hsnd⟩ := members_key value key us
    rw [hfst] at h
    cases ms with
    | nil =>
      rcases member_cases value key us with ⟨ws, rfl⟩ | ⟨e, he⟩
      · rw [(member_colon value key ws).1] at h
        cases h
      · rw [he] at h
        cases h
    | cons m ms =>
      rw [List.forall_mem_cons] at hms
      obtain ⟨hus, hQ⟩ := member_sound hms.1 (moreMembers_sound hms.2) h
      exact ⟨by rw [hsnd, tokens_object_cons, List.cons_append, ← hus], hQ⟩
  · rw [he] at h
    cases ms <;> cases h
  · rw [hd] at h
    cases ms <;> cases h

theorem members_complete {ms : List (String × Value)} (hms : ∀ m ∈ ms, Reads value Q m.2)
    (hQ : ∀ m ∈ ms, Q m.2) (r : List Token) :
    ∃ ts, (object ms).tokens ++ r = .openObject :: ts ∧ (Draft.members value ts).1 = members ms ∧
      (Draft.members value ts).2.val = r := by
  cases ms with
  | nil => exact ⟨.closeObject :: r, by rw [tokens_object_nil]; rfl, rfl, rfl⟩
  | cons m ms =>
    rw [List.forall_mem_cons] at hms hQ
    obtain ⟨k, v⟩ := m
    obtain ⟨hv, hrest⟩ := hms.1.complete hQ.1 (membersEnd ms ++ r)
    obtain ⟨hmembers, hend⟩ := moreMembers_complete hms.2 hQ.2 r
    obtain ⟨hfst, hsnd⟩ := members_key value k (.colon :: (v.tokens ++ (membersEnd ms ++ r)))
    obtain ⟨hfst', hsnd'⟩ := member_colon value k (v.tokens ++ (membersEnd ms ++ r))
    refine ⟨.string k :: .colon :: (v.tokens ++ (membersEnd ms ++ r)), ?_, ?_, ?_⟩
    · rw [tokens_object_cons, member]
      simp
    · rw [hfst, hfst', hv, hrest, hmembers]
      rfl
    · rw [hsnd, hsnd', hrest, hend]

/-- A token that is a value by itself. -/
theorem reads_token {v : Value} {t : Token} (htokens : v.tokens = [t]) {n : Nat}
    (hread : ∀ r, (Draft.read n (t :: r)).1 = v.draft ∧ (Draft.read n (t :: r)).2.val = r)
    (hother : ∀ u r, u ≠ t → (Draft.read n (u :: r)).1 ≠ v.draft) (hmissing : v.draft ≠ .missing)
    (hv : Within n v) : Reads (Draft.read n) (Within n) v where
  sound := by
    intro ts h
    cases ts with
    | nil =>
      rw [Draft.read] at h
      exact absurd h.symm hmissing
    | cons u r =>
      by_cases hu : u = t
      · subst hu
        rw [htokens, (hread r).2]
        exact ⟨rfl, hv⟩
      · exact absurd h (hother u r hu)
  complete _ r := by
    rw [htokens]
    exact hread r

theorem reads_array {vs : List Value} {n : Nat}
    (hvs : ∀ v ∈ vs, Reads (Draft.read n) (Within n) v) :
    Reads (Draft.read (n + 1)) (Within (n + 1)) (array vs) := by
  have hread (r : List Token) :
      (Draft.read (n + 1) (.openArray :: r)).1 = .array (Draft.items (Draft.read n) r).1 ∧
        (Draft.read (n + 1) (.openArray :: r)).2.val = (Draft.items (Draft.read n) r).2.val := by
    rw [Draft.read]
    exact ⟨rfl, rfl⟩
  refine ⟨fun {ts} h => ?_, fun h r => ?_⟩
  · have hts : ∃ r, ts = .openArray :: r := by
      cases ts with
      | nil => simp [Draft.read, draft] at h
      | cons t r => cases t <;> simp_all [Draft.read, draft]
    obtain ⟨r, rfl⟩ := hts
    obtain ⟨hfst, hsnd⟩ := hread r
    rw [hfst, draft] at h
    obtain ⟨htokens, hwithin⟩ := items_sound hvs (Draft.array.inj h)
    rw [hsnd, htokens, Within]
    exact ⟨rfl, hwithin⟩
  · rw [Within] at h
    obtain ⟨ts, htokens, hitems, hend⟩ := items_complete hvs h r
    obtain ⟨hfst, hsnd⟩ := hread ts
    rw [htokens, hfst, hsnd, hitems, hend, draft]
    exact ⟨rfl, rfl⟩

theorem reads_object {ms : List (String × Value)} {n : Nat}
    (hms : ∀ m ∈ ms, Reads (Draft.read n) (Within n) m.2) :
    Reads (Draft.read (n + 1)) (Within (n + 1)) (object ms) := by
  have hread (r : List Token) :
      (Draft.read (n + 1) (.openObject :: r)).1 = .object (Draft.members (Draft.read n) r).1 ∧
        (Draft.read (n + 1) (.openObject :: r)).2.val =
          (Draft.members (Draft.read n) r).2.val := by
    rw [Draft.read]
    exact ⟨rfl, rfl⟩
  refine ⟨fun {ts} h => ?_, fun h r => ?_⟩
  · have hts : ∃ r, ts = .openObject :: r := by
      cases ts with
      | nil => simp [Draft.read, draft] at h
      | cons t r => cases t <;> simp_all [Draft.read, draft]
    obtain ⟨r, rfl⟩ := hts
    obtain ⟨hfst, hsnd⟩ := hread r
    rw [hfst, draft] at h
    obtain ⟨htokens, hwithin⟩ := members_sound hms (Draft.object.inj h)
    rw [hsnd, htokens, Within]
    exact ⟨rfl, hwithin⟩
  · rw [Within] at h
    obtain ⟨ts, htokens, hmembers, hend⟩ := members_complete hms h r
    obtain ⟨hfst, hsnd⟩ := hread ts
    rw [htokens, hfst, hsnd, hmembers, hend, draft]
    exact ⟨rfl, rfl⟩

/-- A reader that may not open anything finds no array and no object. -/
theorem reads_zero {v : Value} (hv : ¬Within 0 v)
    (hread : ∀ ts, (Draft.read 0 ts).1 ≠ v.draft) : Reads (Draft.read 0) (Within 0) v where
  sound h := absurd h (hread _)
  complete h := absurd h hv

/-- The reader that may open `n` arrays and objects inside one another takes the tokens of the
values in which no more are open, and no others. -/
theorem reads_read (v : Value) (n : Nat) : Reads (Draft.read n) (Within n) v := by
  induction v using Value.induction generalizing n
  case array vs ih =>
    cases n with
    | zero =>
      refine reads_zero (by simp [Within]) fun ts h => ?_
      rcases ts with - | ⟨t, r⟩
      · simp [Draft.read, draft] at h
      · cases t <;> simp [Draft.read, draft] at h
    | succ n => exact reads_array fun v hv => ih v hv n
  case object ms ih =>
    cases n with
    | zero =>
      refine reads_zero (by simp [Within]) fun ts h => ?_
      rcases ts with - | ⟨t, r⟩
      · simp [Draft.read, draft] at h
      · cases t <;> simp [Draft.read, draft] at h
    | succ n => exact reads_object fun m hm => ih m hm n
  -- the other values are single tokens
  all_goals
    refine reads_token (by rw [tokens]) (fun r => ⟨by rw [Draft.read]; rfl, by rw [Draft.read]⟩)
      (fun u r hu h => ?_) (by simp [draft]) (by simp [Within])
    cases n <;> cases u <;> simp_all [Draft.read, draft]

/-- Tokens that may stand behind a number. -/
def Behind (ts : List Token) : Prop :=
  Token.Apart ts ∧ ∀ t us, ts = t :: us → t.isNumber = false

theorem Behind.cons {t : Token} {ts : List Token} (ht : t.isNumber = false)
    (h : Token.Apart ts) : Behind (t :: ts) := by
  refine ⟨?_, fun u us hu => ?_⟩
  · cases ts with
    | nil => exact List.isChain_singleton t
    | cons u us => exact List.isChain_cons_cons.mpr ⟨fun h => by simp [ht] at h, h⟩
  · cases hu
    exact ht

theorem apart_number {n : Number} {ts : List Token} (h : Behind ts) :
    Token.Apart (.number n :: ts) := by
  cases ts with
  | nil => exact List.isChain_singleton _
  | cons u us => exact List.isChain_cons_cons.mpr ⟨fun _ => h.2 u us rfl, h.1⟩

/-- Elements or members behind commas, and a closing bracket. -/
theorem behind_rows {α : Type} {row : α → List Token} {xs : List α} {r : List Token}
    (hrow : ∀ x ∈ xs, ∀ r, Behind r → Token.Apart (row x ++ r)) (hr : Behind r) :
    Behind (xs.flatMap (fun x => .comma :: row x) ++ r) := by
  induction xs with
  | nil => exact hr
  | cons x xs ih =>
    rw [List.forall_mem_cons] at hrow
    rw [List.flatMap_cons, List.append_assoc, List.cons_append]
    exact .cons rfl (hrow.1 _ (ih hrow.2))

theorem apart_append (v : Value) {r : List Token} (hr : Behind r) :
    Token.Apart (v.tokens ++ r) := by
  induction v using Value.induction generalizing r with
  | null => exact tokens.eq_1 ▸ (Behind.cons rfl hr.1).1
  | bool b => exact tokens.eq_2 b ▸ (Behind.cons rfl hr.1).1
  | number n => exact tokens.eq_3 n ▸ apart_number hr
  | string s => exact tokens.eq_4 s ▸ (Behind.cons rfl hr.1).1
  | array vs ih =>
    have hclose : Behind (.closeArray :: r) := .cons rfl hr.1
    cases vs with
    | nil => exact tokens_array_nil ▸ (Behind.cons rfl hclose.1).1
    | cons v vs =>
      rw [List.forall_mem_cons] at ih
      have hrest := behind_rows (fun v hv r hr => ih.2 v hv hr) hclose
      rw [tokens_array_cons, itemsEnd, List.cons_append, List.append_assoc, List.append_assoc]
      exact (Behind.cons rfl (ih.1 hrest)).1
  | object ms ih =>
    have hclose : Behind (.closeObject :: r) := .cons rfl hr.1
    have hmember (m : String × Value) (hm : m ∈ ms) (r : List Token) (hr : Behind r) :
        Token.Apart (member m ++ r) :=
      (Behind.cons rfl (Behind.cons rfl (ih m hm hr)).1).1
    cases ms with
    | nil => exact tokens_object_nil ▸ (Behind.cons rfl hclose.1).1
    | cons m ms =>
      rw [List.forall_mem_cons] at hmember
      have hrest := behind_rows hmember.2 hclose
      rw [tokens_object_cons, membersEnd, List.cons_append, List.append_assoc, List.append_assoc]
      exact (Behind.cons rfl (hmember.1 _ hrest)).1

theorem apart_tokens (v : Value) : Token.Apart v.tokens := by
  have hnil : Behind [] := ⟨List.isChain_nil, by simp⟩
  have happend := v.apart_append hnil
  rwa [List.append_nil] at happend

theorem mem_tokens_array {vs : List Value} {t : Token} (h : t ∈ (array vs).tokens) :
    t = .openArray ∨ t = .closeArray ∨ t = .comma ∨ ∃ v ∈ vs, t ∈ v.tokens := by
  cases vs with
  | nil =>
    simp only [tokens_array_nil, List.mem_cons, List.not_mem_nil, or_false] at h
    rcases h with rfl | rfl <;> simp
  | cons v vs =>
    simp only [tokens_array_cons, itemsEnd, List.mem_cons, List.mem_append, List.mem_flatMap,
      List.not_mem_nil, or_false] at h
    rcases h with rfl | h | ⟨w, hw, rfl | h⟩ | rfl
    · simp
    · exact Or.inr (Or.inr (Or.inr ⟨v, List.mem_cons_self, h⟩))
    · simp
    · exact Or.inr (Or.inr (Or.inr ⟨w, List.mem_cons_of_mem v hw, h⟩))
    · simp

theorem mem_tokens_object {ms : List (String × Value)} {t : Token} (h : t ∈ (object ms).tokens) :
    t = .openObject ∨ t = .closeObject ∨ t = .comma ∨ t = .colon ∨
      ∃ m ∈ ms, t = .string m.1 ∨ t ∈ m.2.tokens := by
  cases ms with
  | nil =>
    simp only [tokens_object_nil, List.mem_cons, List.not_mem_nil, or_false] at h
    rcases h with rfl | rfl <;> simp
  | cons m ms =>
    simp only [tokens_object_cons, membersEnd, member, List.cons_append, List.mem_cons,
      List.mem_append, List.mem_flatMap, List.not_mem_nil, or_false] at h
    rcases h with rfl | rfl | rfl | h | ⟨m', hm, rfl | rfl | rfl | h⟩ | rfl
    · simp
    · simp
    · simp
    · exact Or.inr (Or.inr (Or.inr (Or.inr ⟨m, List.mem_cons_self, Or.inr h⟩)))
    · simp
    · exact Or.inr (Or.inr (Or.inr (Or.inr ⟨m', List.mem_cons_of_mem m hm, Or.inl rfl⟩)))
    · simp
    · exact Or.inr (Or.inr (Or.inr (Or.inr ⟨m', List.mem_cons_of_mem m hm, Or.inr h⟩)))
    · simp

theorem isBroken_of_mem_tokens {v : Value} {t : Token} (h : t ∈ v.tokens) :
    t.isBroken = false := by
  induction v using Value.induction with
  | array vs ih =>
    rcases mem_tokens_array h with rfl | rfl | rfl | ⟨v, hv, h⟩
    · rfl
    · rfl
    · rfl
    · exact ih v hv h
  | object ms ih =>
    rcases mem_tokens_object h with rfl | rfl | rfl | rfl | ⟨m, hm, rfl | h⟩
    · rfl
    · rfl
    · rfl
    · rfl
    · rfl
    · exact ih m hm h
  | _ =>
    simp only [tokens, List.mem_singleton] at h
    subst h
    rfl

/-- Reading a text gives a value and nothing behind it if and only if the text is one of the
value, and not too many arrays and objects are open in it. -/
theorem ofText_eq_iff {s : String} {v : Value} :
    Draft.ofText s = (v.draft, []) ↔ v.IsText s.toList ∧ v.Within Draft.deepest := by
  constructor
  · intro h
    obtain ⟨hfst, hsnd⟩ := Prod.mk.inj h
    obtain ⟨htokens, hwithin⟩ := (reads_read v Draft.deepest).sound hfst
    rw [hsnd, List.append_nil] at htokens
    refine ⟨?_, hwithin⟩
    have hspelled : Token.Spelled Token.Spells (Token.ofText s.toList) s.toList :=
      Token.spelled_ofText (by rw [htokens]; exact fun _ => isBroken_of_mem_tokens)
    rwa [htokens] at hspelled
  · rintro ⟨htext, hwithin⟩
    have htokens := Token.ofText_of_spelled htext v.apart_tokens
    obtain ⟨hfst, hsnd⟩ := (reads_read v Draft.deepest).complete hwithin []
    rw [List.append_nil] at hfst hsnd
    rw [Draft.ofText, htokens]
    exact Prod.ext hfst hsnd

end Value

end LogScript.Json
