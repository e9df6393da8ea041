import LogScript.Json.Token
import LogScript.Proofs.NumberSpelling
import LogScript.Proofs.StringSpelling
import Mathlib.Data.List.Chain

namespace LogScript.Json.Token

/-- A token, and characters that spell it. -/
inductive Spells : Token → List Char → Prop
  | null : Spells .null ['n', 'u', 'l', 'l']
  | true : Spells (.bool true) ['t', 'r', 'u', 'e']
  | false : Spells (.bool false) ['f', 'a', 'l', 's', 'e']
  | number {x : Numeral} {n : Number} {ds : List Char} (h : NumberLiteral.Spells x ds)
      (hn : x.value? = some n) : Spells (.number n) ds
  | string {s : String} {ds : List Char} (h : StringLiteral.Spells s.toList ds) :
      Spells (.string s) ('"' :: (ds ++ ['"']))
  | openArray : Spells .openArray ['[']
  | closeArray : Spells .closeArray [']']
  | openObject : Spells .openObject ['\x7b']
  | closeObject : Spells .closeObject ['\x7d']
  | comma : Spells .comma [',']
  | colon : Spells .colon [':']

/-- Tokens, and a text of them with white space around each. -/
inductive Spelled (S : Token → List Char → Prop) : List Token → List Char → Prop
  | nil {ws : List Char} (hws : ∀ c ∈ ws, isSpace c = true) : Spelled S [] ws
  | cons {t : Token} {ts : List Token} {ws ds cs : List Char} (hws : ∀ c ∈ ws, isSpace c = true)
      (ht : S t ds) (h : Spelled S ts cs) : Spelled S (t :: ts) (ws ++ (ds ++ cs))

def isNumber : Token → Bool
  | number _ => Bool.true
  | _ => Bool.false

def isBroken : Token → Bool
  | brokenString _ => Bool.true
  | broken _ => Bool.true
  | _ => Bool.false

/-- Tokens that cannot run into each other: no number stands directly behind another. -/
def Apart (ts : List Token) : Prop :=
  ts.IsChain fun t u => t.isNumber = Bool.true → u.isNumber = Bool.false

theorem Spelled.imp {S T : Token → List Char → Prop} {ts : List Token} {cs : List Char}
    (h : Spelled S ts cs) (hST : ∀ t ∈ ts, ∀ ds, S t ds → T t ds) : Spelled T ts cs := by
  induction h with
  | nil hws => exact .nil hws
  | cons hws ht _ ih =>
    rw [List.forall_mem_cons] at hST
    exact .cons hws (hST.1 _ ht) (ih hST.2)

theorem Spelled.append {S : Token → List Char → Prop} {ts us : List Token} {cs ds : List Char}
    (ht : Spelled S ts cs) (hu : Spelled S us ds) : Spelled S (ts ++ us) (cs ++ ds) := by
  induction ht with
  | nil hws =>
    cases hu with
    | nil hws' => exact .nil fun c hc => (List.mem_append.mp hc).elim (hws c) (hws' c)
    | cons hws' ht h =>
      rw [← List.append_assoc]
      exact .cons (fun c hc => (List.mem_append.mp hc).elim (hws c) (hws' c)) ht h
  | cons hws ht _ ih =>
    rw [List.append_assoc, List.append_assoc]
    exact .cons hws ht ih

theorem Spelled.single {S : Token → List Char → Prop} {t : Token} {ds : List Char} (h : S t ds) :
    Spelled S [t] ds := by
  have hnil : ∀ c ∈ ([] : List Char), isSpace c = Bool.true := by simp
  have hsingle := Spelled.cons hnil h (.nil hnil)
  simpa using hsingle

theorem name?_append (letters r : List Char) : name? letters (letters ++ r) = .ok r := by
  induction letters with
  | nil =>
    cases r <;> rfl
  | cons e es ih => rw [List.cons_append, name?, if_pos rfl, ih]

theorem name?_of_ok {letters cs r : List Char} (h : name? letters cs = .ok r) :
    cs = letters ++ r := by
  fun_induction name? letters cs with
  | case1 =>
    cases h
    rfl
  | case2 => cases h
  | case3 es cs e ih => rw [List.cons_append, ih h]
  | case4 => cases h

theorem first_of_digit {c : Char} (hc : c = '-' ∨ c.isDigit = Bool.true) (r : List Char) :
    first c r = ofNumber (c :: r) := by
  unfold first
  split
  case h_11 => rw [if_pos hc]
  all_goals exact absurd hc (by decide)

theorem isSpace_of_digit {c : Char} (hc : c = '-' ∨ c.isDigit = Bool.true) :
    isSpace c = Bool.false := by
  by_contra hs
  simp only [isSpace, Bool.not_eq_false, Bool.or_eq_true, beq_iff_eq] at hs
  rcases hs with ((rfl | rfl) | rfl) | rfl <;> exact absurd hc (by decide)

/-- A spelled token is the first of a text, unless it is a number that goes on. -/
theorem Spells.first_append {t : Token} {ds r : List Char} (h : Spells t ds)
    (hr : t.isNumber = Bool.true → NumberLiteral.NoPart r) :
    ∃ c es, ds = c :: es ∧ isSpace c = Bool.false ∧ first c (es ++ r) = (t, r) := by
  cases h with
  | null => exact ⟨_, _, rfl, rfl, by rw [first, ofName, name?_append]⟩
  | true => exact ⟨_, _, rfl, rfl, by rw [first, ofName, name?_append]⟩
  | false => exact ⟨_, _, rfl, rfl, by rw [first, ofName, name?_append]⟩
  | number h hn =>
    obtain ⟨c, es, rfl, hc⟩ := h.eq_cons
    have hread := h.numeral?_append (hr rfl)
    rw [List.cons_append] at hread
    refine ⟨c, es, rfl, isSpace_of_digit hc, ?_⟩
    rw [first_of_digit hc, ofNumber, NumberLiteral.read?, hread]
    simp only [hn]
  | @string s ds h =>
    have hread : StringLiteral.read? (ds ++ '"' :: r) = .ok (s.toList, r) :=
      StringLiteral.read?_eq_ok_iff.mpr ⟨ds, h, rfl⟩
    refine ⟨_, _, rfl, rfl, ?_⟩
    rw [List.append_assoc, List.singleton_append, first, ofString, hread]
    simp
  | openArray => exact ⟨_, _, rfl, rfl, rfl⟩
  | closeArray => exact ⟨_, _, rfl, rfl, rfl⟩
  | openObject => exact ⟨_, _, rfl, rfl, rfl⟩
  | closeObject => exact ⟨_, _, rfl, rfl, rfl⟩
  | comma => exact ⟨_, _, rfl, rfl, rfl⟩
  | colon => exact ⟨_, _, rfl, rfl, rfl⟩

theorem ofString_of_eq {cs r : List Char} {t : Token} (h : ofString cs = (t, r))
    (ht : t.isBroken = Bool.false) : ∃ ds, Spells t ds ∧ '"' :: cs = ds ++ r := by
  unfold ofString at h
  split at h
  next hread =>
    cases h
    obtain ⟨ds, hds, rfl⟩ := StringLiteral.read?_eq_ok_iff.mp hread
    exact ⟨_, .string (by rw [String.toList_ofList]; exact hds), by simp⟩
  next =>
    cases h
    cases ht

theorem ofNumber_of_eq {cs r : List Char} {t : Token} (h : ofNumber cs = (t, r))
    (ht : t.isBroken = Bool.false) : ∃ ds, Spells t ds ∧ cs = ds ++ r := by
  unfold ofNumber NumberLiteral.read? at h
  split at h
  next hread =>
    cases h
    split at hread
    next => cases hread
    next hnumeral =>
      split at hread
      next hvalue =>
        cases hread
        obtain ⟨ds, hds, rfl⟩ := NumberLiteral.numeral?_of_ok hnumeral
        exact ⟨ds, .number hds hvalue, rfl⟩
      next => cases hread
  next =>
    cases h
    cases ht

theorem ofName_of_eq {t u : Token} {letters cs r : List Char} (h : ofName u letters cs = (t, r))
    (ht : t.isBroken = Bool.false) : t = u ∧ cs = letters ++ r := by
  unfold ofName at h
  split at h
  next hread =>
    cases h
    exact ⟨rfl, name?_of_ok hread⟩
  next =>
    cases h
    cases ht

/-- The first token of a text is spelled by what it takes, unless it is broken. -/
theorem spells_of_first {c : Char} {r r' : List Char} {t : Token} (h : first c r = (t, r'))
    (ht : t.isBroken = Bool.false) : ∃ ds, Spells t ds ∧ c :: r = ds ++ r' := by
  unfold first at h
  split at h
  · cases h; exact ⟨_, .openArray, rfl⟩
  · cases h; exact ⟨_, .closeArray, rfl⟩
  · cases h; exact ⟨_, .openObject, rfl⟩
  · cases h; exact ⟨_, .closeObject, rfl⟩
  · cases h; exact ⟨_, .comma, rfl⟩
  · cases h; exact ⟨_, .colon, rfl⟩
  · exact ofString_of_eq h ht
  · obtain ⟨rfl, rfl⟩ := ofName_of_eq h ht
    exact ⟨_, .null, rfl⟩
  · obtain ⟨rfl, rfl⟩ := ofName_of_eq h ht
    exact ⟨_, .true, rfl⟩
  · obtain ⟨rfl, rfl⟩ := ofName_of_eq h ht
    exact ⟨_, .false, rfl⟩
  · split at h
    next => exact ofNumber_of_eq h ht
    next =>
      cases h
      cases ht

theorem ofText_space {ws : List Char} (h : ∀ c ∈ ws, isSpace c = Bool.true) (cs : List Char) :
    ofText (ws ++ cs) = ofText cs := by
  induction ws with
  | nil => rfl
  | cons c ws ih =>
    rw [List.forall_mem_cons] at h
    rw [List.cons_append, ofText, if_pos h.1, ih h.2]

theorem ofText_append {t : Token} {ds r : List Char} (h : Spells t ds)
    (hr : t.isNumber = Bool.true → NumberLiteral.NoPart r) : ofText (ds ++ r) = t :: ofText r := by
  obtain ⟨c, es, rfl, hc, hfirst⟩ := h.first_append hr
  rw [List.cons_append, ofText, if_neg (by simp [hc]), hfirst]

theorem noPart_of_space {ws cs : List Char} (h : ∀ c ∈ ws, isSpace c = Bool.true)
    (hcs : NumberLiteral.NoPart cs) : NumberLiteral.NoPart (ws ++ cs) := by
  cases ws with
  | nil => exact hcs
  | cons c ws =>
    have hc := h c List.mem_cons_self
    simp only [isSpace, Bool.or_eq_true, beq_iff_eq] at hc
    intro d t heq
    cases heq
    rcases hc with ((rfl | rfl) | rfl) | rfl <;> decide

theorem Spelled.space {S : Token → List Char → Prop} {ts : List Token} {c : Char} {cs : List Char}
    (hc : isSpace c = Bool.true) (h : Spelled S ts cs) : Spelled S ts (c :: cs) := by
  cases h with
  | nil hws => exact .nil (List.forall_mem_cons.mpr ⟨hc, hws⟩)
  | @cons t ts ws ds cs hws ht h =>
    have hcws : ∀ d ∈ c :: ws, isSpace d = Bool.true := List.forall_mem_cons.mpr ⟨hc, hws⟩
    exact .cons hcws ht h

/-- What begins with no number cannot be taken for a part of one. -/
theorem noPart_of_spelled {ts : List Token} {cs : List Char} (h : Spelled Spells ts cs)
    (hts : ∀ t us, ts = t :: us → t.isNumber = Bool.false) : NumberLiteral.NoPart cs := by
  cases h with
  | nil hws =>
    have hnil : NumberLiteral.NoPart [] := by
      intro c t heq
      cases heq
    rw [← List.append_nil cs]
    exact noPart_of_space hws hnil
  | @cons t us ws ds cs hws ht h =>
    have hnumber := hts t us rfl
    refine noPart_of_space hws fun c r heq => ?_
    cases ht with
    | number => cases hnumber
    | _ =>
      cases heq
      decide

/-- A text has the tokens that it spells. -/
theorem ofText_of_spelled {ts : List Token} {cs : List Char} (h : Spelled Spells ts cs)
    (hts : Apart ts) : ofText cs = ts := by
  induction h with
  | nil hws =>
    have hspace := ofText_space hws []
    rw [List.append_nil, ofText] at hspace
    exact hspace
  | @cons t ts ws ds cs hws ht h ih =>
    rw [ofText_space hws, ofText_append ht, ih hts.tail]
    intro hnumber
    refine noPart_of_spelled h fun u us hu => ?_
    subst hu
    exact (List.isChain_cons_cons.mp hts).1 hnumber

/-- A text without broken tokens spells those that it has. -/
theorem spelled_ofText {cs : List Char} (h : ∀ t ∈ ofText cs, t.isBroken = Bool.false) :
    Spelled Spells (ofText cs) cs := by
  fun_induction ofText cs with
  | case1 => exact .nil (by simp)
  | case2 c r hc ih =>
    exact (ih h).space hc
  | case3 c r hc hlen ih =>
    rw [List.forall_mem_cons] at h
    obtain ⟨ds, hds, hcs⟩ := spells_of_first rfl h.1
    rw [hcs]
    have hnil : ∀ c ∈ ([] : List Char), isSpace c = Bool.true := by simp
    exact .cons hnil hds (ih h.2)

end LogScript.Json.Token
