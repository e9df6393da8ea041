import LogScript.Config.Scalar
import LogScript.Proofs.JsonValue
import Mathlib.Data.List.Nodup

namespace LogScript.Json.Value

/-- A value that gives members under some of the keys: an object, whose keys are different, or an
array with what stands under the first of them. -/
inductive IsRecord (keys : List String) : Value → List (String × Value) → Prop
  | object {ms : List (String × Value)} (hkeys : ∀ m ∈ ms, m.1 ∈ keys)
      (hdistinct : (ms.map Prod.fst).Nodup) : IsRecord keys (.object ms) ms
  | array {vs : List Value} (hlen : vs.length ≤ keys.length) :
      IsRecord keys (.array vs) (keys.zip vs)

theorem IsRecord.known {keys : List String} {v : Value} {ms : List (String × Value)}
    (h : v.IsRecord keys ms) {m : String × Value} (hm : m ∈ ms) : m.1 ∈ keys := by
  cases h with
  | object hkeys => exact hkeys m hm
  | array => exact (List.of_mem_zip hm).1

theorem IsRecord.distinct {keys : List String} (hkeys : keys.Nodup) {v : Value}
    {ms : List (String × Value)} (h : v.IsRecord keys ms) : (ms.map Prod.fst).Nodup := by
  cases h with
  | object _ hdistinct => exact hdistinct
  | @array vs hlen =>
    rw [List.zip_eq_zip_take_min, List.map_fst_zip (by simp)]
    exact hkeys.sublist (List.take_sublist _ _)

theorem IsRecord.within {keys : List String} {v : Value} {ms : List (String × Value)} {n : Nat}
    (h : v.IsRecord keys ms) (hms : ∀ m ∈ ms, m.2.Within n) : v.Within (n + 1) := by
  cases h with
  | object => rwa [Within]
  | @array vs hlen =>
    rw [Within]
    intro v hv
    rw [← List.map_snd_zip hlen] at hv
    obtain ⟨m, hm, rfl⟩ := List.mem_map.mp hv
    exact hms m hm

variable {κ α : Type}

/-- Something is read from what is given under a key. -/
def Given (ms : List (κ × Value)) (key : κ) (P : Value → α → Prop) (x : α) : Prop :=
  ∃ v, (key, v) ∈ ms ∧ P v x

/-- The same, or nothing is given, and something else takes its place. -/
def GivenOr (default : α) (ms : List (κ × Value)) (key : κ) (P : Value → α → Prop) (x : α) :
    Prop :=
  Given ms key P x ∨ (∀ v, (key, v) ∉ ms) ∧ x = default

/-- A value that is null, or that something is read from. -/
def IsNullOr (P : Value → α → Prop) : Value → Option α → Prop
  | .null, x => x = none
  | v, x => ∃ y, P v y ∧ x = some y

/-- An array of values that something is read from. -/
def IsArrayOf (P : Value → α → Prop) (v : Value) (xs : List α) : Prop :=
  ∃ vs, v = .array vs ∧ List.Forall₂ P vs xs

def IsBool (v : Value) (b : Bool) : Prop := v = .bool b

def IsString (v : Value) (s : String) : Prop := v = .string s

end LogScript.Json.Value

namespace LogScript.Config

open Json (Draft Items Members)
open Json.Value (IsRecord Given GivenOr IsNullOr IsArrayOf IsBool IsString)

variable {α : Type} {n : Nat} {read : Reader α} {P : Json.Value → α → Prop}

/-- A reader takes the values that something is read from, in which at most so many arrays and
objects are open inside one another, and nothing else. -/
structure Takes (n : Nat) (read : Reader α) (P : Json.Value → α → Prop) : Prop where
  sound : ∀ {d : Draft} {x : α}, read d = .ok x → ∃ v : Json.Value, d = v.draft ∧ P v x
  complete : ∀ {v : Json.Value} {x : α}, P v x → read v.draft = .ok x
  within : ∀ {v : Json.Value} {x : α}, P v x → v.Within n

/-- A text is read if it is one of a value that is taken, and nothing else stands in it. -/
theorem readText_eq_ok_iff (h : Takes n read P) (hn : n ≤ Draft.deepest) {s : String} {x : α} :
    readText read s = .ok x ↔ ∃ v : Json.Value, v.IsText s.toList ∧ P v x := by
  constructor
  · intro hs
    unfold readText at hs
    split at hs
    next d rest htext =>
      split at hs
      next => cases hs
      next y hd =>
        split at hs
        next hrest =>
          cases hs
          obtain ⟨v, rfl, hv⟩ := h.sound hd
          rw [List.isEmpty_iff] at hrest
          rw [hrest] at htext
          exact ⟨v, (Json.Value.ofText_eq_iff.mp htext).1, hv⟩
        next => cases hs
  · rintro ⟨v, htext, hv⟩
    have hof := Json.Value.ofText_eq_iff.mpr ⟨htext, (h.within hv).mono hn⟩
    simp only [readText, hof, h.complete hv, List.isEmpty_nil, if_true]

theorem takes_bool (n : Nat) : Takes n readBool IsBool where
  sound := by
    intro d x h
    unfold readBool at h
    split at h
    next =>
      cases h
      exact ⟨.bool _, rfl, rfl⟩
    next => cases h
  complete := by
    rintro v x rfl
    rfl
  within := by
    rintro v x rfl
    simp [Json.Value.Within]

theorem takes_string (n : Nat) : Takes n readString IsString where
  sound := by
    intro d x h
    unfold readString at h
    split at h
    next =>
      cases h
      exact ⟨.string _, rfl, rfl⟩
    next => cases h
  complete := by
    rintro v x rfl
    rfl
  within := by
    rintro v x rfl
    simp [Json.Value.Within]

theorem map_eq_ok {ε β : Type} {f : α → β} {x : Except ε α} {y : β} (h : x.map f = .ok y) :
    ∃ z, x = .ok z ∧ f z = y := by
  cases x with
  | error e => cases h
  | ok z => exact ⟨z, rfl, Except.ok.inj h⟩

theorem map_some_map {ε β : Type} (x : Except ε α) (f : Option α → β) :
    (x.map fun y => f (some y)) = (x.map some).map f := by
  cases x <;> rfl

theorem takes_some (h : Takes n read P) :
    Takes n (fun d => (read d).map some) fun v x => ∃ y, P v y ∧ x = some y where
  sound := by
    intro d x hd
    obtain ⟨y, hy, rfl⟩ := map_eq_ok hd
    obtain ⟨v, rfl, hv⟩ := h.sound hy
    exact ⟨v, rfl, y, hv, rfl⟩
  complete := by
    rintro v x ⟨y, hy, rfl⟩
    rw [h.complete hy]
    rfl
  within := by
    rintro v x ⟨y, hy, -⟩
    exact h.within hy

theorem draft_eq_null {v : Json.Value} (h : v.draft = .null) : v = .null := by
  cases v <;> first | rfl | cases h

theorem takes_optional (h : Takes n read P) : Takes n (readOptional read) (IsNullOr P) where
  sound := by
    intro d x hd
    unfold readOptional at hd
    split at hd
    next =>
      cases hd
      exact ⟨.null, rfl, rfl⟩
    next hnull =>
      obtain ⟨y, hy, rfl⟩ := map_eq_ok hd
      obtain ⟨v, rfl, hv⟩ := h.sound hy
      refine ⟨v, rfl, ?_⟩
      cases v with
      | null => exact absurd rfl hnull
      | _ => exact ⟨y, hv, rfl⟩
  complete := by
    intro v x hv
    unfold readOptional
    split
    next hnull =>
      cases draft_eq_null hnull
      rw [IsNullOr] at hv
      rw [hv]
    next hnull =>
      cases v with
      | null => exact absurd rfl hnull
      | _ =>
        obtain ⟨y, hy, rfl⟩ := hv
        rw [h.complete hy]
        rfl
  within := by
    intro v x hv
    cases v with
    | null => simp [Json.Value.Within]
    | _ =>
      obtain ⟨y, hy, -⟩ := hv
      exact h.within hy

theorem readItems_sound (h : Takes n read P) {is : Items} {xs : List α}
    (his : readItems read is = .ok xs) :
    ∃ vs, is = Json.Value.items vs ∧ List.Forall₂ P vs xs := by
  fun_induction readItems read is generalizing xs with
  | case1 =>
    cases his
    exact ⟨[], rfl, .nil⟩
  | case2 => cases his
  | case3 => cases his
  | case4 d rest x hd ih =>
    obtain ⟨ys, hys, rfl⟩ := map_eq_ok his
    obtain ⟨v, rfl, hv⟩ := h.sound hd
    obtain ⟨vs, rfl, hvs⟩ := ih hys
    exact ⟨v :: vs, rfl, .cons hv hvs⟩

theorem readItems_complete (h : Takes n read P) {vs : List Json.Value} {xs : List α}
    (hvs : List.Forall₂ P vs xs) : readItems read (Json.Value.items vs) = .ok xs := by
  induction hvs with
  | nil => rfl
  | cons hv _ ih =>
    rw [Json.Value.items, readItems]
    simp only [h.complete hv, ih]
    rfl

theorem takes_list (h : Takes n read P) : Takes (n + 1) (readList read) (IsArrayOf P) where
  sound := by
    intro d xs hd
    unfold readList at hd
    split at hd
    next is =>
      obtain ⟨vs, rfl, hvs⟩ := readItems_sound h hd
      exact ⟨.array vs, rfl, vs, rfl, hvs⟩
    next => cases hd
  complete := by
    rintro v xs ⟨vs, rfl, hvs⟩
    exact readItems_complete h hvs
  within := by
    rintro v xs ⟨vs, rfl, hvs⟩
    have hboth := hvs.imp fun v x hv => And.intro (h.within hv) hv
    rw [Json.Value.Within]
    exact ((List.forall₂_and_left _ _).mp hboth).1

namespace Shape

variable {φ σ : Type} {sh : Shape φ σ}

/-- Reading a field puts what is read into it, and leaves the other fields as they are. -/
structure ReadsField (sh : Shape φ σ) {C : φ → Type} (get : (f : φ) → σ → C f)
    (P : (f : φ) → Json.Value → C f → Prop) (n : Nat) (f : φ) : Prop where
  sound : ∀ {d : Draft} {s s' : σ}, sh.read f d s = .ok s' →
    ∃ v : Json.Value, d = v.draft ∧ P f v (get f s') ∧ ∀ g, g ≠ f → get g s' = get g s
  complete : ∀ {v : Json.Value} {x : C f} {s : σ}, P f v x →
    ∃ s', sh.read f v.draft s = .ok s' ∧ get f s' = x ∧ ∀ g, g ≠ f → get g s' = get g s
  within : ∀ {v : Json.Value} {x : C f}, P f v x → v.Within n

/-- The fields of a record, what they hold, and which values they are read from. -/
structure Lawful (sh : Shape φ σ) {C : φ → Type} (get : (f : φ) → σ → C f)
    (P : (f : φ) → Json.Value → C f → Prop) (n : Nat) : Prop where
  all : ∀ f, f ∈ sh.fields
  distinct : (sh.fields.map sh.name).Nodup
  reads : ∀ f, sh.ReadsField get P n f
  ext : ∀ {s t : σ}, (∀ f, get f s = get f t) → s = t

variable {C : φ → Type} {get : (f : φ) → σ → C f} {P : (f : φ) → Json.Value → C f → Prop} {n : Nat}

/-- A field into which a reader puts what it takes. -/
theorem readsField_of_takes {f : φ} {reader : Reader (C f)} {put : C f → σ → σ}
    (h : Takes n reader (P f))
    (hread : ∀ d s, sh.read f d s = (reader d).map fun x => put x s)
    (hget : ∀ x s, get f (put x s) = x)
    (hothers : ∀ x s g, g ≠ f → get g (put x s) = get g s) : sh.ReadsField get P n f where
  sound := by
    intro d s s' hs
    rw [hread] at hs
    obtain ⟨x, hx, rfl⟩ := map_eq_ok hs
    obtain ⟨v, rfl, hv⟩ := h.sound hx
    exact ⟨v, rfl, (hget x s).symm ▸ hv, hothers x s⟩
  complete := by
    intro v x s hv
    exact ⟨put x s, by rw [hread, h.complete hv]; rfl, hget x s, hothers x s⟩
  within := h.within

/-- A record holds in each field what is given for it, or what another record holds there. -/
def Filled (get : (f : φ) → σ → C f) (P : (f : φ) → Json.Value → C f → Prop) (s : σ)
    (xs : List (φ × Json.Value)) (t : σ) : Prop :=
  ∀ f, GivenOr (get f s) xs f (P f) (get f t)

namespace Lawful

theorem name_inj (h : sh.Lawful get P n) {f g : φ} : sh.name f = sh.name g ↔ f = g :=
  ⟨fun hfg => List.inj_on_of_nodup_map h.distinct (h.all f) (h.all g) hfg, congrArg sh.name⟩

theorem filled_nil (h : sh.Lawful get P n) {s t : σ} : Filled get P s [] t ↔ s = t := by
  constructor
  · intro hfilled
    refine h.ext fun f => ?_
    rcases hfilled f with ⟨v, hv, -⟩ | ⟨-, heq⟩
    · cases hv
    · exact heq.symm
  · rintro rfl f
    exact Or.inr ⟨by simp, rfl⟩

theorem filled_cons (h : sh.Lawful get P n) {f : φ} {d : Draft} {s s' t : σ}
    {xs : List (φ × Json.Value)} (hread : sh.read f d s = .ok s') (hf : f ∉ xs.map Prod.fst)
    (hfilled : Filled get P s' xs t) :
    ∃ v : Json.Value, d = v.draft ∧ Filled get P s ((f, v) :: xs) t := by
  obtain ⟨v, rfl, hv, hothers⟩ := (h.reads f).sound hread
  refine ⟨v, rfl, fun g => ?_⟩
  -- What is read into the field stays there, since nothing behind it gives the field again.
  by_cases hgf : g = f
  · subst hgf
    rcases hfilled g with ⟨w, hw, -⟩ | ⟨-, heq⟩
    · exact absurd (List.mem_map_of_mem (f := Prod.fst) hw) hf
    · exact Or.inl ⟨v, List.mem_cons_self, heq ▸ hv⟩
  · rcases hfilled g with ⟨w, hw, hP⟩ | ⟨hnone, heq⟩
    · exact Or.inl ⟨w, List.mem_cons_of_mem _ hw, hP⟩
    · refine Or.inr ⟨fun w hw => ?_, heq.trans (hothers g hgf)⟩
      rcases List.mem_cons.mp hw with hw | hw
      · exact hgf (congrArg Prod.fst hw)
      · exact hnone w hw

theorem read_of_filled (h : sh.Lawful get P n) {f : φ} {v : Json.Value} {s t : σ}
    {xs : List (φ × Json.Value)} (hf : f ∉ xs.map Prod.fst)
    (hfilled : Filled get P s ((f, v) :: xs) t) :
    ∃ s', sh.read f v.draft s = .ok s' ∧ Filled get P s' xs t := by
  have hnone (w : Json.Value) : (f, w) ∉ xs := fun hw =>
    hf (List.mem_map_of_mem (f := Prod.fst) hw)
  have hv : P f v (get f t) := by
    rcases hfilled f with ⟨w, hw, hP⟩ | ⟨habsent, -⟩
    · rcases List.mem_cons.mp hw with hw | hw
      · exact (Prod.mk.inj hw).2 ▸ hP
      · exact absurd hw (hnone w)
    · exact absurd List.mem_cons_self (habsent v)
  obtain ⟨s', hread, hsame, hothers⟩ := (h.reads f).complete (s := s) hv
  refine ⟨s', hread, fun g => ?_⟩
  by_cases hgf : g = f
  · subst hgf
    exact Or.inr ⟨hnone, hsame.symm⟩
  · rcases hfilled g with ⟨w, hw, hP⟩ | ⟨habsent, heq⟩
    · rcases List.mem_cons.mp hw with hw | hw
      · exact absurd (congrArg Prod.fst hw) hgf
      · exact Or.inl ⟨w, hw, hP⟩
    · exact Or.inr ⟨fun w hw => habsent w (List.mem_cons_of_mem _ hw),
        heq.trans (hothers g hgf).symm⟩

/-- What is given for fields, under their names. -/
def named (sh : Shape φ σ) (xs : List (φ × Json.Value)) : List (String × Json.Value) :=
  xs.map (Prod.map sh.name id)

theorem map_fst_named (xs : List (φ × Json.Value)) :
    (named sh xs).map Prod.fst = (xs.map Prod.fst).map sh.name := by
  simp [named]

theorem givenOr_named (h : sh.Lawful get P n) {xs : List (φ × Json.Value)} {f : φ} {β : Type}
    {default x : β} {Q : Json.Value → β → Prop} :
    GivenOr default (named sh xs) (sh.name f) Q x ↔ GivenOr default xs f Q x := by
  have hmem (v : Json.Value) : (sh.name f, v) ∈ named sh xs ↔ (f, v) ∈ xs := by
    constructor
    · intro hv
      obtain ⟨⟨g, w⟩, hx, heq⟩ := List.mem_map.mp hv
      obtain ⟨hname, rfl⟩ := Prod.mk.inj heq
      rwa [h.name_inj.mp hname] at hx
    · exact List.mem_map_of_mem (f := Prod.map sh.name id)
  simp only [GivenOr, Given, hmem]

theorem exists_named {ms : List (String × Json.Value)}
    (hkeys : ∀ m ∈ ms, m.1 ∈ sh.fields.map sh.name) : ∃ xs, named sh xs = ms := by
  induction ms with
  | nil => exact ⟨[], rfl⟩
  | cons m ms ih =>
    obtain ⟨key, v⟩ := m
    rw [List.forall_mem_cons] at hkeys
    obtain ⟨f, -, hf⟩ := List.mem_map.mp hkeys.1
    obtain ⟨xs, rfl⟩ := ih hkeys.2
    exact ⟨(f, v) :: xs, congrArg (fun key => (key, v) :: named sh xs) hf⟩

theorem not_mem_keys_zip {f : φ} {fs : List φ} (hf : f ∉ fs) (vs : List Json.Value) :
    f ∉ (fs.zip vs).map Prod.fst := by
  intro hmem
  obtain ⟨x, hx, rfl⟩ := List.mem_map.mp hmem
  exact hf (List.of_mem_zip hx).1

theorem endOfItems_eq_ok_iff {is : Items} {s t : σ} :
    endOfItems s is = .ok t ↔ is = .close ∧ s = t := by
  constructor
  · intro h
    unfold endOfItems at h
    split at h
    · cases h
      exact ⟨rfl, rfl⟩
    all_goals cases h
  · rintro ⟨rfl, rfl⟩
    rfl

theorem ofItems_sound (h : sh.Lawful get P n) {fs : List φ} (hfs : fs.Nodup) {s t : σ} {is : Items}
    (his : sh.ofItems fs s is = .ok t) :
    ∃ vs : List Json.Value, is = Json.Value.items vs ∧ vs.length ≤ fs.length ∧
      Filled get P s (fs.zip vs) t := by
  fun_induction ofItems sh fs s is with
  | case1 s is =>
    obtain ⟨rfl, rfl⟩ := endOfItems_eq_ok_iff.mp his
    exact ⟨[], rfl, Nat.le_refl 0, h.filled_nil.mpr rfl⟩
  | case2 =>
    cases his
    exact ⟨[], rfl, Nat.zero_le _, h.filled_nil.mpr rfl⟩
  | case3 => cases his
  | case4 => cases his
  | case5 f fs s d rest s' hread ih =>
    rw [List.nodup_cons] at hfs
    obtain ⟨vs, rfl, hlen, hfilled⟩ := ih hfs.2 his
    obtain ⟨v, rfl, hcons⟩ := h.filled_cons hread (not_mem_keys_zip hfs.1 vs) hfilled
    exact ⟨v :: vs, rfl, Nat.succ_le_succ hlen, hcons⟩

theorem ofItems_complete (h : sh.Lawful get P n) {fs : List φ} (hfs : fs.Nodup)
    {vs : List Json.Value} (hlen : vs.length ≤ fs.length) {s t : σ}
    (hfilled : Filled get P s (fs.zip vs) t) :
    sh.ofItems fs s (Json.Value.items vs) = .ok t := by
  induction fs generalizing vs s with
  | nil =>
    cases vs with
    | nil =>
      rw [h.filled_nil.mp hfilled]
      rfl
    | cons => cases hlen
  | cons f fs ih =>
    cases vs with
    | nil =>
      rw [h.filled_nil.mp hfilled]
      rfl
    | cons v vs =>
      rw [List.nodup_cons] at hfs
      obtain ⟨s', hread, hrest⟩ := h.read_of_filled (not_mem_keys_zip hfs.1 vs) hfilled
      rw [Json.Value.items, ofItems]
      simp only [hread]
      exact ih hfs.2 (Nat.le_of_succ_le_succ hlen) hrest

variable [DecidableEq φ]

theorem field?_eq_ok_iff (h : sh.Lawful get P n) {seen : List φ} {key : String} {f : φ} :
    sh.field? seen key = .ok f ↔ sh.name f = key ∧ f ∉ seen := by
  constructor
  · intro hf
    unfold field? at hf
    split at hf
    next => cases hf
    next g hfind =>
      split at hf
      next => cases hf
      next hseen =>
        cases hf
        exact ⟨by simpa using List.find?_some hfind, hseen⟩
  · rintro ⟨rfl, hseen⟩
    have hfind : sh.fields.find? (fun g => sh.name g = sh.name f) = some f := by
      cases hfind : sh.fields.find? (fun g => sh.name g = sh.name f) with
      | none => exact absurd (h.all f) (by simpa using List.find?_eq_none.mp hfind f)
      | some g =>
        have hg : sh.name g = sh.name f := by simpa using List.find?_some hfind
        rw [h.name_inj.mp hg]
    rw [field?, hfind]
    simp only [hseen, if_false]

theorem ofMembers_sound (h : sh.Lawful get P n) {seen : List φ} {s t : σ} {ms : Members}
    (hms : sh.ofMembers seen s ms = .ok t) :
    ∃ xs : List (φ × Json.Value), ms = Json.Value.members (named sh xs) ∧
      (xs.map Prod.fst).Nodup ∧ (∀ f ∈ seen, f ∉ xs.map Prod.fst) ∧ Filled get P s xs t := by
  fun_induction ofMembers sh seen s ms with
  | case1 =>
    cases hms
    exact ⟨[], rfl, .nil, by simp, h.filled_nil.mpr rfl⟩
  | case2 => cases hms
  | case3 => cases hms
  | case4 => cases hms
  | case5 => cases hms
  | case6 => cases hms
  | case7 => cases hms
  | case8 seen s key d rest f hfield s' hread ih =>
    obtain ⟨xs, rfl, hdistinct, hseen, hfilled⟩ := ih hms
    rw [List.forall_mem_cons] at hseen
    obtain ⟨v, rfl, hcons⟩ := h.filled_cons hread hseen.1 hfilled
    obtain ⟨rfl, hf⟩ := h.field?_eq_ok_iff.mp hfield
    refine ⟨(f, v) :: xs, rfl, List.nodup_cons.mpr ⟨hseen.1, hdistinct⟩, fun g hg => ?_, hcons⟩
    have hgf : g ≠ f := fun hgf => hf (hgf ▸ hg)
    rw [List.map_cons, List.mem_cons, not_or]
    exact ⟨hgf, hseen.2 g hg⟩

theorem ofMembers_complete (h : sh.Lawful get P n) {xs : List (φ × Json.Value)}
    (hdistinct : (xs.map Prod.fst).Nodup) {seen : List φ}
    (hseen : ∀ f ∈ seen, f ∉ xs.map Prod.fst) {s t : σ} (hfilled : Filled get P s xs t) :
    sh.ofMembers seen s (Json.Value.members (named sh xs)) = .ok t := by
  induction xs generalizing seen s with
  | nil =>
    rw [h.filled_nil.mp hfilled]
    rfl
  | cons x xs ih =>
    obtain ⟨f, v⟩ := x
    rw [List.map_cons, List.nodup_cons] at hdistinct
    have hf : f ∉ seen := fun hf => hseen f hf List.mem_cons_self
    obtain ⟨s', hread, hrest⟩ := h.read_of_filled hdistinct.1 hfilled
    have hfield : sh.field? seen (sh.name f) = .ok f := h.field?_eq_ok_iff.mpr ⟨rfl, hf⟩
    have hseen' : ∀ g ∈ f :: seen, g ∉ xs.map Prod.fst :=
      List.forall_mem_cons.mpr
        ⟨hdistinct.1, fun g hg hx => hseen g hg (List.mem_cons_of_mem f hx)⟩
    rw [named, List.map_cons, Prod.map_apply, id, Json.Value.members, ofMembers]
    simp only [hfield, hread]
    exact ih hdistinct.2 hseen' hrest

/-- A record can be read from a value that gives members for some of its fields. -/
theorem takes_readInto (h : sh.Lawful get P n) (s : σ) :
    Takes (n + 1) (sh.readInto s) fun v t => ∃ ms, v.IsRecord (sh.fields.map sh.name) ms ∧
      ∀ f, GivenOr (get f s) ms (sh.name f) (P f) (get f t) where
  sound := by
    intro d t hd
    unfold readInto at hd
    split at hd
    next ms =>
      obtain ⟨xs, rfl, hdistinct, -, hfilled⟩ := h.ofMembers_sound hd
      refine ⟨.object (named sh xs), rfl, named sh xs, .object (fun m hm => ?_) ?_,
        fun f => h.givenOr_named.mpr (hfilled f)⟩
      · obtain ⟨x, -, rfl⟩ := List.mem_map.mp hm
        exact List.mem_map_of_mem (h.all x.1)
      · rw [map_fst_named]
        exact hdistinct.map fun f g hfg => h.name_inj.mp hfg
    next is =>
      obtain ⟨vs, rfl, hlen, hfilled⟩ := h.ofItems_sound h.distinct.of_map hd
      refine ⟨.array vs, rfl, _, .array (by rwa [List.length_map]), fun f => ?_⟩
      rw [List.zip_map_left]
      exact h.givenOr_named.mpr (hfilled f)
    next => cases hd
  complete := by
    rintro v t ⟨ms, hms, hfields⟩
    cases hms with
    | object hkeys hdistinct =>
      obtain ⟨xs, rfl⟩ := exists_named hkeys
      rw [map_fst_named] at hdistinct
      exact h.ofMembers_complete hdistinct.of_map (by simp) fun f => h.givenOr_named.mp (hfields f)
    | array hlen =>
      rw [List.length_map] at hlen
      rw [List.zip_map_left] at hfields
      exact h.ofItems_complete h.distinct.of_map hlen fun f => h.givenOr_named.mp (hfields f)
  within := by
    rintro v t ⟨ms, hms, hfields⟩
    refine hms.within fun m hm => ?_
    obtain ⟨key, w⟩ := m
    obtain ⟨f, -, rfl⟩ := List.mem_map.mp (hms.known hm)
    rcases hfields f with ⟨u, hu, hP⟩ | ⟨hnone, -⟩
    · have heq := List.inj_on_of_nodup_map (hms.distinct h.distinct) hm hu rfl
      exact (Prod.mk.inj heq).2 ▸ (h.reads f).within hP
    · exact absurd hm (hnone w)

end Lawful

end Shape

end LogScript.Config
