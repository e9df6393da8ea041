import LogScript.Command.Arguments

namespace LogScript.Command

variable {name : String} {action : Action} {out : Option String}

theorem Setting.ofName?_check (out : Option String) (name : String) :
    ofName? .check name = (ofName? (.compile out) name).filter (· ≠ .out) := by
  unfold ofName?
  split <;> rfl

theorem Setting.ofName?_check_eq_some_iff (out : Option String) {s : Setting} :
    ofName? .check name = some s ↔ ofName? (.compile out) name = some s ∧ s ≠ .out := by
  rw [ofName?_check out, Option.filter_eq_some_iff, decide_eq_true_iff]

theorem Setting.ne_out_of_ofName? {s : Setting} (h : ofName? .check name = some s) : s ≠ .out :=
  ((ofName?_check_eq_some_iff none).mp h).2

/-- No option is of both kinds. -/
theorem Setting.ofName?_of_switch {switch : Switch} (h : Switch.ofName? name = some switch) :
    Setting.ofName? action name = none := by
  unfold Switch.ofName? at h
  split at h
  next => rfl
  next => rfl
  next => cases h

namespace Given

variable {g g₁ g₂ g' : Given} {words : List String} {extra : List (Setting × String)}

theorem set?_eq_some_iff {s : Setting} {v : String} :
    g.set? s v = some g' ↔
      g.value? s = none ∧ { g with settings := (s, v) :: g.settings } = g' := by
  cases hvalue : g.value? s <;> simp [set?, hvalue]

theorem turnOn?_eq_some_iff {switch : Switch} :
    g.turnOn? switch = some g' ↔
      switch ∉ g.switches ∧ { g with switches := switch :: g.switches } = g' := by
  by_cases hon : switch ∈ g.switches <;> simp [turnOn?, hon]

/-- One word gives a setting its value or asks for it, turns on a switch, or is a row of letters. -/
inductive Takes (action : Action) (g : Given) : Word → Given → Option Setting → Prop
  | asks {name : String} {s : Setting} (hname : Setting.ofName? action name = some s) :
      Takes action g (.long name none) g (some s)
  | turnsOn {g' : Given} {name : String} {switch : Switch}
      (hswitch : Switch.ofName? name = some switch) (hon : g.turnOn? switch = some g') :
      Takes action g (.long name none) g' none
  | sets {g' : Given} {name v : String} {s : Setting}
      (hname : Setting.ofName? action name = some s) (hset : g.set? s v = some g') :
      Takes action g (.long name (some v)) g' none
  | row {g' : Given} {letters : List Char} {next : Option Setting}
      (hrow : g.readLetters? action letters = some (g', next)) :
      Takes action g (.short letters) g' next

theorem takes_iff {w : Word} {next : Option Setting} :
    Takes action g w g' next ↔ g.readWord? action w = some (g', next) := by
  constructor
  · intro h
    cases h with
    | asks hname => simp only [readWord?, hname]
    | turnsOn hswitch hon =>
      simp only [readWord?, Setting.ofName?_of_switch hswitch, hswitch, hon, Option.map_some]
    | sets hname hset => simp only [readWord?, hname, hset, Option.map_some]
    | row hrow => exact hrow
  · intro h
    unfold readWord? at h
    split at h
    next =>
      split at h
      next s hname =>
        cases h
        exact .asks hname
      next switch _ hswitch =>
        obtain ⟨g₂, hon, heq⟩ := Option.map_eq_some_iff.mp h
        cases heq
        exact .turnsOn hswitch hon
      next => cases h
    next =>
      split at h
      next s hname =>
        obtain ⟨g₂, hset, heq⟩ := Option.map_eq_some_iff.mp h
        cases heq
        exact .sets hname hset
      next => cases h
    next => exact .row h
    next => cases h

/-- The words of an action are read one after the other. A value stands in the word behind its
option, if not in the same word. -/
inductive Reads (action : Action) : Given → List String → Given → Prop
  | done (g : Given) : Reads action g [] g
  | stop {g : Given} {w : String} (hw : Word.ofText w = .stop) : Reads action g [w] g
  | word {g g₁ g' : Given} {w : String} {words : List String}
      (hw : Takes action g (Word.ofText w) g₁ none) (rest : Reads action g₁ words g') :
      Reads action g (w :: words) g'
  | value {g g₁ g₂ g' : Given} {w v : String} {words : List String} {s : Setting}
      (hw : Takes action g (Word.ofText w) g₁ (some s)) (hv : Word.ofText v = .plain)
      (hs : g₁.set? s v = some g₂) (rest : Reads action g₂ words g') :
      Reads action g (w :: v :: words) g'

theorem Takes.ne_stop {w : Word} {next : Option Setting} (h : Takes action g w g' next) :
    w ≠ .stop := by
  rintro rfl
  cases h

theorem Reads.read?_eq (h : Reads action g words g') : g.read? action words = some g' := by
  induction h with
  | done => rfl
  | stop hw => simp [read?, hw]
  | word hw _ ih => simp only [read?, if_neg hw.ne_stop, takes_iff.mp hw, ih]
  | value hw hv hs _ ih =>
    simp only [read?, if_neg hw.ne_stop, takes_iff.mp hw, if_pos hv, hs, ih]

theorem Reads.of_read? (h : g.read? action words = some g') : Reads action g words g' := by
  fun_induction read? action g words with
  | case1 g =>
    cases h
    exact .done _
  | case2 g w words hstop hempty =>
    cases h
    rw [List.isEmpty_iff] at hempty
    exact hempty ▸ .stop hstop
  | case5 g w words hstop g₁ hw ih => exact .word (takes_iff.mpr hw) (ih h)
  | case7 g w hstop g₁ s hw v words hv g₂ hs ih => exact .value (takes_iff.mpr hw) hv hs (ih h)
  | _ => cases h

theorem reads_iff : Reads action g words g' ↔ g.read? action words = some g' :=
  ⟨Reads.read?_eq, Reads.of_read?⟩

/-- Nothing that has been given is forgotten, and a check is given no place for a script. -/
def Extends (action : Action) (g g' : Given) : Prop :=
  ∀ s, g'.value? s = g.value? s ∨
    g.value? s = none ∧ (g'.value? s).isSome = true ∧ (action = .check → s ≠ .out)

theorem Extends.refl (action : Action) (g : Given) : Extends action g g := fun _ => Or.inl rfl

theorem Extends.trans (h : Extends action g g₁) (h' : Extends action g₁ g') :
    Extends action g g' := by
  intro s
  rcases h s with heq | ⟨hnone, hsome, hs⟩
  · exact heq ▸ h' s
  · rcases h' s with heq | ⟨hnone', -, -⟩
    · exact Or.inr ⟨hnone, heq ▸ hsome, hs⟩
    · rw [hnone'] at hsome
      cases hsome

theorem Extends.value?_isSome {s : Setting} (h : Extends action g g')
    (hs : (g.value? s).isSome = true) : (g'.value? s).isSome = true := by
  rcases h s with heq | ⟨-, hsome, -⟩
  · exact heq ▸ hs
  · exact hsome

theorem Extends.value?_out (h : Extends .check g g') : g'.value? .out = g.value? .out := by
  rcases h .out with heq | ⟨-, -, hne⟩
  · exact heq
  · exact absurd rfl (hne rfl)

theorem value?_of_set? {s : Setting} {v : String} (h : g.set? s v = some g') :
    g'.value? s = some v := by
  obtain ⟨-, rfl⟩ := set?_eq_some_iff.mp h
  exact List.lookup_cons_self

theorem extends_of_set? {s : Setting} {v : String} (h : g.set? s v = some g')
    (hs : action = .check → s ≠ .out) : Extends action g g' := by
  intro s'
  have hvalue := value?_of_set? h
  obtain ⟨hnone, rfl⟩ := set?_eq_some_iff.mp h
  by_cases heq : s' = s
  · subst heq
    exact Or.inr ⟨hnone, Option.isSome_of_eq_some hvalue, hs⟩
  · rw [value?, List.lookup_cons, beq_false_of_ne heq]
    exact Or.inl rfl

theorem extends_of_turnOn? {switch : Switch} (h : g.turnOn? switch = some g') :
    Extends action g g' := by
  obtain ⟨-, rfl⟩ := turnOn?_eq_some_iff.mp h
  exact fun _ => Or.inl rfl

theorem extends_of_readLetters? {letters : List Char} {next : Option Setting}
    (h : g.readLetters? action letters = some (g', next)) :
    Extends action g g' ∧ (action = .check → next ≠ some .out) := by
  fun_induction readLetters? action g letters with
  | case1 =>
    cases h
    exact ⟨.refl action g', nofun⟩
  | case2 g cs g₁ hon ih =>
    obtain ⟨hextends, hnext⟩ := ih h
    exact ⟨(extends_of_turnOn? hon).trans hextends, hnext⟩
  | case5 _ hcheck =>
    cases h
    exact ⟨.refl action g', fun heq => absurd heq hcheck⟩
  | case6 _ hcheck | case7 _ hcheck =>
    obtain ⟨g₂, hset, heq⟩ := Option.map_eq_some_iff.mp h
    cases heq
    exact ⟨extends_of_set? hset fun heq => absurd heq hcheck, nofun⟩
  | _ => contradiction

theorem Takes.extends {w : Word} {next : Option Setting} (h : Takes action g w g' next) :
    Extends action g g' ∧ (action = .check → next ≠ some .out) := by
  cases h with
  | asks hname =>
    refine ⟨.refl action g, fun hcheck heq => ?_⟩
    subst hcheck
    exact Setting.ne_out_of_ofName? hname (Option.some.inj heq)
  | turnsOn _ hon => exact ⟨extends_of_turnOn? hon, nofun⟩
  | sets hname hset =>
    refine ⟨extends_of_set? hset fun hcheck => ?_, nofun⟩
    subst hcheck
    exact Setting.ne_out_of_ofName? hname
  | row hrow => exact extends_of_readLetters? hrow

theorem Reads.extends (h : Reads action g words g') : Extends action g g' := by
  induction h with
  | done | stop => exact .refl action _
  | word hw _ ih => exact hw.extends.1.trans ih
  | value hw _ hset _ ih =>
    obtain ⟨hextends, hnext⟩ := hw.extends
    have hvalue := extends_of_set? hset fun hcheck heq => hnext hcheck (congrArg some heq)
    exact (hextends.trans hvalue).trans ih

theorem value?_out_of_readLetters? {letters : List Char} {next : Option Setting}
    (h : g.readLetters? (.compile out) letters = some (g', next)) :
    g.readLetters? .check letters = some (g', next) ∨ (g'.value? .out).isSome = true ∨
      next = some .out := by
  fun_induction readLetters? (.compile out) g letters with
  | case1 => exact Or.inl h
  | case2 g cs g₁ hon ih => simpa only [readLetters?, hon] using ih h
  | case5 =>
    cases h
    exact Or.inr (Or.inr rfl)
  | case6 | case7 =>
    obtain ⟨g₂, hset, heq⟩ := Option.map_eq_some_iff.mp h
    cases heq
    rw [value?_of_set? hset]
    exact Or.inr (Or.inl rfl)
  | _ => cases h

theorem Takes.check {w : Word} {next : Option Setting}
    (h : Takes (.compile out) g w g' next) :
    Takes .check g w g' next ∨ (g'.value? .out).isSome = true ∨ next = some .out := by
  cases h with
  | @asks _ s hname =>
    by_cases hs : s = .out
    · exact Or.inr (Or.inr (congrArg some hs))
    · exact Or.inl (.asks ((Setting.ofName?_check_eq_some_iff out).mpr ⟨hname, hs⟩))
  | turnsOn hswitch hon => exact Or.inl (.turnsOn hswitch hon)
  | @sets _ _ _ s hname hset =>
    by_cases hs : s = .out
    · subst hs
      exact Or.inr (Or.inl (Option.isSome_of_eq_some (value?_of_set? hset)))
    · exact Or.inl (.sets ((Setting.ofName?_check_eq_some_iff out).mpr ⟨hname, hs⟩) hset)
  | row hrow => exact (value?_out_of_readLetters? hrow).imp_left .row

theorem Reads.check (h : Reads (.compile out) g words g') (hout : g'.value? .out = none) :
    Reads .check g words g' := by
  have hfree : ∀ {g₁ : Given} {words : List String}, Reads (.compile out) g₁ words g' →
      ¬ (g₁.value? .out).isSome = true := by
    intro g₁ words hreads hsome
    have := hreads.extends.value?_isSome hsome
    rw [hout] at this
    cases this
  induction h with
  | done => exact .done _
  | stop hw => exact .stop hw
  | word hw rest ih =>
    rcases hw.check with hcheck | hset | hnext
    · exact .word hcheck (ih hout hfree)
    · exact absurd hset (hfree rest)
    · cases hnext
  | value hw hv hs rest ih =>
    have hset := value?_of_set? hs
    rcases hw.check with hcheck | hsome | hnext
    · exact .value hcheck hv hs (ih hout hfree)
    · have hkept : Extends (.compile out) _ _ := extends_of_set? hs nofun
      exact absurd (hkept.value?_isSome hsome) (hfree rest)
    · cases hnext
      exact absurd (by rw [hset]; rfl) (hfree rest)

/-- Options given after others. -/
def after (g : Given) (extra : List (Setting × String)) : Given :=
  { g with settings := g.settings ++ extra }

variable (hextra : ∀ e ∈ extra, e.1 = .out)

include hextra

theorem value?_after {s : Setting} (hs : s ≠ .out) : (g.after extra).value? s = g.value? s := by
  have hnone : extra.lookup s = none := by
    rw [List.lookup_eq_none_iff]
    intro e he
    rw [hextra e he]
    exact bne_iff_ne.mpr hs
  rw [value?, after, List.lookup_append, hnone, Option.or_none, value?]

theorem set?_after {s : Setting} {v : String} (hs : s ≠ .out) (h : g.set? s v = some g') :
    (g.after extra).set? s v = some (g'.after extra) := by
  obtain ⟨hnone, rfl⟩ := set?_eq_some_iff.mp h
  exact set?_eq_some_iff.mpr ⟨by rw [value?_after hextra hs, hnone], rfl⟩

omit hextra in
theorem turnOn?_after {switch : Switch} (h : g.turnOn? switch = some g') :
    (g.after extra).turnOn? switch = some (g'.after extra) := by
  obtain ⟨hfree, rfl⟩ := turnOn?_eq_some_iff.mp h
  exact turnOn?_eq_some_iff.mpr ⟨hfree, rfl⟩

omit hextra in
theorem readLetters?_after {letters : List Char} {next : Option Setting}
    (h : g.readLetters? .check letters = some (g', next)) :
    (g.after extra).readLetters? action letters = some (g'.after extra, next) := by
  fun_induction readLetters? .check g letters with
  | case1 =>
    cases h
    rfl
  | case2 g cs g₁ hon ih => simpa only [readLetters?, turnOn?_after hon] using ih h
  | _ => contradiction

theorem Takes.after {w : Word} {next : Option Setting} (h : Takes .check g w g' next) :
    Takes (.compile out) (g.after extra) w (g'.after extra) next := by
  cases h with
  | asks hname => exact .asks ((Setting.ofName?_check_eq_some_iff out).mp hname).1
  | turnsOn hswitch hon => exact .turnsOn hswitch (turnOn?_after hon)
  | sets hname hset =>
    obtain ⟨hcompile, hs⟩ := (Setting.ofName?_check_eq_some_iff out).mp hname
    exact .sets hcompile (set?_after hextra hs hset)
  | row hrow => exact .row (readLetters?_after hrow)

/-- What a check takes, a script takes as well, with a place for it or without. -/
theorem Reads.after (h : Reads .check g words g') :
    Reads (.compile out) (g.after extra) words (g'.after extra) := by
  induction h with
  | done => exact .done _
  | stop hw => exact .stop hw
  | word hw _ ih => exact .word (hw.after hextra) ih
  | value hw hv hs _ ih =>
    have hnext := hw.extends.2 rfl
    exact .value (hw.after hextra) hv
      (set?_after hextra (fun heq => hnext (congrArg some heq)) hs) ih

end Given

/-- Options that name the place for a script, or none if it is shown. -/
inductive GoesTo : Option String → List String → Prop
  | shown : GoesTo none []
  | long (path : String) : GoesTo (some path) ["--out=" ++ path]
  | longApart {path : String} (h : Word.ofText path = .plain) : GoesTo (some path) ["--out", path]
  | short {path : String} (hempty : path ≠ "") (hequals : path.toList.head? ≠ some '=') :
      GoesTo (some path) ["-o" ++ path]
  | shortEquals (path : String) : GoesTo (some path) ["-o=" ++ path]
  | shortApart {path : String} (h : Word.ofText path = .plain) : GoesTo (some path) ["-o", path]

variable {place : Option String} {options words : List String} {g : Given}

theorem GoesTo.reads (h : GoesTo place words)
    (rest : Given.Reads (.compile out) (Given.after {} (place.toList.map (.out, ·))) options g) :
    Given.Reads (.compile out) {} (words ++ options) g := by
  cases h with
  | shown => exact rest
  | long path =>
    have hword : Word.ofText ("--out=" ++ path) = .long "out" (some path) := by
      simp [Word.ofText, String.toList_append]
    refine .word (Given.takes_iff.mpr ?_) rest
    rw [hword]
    rfl
  | longApart hplain => exact .value (Given.takes_iff.mpr rfl) hplain rfl rest
  | @short path hempty hequals =>
    obtain ⟨c, cs, hchars⟩ := List.exists_cons_of_ne_nil
      (show path.toList ≠ [] by simpa using hempty)
    have hpath : path = String.ofList (c :: cs) := by rw [← hchars, String.ofList_toList]
    have hc : c ≠ '=' := by simpa [hchars] using hequals
    have hword : Word.ofText ("-o" ++ path) = .short ('o' :: c :: cs) := by
      simp [Word.ofText, String.toList_append, hchars]
    refine .word (Given.takes_iff.mpr ?_) rest
    rw [hword, Given.readWord?, Given.readLetters?, if_neg nofun, ← hpath]
    · rfl
    · exact nofun
    · exact fun v heq => hc (List.cons.inj heq).1
  | shortEquals path =>
    have hword : Word.ofText ("-o=" ++ path) = .short ('o' :: '=' :: path.toList) := by
      simp [Word.ofText, String.toList_append]
    refine .word (Given.takes_iff.mpr ?_) rest
    rw [hword, Given.readWord?, Given.readLetters?, if_neg nofun, String.ofList_toList]
    rfl
  | shortApart hplain => exact .value (Given.takes_iff.mpr rfl) hplain rfl rest

namespace Arguments

variable {a : Arguments} {verbose : Bool}

/-- The same for another action. -/
def asking (a : Arguments) (action : Action) : Arguments := { a with action := action }

theorem ofAction?_iff {name : String} (haction : action? name = some action) :
    ofAction? verbose (name :: options) = some a ↔
      ∃ g, Given.Reads action {} options g ∧ ofGiven? action verbose g = some a := by
  rw [ofAction?, haction]
  simp only [Given.reads_iff]
  split <;> simp [*]

/-- The action with another place for the script, if it has one. -/
def placed (place : Option String) : Action → Action
  | .compile _ => .compile place
  | .check => .check

/-- Besides the place for a script, the action makes no difference to what options give. -/
theorem ofGiven?_asking (asked : Action) {action' : Action}
    (h : ofGiven? action verbose g = some (a.asking action')) :
    ofGiven? asked verbose g = some (a.asking (placed (g.value? .out) asked)) := by
  obtain ⟨config, hconfig, heq⟩ := Option.map_eq_some_iff.mp h
  have hasked : a.asking (placed (g.value? .out) asked) =
      (a.asking action').asking (placed (g.value? .out) asked) := rfl
  rw [hasked, ← heq]
  cases asked with
  | compile => rw [ofGiven?, hconfig]; rfl
  | check => rw [ofGiven?, hconfig]; rfl

theorem action_of_ofGiven? (h : ofGiven? action verbose g = some a) :
    a.action = placed (g.value? .out) action := by
  obtain ⟨config, -, rfl⟩ := Option.map_eq_some_iff.mp h
  cases action <;> rfl

theorem ofGiven?_after {extra : List (Setting × String)} (hextra : ∀ e ∈ extra, e.1 = .out) :
    ofGiven? .check verbose (g.after extra) = ofGiven? .check verbose g := by
  unfold ofGiven?
  rw [Given.value?_after hextra (s := .config) nofun,
    Given.value?_after hextra (s := .userIp) nofun,
    Given.value?_after hextra (s := .requestId) nofun,
    Given.value?_after hextra (s := .appRoot) nofun]
  rfl

theorem ofAction?_check_of_compile
    (h : ofAction? verbose ("compile" :: options) = some (a.asking (.compile none))) :
    ofAction? verbose ("check" :: options) = some (a.asking .check) := by
  obtain ⟨g, hreads, hgiven⟩ := (ofAction?_iff rfl).mp h
  have hout : g.value? .out = none := (Action.compile.inj (action_of_ofGiven? hgiven)).symm
  exact (ofAction?_iff rfl).mpr ⟨g, hreads.check hout, ofGiven?_asking .check hgiven⟩

theorem ofAction?_compile_of_check (hplace : GoesTo place words)
    (h : ofAction? verbose ("check" :: options) = some (a.asking .check)) :
    ofAction? verbose ("compile" :: (words ++ options)) = some (a.asking (.compile place)) := by
  obtain ⟨g, hreads, hgiven⟩ := (ofAction?_iff rfl).mp h
  have hextra : ∀ e ∈ place.toList.map ((Setting.out, ·)), e.1 = .out := by simp
  have hout : (g.after (place.toList.map (.out, ·))).value? .out = place := by
    have hnone : g.value? .out = none := hreads.extends.value?_out
    rw [Given.value?] at hnone ⊢
    rw [Given.after, List.lookup_append, hnone]
    cases place <;> rfl
  rw [← ofGiven?_after hextra] at hgiven
  have hcompile := ofGiven?_asking (.compile none) hgiven
  rw [hout] at hcompile
  exact (ofAction?_iff rfl).mpr ⟨_, hplace.reads (hreads.after hextra), hcompile⟩

theorem ofWords?_eq {front : Option String} {name : String}
    (hfront : ∀ w ∈ front, isVerbose w = true) (hname : isVerbose name = false) :
    ofWords? (front.toList ++ name :: options) = ofAction? front.isSome (name :: options) := by
  cases front with
  | none =>
    show ofWords? (name :: options) = _
    rw [ofWords?, hname]
    rfl
  | some w =>
    show ofWords? (w :: name :: options) = _
    rw [ofWords?, hfront w rfl]
    rfl

end Arguments

end LogScript.Command
