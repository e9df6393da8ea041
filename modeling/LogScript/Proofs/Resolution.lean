import LogScript.Proofs.Compilation
import Mathlib.Data.List.Basic

namespace LogScript

open Config (Configuration Appender Logger Scalar setting)

/-- The texts of a configuration that have to be addresses. Those of appenders do not matter if
logging is off. -/
def Config.Configuration.addresses (c : Configuration) : List String :=
  c.productionLibraryPath.toList ++ (c.defaultAjaxUrl.map Scalar.asText).toList ++
  if c.enabled then
    c.appenders.flatMap fun a =>
      match a.target with
      | .ajax url => (url.map Scalar.asText).toList
      | .console => []
  else []

/-- Two resolvers give the same address to a text if it is an accepted virtual path. -/
def Resolver.AgreeOn (r₁ r₂ : Resolver) (s : String) : Prop :=
  Url.isUrl s = true → s.toList.head? = some '~' → r₁ s = r₂ s

variable {r₁ r₂ : Resolver}

theorem Url.target_congr {s : String} (hs : isUrl s = true) (h : r₁.AgreeOn r₂ s) :
    target r₁ s = target r₂ s := by
  unfold target
  split
  next hmarker => exact h hs hmarker
  next => rfl

theorem Kind.write_congr {g : Engine} {k : Kind} {s : String} (hs : k.rejection? g s = none)
    (h : k = .url → r₁.AgreeOn r₂ s) : k.write r₁ s = k.write r₂ s := by
  cases k with
  | url =>
    have hurl : Url.isUrl s = true := by simpa [rejection?] using hs
    rw [write, write, Url.target_congr hurl (h rfl)]
  | _ => rfl

theorem Value.written?_congr {k : Kind} {v : Value}
    (h : ∀ s ∈ v.texts, k.write r₁ s = k.write r₂ s) : v.written? r₁ k = v.written? r₂ k := by
  cases v with
  | absent => rfl
  | scalar s =>
    by_cases hs : s.isEmpty = true
    · rw [written?, written?, if_pos hs, if_pos hs]
    · rw [texts, if_neg hs] at h
      rw [written?, written?, if_neg hs, if_neg hs, h s (List.mem_singleton_self s)]
  | list items =>
    have hitems : items.map (k.write r₁) = items.map (k.write r₂) := List.map_congr_left h
    rw [written?, written?, hitems]

theorem Attribute.option?_congr {g : Engine} {a : Attribute} (ha : a.failure? g = none)
    (h : a.kind = .url → ∀ s ∈ a.value.texts, r₁.AgreeOn r₂ s) :
    a.option? r₁ = a.option? r₂ := by
  have haccepted := List.findSome?_eq_none_iff.mp (Option.map_eq_none_iff.mp ha)
  have hwrite : ∀ s ∈ a.value.texts, a.kind.write r₁ s = a.kind.write r₂ s := fun s hs =>
    Kind.write_congr (haccepted s hs) fun hk => h hk s hs
  rw [option?, option?, Value.written?_congr hwrite]

theorem Config.texts_setting {name : String} {k : Kind} {v : Option Scalar} {s : String}
    (hs : s ∈ (setting name k v).value.texts) : s ∈ (v.map Scalar.asText).toList := by
  cases v with
  | none => cases hs
  | some v =>
    simp only [setting, Option.map_some, Value.ofText?, Value.texts] at hs
    split at hs
    next => cases hs
    next => exact hs

namespace Layout

theorem options_congr {g : Engine} {as : List Attribute} (ha : ∀ a ∈ as, a.failure? g = none)
    (h : ∀ a ∈ as, a.kind = .url → ∀ s ∈ a.value.texts, r₁.AgreeOn r₂ s) :
    options r₁ as = options r₂ as := by
  have hfilter := List.filterMap_congr fun a hmem => Attribute.option?_congr (ha a hmem) (h a hmem)
  exact congrArg Options.mk hfilter

theorem globalOptions_congr {g : Engine} {c : Configuration} (q : Request)
    (ha : ∀ a ∈ c.attributes, a.failure? g = none)
    (h : ∀ s ∈ (c.defaultAjaxUrl.map Scalar.asText).toList, r₁.AgreeOn r₂ s) :
    globalOptions r₁ c q = globalOptions r₂ c q := by
  rw [globalOptions_eq_options, globalOptions_eq_options]
  apply options_congr (globalAttributes_accepted q ha)
  intro a hmem hk s hs
  simp only [globalAttributes, Configuration.attributes, List.cons_append, List.nil_append,
    List.mem_cons, List.not_mem_nil, or_false] at hmem
  rcases hmem with rfl | rfl | rfl | rfl | rfl
  · cases hk
  · cases hk
  · cases hk
  · cases hk
  · exact h s (Config.texts_setting hs)

theorem appender_congr {g : Engine} {a : Appender}
    (ha : ∀ x ∈ a.attributes, x.failure? g = none)
    (h : ∀ url, a.target = .ajax url → ∀ s ∈ (url.map Scalar.asText).toList, r₁.AgreeOn r₂ s)
    (i : Nat) : appender r₁ a i = appender r₂ a i := by
  have hoptions : options r₁ a.attributes = options r₂ a.attributes := by
    apply options_congr ha
    intro x hx hk s hs
    simp only [Appender.attributes, List.mem_append, List.mem_cons, List.not_mem_nil,
      or_false] at hx
    rcases hx with (rfl | rfl | rfl | rfl | rfl | rfl | rfl | rfl) | hx
    case inr =>
      cases htarget : a.target with
      | ajax url =>
        rw [htarget] at hx
        rw [List.mem_singleton.mp hx] at hs
        exact h url htarget s (Config.texts_setting hs)
      | console =>
        rw [htarget] at hx
        cases hx
    all_goals cases hk
  rw [appender, appender, hoptions]

theorem logger_congr {g : Engine} {names : List String} {l : Logger}
    (hl : ∀ x ∈ l.attributes (references names l), x.failure? g = none) (k : Nat) :
    logger r₁ names l k = logger r₂ names l k := by
  have hoptions : options r₁ (l.attributes (references names l)) =
      options r₂ (l.attributes (references names l)) := by
    apply options_congr hl
    intro x hx hk
    simp only [Logger.attributes, List.mem_cons, List.not_mem_nil, or_false] at hx
    rcases hx with rfl | rfl | rfl | rfl | rfl | rfl
    all_goals cases hk
  rw [logger, logger, hoptions]

theorem elements_congr {g : Engine} {c : Configuration} (hc : Script.Accepted g c)
    (hen : c.enabled = true) (h : ∀ s ∈ c.addresses, r₁.AgreeOn r₂ s) :
    elements r₁ c = elements r₂ c := by
  have happenders : ∀ x ∈ c.appenders.zipIdx, appender r₁ x.1 x.2 = appender r₂ x.1 x.2 := by
    intro x hx
    have hmem := List.fst_mem_of_mem_zipIdx hx
    apply appender_congr (hc.appenders hen x.1 hmem)
    intro url htarget s hs
    apply h s
    rw [Configuration.addresses, if_pos hen]
    exact List.mem_append_right _ (List.mem_flatMap.mpr ⟨x.1, hmem, by rw [htarget]; exact hs⟩)
  have hloggers : ∀ x ∈ c.loggers.zipIdx c.appenders.length,
      logger r₁ c.appenderNames x.1 x.2 = logger r₂ c.appenderNames x.1 x.2 := by
    intro x hx
    exact logger_congr (hc.loggers hen x.1 (List.fst_mem_of_mem_zipIdx hx)).2 x.2
  rw [elements, elements, List.flatMap_congr happenders, List.flatMap_congr hloggers]

theorem libraryUrl?_congr {g : Engine} {c : Configuration} (hc : Script.Accepted g c)
    (h : ∀ s ∈ c.productionLibraryPath.toList, r₁.AgreeOn r₂ s) :
    libraryUrl? r₁ c = libraryUrl? r₂ c := by
  unfold libraryUrl?
  cases hpath : c.productionLibraryPath with
  | none => rfl
  | some path =>
    dsimp only
    split
    next => rfl
    next hblank =>
      have hmem : path ∈ c.productionLibraryPath.toList := by
        rw [hpath]
        exact List.mem_singleton_self path
      rw [Url.target_congr (hc.isUrl_path hpath hblank) (h path hmem)]

theorem lines_congr {g : Engine} {c : Configuration} (hc : Script.Accepted g c) (q : Request)
    (h : ∀ s ∈ c.addresses, r₁.AgreeOn r₂ s) : lines r₁ c q = lines r₂ c q := by
  have hglobal : globalOptions r₁ c q = globalOptions r₂ c q := by
    apply globalOptions_congr q hc.attributes
    intro s hs
    exact h s (List.mem_append_left _ (List.mem_append_right _ hs))
  have hlibrary : libraryUrl? r₁ c = libraryUrl? r₂ c := by
    apply libraryUrl?_congr hc
    intro s hs
    exact h s (List.mem_append_left _ (List.mem_append_left _ hs))
  have helements : (if c.enabled then elements r₁ c else []) =
      if c.enabled then elements r₂ c else [] := by
    split
    next hen => exact elements_congr hc hen h
    next => rfl
  rw [lines, lines, body, body, hglobal, hlibrary, helements]

end Layout

namespace Script

/-- Two resolvers that agree on the accepted virtual paths of a configuration make the same of
it. -/
theorem compile_congr (g : Engine) {c : Configuration} (q : Request)
    (h : ∀ s ∈ c.addresses, r₁.AgreeOn r₂ s) : compile ⟨r₁, g⟩ c q = compile ⟨r₂, g⟩ c q := by
  rw [compile_eq, compile_eq]
  cases hfirst : Check.first? g c.appenderNames (Check.all c) with
  | some e => rw [outcome_some, outcome_some]
  | none => rw [Layout.lines_congr (accepted_of_first? hfirst) q h]

/-- The resolver matters for accepted virtual paths alone, each of which it gets as it is
configured. -/
theorem compile_depends_on_virtualPaths (g : Engine) (c : Configuration) (q : Request) :
    (∀ r₁ r₂ : Resolver, (∀ s ∈ c.addresses, Url.isUrl s = true → s.toList.head? = some '~' →
      r₁ s = r₂ s) → compile ⟨r₁, g⟩ c q = compile ⟨r₂, g⟩ c q) ∧
    ((∀ s ∈ c.addresses, s.toList.head? = some '~' → Url.isUrl s = false) →
      ∀ r₁ r₂ : Resolver, compile ⟨r₁, g⟩ c q = compile ⟨r₂, g⟩ c q) ∧
    ∀ (r : Resolver) (s : String), Url.absolute? r s =
      if Url.isUrl s then some (if s.toList.head? = some '~' then r s else s) else none := by
  refine ⟨fun r₁ r₂ h => compile_congr g q h, fun h r₁ r₂ => compile_congr g q ?_,
    fun r s => Url.absolute?_eq r s⟩
  intro s hs hurl hmarker
  rw [h s hs hmarker] at hurl
  cases hurl

/-- Besides the path of the library, a plain address, and a text that is no address though it
begins like a virtual path. -/
def mixedAddresses (path : String) : Configuration where
  productionLibraryPath := some path
  defaultAjaxUrl := some (.text "/log")
  appenders := [⟨"x", .ajax (some (.text "~/a b")), {}⟩]

/-- A resolver that knows one path only. -/
def onePath : Resolver := fun s => if s = "~/lib.js" then "/app/lib.js" else ""

theorem compile_depends_on_virtualPaths_mixedAddresses :
    ((∀ s ∈ (mixedAddresses "~/lib.js").addresses, Url.isUrl s = true →
        s.toList.head? = some '~' → Resolver.underRoot "/app" s = onePath s) ∧
      compile ⟨Resolver.underRoot "/app", .refusing []⟩ (mixedAddresses "~/lib.js") {} =
        compile ⟨onePath, .refusing []⟩ (mixedAddresses "~/lib.js") {}) ∧
    ((∀ s ∈ (mixedAddresses "/lib.js").addresses, s.toList.head? = some '~' →
        Url.isUrl s = false) ∧
      compile ⟨Resolver.underRoot "/app", .refusing []⟩ (mixedAddresses "/lib.js") {} =
        compile ⟨onePath, .refusing []⟩ (mixedAddresses "/lib.js") {}) := by
  have hagree : ∀ s ∈ (mixedAddresses "~/lib.js").addresses, Url.isUrl s = true →
      s.toList.head? = some '~' → Resolver.underRoot "/app" s = onePath s := by
    decide +kernel
  have hrefused : ∀ s ∈ (mixedAddresses "/lib.js").addresses, s.toList.head? = some '~' →
      Url.isUrl s = false := by
    decide +kernel
  exact ⟨⟨hagree, (compile_depends_on_virtualPaths _ _ _).1 _ _ hagree⟩,
    ⟨hrefused, (compile_depends_on_virtualPaths _ _ _).2.1 hrefused _ _⟩⟩

end Script

end LogScript
