import LogScript.Proofs.AddressForm
import LogScript.Proofs.Compilation

namespace LogScript

open Config (Configuration Appender Scalar setting)

namespace Resolver

/-- A root without the slashes at its end. -/
def base (root : String) : String := String.ofList (Text.dropEnd (· == '/') root.toList)

def slashes (n : Nat) : String := String.ofList (List.replicate n '/')

theorem exists_replicate_append (cs : List Char) :
    ∃ n, cs = List.replicate n '/' ++ cs.dropWhile (· == '/') := by
  induction cs with
  | nil => exact ⟨0, rfl⟩
  | cons c cs ih =>
    by_cases hc : c = '/'
    · obtain ⟨n, hn⟩ := ih
      refine ⟨n + 1, ?_⟩
      rw [hc, List.dropWhile_cons_of_pos rfl, List.replicate_succ, List.cons_append, ← hn]
    · exact ⟨0, by simp [hc]⟩

theorem dropWhile_replicate_append (n : Nat) (cs : List Char) :
    (List.replicate n '/' ++ cs).dropWhile (· == '/') = cs.dropWhile (· == '/') :=
  List.dropWhile_append_of_pos fun _ hc => beq_iff_eq.mpr (List.eq_of_mem_replicate hc)

theorem head?_dropWhile_slash (cs : List Char) : (cs.dropWhile (· == '/')).head? ≠ some '/' := by
  intro h
  have hnot := List.head?_dropWhile_not (· == '/') cs
  rw [h] at hnot
  cases hnot

theorem exists_base_append (root : String) : ∃ n, root = base root ++ slashes n := by
  obtain ⟨n, hn⟩ := exists_replicate_append root.toList.reverse
  refine ⟨n, String.toList_inj.mp ?_⟩
  rw [base, slashes, String.toList_append, String.toList_ofList, String.toList_ofList,
    Text.dropEnd, ← List.reverse_replicate, ← List.reverse_append, ← hn, List.reverse_reverse]

theorem getLast?_base (root : String) : (base root).toList.getLast? ≠ some '/' := by
  rw [base, String.toList_ofList, Text.dropEnd, List.getLast?_reverse]
  exact head?_dropWhile_slash _

theorem base_append_slashes (root : String) (n : Nat) : base (root ++ slashes n) = base root := by
  rw [base, base, slashes, String.toList_append, String.toList_ofList, Text.dropEnd, Text.dropEnd,
    List.reverse_append, List.reverse_replicate, dropWhile_replicate_append]

/-- What stands behind the marker is taken without the slashes it begins with. -/
theorem underRoot_eq (root : String) {path : String} {cs : List Char}
    (h : path.toList = '~' :: cs) :
    underRoot root path = base root ++ "/" ++ String.ofList (cs.dropWhile (· == '/')) := by
  rw [underRoot, h, base, Text.dropEnd, ← String.toList_inj]
  simp

theorem underRoot_append_slashes (root : String) (n m : Nat) (rest : String) :
    underRoot (root ++ slashes n) ("~" ++ slashes m ++ rest) = underRoot root ("~" ++ rest) := by
  have hlong : ("~" ++ slashes m ++ rest).toList =
      '~' :: (List.replicate m '/' ++ rest.toList) := by simp [slashes]
  have hshort : ("~" ++ rest).toList = '~' :: rest.toList := by simp
  rw [underRoot_eq _ hlong, underRoot_eq root hshort, base_append_slashes,
    dropWhile_replicate_append]

/-- A virtual path with its slashes, and where it leads. -/
theorem underRoot_of_marker (root : String) {path : String} (h : path.toList.head? = some '~') :
    ∃ n rest, path = "~" ++ slashes n ++ rest ∧ rest.toList.head? ≠ some '/' ∧
      underRoot root path = base root ++ "/" ++ rest := by
  obtain ⟨cs, hcs⟩ := List.head?_eq_some_iff.mp h
  obtain ⟨n, hn⟩ := exists_replicate_append cs
  refine ⟨n, String.ofList (cs.dropWhile (· == '/')), String.toList_inj.mp ?_, ?_,
    underRoot_eq root hcs⟩
  · simp only [slashes, String.toList_append, String.toList_ofList, List.append_assoc, ← hn, hcs]
    rfl
  · rw [String.toList_ofList]
    exact head?_dropWhile_slash cs

/-- A root may be the host of the page, or any address. -/
def IsRoot (root : String) : Prop := base root = "" ∨ Url.isUrl (base root) = true

/-- A text begins like an address on another host. -/
def IsHosted (s : String) : Prop := "//".toList <+: s.toList

/-- One slash more than at the end of a root and at the beginning of a path makes no pair. -/
theorem slashes_prefix_of_join {b rest : List Char} (hb : b.getLast? ≠ some '/')
    (hrest : rest.head? ≠ some '/') (h : ['/', '/'] <+: b ++ '/' :: rest) : ['/', '/'] <+: b := by
  rcases b with _ | ⟨c, _ | ⟨d, b⟩⟩
  · obtain ⟨after, rfl⟩ := (List.cons_prefix_cons.mp h).2
    exact absurd rfl hrest
  · have hc : '/' = c := (List.cons_prefix_cons.mp h).1
    exact absurd (congrArg some hc.symm) hb
  · obtain ⟨hc, h⟩ := List.cons_prefix_cons.mp h
    obtain ⟨hd, -⟩ := List.cons_prefix_cons.mp h
    exact ⟨b, by rw [← hc, ← hd]; rfl⟩

theorem isHosted_of_isHosted_join {root rest : String} (hrest : rest.toList.head? ≠ some '/')
    (h : IsHosted (base root ++ "/" ++ rest)) : IsHosted (base root) := by
  rw [IsHosted, String.toList_append, String.toList_append, List.append_assoc] at h
  exact slashes_prefix_of_join (getLast?_base root) hrest h

end Resolver

namespace Url

/-- Under a root that is an address, or under none, a row of characters of addresses makes an
address. -/
theorem IsAddress.join {b rest : List Char} (hb : b = [] ∨ IsAddress b) (hrest : IsRow rest) :
    IsAddress (b ++ '/' :: rest) := by
  have hslash : IsAllowed '/' := isUrlChar_iff.mp (by decide)
  have htail : ∀ c ∈ '/' :: rest, IsAllowed c :=
    List.forall_mem_cons.mpr ⟨hslash, isRow_iff.mp hrest⟩
  have hbreak : firstSegment (b ++ '/' :: rest) = firstSegment b :=
    firstSegment_append_break (by decide) b rest
  rcases hb with rfl | ⟨hne, hallowed, hform⟩
  · exact ⟨List.cons_ne_nil _ _, htail, Or.inr (Or.inl (by rw [hbreak]; exact List.not_mem_nil))⟩
  · refine ⟨by simp, List.forall_mem_append.mpr ⟨hallowed, htail⟩, ?_⟩
    -- The slash is a break, so the first segment stays that of the root; a host only gets longer.
    rcases hform with hhead | hcolon | ⟨name, host, hname, hhost, rfl⟩
    · exact Or.inl (by rw [List.head?_append_of_ne_nil _ hne, hhead])
    · exact Or.inr (Or.inl (by rwa [hbreak]))
    · exact Or.inr (Or.inr ⟨name, host ++ '/' :: rest, hname, by simp, by simp⟩)

theorem isRow_of_isUrl {s : String} (h : isUrl s = true) : IsRow s.toList :=
  isRow_iff.mpr (isUrl_iff_isAddress.mp h).allowed

theorem isUrl_underRoot {root path : String} (hroot : Resolver.IsRoot root)
    (hpath : isUrl path = true) (hmarker : path.toList.head? = some '~') :
    isUrl (Resolver.underRoot root path) = true := by
  obtain ⟨n, rest, rfl, -, hjoin⟩ := Resolver.underRoot_of_marker root hmarker
  have hrest : IsRow rest.toList := fun c hc => isRow_of_isUrl hpath c (by simp [hc])
  have hbase : (Resolver.base root).toList = [] ∨ IsAddress (Resolver.base root).toList := by
    rcases hroot with hempty | hurl
    · exact Or.inl (by rw [hempty]; rfl)
    · exact Or.inr (isUrl_iff_isAddress.mp hurl)
  rw [hjoin, isUrl_iff_isAddress, String.toList_append, String.toList_append, List.append_assoc]
  exact IsAddress.join hbase hrest

theorem target_of_marker {r : Resolver} {s : String} (h : s.toList.head? = some '~') :
    target r s = r s := if_pos h

theorem isUrl_target {root s : String} (hroot : Resolver.IsRoot root) (hs : isUrl s = true) :
    isUrl (target (Resolver.underRoot root) s) = true := by
  unfold target
  split
  next hmarker => exact isUrl_underRoot hroot hs hmarker
  next => exact hs

theorem head?_target {root s : String}
    (h : (target (Resolver.underRoot root) s).toList.head? = some '~') :
    (Resolver.base root).toList.head? = some '~' := by
  unfold target at h
  split at h
  next hmarker =>
    obtain ⟨n, rest, -, -, hjoin⟩ := Resolver.underRoot_of_marker root hmarker
    rw [hjoin, String.toList_append, String.toList_append] at h
    cases hb : (Resolver.base root).toList with
    | nil => simp [hb] at h
    | cons c cs => simpa [hb] using h
  next hmarker => exact absurd h hmarker

/-- A virtual path is one, however many slashes follow its marker. -/
theorem isUrl_marker_append (n : Nat) (rest : String) :
    isUrl ("~" ++ Resolver.slashes n ++ rest) = isUrl ("~" ++ rest) := by
  have hiff : ∀ s : String, isUrl ("~" ++ s) = true ↔ IsRow s.toList := by
    intro s
    rw [isUrl_iff_isAddress, isRow_iff, String.toList_append]
    constructor
    · exact fun h c hc => h.allowed c (List.mem_append_right _ hc)
    · exact fun h =>
        ⟨by simp, List.forall_mem_cons.mpr ⟨isUrlChar_iff.mp (by decide), h⟩, Or.inl rfl⟩
  have hslashes : IsRow (Resolver.slashes n).toList := by
    intro c hc
    rw [Resolver.slashes, String.toList_ofList] at hc
    rw [List.eq_of_mem_replicate hc]
    decide
  rw [Bool.eq_iff_iff, String.append_assoc, hiff, hiff, String.toList_append, IsRow,
    List.forall_mem_append]
  exact and_iff_right hslashes

end Url

/-- Whatever stands under a name is a quoted address. -/
def Options.HasAddressUnder (o : Options) (name : String) : Prop :=
  ∀ l, (name, l) ∈ o.entries → ∃ u, l = Literal.quote u ∧ Url.isUrl u = true

namespace Layout

/-- All addresses that a script gives are accepted: that of the library, the general one for
messages, and those that appenders have of their own. -/
structure GivesAddresses (r : Resolver) (c : Configuration) (q : Request) : Prop where
  library : ∀ u, libraryUrl? r c = some u → Url.isUrl u = true
  general : (globalOptions r c q).HasAddressUnder "defaultAjaxUrl"
  own : c.enabled = true →
    ∀ a ∈ c.appenders, (options r a.attributes).HasAddressUnder "url"

variable {root : String}

theorem hasAddressUnder_options (hroot : Resolver.IsRoot root) {g : Engine} {as : List Attribute}
    {name : String} (haccepted : ∀ a ∈ as, a.failure? g = none)
    (hname : ∀ a ∈ as, a.name = name → ∃ v, a = setting name .url v) :
    (options (Resolver.underRoot root) as).HasAddressUnder name := by
  intro l hl
  obtain ⟨a, ha, hoption⟩ := List.mem_filterMap.mp hl
  obtain ⟨l', hwritten, heq⟩ := Option.map_eq_some_iff.mp hoption
  obtain ⟨hn, rfl⟩ := Prod.mk.inj heq
  obtain ⟨v, rfl⟩ := hname a ha hn
  have hfailure := haccepted _ ha
  cases v with
  | none => cases hwritten
  | some v =>
    by_cases hv : v.asText = ""
    · simp [setting, Value.ofText?, Value.written?, hv] at hwritten
    · have hurl : Url.isUrl v.asText = true := by
        simpa [setting, Value.ofText?, Attribute.failure?, Value.texts, Kind.rejection?, hv]
          using hfailure
      have hquote : Literal.quote (Url.target (Resolver.underRoot root) v.asText) = l' := by
        simpa [setting, Value.ofText?, Value.written?, Kind.write, hv] using hwritten
      exact ⟨_, hquote.symm, Url.isUrl_target hroot hurl⟩

theorem isUrl_of_libraryUrl? (hroot : Resolver.IsRoot root) {g : Engine} {c : Configuration}
    (hc : Script.Accepted g c) {u : String}
    (h : libraryUrl? (Resolver.underRoot root) c = some u) : Url.isUrl u = true := by
  unfold libraryUrl? at h
  split at h
  next => cases h
  next path hpath =>
    split at h
    next => cases h
    next hblank =>
      cases h
      exact Url.isUrl_target hroot (hc.isUrl_path hpath hblank)

theorem givesAddresses_underRoot (hroot : Resolver.IsRoot root) {g : Engine}
    {c : Configuration} (hc : Script.Accepted g c) (q : Request) :
    GivesAddresses (Resolver.underRoot root) c q where
  library _ h := isUrl_of_libraryUrl? hroot hc h
  general := by
    rw [globalOptions_eq_options]
    refine hasAddressUnder_options hroot (globalAttributes_accepted q hc.attributes) ?_
    intro a ha hname
    simp only [globalAttributes, Configuration.attributes, List.cons_append, List.nil_append,
      List.mem_cons, List.not_mem_nil, or_false] at ha
    rcases ha with rfl | rfl | rfl | rfl | rfl
    case inr.inr.inr.inr => exact ⟨_, rfl⟩
    all_goals simp [setting] at hname
  own hen a ha := by
    refine hasAddressUnder_options hroot (hc.appenders hen a ha) ?_
    intro x hx hname
    simp only [Appender.attributes, List.mem_append, List.mem_cons, List.not_mem_nil,
      or_false] at hx
    rcases hx with (rfl | rfl | rfl | rfl | rfl | rfl | rfl | rfl) | hx
    case inr =>
      cases htarget : a.target with
      | ajax url =>
        rw [htarget] at hx
        exact ⟨url, List.mem_singleton.mp hx⟩
      | console =>
        rw [htarget] at hx
        cases hx
    all_goals simp [setting] at hname

end Layout

namespace Resolver

open Url (absolute? isUrl)

/-- Virtual paths under a root. -/
structure Joins (root : String) : Prop where
  base_eq : (∃ n, root = base root ++ slashes n) ∧ (base root).toList.getLast? ≠ some '/'
  joined : ∀ path, isUrl path = true → path.toList.head? = some '~' →
    ∃ n rest, path = "~" ++ slashes n ++ rest ∧ rest.toList.head? ≠ some '/' ∧
      absolute? (underRoot root) path = some (base root ++ "/" ++ rest) ∧
      (IsHosted (base root ++ "/" ++ rest) → IsHosted (base root))
  slashes_irrelevant : ∀ n m rest,
    absolute? (underRoot (root ++ slashes n)) ("~" ++ slashes m ++ rest) =
      absolute? (underRoot root) ("~" ++ rest)
  address : IsRoot root → ∀ s, isUrl s = true →
    ∃ u, absolute? (underRoot root) s = some u ∧ isUrl u = true ∧
      (u.toList.head? = some '~' → (base root).toList.head? = some '~')
  script : IsRoot root → ∀ (g : Engine) (c : Configuration) (q : Request) (text : String),
    Script.compile ⟨underRoot root, g⟩ c q = .ok text →
      text = Markup.ofLines (Layout.lines (underRoot root) c q) ∧
        Layout.GivesAddresses (underRoot root) c q

/-- A root joins every virtual path, and what comes of accepted texts is accepted again if the root
itself is. -/
theorem joins_underRoot (root : String) : Joins root where
  base_eq := ⟨exists_base_append root, getLast?_base root⟩
  joined path hpath hmarker := by
    obtain ⟨n, rest, hsplit, hrest, hjoin⟩ := underRoot_of_marker root hmarker
    refine ⟨n, rest, hsplit, hrest, ?_, isHosted_of_isHosted_join hrest⟩
    rw [Url.absolute?_eq, if_pos hpath, Url.target_of_marker hmarker, hjoin]
  slashes_irrelevant n m rest := by
    have hlong : ("~" ++ slashes m ++ rest).toList.head? = some '~' := by simp
    have hshort : ("~" ++ rest).toList.head? = some '~' := by simp
    rw [Url.absolute?_eq, Url.absolute?_eq, Url.isUrl_marker_append, Url.target_of_marker hlong,
      Url.target_of_marker hshort, underRoot_append_slashes]
  address hroot s hs := by
    refine ⟨Url.target (underRoot root) s, ?_, Url.isUrl_target hroot hs, Url.head?_target⟩
    rw [Url.absolute?_eq, if_pos hs]
  script hroot g c q text h := by
    obtain ⟨hc, htext⟩ := Script.accepted_of_compile h
    exact ⟨htext, Layout.givesAddresses_underRoot hroot hc q⟩

/-- A virtual path wherever an address may stand. -/
def virtualPaths : Configuration where
  defaultAjaxUrl := some (.text "~log")
  productionLibraryPath := some "~//lib.js"
  appenders := [⟨"x", .ajax (some (.text "~")), {}⟩]

/-- Its script under a root on another host. -/
def rootedScript : String :=
  "<script type=\"text/javascript\">\n//<![CDATA[\n" ++
  "JL.setOptions(\x7b\"enabled\": true,\n\"defaultAjaxUrl\": \"http://h/log\"\x7d);\n" ++
  "var a0=JL.createAjaxAppender(\"x\");\n" ++
  "a0.setOptions(\x7b\"url\": \"http://h/\"\x7d);\n" ++
  "//]]>\n</script>\n" ++
  "<script type=\"text/javascript\" src=\"http://h/lib.js\"></script>\n"

theorem joins_underRoot_host :
    IsRoot "http://h//" ∧ isUrl "~//lib.js" = true ∧ "~//lib.js".toList.head? = some '~' ∧
    (∃ n rest, "~//lib.js" = "~" ++ slashes n ++ rest ∧ rest.toList.head? ≠ some '/' ∧
      absolute? (underRoot "http://h//") "~//lib.js" = some (base "http://h//" ++ "/" ++ rest) ∧
      (IsHosted (base "http://h//" ++ "/" ++ rest) → IsHosted (base "http://h//"))) ∧
    (∃ u, absolute? (underRoot "http://h//") "~//lib.js" = some u ∧ isUrl u = true ∧
      (u.toList.head? = some '~' → (base "http://h//").toList.head? = some '~')) ∧
    Script.compile ⟨underRoot "http://h//", .refusing []⟩ virtualPaths ⟨"", "", false⟩ =
      .ok rootedScript ∧
    Layout.GivesAddresses (underRoot "http://h//") virtualPaths ⟨"", "", false⟩ := by
  have hroot : IsRoot "http://h//" := Or.inr (by decide +kernel)
  have hpath : isUrl "~//lib.js" = true := by decide +kernel
  have hmarker : "~//lib.js".toList.head? = some '~' := by decide +kernel
  have hscript : Script.compile ⟨underRoot "http://h//", .refusing []⟩ virtualPaths
      ⟨"", "", false⟩ = .ok rootedScript := by decide +kernel
  have hjoins := joins_underRoot "http://h//"
  exact ⟨hroot, hpath, hmarker, hjoins.joined _ hpath hmarker, hjoins.address hroot _ hpath,
    hscript, (hjoins.script hroot _ _ _ _ hscript).2⟩

end Resolver

end LogScript
