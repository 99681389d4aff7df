import SecScanMonitor.Release.BuildSbom

/-! Which packages the lockfiles lock, and when the inventory of the release lists exactly these, in whatever
order the lockfiles hold them. -/

namespace SecScanMonitor.Release

open Foundations Trimming Domain Application

inductive Ecosystem where
  | pypi
  | npm
  deriving DecidableEq

/-- The ecosystem, the name and the version of a package. -/
abbrev Package := Ecosystem × Str × Str

def Component.ecosystem? (c : Component) : Option Ecosystem :=
  if startsWith "pkg:pypi/" c.purl then some .pypi
  else if startsWith "pkg:npm/" c.purl then some .npm
  else none

def Component.package? (c : Component) : Option Package :=
  c.ecosystem?.map fun ecosystem => (ecosystem, c.name, c.version)

def Bom.packages (bom : Bom) : List Package := bom.components.filterMap Component.package?

section Locked

def isVersionPoint (c : CodePoint) : Bool := isAlphanumeric c || decide (c ∈ Str.ofString ".!+*_-")

/-- The name and the version of a line that starts with `name==version`, blanks around either left out. -/
def pinOf (line : Str) : Option (Str × Str) :=
  let text := line.dropWhile isBlankPoint
  let name := text.takeWhile isNamePoint
  let rest := (text.dropWhile isNamePoint).dropWhile isBlankPoint
  let version := ((rest.drop 2).dropWhile isBlankPoint).takeWhile isVersionPoint
  if isPackageName name = true ∧ startsWith "==" rest = true ∧ version ≠ [] then some (name, version) else none

/-- What follows the last place of a text in another, which is all of the other where there is no such place. -/
def afterLast (bar s : Str) : Str :=
  ((s.tails.filter (startsWith bar)).getLast?.map (List.drop bar.length)).getD s

/-- The metadata of an entry other than the root. -/
def metadataOf (entry : Str × Parsed) : Option (List (Str × Parsed)) :=
  if entry.1 = [] then none else entry.2.members?

def textMember (metadata : List (Str × Parsed)) (key : String) : Option Str :=
  match getMember metadata key .none with
  | .str s => some s
  | _ => none

/-- The package of an entry: by its name, or else by the part of its key after the last `node_modules/`. -/
def lockedEntry (entry : Str × Parsed) : Option (Str × Str) := do
  let metadata ← metadataOf entry
  let version ← textMember metadata "version"
  return ((textMember metadata "name").getD (afterLast "node_modules/" entry.1), version)

/-- The package of an entry that has a name. -/
def namedEntry (entry : Str × Parsed) : Option (Str × Str) := do
  let metadata ← metadataOf entry
  let name ← textMember metadata "name"
  let version ← textMember metadata "version"
  return (name, version)

def isDev (entry : Str × Parsed) : Bool :=
  ((metadataOf entry).map fun metadata => (getMember metadata "dev" .none).truthy).getD false

def entriesOf (payload : Parsed) : List (Str × Parsed) := (packagesOf payload).getD []

def Lockfiles.entries (files : Lockfiles) : List (Str × Parsed) := entriesOf files.web ++ entriesOf files.tui

/-- The packages that the lockfiles lock. -/
def Lockfiles.locked (files : Lockfiles) : List Package :=
  (files.lines.filterMap pinOf).map (Prod.mk .pypi) ++ (files.entries.filterMap lockedEntry).map (Prod.mk .npm)

end Locked

section Reordering

/-- The packages maps of two lockfiles have the same entries. -/
def SameEntries (payload payload' : Parsed) : Prop :=
  ∃ packages packages', packagesOf payload = some packages ∧ packagesOf payload' = some packages' ∧
    packages.Perm packages'

/-- The same lines and the same entries in another order. -/
structure Lockfiles.Reordered (files files' : Lockfiles) : Prop where
  lines : files.lines.Perm files'.lines
  web : SameEntries files.web files'.web
  tui : SameEntries files.tui files'.tui

end Reordering

/-- A package that two entries name at one version is for development in both or in neither. -/
def SameScopes (packages : List (Str × Parsed)) : Prop :=
  ∀ entry ∈ packages, ∀ entry' ∈ packages, ∀ package,
    namedEntry entry = some package → namedEntry entry' = some package → isDev entry = isDev entry'

/-- What lockfiles have to be like for the inventory to be complete. -/
structure Lockfiles.Regular (casefold : Str → Str) (files : Lockfiles) : Prop where
  /-- Nothing but a version follows a line's `==`, up to the markers and the continuation. -/
  bare : ∀ line ∈ files.lines, ∀ entry, lockEntry (strip line) = some entry → entry.2.all isVersionPoint = true
  /-- A package that an entry locks has its name at an entry. -/
  named : ∀ entry ∈ files.entries, ∀ package, lockedEntry entry = some package →
    ∃ entry' ∈ files.entries, namedEntry entry' = some package
  /-- A package that is locked at one version on two lines is spelled alike on both. -/
  spelled : ∀ line ∈ files.lines, ∀ line' ∈ files.lines, ∀ name name' version,
    lockEntry (strip line) = some (name, version) → lockEntry (strip line') = some (name', version) →
      casefold name = casefold name' → name = name'
  webScopes : SameScopes (entriesOf files.web)
  tuiScopes : SameScopes (entriesOf files.tui)

section Pins

variable {line name version : Str}

lemma equals_not_blank : isBlankPoint (.scalar '=') = false := by decide

lemma equals_not_name : isNamePoint (.scalar '=') = false := by decide

/-- What stands for itself in a name or a version: a letter, a digit, or one of the marks. -/
lemma not_blank_of_word {marks : String} (hmarks : ∀ c ∈ Str.ofString marks, isBlankPoint c = false) {c : CodePoint}
    (h : (isAlphanumeric c || decide (c ∈ Str.ofString marks)) = true) : isBlankPoint c = false := by
  rcases Bool.or_eq_true_iff.mp h with hword | hmark
  · cases c with
    | surrogate n => rfl
    | scalar c => exact isSpace_of_isAlphanum (Bool.and_eq_true_iff.mp hword).2
  · exact hmarks c (of_decide_eq_true hmark)

lemma not_name_of_blank {c : CodePoint} (h : isBlankPoint c = true) : isNamePoint c = false := by
  by_contra hname
  have hblank := @not_blank_of_word "._-" (by decide) c (Bool.eq_true_of_not_eq_false hname)
  rw [h] at hblank
  cases hblank

lemma nameStart_of_isPackageName (h : isPackageName name = true) :
    ∃ c s, name = c :: s ∧ isAlphanumeric c = true ∧ ∀ d ∈ name, isNamePoint d = true := by
  cases name with
  | nil => cases h
  | cons c s =>
    obtain ⟨hfirst, hrest⟩ := Bool.and_eq_true_iff.mp h
    refine ⟨c, s, rfl, hfirst, List.forall_mem_cons.mpr ⟨?_, List.all_eq_true.mp hrest⟩⟩
    rw [isNamePoint, hfirst]
    rfl

lemma stops_of_isPackageName (h : isPackageName name = true) : Stops isBlankPoint name := by
  obtain ⟨c, s, rfl, -, hname⟩ := nameStart_of_isPackageName h
  exact stops_cons.mpr (@not_blank_of_word "._-" (by decide) c (hname c List.mem_cons_self))

lemma not_comment_of_isPackageName {rest : Str} (h : isPackageName name = true) :
    ¬ (name ++ rest = [] ∨ startsWith "#" (name ++ rest) = true) := by
  obtain ⟨c, s, rfl, hfirst, -⟩ := nameStart_of_isPackageName h
  rintro (hnil | hcomment)
  · cases hnil
  · obtain ⟨more, hmore⟩ := List.isPrefixOf_iff_prefix.mp hcomment
    rw [← (List.cons.inj hmore).1] at hfirst
    exact absurd hfirst (by decide)

/-- What comes before the `==` of a line has none of its characters. -/
lemma equals_notMem {mid : Str} (hname : ∀ c ∈ name, isNamePoint c = true) (hmid : ∀ c ∈ mid, isBlankPoint c = true) :
    CodePoint.scalar '=' ∉ name ++ mid := by
  intro h
  rcases List.mem_append.mp h with h | h
  · exact absurd (hname _ h) (by rw [equals_not_name]; exact nofun)
  · exact absurd (hmid _ h) (by rw [equals_not_blank]; exact nofun)

lemma strip_name {mid : Str} (h : isPackageName name = true) (hmid : ∀ c ∈ mid, isBlankPoint c = true) :
    strip (name ++ mid) = name := by
  obtain ⟨c, s, rfl, -, hname⟩ := nameStart_of_isPackageName h
  have hlead : ∀ d ∈ ([] : Str), isBlankPoint d = true := nofun
  have htrim := trim_eq hlead hmid (stops_of_isPackageName h) (List.cons_ne_nil c s)
  refine htrim.trans (rdropWhile_of_neg ?_)
  exact fun d hd => @not_blank_of_word "._-" (by decide) d (hname d hd)

lemma shape_of_pinOf (h : pinOf line = some (name, version)) : isPackageName name = true ∧
    ∃ mid more, line.dropWhile isBlankPoint = name ++ (mid ++ (Str.ofString "==" ++ more)) ∧
      ∀ c ∈ mid, isBlankPoint c = true := by
  rw [pinOf, Option.ite_none_right_eq_some] at h
  obtain ⟨⟨hname, hequals, -⟩, h⟩ := h
  obtain ⟨more, hmore⟩ := List.isPrefixOf_iff_prefix.mp hequals
  obtain ⟨rfl, -⟩ := Prod.mk.inj (Option.some.inj h)
  refine ⟨hname, ((line.dropWhile isBlankPoint).dropWhile isNamePoint).takeWhile isBlankPoint, more, ?_,
    fun c hc => List.mem_takeWhile_imp hc⟩
  rw [hmore, List.takeWhile_append_dropWhile, List.takeWhile_append_dropWhile]

/-- A line that starts with a pin is read as an entry of its name. -/
lemma lockEntry_of_pinOf (h : pinOf line = some (name, version)) :
    ∃ version', lockEntry (strip line) = some (name, version') := by
  obtain ⟨hname, mid, more, hline, hmid⟩ := shape_of_pinOf h
  have hstrip : strip line = (name ++ mid) ++ (Str.ofString "==" ++ more.rdropWhile isBlankPoint) := by
    have hsplit : line.dropWhile isBlankPoint = (name ++ mid ++ [.scalar '=']) ++ .scalar '=' :: more := by
      rw [hline]
      simp only [List.append_assoc]
      rfl
    calc strip line = (line.dropWhile isBlankPoint).rdropWhile isBlankPoint := rfl
      _ = (name ++ mid ++ [.scalar '=']) ++ .scalar '=' :: more.rdropWhile isBlankPoint := by
        rw [hsplit, rdropWhile_append_cons equals_not_blank]
      _ = (name ++ mid) ++ (Str.ofString "==" ++ more.rdropWhile isBlankPoint) := by
        rw [List.append_assoc]
        rfl
  obtain ⟨-, -, -, -, hpoints⟩ := nameStart_of_isPackageName hname
  have hsplit : splitOnce "==" (strip line) = some (name ++ mid, more.rdropWhile isBlankPoint) := by
    rw [hstrip]
    exact splitOnce_append (equals_notMem hpoints hmid)
  have hentry : ¬ (strip line = [] ∨ startsWith "#" (strip line) = true) := by
    rw [hstrip, List.append_assoc]
    exact not_comment_of_isPackageName hname
  refine ⟨versionText (strip (more.rdropWhile isBlankPoint)), ?_⟩
  rw [lockEntry, if_neg hentry, hsplit, Option.map_some, strip_name hname hmid]

lemma stops_version_of_blank {trail : Str} (h : ∀ c ∈ trail, isBlankPoint c = true) :
    ∀ c ∈ trail, isVersionPoint c = false := by
  intro c hc
  by_contra hversion
  have hblank := @not_blank_of_word ".!+*_-" (by decide) c (Bool.eq_true_of_not_eq_false hversion)
  rw [h c hc] at hblank
  cases hblank

/-- After the version that is read come blanks, the continuation and the markers. -/
lemma exists_after_version {word trail : Str} (hstop : Stops isBlankPoint word) (hversion : versionText word ≠ [])
    (htrail : ∀ c ∈ trail, isBlankPoint c = true) :
    ∃ after, word = versionText word ++ after ∧ Stops isVersionPoint (after ++ trail) := by
  obtain ⟨markers, hword, hmarkers⟩ := @exists_takeWhile CodePoint (fun c => decide (c ≠ .scalar ';')) word
  obtain ⟨slashes, hslashes, hslash⟩ := @exists_rdropWhile CodePoint (fun c => decide (c = .scalar '\\'))
    (word.takeWhile fun c => decide (c ≠ .scalar ';'))
  rw [versionText] at hversion ⊢
  generalize word.takeWhile (fun c => decide (c ≠ .scalar ';')) = cut at hversion hword hslashes ⊢
  generalize cut.rdropWhile (fun c => decide (c = .scalar '\\')) = kept at hversion hslashes ⊢
  have hkept : Stops isBlankPoint kept := by
    cases kept with
    | nil => exact stops_nil
    | cons c kept =>
      rw [hword, hslashes] at hstop
      exact stops_cons.mpr (stops_cons.mp hstop)
  obtain ⟨blanks, hblanks, hblank⟩ : ∃ trail, kept = strip kept ++ trail ∧ _ := exists_trim_of_stops hkept
  refine ⟨blanks ++ (slashes ++ markers), ?_, ?_⟩
  · rw [← List.append_assoc, ← hblanks, ← List.append_assoc, ← hslashes, ← hword]
  · have hend : Stops isVersionPoint (markers ++ trail) := by
      cases markers with
      | nil =>
        cases trail with
        | nil => exact stops_nil
        | cons c trail => exact stops_cons.mpr (stops_version_of_blank htrail c List.mem_cons_self)
      | cons c markers =>
        have hc : ¬ c ≠ .scalar ';' := of_decide_eq_false (hmarkers c rfl)
        exact stops_cons.mpr (by rw [not_not.mp hc]; decide)
    rw [List.append_assoc, List.append_assoc]
    refine (hend.prepend ?_).prepend (stops_version_of_blank hblank)
    intro c hc
    rw [of_decide_eq_true (hslash c hc)]
    decide

/-- A line that is read as an entry of a name and a version starts with the pin of both. -/
lemma pinOf_of_lockEntry (h : lockEntry (strip line) = some (name, version)) (hname : isPackageName name = true)
    (hversion : version ≠ []) (hbare : version.all isVersionPoint = true) :
    pinOf line = some (name, version) := by
  rw [lockEntry, Option.ite_none_left_eq_some] at h
  obtain ⟨-, h⟩ := h
  obtain ⟨⟨before, rest⟩, hsplit, hentry⟩ := Option.map_eq_some_iff.mp h
  obtain ⟨rfl, rfl⟩ := Prod.mk.inj hentry
  obtain ⟨c, s, hcs, -, hpoints⟩ := nameStart_of_isPackageName hname
  obtain ⟨trail, hline, htrail⟩ : ∃ trail, line.dropWhile isBlankPoint = strip line ++ trail ∧ _ :=
    exists_rdropWhile
  have hbefore : Stops isBlankPoint before := by
    have hstop : Stops isBlankPoint (strip line) := stops_trim
    rw [splitOnce_eq_some hsplit] at hstop
    cases before with
    | nil => exact stops_nil
    | cons d before => exact stops_cons.mpr (stops_cons.mp hstop)
  obtain ⟨mid, hmid, hblank⟩ : ∃ trail, before = strip before ++ trail ∧ _ := exists_trim_of_stops hbefore
  obtain ⟨lead, gap, hrest, hlead, hgap⟩ : ∃ lead trail, rest = lead ++ (strip rest ++ trail) ∧ _ ∧ _ :=
    exists_trim
  obtain ⟨after, hword, hstop⟩ : ∃ after, strip rest = versionText (strip rest) ++ after ∧
      Stops isVersionPoint (after ++ (gap ++ trail)) :=
    exists_after_version stops_trim hversion fun d hd => (List.mem_append.mp hd).elim (hgap d) (htrail d)
  have htext : line.dropWhile isBlankPoint =
      strip before ++ (mid ++ (Str.ofString "==" ++ (lead ++ (strip rest ++ (gap ++ trail))))) := by
    rw [hline, splitOnce_eq_some hsplit]
    conv_lhs => rw [hmid, hrest]
    simp only [List.append_assoc]
  have hafter : Stops isNamePoint (mid ++ (Str.ofString "==" ++ (lead ++ (strip rest ++ (gap ++ trail))))) :=
    (stops_cons.mpr equals_not_name).prepend fun d hd => not_name_of_blank (hblank d hd)
  have hequals : (mid ++ (Str.ofString "==" ++ (lead ++ (strip rest ++ (gap ++ trail))))).dropWhile isBlankPoint =
      Str.ofString "==" ++ (lead ++ (strip rest ++ (gap ++ trail))) :=
    dropWhile_of_stops hblank (stops_cons.mpr equals_not_blank)
  have hwordStops : Stops isBlankPoint (strip rest ++ (gap ++ trail)) := by
    have hstrip : Stops isBlankPoint (strip rest) := stops_trim
    rw [hword] at hstrip ⊢
    obtain ⟨d, more, hd⟩ := List.exists_cons_of_ne_nil hversion
    rw [hd] at hstrip ⊢
    exact stops_cons.mpr (stops_cons.mp hstrip)
  have hread : (lead ++ (strip rest ++ (gap ++ trail))).dropWhile isBlankPoint = strip rest ++ (gap ++ trail) :=
    dropWhile_of_stops hlead hwordStops
  have hversionRead : (((Str.ofString "==" ++ (lead ++ (strip rest ++ (gap ++ trail)))).drop 2).dropWhile
      isBlankPoint).takeWhile isVersionPoint = versionText (strip rest) := by
    change ((lead ++ (strip rest ++ (gap ++ trail))).dropWhile isBlankPoint).takeWhile isVersionPoint = _
    rw [hread]
    conv_lhs => rw [hword, List.append_assoc]
    exact takeWhile_of_stops (List.all_eq_true.mp hbare) hstop
  have hprefix : startsWith "==" (Str.ofString "==" ++ (lead ++ (strip rest ++ (gap ++ trail)))) = true :=
    List.isPrefixOf_iff_prefix.mpr (List.prefix_append _ _)
  rw [pinOf, htext, takeWhile_of_stops hpoints hafter, dropWhile_of_stops hpoints hafter, hequals]
  refine (if_pos ⟨hname, hprefix, ?_⟩).trans ?_
  · rw [hversionRead]
  · rw [hversionRead]
    exact hversion

/-- The pins of a lock are its entries, where these are entries of nothing but a version. -/
lemma pinOf_eq_lockEntry (hvalid : IsValidLine line)
    (hbare : ∀ entry, lockEntry (strip line) = some entry → entry.2.all isVersionPoint = true) :
    pinOf line = lockEntry (strip line) := by
  have hpin : ∀ entry, lockEntry (strip line) = some entry → pinOf line = some entry := by
    rintro ⟨name, version⟩ h
    exact pinOf_of_lockEntry h (hvalid _ h).1 (hvalid _ h).2 (hbare _ h)
  cases h : lockEntry (strip line) with
  | some entry => exact hpin entry h
  | none =>
    cases hline : pinOf line with
    | none => rfl
    | some entry =>
      obtain ⟨version, hentry⟩ := lockEntry_of_pinOf hline
      rw [h] at hentry
      cases hentry

lemma bare_of_pinOf {entry : Str × Str} (h : pinOf line = some entry) : entry.2.all isVersionPoint = true := by
  rw [pinOf, Option.ite_none_right_eq_some] at h
  rw [← Option.some.inj h.2]
  exact List.all_eq_true.mpr fun c hc => List.mem_takeWhile_imp hc

end Pins

section Entries

variable {entry : Str × Parsed} {package : Str × Str}

def namedComponent (dev : Bool) (package : Str × Str) : Component where
  name := package.1
  version := package.2
  purl := npmPurl package.1 package.2
  scope := if dev then .optional else .required

lemma dev_of_namedComponent {dev dev' : Bool} (h : namedComponent dev package = namedComponent dev' package) :
    dev = dev' := by
  have hscope := congrArg Component.scope h
  cases dev <;> cases dev'
  all_goals first | rfl | cases hscope

/-- What is listed for an entry: its package, where the entry has a name. -/
lemma npmComponent_eq : npmComponent entry = (namedEntry entry).map (namedComponent (isDev entry)) := by
  obtain ⟨key, v⟩ := entry
  cases key with
  | nil => cases v <;> rfl
  | cons c key =>
    cases v with
    | dict metadata =>
      have hmetadata : metadataOf (c :: key, .dict metadata) = some metadata := rfl
      rw [namedEntry, isDev, hmetadata, npmComponent]
      · simp only [textMember, Option.bind_eq_bind, Option.bind_some, Option.map_some, Option.getD_some]
        cases getMember metadata "name" .none <;> cases getMember metadata "version" .none <;> rfl
      · exact List.cons_ne_nil c key
    | none | bool _ | int _ | float _ | str _ | temporal _ _ | list _ => rfl

lemma lockedEntry_of_namedEntry (h : namedEntry entry = some package) : lockedEntry entry = some package := by
  obtain ⟨metadata, hmetadata, h⟩ := Option.bind_eq_some_iff.mp h
  obtain ⟨name, hname, h⟩ := Option.bind_eq_some_iff.mp h
  obtain ⟨version, hversion, h⟩ := Option.bind_eq_some_iff.mp h
  refine Option.bind_eq_some_iff.mpr ⟨metadata, hmetadata, Option.bind_eq_some_iff.mpr ⟨version, hversion, ?_⟩⟩
  rw [hname]
  exact h

end Entries

section Packages

variable {tooling : SbomTooling} {lines : List Str} {web tui : List (Str × Parsed)} {name version : Str}

lemma package?_pinComponent {entry : Str × Str} :
    (pinComponent tooling entry).package? = some (.pypi, entry.1, entry.2) := by
  have hpypi : startsWith "pkg:pypi/" (pypiPurl tooling entry.1 entry.2) = true := by
    rw [startsWith, List.isPrefixOf_iff_prefix, pypiPurl, List.append_assoc, List.append_assoc]
    exact List.prefix_append _ _
  rw [Component.package?, Component.ecosystem?, pinComponent, if_pos hpypi]
  rfl

lemma package?_namedComponent {dev : Bool} {package : Str × Str} :
    (namedComponent dev package).package? = some (.npm, package.1, package.2) := by
  have hnpm : startsWith "pkg:npm/" (npmPurl package.1 package.2) = true := by
    rw [startsWith, List.isPrefixOf_iff_prefix, npmPurl, List.append_assoc, List.append_assoc]
    exact List.prefix_append _ _
  have hpypi : ¬ startsWith "pkg:pypi/" (npmPurl package.1 package.2) = true := nofun
  rw [Component.package?, Component.ecosystem?, namedComponent, if_neg hpypi, if_pos hnpm]
  rfl

/-- The packages of the inventory: the entries of the lock and the named entries of the maps. -/
lemma packages_inventory : (inventory tooling lines web tui).filterMap Component.package? =
    (lines.filterMap fun line => lockEntry (strip line)).map (Prod.mk .pypi) ++
      ((web ++ tui).filterMap namedEntry).map (Prod.mk .npm) := by
  have hnpm : ∀ packages : List (Str × Parsed), (packages.filterMap npmComponent).filterMap Component.package? =
      (packages.filterMap namedEntry).map (Prod.mk .npm) := by
    intro packages
    rw [List.filterMap_filterMap, List.map_filterMap]
    refine List.filterMap_congr fun entry _ => ?_
    rw [npmComponent_eq]
    cases namedEntry entry with
    | none => rfl
    | some package => exact package?_namedComponent
  have hpypi : (pinnedComponents tooling lines).filterMap Component.package? =
      (lines.filterMap fun line => lockEntry (strip line)).map (Prod.mk .pypi) := by
    rw [pinnedComponents, List.filterMap_filterMap, List.map_filterMap]
    refine List.filterMap_congr fun line _ => ?_
    cases lockEntry (strip line) with
    | none => rfl
    | some entry => exact package?_pinComponent
  rw [inventory, List.filterMap_append, List.filterMap_append, hpypi, hnpm, hnpm, List.filterMap_append,
    List.map_append]

lemma mem_packages_iff {A B : List (Str × Str)} {p : Package} :
    p ∈ A.map (Prod.mk .pypi) ++ B.map (Prod.mk .npm) ↔ p.1 = .pypi ∧ p.2 ∈ A ∨ p.1 = .npm ∧ p.2 ∈ B := by
  obtain ⟨ecosystem, package⟩ := p
  rw [List.mem_append, List.mem_map, List.mem_map]
  cases ecosystem with
  | pypi => simp
  | npm => simp

/-- Two inventories list the same packages where they do in either ecosystem. -/
lemma same_packages_iff {A A' B B' : List (Str × Str)} :
    (∀ p : Package, p ∈ A.map (Prod.mk .pypi) ++ B.map (Prod.mk .npm) ↔
      p ∈ A'.map (Prod.mk .pypi) ++ B'.map (Prod.mk .npm)) ↔
      (∀ x, x ∈ A ↔ x ∈ A') ∧ ∀ x, x ∈ B ↔ x ∈ B' := by
  simp only [mem_packages_iff]
  constructor
  · intro h
    exact ⟨fun x => by simpa using h (.pypi, x), fun x => by simpa using h (.npm, x)⟩
  · rintro ⟨hpypi, hnpm⟩ p
    rw [hpypi, hnpm]

lemma same_pins_iff (hvalid : ∀ line ∈ lines, IsValidLine line) :
    (∀ x, x ∈ (lines.filterMap fun line => lockEntry (strip line)) ↔ x ∈ lines.filterMap pinOf) ↔
      ∀ line ∈ lines, ∀ entry, lockEntry (strip line) = some entry → entry.2.all isVersionPoint = true := by
  constructor
  · intro h line hline entry hentry
    obtain ⟨line', -, hpin⟩ := List.mem_filterMap.mp ((h entry).mp (List.mem_filterMap.mpr ⟨line, hline, hentry⟩))
    exact bare_of_pinOf hpin
  · intro h x
    rw [List.filterMap_congr fun line hline => pinOf_eq_lockEntry (hvalid line hline) (h line hline)]

lemma same_entries_iff {entries : List (Str × Parsed)} :
    (∀ x, x ∈ entries.filterMap namedEntry ↔ x ∈ entries.filterMap lockedEntry) ↔
      ∀ entry ∈ entries, ∀ package, lockedEntry entry = some package →
        ∃ entry' ∈ entries, namedEntry entry' = some package := by
  constructor
  · intro h entry hentry package hpackage
    exact List.mem_filterMap.mp ((h package).mpr (List.mem_filterMap.mpr ⟨entry, hentry, hpackage⟩))
  · intro h x
    simp only [List.mem_filterMap]
    constructor
    · rintro ⟨entry, hentry, hx⟩
      exact ⟨entry, hentry, lockedEntry_of_namedEntry hx⟩
    · rintro ⟨entry, hentry, hx⟩
      exact h entry hentry x hx

end Packages

section Lines

open SupplyChainSecurityService (splitLinesFrom)

def breaksLine : CodePoint → Bool
  | .scalar c => EvidenceService.isLineBreak c
  | .surrogate _ => false

/-- A text of the lines. -/
def unlines (lines : List Str) : Str := lines.flatMap fun line => line ++ [.scalar '\n']

lemma splitLinesFrom_line {kept line rest : Str} (h : ∀ c ∈ line, breaksLine c = false) :
    splitLinesFrom kept (line ++ .scalar '\n' :: rest) = (kept.reverse ++ line) :: splitLinesFrom [] rest := by
  induction line generalizing kept with
  | nil =>
    rw [List.nil_append, List.append_nil, splitLinesFrom, if_pos (by decide)]
    exact nofun
  | cons c line ih =>
    obtain ⟨hc, hline⟩ := List.forall_mem_cons.mp h
    have hgo : splitLinesFrom kept ((c :: line) ++ .scalar '\n' :: rest) =
        splitLinesFrom (c :: kept) (line ++ .scalar '\n' :: rest) := by
      cases c with
      | surrogate n => rfl
      | scalar c =>
        have hreturn : c ≠ '\r' := by
          rintro rfl
          cases hc
        rw [List.cons_append, splitLinesFrom, if_neg (by rw [show EvidenceService.isLineBreak c = false from hc]; exact nofun)]
        rintro _ heq
        exact fun h => absurd h hreturn
    rw [hgo, ih hline, List.reverse_cons, List.append_assoc, List.singleton_append]

lemma breaksLine_of_mem {kept text line : Str} (hkept : ∀ c ∈ kept, breaksLine c = false)
    (h : line ∈ splitLinesFrom kept text) : ∀ c ∈ line, breaksLine c = false := by
  have hline : ∀ {kept : Str}, (∀ c ∈ kept, breaksLine c = false) → ∀ c ∈ kept.reverse, breaksLine c = false :=
    fun hkept c hc => hkept c (List.mem_reverse.mp hc)
  fun_induction splitLinesFrom kept text with
  | case1 => cases h
  | case2 kept hne =>
    rw [List.mem_singleton] at h
    exact h ▸ hline hkept
  | case3 kept text ih =>
    rcases List.mem_cons.mp h with rfl | h
    · exact hline hkept
    · exact ih nofun h
  | case4 kept c text hc hbreak ih =>
    rcases List.mem_cons.mp h with rfl | h
    · exact hline hkept
    · exact ih nofun h
  | case5 kept c text hc hbreak ih =>
    exact ih (List.forall_mem_cons.mpr ⟨Bool.eq_false_of_not_eq_true hbreak, hkept⟩) h
  | case6 kept c text hc hc' ih =>
    refine ih (List.forall_mem_cons.mpr ⟨?_, hkept⟩) h
    cases c with
    | scalar c => exact absurd rfl (hc' c)
    | surrogate n => rfl

/-- The lines of a text of lines are these. -/
lemma splitLinesFrom_unlines {lines : List Str} (h : ∀ line ∈ lines, ∀ c ∈ line, breaksLine c = false) :
    splitLinesFrom [] (unlines lines) = lines := by
  induction lines with
  | nil => rfl
  | cons line lines ih =>
    obtain ⟨hline, hlines⟩ := List.forall_mem_cons.mp h
    rw [unlines, List.flatMap_cons, List.append_assoc, List.singleton_append, ← unlines, splitLinesFrom_line hline,
      ih hlines]
    rfl

end Lines

section Order

variable {tooling : SbomTooling} {lines : List Str} {packages : List (Str × Parsed)}

lemma sortKey_eq_iff {c c' : Component} : sortKey tooling c = sortKey tooling c' ↔
    c.type = c'.type ∧ tooling.casefold c.name = tooling.casefold c'.name ∧ c.version = c'.version ∧
      c.purl = c'.purl := by
  simp only [sortKey, EmbeddingLike.apply_eq_iff_eq, Prod.mk.injEq]

lemma keyedApart_pins : KeyedApart (sortKey tooling) (pinnedComponents tooling lines) ↔
    ∀ line ∈ lines, ∀ line' ∈ lines, ∀ name name' version,
      lockEntry (strip line) = some (name, version) → lockEntry (strip line') = some (name', version) →
        tooling.casefold name = tooling.casefold name' → name = name' := by
  have hkey : ∀ {name name' version : Str}, tooling.casefold name = tooling.casefold name' →
      sortKey tooling (pinComponent tooling (name, version)) =
        sortKey tooling (pinComponent tooling (name', version)) := by
    intro name name' version h
    refine sortKey_eq_iff.mpr ⟨rfl, h, rfl, ?_⟩
    simp only [pinComponent, pypiPurl, h]
  rw [pinnedComponents, keyedApart_filterMap]
  constructor
  · intro h line hline line' hline' name name' version hentry hentry' hname
    refine congrArg Component.name (h line hline line' hline' (pinComponent tooling (name, version))
      (pinComponent tooling (name', version)) ?_ ?_ (hkey hname))
    · rw [hentry, Option.map_some]
    · rw [hentry', Option.map_some]
  · intro h line hline line' hline' c c' hc hc' hkeys
    obtain ⟨⟨name, version⟩, hentry, rfl⟩ := Option.map_eq_some_iff.mp hc
    obtain ⟨⟨name', version'⟩, hentry', rfl⟩ := Option.map_eq_some_iff.mp hc'
    obtain ⟨-, hname, hversion, -⟩ := sortKey_eq_iff.mp hkeys
    obtain rfl : version = version' := hversion
    rw [h line hline line' hline' name name' version hentry hentry' hname]

lemma keyedApart_entries : KeyedApart (sortKey tooling) (packages.filterMap npmComponent) ↔
    SameScopes packages := by
  rw [keyedApart_filterMap, SameScopes]
  simp only [npmComponent_eq]
  constructor
  · intro h entry hentry entry' hentry' package hnamed hnamed'
    refine dev_of_namedComponent (h entry hentry entry' hentry' (namedComponent (isDev entry) package)
      (namedComponent (isDev entry') package) ?_ ?_ (sortKey_eq_iff.mpr ⟨rfl, rfl, rfl, rfl⟩))
    · rw [hnamed, Option.map_some]
    · rw [hnamed', Option.map_some]
  · intro h entry hentry entry' hentry' c c' hc hc' hkeys
    obtain ⟨⟨name, version⟩, hnamed, rfl⟩ := Option.map_eq_some_iff.mp hc
    obtain ⟨⟨name', version'⟩, hnamed', rfl⟩ := Option.map_eq_some_iff.mp hc'
    obtain ⟨-, -, hversion, hpurl⟩ := sortKey_eq_iff.mp hkeys
    obtain rfl : version = version' := hversion
    obtain rfl : name = name' := by
      simpa only [namedComponent, npmPurl, List.append_assoc, List.append_cancel_left_eq,
        List.append_cancel_right_eq] using hpurl
    rw [h entry hentry entry' hentry' _ hnamed hnamed']

variable {web tui : List (Str × Parsed)}

/-- The sorted inventory does not depend on the order in which the lockfiles hold what is listed, exactly where
no file holds two different components of one key. -/
lemma inventory_reorder_iff :
    (∀ lines' web' tui', lines.Perm lines' → web.Perm web' → tui.Perm tui' →
      sortBy (sortKey tooling) (inventory tooling lines' web' tui') =
        sortBy (sortKey tooling) (inventory tooling lines web tui)) ↔
      KeyedApart (sortKey tooling) (pinnedComponents tooling lines) ∧
        KeyedApart (sortKey tooling) (web.filterMap npmComponent) ∧
          KeyedApart (sortKey tooling) (tui.filterMap npmComponent) := by
  have hpins : ∀ web tui, (∀ lines', lines.Perm lines' →
      sortBy (sortKey tooling) (inventory tooling lines' web tui) =
        sortBy (sortKey tooling) (inventory tooling lines web tui)) ↔
      KeyedApart (sortKey tooling) (pinnedComponents tooling lines) :=
    fun web tui => sortBy_reorder_iff [] (web.filterMap npmComponent ++ tui.filterMap npmComponent)
  have hweb : ∀ lines tui, (∀ web', web.Perm web' →
      sortBy (sortKey tooling) (inventory tooling lines web' tui) =
        sortBy (sortKey tooling) (inventory tooling lines web tui)) ↔
      KeyedApart (sortKey tooling) (web.filterMap npmComponent) :=
    fun lines tui => sortBy_reorder_iff (pinnedComponents tooling lines) (tui.filterMap npmComponent)
  have htui : ∀ lines web, (∀ tui', tui.Perm tui' →
      sortBy (sortKey tooling) (inventory tooling lines web tui') =
        sortBy (sortKey tooling) (inventory tooling lines web tui)) ↔
      KeyedApart (sortKey tooling) (tui.filterMap npmComponent) := by
    intro lines web
    have hlast := @sortBy_reorder_iff _ _ _ _ (sortKey tooling) npmComponent tui
      (pinnedComponents tooling lines ++ web.filterMap npmComponent) []
    simpa only [List.append_nil, List.append_assoc, inventory] using hlast
  constructor
  · intro h
    refine ⟨(hpins web tui).mp fun lines' hlines => ?_, (hweb lines tui).mp fun web' hweb' => ?_,
      (htui lines web).mp fun tui' htui' => ?_⟩
    · exact h lines' web tui hlines (List.Perm.refl web) (List.Perm.refl tui)
    · exact h lines web' tui (List.Perm.refl lines) hweb' (List.Perm.refl tui)
    · exact h lines web tui' (List.Perm.refl lines) (List.Perm.refl web) htui'
  · rintro ⟨hlinesApart, hwebApart, htuiApart⟩ lines' web' tui' hlines hweb' htui'
    calc sortBy (sortKey tooling) (inventory tooling lines' web' tui')
        = sortBy (sortKey tooling) (inventory tooling lines' web' tui) := (htui lines' web').mpr htuiApart tui' htui'
      _ = sortBy (sortKey tooling) (inventory tooling lines' web tui) := (hweb lines' tui).mpr hwebApart web' hweb'
      _ = sortBy (sortKey tooling) (inventory tooling lines web tui) := (hpins web tui).mpr hlinesApart lines' hlines

end Order

section Complete

variable {tooling : SbomTooling} {repoRoot : String} {files : Lockfiles} {bom : Bom}

lemma packagesOf_dict (packages : List (Str × Parsed)) :
    packagesOf (.dict [(Str.ofString "packages", .dict packages)]) = some packages := rfl

/-- Every order of the lines and of the entries is the order of some lockfiles. -/
lemma exists_reordered {lines' : List Str} {web tui web' tui' : List (Str × Parsed)}
    (hweb : packagesOf files.web = some web) (htui : packagesOf files.tui = some tui)
    (hlines : files.lines.Perm lines') (hweb' : web.Perm web') (htui' : tui.Perm tui') :
    ∃ files', files.Reordered files' ∧ files'.lines = lines' ∧ packagesOf files'.web = some web' ∧
      packagesOf files'.tui = some tui' := by
  have hsplit : Lockfiles.lines ⟨unlines lines', files.web, files.tui⟩ = lines' := by
    refine splitLinesFrom_unlines fun line hline => breaksLine_of_mem ?_ (hlines.mem_iff.mpr hline)
    exact fun c hc => absurd hc List.not_mem_nil
  let files' : Lockfiles := ⟨unlines lines', .dict [(Str.ofString "packages", .dict web')],
    .dict [(Str.ofString "packages", .dict tui')]⟩
  have hlines' : files'.lines = lines' := hsplit
  exact ⟨files', ⟨hlines' ▸ hlines, ⟨web, web', hweb, packagesOf_dict web', hweb'⟩,
    ⟨tui, tui', htui, packagesOf_dict tui', htui'⟩⟩, hlines', packagesOf_dict web', packagesOf_dict tui'⟩

/-- The document is the same for every order of the lines and of the entries. -/
lemma reordered_iff {web tui : List (Str × Parsed)} (hweb : packagesOf files.web = some web)
    (htui : packagesOf files.tui = some tui) (h : buildBom tooling repoRoot files = .ok bom) :
    (∀ files', files.Reordered files' → buildBom tooling repoRoot files' = .ok bom) ↔
      ∀ lines' web' tui', files.lines.Perm lines' → web.Perm web' → tui.Perm tui' →
        sortBy (sortKey tooling) (inventory tooling lines' web' tui') =
          sortBy (sortKey tooling) (inventory tooling files.lines web tui) := by
  obtain ⟨hvalid, web₀, tui₀, hweb₀, htui₀, hdocument⟩ := buildBom_eq_ok.mp h
  obtain rfl := Option.some.inj (hweb₀.symm.trans hweb)
  obtain rfl := Option.some.inj (htui₀.symm.trans htui)
  constructor
  · intro hsame lines' web' tui' hlines hweb' htui'
    obtain ⟨files', hfiles', rfl, hweb', htui'⟩ := exists_reordered hweb htui hlines hweb' htui'
    obtain ⟨-, web₁, tui₁, hweb₁, htui₁, hdocument'⟩ := buildBom_eq_ok.mp (hsame files' hfiles')
    obtain rfl := Option.some.inj (hweb₁.symm.trans hweb')
    obtain rfl := Option.some.inj (htui₁.symm.trans htui')
    rw [← document_components hdocument', document_components hdocument]
  · rintro hsame files' ⟨hlines, ⟨web₁, web', hweb₁, hweb', hwebs⟩, ⟨tui₁, tui', htui₁, htui', htuis⟩⟩
    obtain rfl := Option.some.inj (hweb₁.symm.trans hweb)
    obtain rfl := Option.some.inj (htui₁.symm.trans htui)
    refine buildBom_eq_ok.mpr ⟨fun line hline => hvalid line (hlines.mem_iff.mpr hline), web', tui', hweb', htui', ?_⟩
    rw [hsame files'.lines web' tui' hlines hwebs htuis]
    exact hdocument

/-- The inventory lists exactly what the lockfiles lock, and is the same in whatever order they hold it. -/
def IsComplete (tooling : SbomTooling) (repoRoot : String) (files : Lockfiles) (bom : Bom) : Prop :=
  (∀ p, p ∈ bom.packages ↔ p ∈ files.locked) ∧
    ∀ files', files.Reordered files' → buildBom tooling repoRoot files' = .ok bom

/-- The inventory is complete exactly where the lockfiles are regular. -/
theorem inventory_complete_iff (h : buildBom tooling repoRoot files = .ok bom) :
    IsComplete tooling repoRoot files bom ↔ files.Regular tooling.casefold := by
  obtain ⟨hvalid, web, tui, hweb, htui, hdocument⟩ := buildBom_eq_ok.mp h
  have hwebEntries : entriesOf files.web = web := by rw [entriesOf, hweb, Option.getD_some]
  have htuiEntries : entriesOf files.tui = tui := by rw [entriesOf, htui, Option.getD_some]
  have hpackages : (∀ p, p ∈ bom.packages ↔ p ∈ files.locked) ↔
      (∀ line ∈ files.lines, ∀ entry, lockEntry (strip line) = some entry → entry.2.all isVersionPoint = true) ∧
        ∀ entry ∈ files.entries, ∀ package, lockedEntry entry = some package →
          ∃ entry' ∈ files.entries, namedEntry entry' = some package := by
    rw [← same_pins_iff hvalid, ← same_entries_iff, ← same_packages_iff, Bom.packages,
      document_components hdocument, Lockfiles.locked, Lockfiles.entries, hwebEntries, htuiEntries,
      ← packages_inventory]
    refine forall_congr' fun p => ?_
    rw [(sortBy_perm.filterMap Component.package?).mem_iff]
  rw [IsComplete, hpackages, reordered_iff hweb htui h, inventory_reorder_iff, keyedApart_pins, keyedApart_entries,
    keyedApart_entries, ← hwebEntries, ← htuiEntries]
  constructor
  · rintro ⟨⟨hbare, hnamed⟩, hspelled, hwebScopes, htuiScopes⟩
    exact ⟨hbare, hnamed, hspelled, hwebScopes, htuiScopes⟩
  · rintro ⟨hbare, hnamed, hspelled, hwebScopes, htuiScopes⟩
    exact ⟨⟨hbare, hnamed⟩, hspelled, hwebScopes, htuiScopes⟩

def sampleTooling (digest : String) : SbomTooling where
  casefold s := s.map SupplyChainSecurityService.lowerAscii
  repr s := String.ofList (s.filterMap fun c => match c with
    | .scalar c => some c
    | .surrogate _ => none)
  sha256 _ := digest

/-- What `json.loads` builds from a lockfile whose entries have texts for members. -/
def packageLock (entries : List (String × List (String × String))) : Parsed :=
  .dict [("packages", .dict (entries.map fun entry =>
    (Str.ofString entry.1, .dict (entry.2.map fun m => (Str.ofString m.1, .str m.2)))))]

def namedLockfiles : Lockfiles where
  requirements := "pydantic==2.0.0\n"
  web := packageLock [("", []), ("node_modules/react", [("name", "react"), ("version", "1.0.0")])]
  tui := packageLock [("", []), ("node_modules/opentui", [("name", "opentui"), ("version", "1.0.0")])]

theorem named_lockfiles_complete : ∃ bom,
    buildBom (sampleTooling "2a891c701659f97d01247107d273057038d98dfc4b913fad6d83d55c9503d0dc") "" namedLockfiles =
      .ok bom ∧
    IsComplete (sampleTooling "2a891c701659f97d01247107d273057038d98dfc4b913fad6d83d55c9503d0dc") "" namedLockfiles
      bom := by
  have hlines : namedLockfiles.lines = [Str.ofString "pydantic==2.0.0"] := by decide
  have hentry : lockEntry (strip (Str.ofString "pydantic==2.0.0")) =
      some (Str.ofString "pydantic", Str.ofString "2.0.0") := by decide
  have hnamed : ∀ entry ∈ namedLockfiles.entries, lockedEntry entry = namedEntry entry := by decide
  have hdev : ∀ entry ∈ namedLockfiles.entries, isDev entry = false := by decide
  refine ⟨_, rfl, (inventory_complete_iff rfl).mpr ⟨?_, ?_, ?_, ?_, ?_⟩⟩
  · intro line hline entry h
    rw [hlines, List.mem_singleton] at hline
    rw [hline, hentry] at h
    rw [← Option.some.inj h]
    decide
  · exact fun entry hmem package h => ⟨entry, hmem, hnamed entry hmem ▸ h⟩
  · intro line hline line' hline' name name' version h h' _
    rw [hlines, List.mem_singleton] at hline hline'
    rw [hline, hentry] at h
    rw [hline', hentry] at h'
    exact congrArg Prod.fst (Option.some.inj (h.symm.trans h'))
  · intro entry hmem entry' hmem' _ _ _
    rw [hdev entry (List.mem_append_left _ hmem), hdev entry' (List.mem_append_left _ hmem')]
  · intro entry hmem entry' hmem' _ _ _
    rw [hdev entry (List.mem_append_right _ hmem), hdev entry' (List.mem_append_right _ hmem')]

/-- As npm writes it, an entry of the web lockfile has no name. -/
def namelessLockfiles : Lockfiles where
  requirements := ""
  web := packageLock [("", []), ("node_modules/react", [("version", "1.0.0")])]
  tui := packageLock [("", [])]

theorem nameless_package_missing : ¬ ∀ (tooling : SbomTooling) (repoRoot : String) (files : Lockfiles) (bom : Bom),
    buildBom tooling repoRoot files = .ok bom → IsComplete tooling repoRoot files bom := by
  intro h
  have hlocked : (.npm, Str.ofString "react", Str.ofString "1.0.0") ∈ namelessLockfiles.locked := by decide
  obtain ⟨hpackages, -⟩ := h (sampleTooling "e3b0c44298fc1c149afbf4c8996fb92427ae41e4649b934ca495991b7852b855") ""
    namelessLockfiles _ rfl
  exact absurd ((hpackages _).mpr hlocked) (by decide)

end Complete

end SecScanMonitor.Release
