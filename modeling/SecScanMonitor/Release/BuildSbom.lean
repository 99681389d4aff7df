import Mathlib.Data.Prod.Lex
import SecScanMonitor.Application.SupplyChainSecurity
import SecScanMonitor.Foundations.StableSort
import SecScanMonitor.Foundations.Trimming

/-! The inventory of the release (`scripts/release/build_sbom.py`): the components of the committed lockfiles,
sorted, and the serial number that is drawn from them. -/

namespace SecScanMonitor.Release

open Foundations Domain Application

/-- The functions of the language that the script calls on a text. -/
structure SbomTooling where
  casefold : Str → Str
  repr : Str → String
  /-- `hashlib.sha256(…).hexdigest()` -/
  sha256 : List UInt8 → Str

inductive Scope where
  | required
  | optional
  deriving DecidableEq

structure Component where
  type : Str := "library"
  name : Str
  version : Str
  purl : Str
  scope : Scope
  deriving DecidableEq

/-- `s.split(bar, 1)` of a text with `bar` in it -/
def splitOnce (bar : Str) : Str → Option (Str × Str)
  | [] => none
  | c :: s =>
    if startsWith bar (c :: s) then some ([], (c :: s).drop bar.length)
    else (splitOnce bar s).map fun parts => (c :: parts.1, parts.2)

lemma splitOnce_eq_some {bar s a b : Str} (h : splitOnce bar s = some (a, b)) : s = a ++ (bar ++ b) := by
  induction s generalizing a with
  | nil => cases h
  | cons c s ih =>
    rw [splitOnce] at h
    by_cases hbar : startsWith bar (c :: s) = true
    · rw [if_pos hbar] at h
      obtain ⟨rfl, rfl⟩ := Prod.mk.inj (Option.some.inj h)
      exact (List.prefix_iff_eq_append.mp (List.isPrefixOf_iff_prefix.mp hbar)).symm
    · rw [if_neg hbar] at h
      obtain ⟨parts, hparts, hab⟩ := Option.map_eq_some_iff.mp h
      obtain ⟨rfl, rfl⟩ := Prod.mk.inj hab
      rw [ih hparts]
      rfl

lemma splitOnce_append {x : CodePoint} {bar a b : Str} (ha : x ∉ a) :
    splitOnce (x :: bar) (a ++ (x :: bar ++ b)) = some (a, b) := by
  induction a with
  | nil =>
    have hbar : startsWith (x :: bar) (x :: bar ++ b) = true :=
      List.isPrefixOf_iff_prefix.mpr (List.prefix_append _ b)
    rw [List.nil_append, List.cons_append, splitOnce, ← List.cons_append, if_pos hbar, List.drop_left]
  | cons c a ih =>
    have hbar : ¬ startsWith (x :: bar) (c :: (a ++ (x :: bar ++ b))) = true := by
      intro h
      obtain ⟨rest, hrest⟩ := List.isPrefixOf_iff_prefix.mp h
      exact ha ((List.cons.inj hrest).1 ▸ List.mem_cons_self)
    rw [List.cons_append, splitOnce, if_neg hbar, ih fun h => ha (List.mem_cons_of_mem c h)]
    rfl

section Python

def isAlphanumeric : CodePoint → Bool := isAscii Char.isAlphanum

/-- `[A-Za-z0-9._-]` -/
def isNamePoint (c : CodePoint) : Bool := isAlphanumeric c || decide (c ∈ Str.ofString "._-")

/-- `[A-Za-z0-9][A-Za-z0-9._-]*` -/
def isPackageName : Str → Bool
  | [] => false
  | c :: s => isAlphanumeric c && s.all isNamePoint

/-- `version.split(";", 1)[0].rstrip("\\").strip()` -/
def versionText (version : Str) : Str :=
  strip ((version.takeWhile fun c => decide (c ≠ .scalar ';')).rdropWhile fun c => decide (c = .scalar '\\'))

/-- What a line locks, and `none` where the loop goes on with the next one. -/
def lockEntry (line : Str) : Option (Str × Str) :=
  if line = [] ∨ startsWith "#" line = true then none
  else (splitOnce "==" line).map fun parts => (strip parts.1, versionText (strip parts.2))

variable (tooling : SbomTooling)

def pypiPurl (name version : Str) : Str :=
  "pkg:pypi/" ++ (tooling.casefold name).map (fun c => if c = .scalar '_' then .scalar '-' else c) ++ "@" ++ version

def pinComponent (entry : Str × Str) : Component where
  name := entry.1
  version := entry.2
  purl := pypiPurl tooling entry.1 entry.2
  scope := .required

def pythonComponent (rawLine : Str) : Except Raised (Option Component) :=
  let line := strip rawLine
  match lockEntry line with
  | none => .ok none
  | some entry => do
    raiseIf (isPackageName entry.1 = false ∨ entry.2 = []) .valueError
      s!"invalid Python lock entry: {tooling.repr line}"
    return some (pinComponent tooling entry)

/-- `_python_components` -/
def pythonComponents (text : Str) : Except Raised (List Component) := do
  let components ← (SupplyChainSecurityService.splitLinesFrom [] text).mapM (pythonComponent tooling)
  return components.filterMap id

variable {tooling : SbomTooling}

/-- The line is no entry of a lock, or one whose name and version are. -/
def IsValidLine (rawLine : Str) : Prop :=
  ∀ entry, lockEntry (strip rawLine) = some entry → isPackageName entry.1 = true ∧ entry.2 ≠ []

lemma pythonComponent_eq_ok {rawLine : Str} {component : Option Component} :
    pythonComponent tooling rawLine = .ok component ↔
      IsValidLine rawLine ∧ component = (lockEntry (strip rawLine)).map (pinComponent tooling) := by
  rw [pythonComponent, IsValidLine]
  cases lockEntry (strip rawLine) with
  | none =>
    refine ⟨fun h => ⟨fun entry hentry => ?_, (Except.ok.inj h).symm⟩, fun h => congrArg Except.ok h.2.symm⟩
    cases hentry
  | some entry =>
    simp only [Option.some.injEq, forall_eq', Option.map_some]
    constructor
    · intro h
      obtain ⟨hvalid, h⟩ := raiseIf_bind_eq_ok.mp h
      obtain ⟨hname, hversion⟩ := not_or.mp hvalid
      exact ⟨⟨Bool.eq_true_of_not_eq_false hname, hversion⟩, (Except.ok.inj h).symm⟩
    · rintro ⟨⟨hname, hversion⟩, rfl⟩
      refine raiseIf_bind_eq_ok.mpr ⟨not_or.mpr ⟨?_, hversion⟩, rfl⟩
      rw [hname]
      exact fun h => by cases h

/-- The components of the lines: one for each that locks something. -/
def pinnedComponents (tooling : SbomTooling) (lines : List Str) : List Component :=
  lines.filterMap fun line => (lockEntry (strip line)).map (pinComponent tooling)

lemma mapM_pythonComponent_eq_ok {lines : List Str} {components : List (Option Component)} :
    lines.mapM (pythonComponent tooling) = .ok components ↔
      (∀ line ∈ lines, IsValidLine line) ∧
        components = lines.map fun line => (lockEntry (strip line)).map (pinComponent tooling) := by
  induction lines generalizing components with
  | nil => exact ⟨fun h => ⟨nofun, (Except.ok.inj h).symm⟩, fun h => congrArg Except.ok h.2.symm⟩
  | cons line lines ih =>
    rw [List.mapM_cons, bind_eq_ok, List.forall_mem_cons, List.map_cons]
    constructor
    · rintro ⟨component, hline, h⟩
      obtain ⟨rest, hrest, h⟩ := bind_eq_ok.mp h
      obtain ⟨hvalid, rfl⟩ := pythonComponent_eq_ok.mp hline
      obtain ⟨hvalids, rfl⟩ := ih.mp hrest
      exact ⟨⟨hvalid, hvalids⟩, (Except.ok.inj h).symm⟩
    · rintro ⟨⟨hvalid, hvalids⟩, rfl⟩
      exact ⟨_, pythonComponent_eq_ok.mpr ⟨hvalid, rfl⟩, bind_eq_ok.mpr ⟨_, ih.mpr ⟨hvalids, rfl⟩, rfl⟩⟩

lemma pythonComponents_eq_ok {text : Str} {components : List Component} :
    pythonComponents tooling text = .ok components ↔
      (∀ line ∈ SupplyChainSecurityService.splitLinesFrom [] text, IsValidLine line) ∧
        components = pinnedComponents tooling (SupplyChainSecurityService.splitLinesFrom [] text) := by
  rw [pythonComponents, bind_eq_ok]
  simp only [mapM_pythonComponent_eq_ok]
  constructor
  · rintro ⟨_, ⟨hvalid, rfl⟩, h⟩
    refine ⟨hvalid, ?_⟩
    rw [← Except.ok.inj h, List.filterMap_map]
    rfl
  · rintro ⟨hvalid, rfl⟩
    refine ⟨_, ⟨hvalid, rfl⟩, ?_⟩
    rw [List.filterMap_map]
    rfl

end Python

section Npm

def npmPurl (name version : Str) : Str := "pkg:npm/" ++ name ++ "@" ++ version

def npmComponent (entry : Str × Parsed) : Option Component :=
  match entry with
  | ([], _) => none
  | (_, .dict metadata) =>
    match getMember metadata "name" .none, getMember metadata "version" .none with
    | .str name, .str version =>
      some {
        name := name
        version := version
        purl := npmPurl name version
        scope := if (getMember metadata "dev" .none).truthy then .optional else .required }
    | _, _ => none
  | _ => none

/-- `_npm_components` -/
def npmComponents (lockPath : String) (payload : Parsed) : Except Raised (List Component) := do
  let members ← payload.asMapping "get"
  match getMember members "packages" .none with
  | .dict packages => return packages.filterMap npmComponent
  | _ => raise .valueError s!"npm lockfile has no packages map: {lockPath}"

/-- The packages map of a lockfile. -/
def packagesOf (payload : Parsed) : Option (List (Str × Parsed)) :=
  payload.members?.bind fun members => (getMember members "packages" .none).members?

lemma npmComponents_eq_ok {lockPath : String} {payload : Parsed} {components : List Component} :
    npmComponents lockPath payload = .ok components ↔
      ∃ packages, packagesOf payload = some packages ∧ components = packages.filterMap npmComponent := by
  rw [npmComponents, bind_eq_ok, packagesOf]
  cases payload with
  | dict members =>
    change (∃ a, Except.ok members = Except.ok a ∧ _) ↔
      ∃ packages, (getMember members "packages" .none).members? = some packages ∧ _
    simp only [Except.ok.injEq, exists_eq_left']
    cases getMember members "packages" .none with
    | dict packages =>
      constructor
      · exact fun h => ⟨packages, rfl, (Except.ok.inj h).symm⟩
      · rintro ⟨_, hpackages, rfl⟩
        rw [← Option.some.inj hpackages]
        rfl
    | none | bool _ | int _ | float _ | str _ | temporal _ _ | list _ => exact ⟨nofun, nofun⟩
  | none | bool _ | int _ | float _ | str _ | temporal _ _ | list _ => exact ⟨nofun, nofun⟩

end Npm

section Bom

structure Tool where
  vendor : String
  name : String
  version : String

structure Metadata where
  componentType : String := "application"
  componentName : String := "SecScanMonitor"
  componentVersion : String := "0.3.0"
  tools : List Tool := [⟨"SecScanMonitor", "build_sbom.py", "0.2.0"⟩]

structure Bom where
  bomFormat : String := "CycloneDX"
  specVersion : String := "1.5"
  serialNumber : Str
  version : ℕ := 1
  metadata : Metadata := {}
  components : List Component

/-- What the committed lockfiles hold. -/
structure Lockfiles where
  requirements : Str
  web : Parsed
  tui : Parsed

variable (tooling : SbomTooling)

def sortKey (c : Component) : Str ×ₗ Str ×ₗ Str ×ₗ Str :=
  toLex (c.type, toLex (tooling.casefold c.name, toLex (c.version, c.purl)))

/-- `str(UUID(digits))` -/
def uuidText (digits : Str) : Str :=
  digits.take 8 ++ "-" ++ (digits.drop 8).take 4 ++ "-" ++ (digits.drop 12).take 4 ++ "-" ++
    (digits.drop 16).take 4 ++ "-" ++ digits.drop 20

def document (components : List Component) : Except Raised Bom := do
  let identity ← encode (join "\n" (components.map Component.purl))
  let digest := tooling.sha256 identity
  return { serialNumber := "urn:uuid:" ++ uuidText (digest.take 32), components := components }

/-- `build_bom` -/
def buildBom (repoRoot : String) (files : Lockfiles) : Except Raised Bom := do
  let python ← pythonComponents tooling files.requirements
  let web ← npmComponents s!"{repoRoot}/apps/web/package-lock.json" files.web
  let tui ← npmComponents s!"{repoRoot}/apps/tui/package-lock.json" files.tui
  document tooling (sortBy (sortKey tooling) (python ++ (web ++ tui)))

variable {tooling : SbomTooling} {repoRoot : String} {files : Lockfiles} {bom : Bom}

def Lockfiles.lines (files : Lockfiles) : List Str := SupplyChainSecurityService.splitLinesFrom [] files.requirements

/-- All that is listed for the lockfiles, as they are gone through. -/
def inventory (tooling : SbomTooling) (lines : List Str) (web tui : List (Str × Parsed)) : List Component :=
  pinnedComponents tooling lines ++ (web.filterMap npmComponent ++ tui.filterMap npmComponent)

lemma document_components {components : List Component} (h : document tooling components = .ok bom) :
    bom.components = components := by
  obtain ⟨_, -, h⟩ := bind_eq_ok.mp h
  rw [← Except.ok.inj h]

theorem buildBom_eq_ok : buildBom tooling repoRoot files = .ok bom ↔
    (∀ line ∈ files.lines, IsValidLine line) ∧
      ∃ web tui, packagesOf files.web = some web ∧ packagesOf files.tui = some tui ∧
        document tooling (sortBy (sortKey tooling) (inventory tooling files.lines web tui)) = .ok bom := by
  rw [buildBom]
  simp only [bind_eq_ok, pythonComponents_eq_ok, npmComponents_eq_ok]
  constructor
  · rintro ⟨_, ⟨hvalid, rfl⟩, _, ⟨web, hweb, rfl⟩, _, ⟨tui, htui, rfl⟩, h⟩
    exact ⟨hvalid, web, tui, hweb, htui, h⟩
  · rintro ⟨hvalid, web, tui, hweb, htui, h⟩
    exact ⟨_, ⟨hvalid, rfl⟩, _, ⟨web, hweb, rfl⟩, _, ⟨tui, htui, rfl⟩, h⟩

end Bom

end SecScanMonitor.Release
