import SecScanMonitor.Application.SecurityServices

/-! Vulnerability intelligence over the dependencies that a snapshot declares (`_dependency_inventory` and
`VulnerabilityIntelligenceService` of `application/security_services.py`, `domain/vulnerability.py`). -/

namespace SecScanMonitor.Application

open Foundations Domain

structure Dependency where
  name : Str
  version : Str
  ecosystem : Str
  path : Str
  deriving DecidableEq

section Inventory

variable (py : Interpreter)

/-- `s.lstrip(chars)` -/
def lstrip (chars : String) (s : Str) : Str := s.dropWhile fun c => decide (c ∈ Str.ofString chars)

def packageSections : List String := ["dependencies", "devDependencies"]

/-- The dependencies of a `package.json`. -/
def packageDependencies (path : Str) (raw : Parsed) : Except Raised (List Dependency) := do
  let sections ← packageSections.mapM fun section_ => do
    let members ← raw.asMapping "get"
    let listed ← (getMember members section_ (.dict [])).asMapping "items"
    listed.mapM fun m => do
      let version ← py.text m.2
      return ⟨m.1, lstrip "^~>=< " version, "npm", path⟩
  return sections.flatten

def isNameChar : CodePoint → Bool := isAscii fun c => c.isAlphanum || c = '_' || c = '.' || c = '-'

/-- `\s*([A-Za-z0-9_.-]+)\s*(?:==\s*([0-9][^; ]*))?` -/
def readRequirement (s : Str) : Option (Str × Option Str) :=
  let s := s.dropWhile isBlankPoint
  let name := s.takeWhile isNameChar
  let rest := (s.drop name.length).dropWhile isBlankPoint
  let version :=
    if startsWith "==" rest then
      match (rest.drop 2).dropWhile isBlankPoint with
      | c :: s =>
        if isAscii Char.isDigit c then
          some (c :: s.takeWhile fun c => decide (c ≠ .scalar ';' ∧ c ≠ .scalar ' '))
        else none
      | [] => none
    else none
  if name = [] then none else some (name, version)

/-- The dependencies of a `pyproject.toml`. -/
def projectDependencies (path : Str) (raw : List (Str × Parsed)) :
    Except Raised (List Dependency) := do
  let project ← (getMember raw "project" (.dict [])).asMapping "get"
  let requirements ← (getMember project "dependencies" (.list [])).iterate
  let read ← requirements.mapM fun requirement => do
    let s ← py.text requirement
    return (readRequirement s).map fun (name, version) =>
      (⟨name, version.getD "unknown", "PyPI", path⟩ : Dependency)
  return read.filterMap id

/-- The dependencies that one file declares. A file that does not parse declares none. -/
def fileDependencies (path content : Str) : Except Raised (List Dependency) :=
  let name := py.lower (pathName path)
  if name = Str.ofString "package.json" then do
    match ← excepting .jsonDecodeError (py.jsonLoads content) with
    | some raw => packageDependencies py path raw
    | none => return []
  else if name = Str.ofString "pyproject.toml" then do
    match ← excepting .tomlDecodeError (py.tomlLoads content) with
    | some raw => projectDependencies py path raw
    | none => return []
  else return []

/-- `_dependency_inventory` -/
def dependencyInventory (snapshot : RepositorySnapshot) : Except Raised (List Dependency) := do
  let declared ← snapshot.files.sortedItems.mapM fun e => fileDependencies py e.1 e.2
  return declared.flatten

end Inventory

inductive ReachabilityState where
  | reachable
  | likelyReachable
  | notReachable
  | unknown
  deriving Repr, DecidableEq

def ReachabilityState.value : ReachabilityState → String
  | .reachable => "REACHABLE"
  | .likelyReachable => "LIKELY_REACHABLE"
  | .notReachable => "NOT_REACHABLE"
  | .unknown => "UNKNOWN"

inductive ExposureState where
  | established
  | declared
  | notEstablished
  | unknown
  deriving Repr, DecidableEq

def ExposureState.value : ExposureState → String
  | .established => "ESTABLISHED"
  | .declared => "DECLARED"
  | .notEstablished => "NOT_ESTABLISHED"
  | .unknown => "UNKNOWN"

inductive FeedState where
  | fresh
  | stale
  | unavailable
  | notRun
  deriving Repr, DecidableEq

def FeedState.value : FeedState → String
  | .fresh => "FRESH"
  | .stale => "STALE"
  | .unavailable => "UNAVAILABLE"
  | .notRun => "NOT_RUN"

inductive PriorityClass where
  | urgent
  | high
  | routine
  | monitor
  | inconclusive
  deriving Repr, DecidableEq

def PriorityClass.value : PriorityClass → String
  | .urgent => "URGENT"
  | .high => "HIGH"
  | .routine => "ROUTINE"
  | .monitor => "MONITOR"
  | .inconclusive => "INCONCLUSIVE"

structure FeedProvenance where
  source : Str
  sourceUrl : Str
  retrievedAt : ℤ
  dataVersion : Str := []
  schemaVersion : Str := []
  contentSha256 : Str := []
  state : FeedState := .fresh
  limitation : Str := []

structure VulnerabilityRecord where
  packageName : Str
  ecosystem : Str
  installedVersion : Str
  vulnerabilityId : Str
  aliases : List Str := []
  affectedRange : Str := []
  fixedVersion : Option Str := none
  advisorySources : List Str := []
  kevStatus : Option Bool := none
  epssProbability : Option Double := none
  epssPercentile : Option Double := none
  reachability : ReachabilityState := .unknown
  exposure : ExposureState := .unknown
  provenance : List FeedProvenance := []
  freshness : FeedState := .notRun
  unknowns : List Str := []

structure PriorityDecision where
  vulnerabilityId : Str
  priority : PriorityClass
  reasons : List Str
  unknowns : List Str
  suggestedSeverity : Option Severity
  confidence : Confidence

section Identity

variable (py : Interpreter)

def normalizePackageName (name ecosystem : Str) : Str :=
  let normalized := py.lower (strip name)
  let system := py.lower (strip ecosystem)
  if system = Str.ofString "pypi" ∨ system = Str.ofString "python" then
    normalized.map fun c => if c = .scalar '_' then .scalar '-' else c
  else normalized

/-- A CVE alias where there is one, otherwise the identifier itself. -/
def canonicalVulnerabilityId (identifier : Str) (aliases : List Str) : Str :=
  let candidates := (identifier :: aliases).map fun s => py.upper (strip s)
  let cves := (candidates.filter (startsWith "CVE-")).insertionSort (· ≤ ·)
  (cves.head? <|> candidates.head?).getD []

end Identity

namespace VulnerabilityIntelligenceService

def serviceId : Str := "VULNINTEL"

def fixed (record : VulnerabilityRecord) : Option Str := record.fixedVersion.filter fun v => !v.isEmpty

def priorityReasons (py : Interpreter) (record : VulnerabilityRecord) : List Str :=
  ((fixed record).map fun v => Str.ofString "fix available at " ++ v).toList ++
    (if record.kevStatus = some true then [Str.ofString "CISA KEV match"] else []) ++
    (record.epssProbability.map fun p =>
      Str.ofString "EPSS probability supplied (" ++ py.renderFixed p ++ ")").toList ++
    (match record.reachability with
      | .reachable => ["reachable component established"]
      | .likelyReachable => ["component likely reachable"]
      | _ => []) ++
    (if record.exposure = .established then [Str.ofString "external exposure established"] else [])

def priorityUnknowns (record : VulnerabilityRecord) : List Str :=
  record.unknowns ++
    (if record.freshness = .fresh then [] else [Str.ofString s!"feed state is {record.freshness.value}"]) ++
    (match record.reachability with
      | .reachable | .likelyReachable => []
      | state => [Str.ofString s!"reachability is {state.value}"]) ++
    (if record.exposure = .established then []
      else [Str.ofString s!"exposure is {record.exposure.value}"])

def priority (py : Interpreter) (record : VulnerabilityRecord) : PriorityDecision :=
  let unknowns := priorityUnknowns record
  let (priority, severity, confidence) : PriorityClass × Option Severity × Confidence :=
    if record.kevStatus = some true ∧ record.reachability = .reachable ∧
        record.exposure = .established ∧ unknowns = [] then (.urgent, some .high, .high)
    else if (record.reachability = .reachable ∨ record.reachability = .likelyReachable) ∧
        (fixed record).isSome then
      (.high, some .medium, if unknowns = [] then .high else .medium)
    else if unknowns ≠ [] then (.inconclusive, none, .unknown)
    else (.routine, some .low, .medium)
  { vulnerabilityId := record.vulnerabilityId
    priority
    reasons := priorityReasons py record
    unknowns
    suggestedSeverity := severity
    confidence }

/-- An advisory for a dependency, as it is reported. -/
structure Match where
  record : VulnerabilityRecord
  decision : PriorityDecision
  observation : ServiceObservation
  candidate : Option ClaimCandidate

def affects (py : Interpreter) (advisory : VulnerabilityRecord) (dependency : Dependency) : Bool :=
  decide (normalizePackageName py advisory.packageName advisory.ecosystem =
    normalizePackageName py dependency.name dependency.ecosystem) &&
    decide (advisory.installedVersion = dependency.version)

def effectiveFeedState (feedState : FeedState) (advisory : VulnerabilityRecord) : FeedState :=
  if feedState = .fresh ∧ (advisory.provenance.all fun p =>
      !p.source.isEmpty && !p.sourceUrl.isEmpty && !p.contentSha256.isEmpty) = false then .notRun
  else feedState

def component (record : VulnerabilityRecord) : Str :=
  record.ecosystem ++ ":" ++ record.packageName ++ "@" ++ record.installedVersion

def observationOf (record : VulnerabilityRecord) (decision : PriorityDecision) (path evidence : Str) :
    ServiceObservation where
  serviceId := serviceId
  code := "VULNERABILITY_MATCH"
  statement := record.vulnerabilityId ++ " matches " ++ component record ++ " from " ++ path
  evidenceRefs := [evidence]
  confidence := decision.confidence
  suggestedSeverity := decision.suggestedSeverity
  standardReferences := ["OSV Schema 1.0 / API 1.0", "CISA KEV", "FIRST EPSS API v1"]
  status := decision.priority.value

def candidateOf (py : Interpreter) (record : VulnerabilityRecord) (decision : PriorityDecision)
    (evidence : Str) : ClaimCandidate where
  serviceId := serviceId
  dedupeKey := "vulnerability:" ++ canonicalVulnerabilityId py record.vulnerabilityId record.aliases ++
    ":" ++ normalizePackageName py record.packageName record.ecosystem
  statement := record.vulnerabilityId ++ " affects " ++ component record ++ "; priority is " ++
    decision.priority.value ++ " because " ++ join "; " decision.reasons ++ "."
  evidenceRefs := [evidence]
  severity := decision.suggestedSeverity.getD .medium
  confidence := decision.confidence
  affectedComponent := component record
  preconditions := ["the advisory identity and installed version remain applicable"]
  impact := "The affected component may expose the target to the advisory's documented security consequence."
  remediation :=
    match fixed record with
    | some v => "Upgrade to " ++ v ++ " or apply the advisory mitigation."
    | none => "Review the advisory and establish a supported mitigation."
  verification :=
    "Re-run the dependency inventory and confirm the installed version is outside the affected range."
  standardReferences := ["OSV Schema 1.0 / API 1.0"]

structure Outputs where
  matchedRecords : List VulnerabilityRecord
  priorityDecisions : List PriorityDecision

section Assess

variable (py : Interpreter) (enrich : Option (VulnerabilityRecord → Except Raised VulnerabilityRecord))
  (snapshot : RepositorySnapshot) (feedState : FeedState)

/-- The record of an advisory, from the service's enricher where it has one. -/
def enriched (advisory : VulnerabilityRecord) : Except Raised VulnerabilityRecord :=
  let record := { advisory with freshness := effectiveFeedState feedState advisory }
  match enrich with
  | some enrich => enrich record
  | none => .ok record

def assessPair (advisory : VulnerabilityRecord) (dependency : Dependency) :
    Except Raised (Option Match) :=
  if affects py advisory dependency then do
    let record ← enriched enrich feedState advisory
    let decision := priority py record
    let evidence ← evidenceId py snapshot dependency.path "vulnintel"
    return some
      { record
        decision
        observation := observationOf record decision dependency.path evidence
        candidate :=
          if decision.priority = .monitor then none
          else some (candidateOf py record decision evidence) }
  else return none

def limitationsOf (advisories : List VulnerabilityRecord) : List Str :=
  (if feedState = .fresh then []
    else [Str.ofString s!"vulnerability feed state is {feedState.value}; live enrichment is not treated as clean"]) ++
    (if advisories = [] then
      [Str.ofString "no advisory records supplied; vulnerability absence is not validated"]
    else [])

def assess (advisories : List VulnerabilityRecord) : Except Raised (ServiceResult Outputs) := do
  let dependencies ← dependencyInventory py snapshot
  let pairs := advisories.flatMap fun advisory => dependencies.map fun d => (advisory, d)
  let visited ← pairs.mapM fun p => assessPair py enrich snapshot feedState p.1 p.2
  let found := visited.filterMap id
  let limitations := limitationsOf feedState advisories
  return {
    serviceId := serviceId
    status := resultStatus limitations
    observations := found.map (·.observation)
    claimCandidates := found.filterMap (·.candidate)
    limitations
    outputs := ⟨found.map (·.record), found.map (·.decision)⟩ }

end Assess

section Files

variable {py : Interpreter} {path content : Str}

/-- Both sections of the manifest are mappings, where it has them. -/
def PackageReads (raw : Parsed) : Prop :=
  ∃ members, raw = .dict members ∧ ∀ section_ ∈ packageSections, ∃ listed,
    getMember members section_ (.dict []) = .dict listed

/-- The project is a mapping, its dependencies can be gone through, and each of them has a text. -/
def ProjectReads (raw : List (Str × Parsed)) : Prop :=
  ∃ project, getMember raw "project" (.dict []) = .dict project ∧
    ∃ requirements, (getMember project "dependencies" (.list [])).iterate = .ok requirements ∧
      ∀ requirement ∈ requirements, requirement.printable = true

/-- A manifest either does not parse, or has the expected shape. -/
structure FileReads (py : Interpreter) (path content : Str) : Prop where
  package : py.lower (pathName path) = Str.ofString "package.json" →
    (∀ raw, py.jsonLoads content = .ok raw → PackageReads raw) ∧
      ∀ e, py.jsonLoads content = .error e → e.kind = .jsonDecodeError
  project : py.lower (pathName path) = Str.ofString "pyproject.toml" →
    (∀ raw, py.tomlLoads content = .ok raw → ProjectReads raw) ∧
      ∀ e, py.tomlLoads content = .error e → e.kind = .tomlDecodeError

inductive Declares (py : Interpreter) (path content : Str) : Dependency → Prop
  | npm {members listed : List (Str × Parsed)} {section_ : String} {name version : Str}
      {value : Parsed} :
      py.lower (pathName path) = Str.ofString "package.json" →
      py.jsonLoads content = .ok (.dict members) → section_ ∈ packageSections →
      getMember members section_ (.dict []) = .dict listed → (name, value) ∈ listed →
      py.text value = .ok version →
      Declares py path content ⟨name, lstrip "^~>=< " version, "npm", path⟩
  | pypi {raw project : List (Str × Parsed)} {requirements : List Parsed} {requirement : Parsed}
      {s name : Str} {version : Option Str} :
      py.lower (pathName path) = Str.ofString "pyproject.toml" →
      py.tomlLoads content = .ok raw → getMember raw "project" (.dict []) = .dict project →
      (getMember project "dependencies" (.list [])).iterate = .ok requirements →
      requirement ∈ requirements → py.text requirement = .ok s →
      readRequirement s = some (name, version) →
      Declares py path content ⟨name, version.getD "unknown", "PyPI", path⟩

lemma Declares.path_eq {d : Dependency} (h : Declares py path content d) : d.path = path := by
  cases h <;> rfl

lemma packageDependencies_isOk {raw : Parsed} (hraw : raw.printable = true) :
    (∃ ds, packageDependencies py path raw = .ok ds) ↔ PackageReads raw := by
  rw [packageDependencies, map_isOk, mapM_isOk]
  constructor
  · intro h
    obtain ⟨members, rfl, -⟩ := Parsed.asMapping_bind_isOk.mp (h "dependencies" List.mem_cons_self)
    refine ⟨members, rfl, fun section_ hsection => ?_⟩
    obtain ⟨members', hmembers, hrest⟩ := Parsed.asMapping_bind_isOk.mp (h section_ hsection)
    obtain rfl := Parsed.dict.inj hmembers
    obtain ⟨listed, hlisted, -⟩ := Parsed.asMapping_bind_isOk.mp hrest
    exact ⟨listed, hlisted⟩
  · rintro ⟨members, rfl, hsections⟩ section_ hsection
    obtain ⟨listed, hlisted⟩ := hsections section_ hsection
    refine Parsed.asMapping_bind_isOk.mpr ⟨members, rfl, ?_⟩
    refine Parsed.asMapping_bind_isOk.mpr ⟨listed, hlisted, ?_⟩
    refine mapM_isOk.mpr fun m hm => map_isOk.mpr (text_isOk.mpr ?_)
    have hprintable := @Parsed.printable_getMember members section_ (.dict []) hraw
      (by rw [Parsed.printable]; rfl)
    rw [hlisted] at hprintable
    exact Parsed.printable_member hprintable hm

lemma projectDependencies_isOk {raw : List (Str × Parsed)} :
    (∃ ds, projectDependencies py path raw = .ok ds) ↔ ProjectReads raw := by
  rw [projectDependencies, Parsed.asMapping_bind_isOk]
  refine exists_congr fun project => and_congr_right fun _ => ?_
  rw [bind_isOk]
  refine exists_congr fun requirements => and_congr_right fun _ => ?_
  rw [map_isOk, mapM_isOk]
  refine forall₂_congr fun requirement _ => ?_
  rw [map_isOk, text_isOk]

lemma fileDependencies_isOk :
    (∃ ds, fileDependencies py path content = .ok ds) ↔ FileReads py path content := by
  have hdistinct : Str.ofString "package.json" ≠ Str.ofString "pyproject.toml" := by decide
  rw [fileDependencies]
  by_cases hpackage : py.lower (pathName path) = Str.ofString "package.json"
  · rw [if_pos hpackage, excepting_bind_isOk]
    constructor
    · intro h
      refine ⟨fun _ => ⟨fun raw hraw => ?_, fun e he => (h.2 e he).1⟩, fun hproject => ?_⟩
      · exact (packageDependencies_isOk (py.json_printable content raw hraw)).mp (h.1 raw hraw)
      · exact absurd (hpackage.symm.trans hproject) hdistinct
    · intro h
      obtain ⟨hreads, hraises⟩ := h.package hpackage
      refine ⟨fun raw hraw => ?_, fun e he => ⟨hraises e he, [], rfl⟩⟩
      exact (packageDependencies_isOk (py.json_printable content raw hraw)).mpr (hreads raw hraw)
  rw [if_neg hpackage]
  by_cases hproject : py.lower (pathName path) = Str.ofString "pyproject.toml"
  · rw [if_pos hproject, excepting_bind_isOk]
    constructor
    · intro h
      refine ⟨fun hname => absurd hname hpackage, fun _ => ⟨fun raw hraw => ?_,
        fun e he => (h.2 e he).1⟩⟩
      exact projectDependencies_isOk.mp (h.1 raw hraw)
    · intro h
      obtain ⟨hreads, hraises⟩ := h.project hproject
      refine ⟨fun raw hraw => ?_, fun e he => ⟨hraises e he, [], rfl⟩⟩
      exact projectDependencies_isOk.mpr (hreads raw hraw)
  · rw [if_neg hproject]
    exact ⟨fun _ => ⟨fun h => absurd h hpackage, fun h => absurd h hproject⟩, fun _ => ⟨[], rfl⟩⟩

lemma mem_packageDependencies {raw : Parsed} {ds : List Dependency} {d : Dependency}
    (hname : py.lower (pathName path) = Str.ofString "package.json")
    (hraw : py.jsonLoads content = .ok raw) (h : packageDependencies py path raw = .ok ds) :
    d ∈ ds ↔ Declares py path content d := by
  obtain ⟨sections, hsections, h⟩ := bind_eq_ok.mp h
  obtain ⟨hforth, hback⟩ := mapM_eq_ok hsections
  rw [← Except.ok.inj h, List.mem_flatten]
  constructor
  · rintro ⟨found, hfound, hd⟩
    obtain ⟨section_, hsection, hread⟩ := hback found hfound
    obtain ⟨members, hmembers, hread⟩ := bind_eq_ok.mp hread
    obtain ⟨listed, hlisted, hread⟩ := bind_eq_ok.mp hread
    rw [Parsed.asMapping_eq_ok] at hmembers hlisted
    obtain ⟨⟨name, value⟩, hm, hd⟩ := (mapM_eq_ok hread).2 d hd
    obtain ⟨version, hversion, hd⟩ := bind_eq_ok.mp hd
    rw [← Except.ok.inj hd]
    rw [hmembers] at hraw
    exact .npm hname hraw hsection hlisted hm hversion
  · intro hd
    cases hd with
    | npm _ hjson hsection hlisted hm hversion =>
      obtain rfl := Except.ok.inj (hraw.symm.trans hjson)
      obtain ⟨found, hfound, hread⟩ := hforth _ hsection
      obtain ⟨members', hmembers, hread⟩ := bind_eq_ok.mp hread
      rw [Parsed.asMapping_eq_ok] at hmembers
      obtain rfl := Parsed.dict.inj hmembers
      obtain ⟨listed', hlisted', hread⟩ := bind_eq_ok.mp hread
      rw [Parsed.asMapping_eq_ok, hlisted] at hlisted'
      obtain rfl := Parsed.dict.inj hlisted'
      obtain ⟨d, hd, hentry⟩ := (mapM_eq_ok hread).1 _ hm
      obtain ⟨version', hversion', hentry⟩ := bind_eq_ok.mp hentry
      obtain rfl := Except.ok.inj (hversion.symm.trans hversion')
      rw [← Except.ok.inj hentry] at hd
      exact ⟨found, hfound, hd⟩
    | pypi hproject =>
      exact absurd (hname.symm.trans hproject) (by decide)

lemma mem_projectDependencies {raw : List (Str × Parsed)} {ds : List Dependency} {d : Dependency}
    (hname : py.lower (pathName path) = Str.ofString "pyproject.toml")
    (hraw : py.tomlLoads content = .ok raw) (h : projectDependencies py path raw = .ok ds) :
    d ∈ ds ↔ Declares py path content d := by
  obtain ⟨project, hproject, h⟩ := bind_eq_ok.mp h
  rw [Parsed.asMapping_eq_ok] at hproject
  obtain ⟨requirements, hrequirements, h⟩ := bind_eq_ok.mp h
  obtain ⟨read, hread, h⟩ := bind_eq_ok.mp h
  obtain ⟨hforth, hback⟩ := mapM_eq_ok hread
  rw [← Except.ok.inj h, List.mem_filterMap]
  constructor
  · rintro ⟨found, hfound, hd⟩
    obtain ⟨requirement, hrequirement, hentry⟩ := hback found hfound
    obtain ⟨s, hs, hentry⟩ := bind_eq_ok.mp hentry
    rw [← Except.ok.inj hentry] at hd
    obtain ⟨⟨name, version⟩, hreq, rfl⟩ := Option.map_eq_some_iff.mp hd
    exact .pypi hname hraw hproject hrequirements hrequirement hs hreq
  · intro hd
    cases hd with
    | npm hpackage => exact absurd (hname.symm.trans hpackage) (by decide)
    | pypi _ htoml hproject' hrequirements' hrequirement hs hreq =>
      obtain rfl := Except.ok.inj (hraw.symm.trans htoml)
      obtain rfl := Parsed.dict.inj (hproject.symm.trans hproject')
      obtain rfl := Except.ok.inj (hrequirements.symm.trans hrequirements')
      obtain ⟨found, hfound, hentry⟩ := hforth _ hrequirement
      obtain ⟨s', hs', hentry⟩ := bind_eq_ok.mp hentry
      obtain rfl := Except.ok.inj (hs.symm.trans hs')
      rw [hreq] at hentry
      refine ⟨found, hfound, ?_⟩
      rw [← Except.ok.inj hentry]
      rfl

/-- The inventory of a file lists what the file declares. -/
lemma mem_fileDependencies {ds : List Dependency} {d : Dependency}
    (h : fileDependencies py path content = .ok ds) : d ∈ ds ↔ Declares py path content d := by
  rw [fileDependencies] at h
  by_cases hpackage : py.lower (pathName path) = Str.ofString "package.json"
  · rw [if_pos hpackage] at h
    cases hraw : py.jsonLoads content with
    | ok raw =>
      rw [hraw] at h
      exact mem_packageDependencies hpackage hraw h
    | error e =>
      obtain ⟨read, hread, h⟩ := bind_eq_ok.mp h
      rw [hraw, excepting] at hread
      split at hread
      · obtain rfl := Except.ok.inj hread
        obtain rfl := Except.ok.inj h
        refine iff_of_false List.not_mem_nil fun hd => ?_
        cases hd with
        | npm _ hjson => cases hraw.symm.trans hjson
        | pypi hproject => exact absurd (hpackage.symm.trans hproject) (by decide)
      · cases hread
  rw [if_neg hpackage] at h
  by_cases hproject : py.lower (pathName path) = Str.ofString "pyproject.toml"
  · rw [if_pos hproject] at h
    cases hraw : py.tomlLoads content with
    | ok raw =>
      rw [hraw] at h
      exact mem_projectDependencies hproject hraw h
    | error e =>
      obtain ⟨read, hread, h⟩ := bind_eq_ok.mp h
      rw [hraw, excepting] at hread
      split at hread
      · obtain rfl := Except.ok.inj hread
        obtain rfl := Except.ok.inj h
        refine iff_of_false List.not_mem_nil fun hd => ?_
        cases hd with
        | npm hname => exact absurd hname hpackage
        | pypi _ htoml => cases hraw.symm.trans htoml
      · cases hread
  · rw [if_neg hproject] at h
    obtain rfl := Except.ok.inj h
    refine iff_of_false List.not_mem_nil fun hd => ?_
    cases hd with
    | npm hname => exact absurd hname hpackage
    | pypi hname => exact absurd hname hproject

end Files

section Assessable

variable {py : Interpreter}
  {enrich : Option (VulnerabilityRecord → Except Raised VulnerabilityRecord)}
  {snapshot : RepositorySnapshot} {feedState : FeedState} {advisories : List VulnerabilityRecord}

/-- Every manifest reads, and every dependency that an advisory affects can be enriched and has an evidence id. -/
structure Assessable (py : Interpreter)
    (enrich : Option (VulnerabilityRecord → Except Raised VulnerabilityRecord))
    (snapshot : RepositorySnapshot) (feedState : FeedState)
    (advisories : List VulnerabilityRecord) : Prop where
  files : ∀ e ∈ snapshot.files, FileReads py e.1 e.2
  affected : ∀ e ∈ snapshot.files, ∀ d, Declares py e.1 e.2 d → ∀ advisory ∈ advisories,
    affects py advisory d = true →
      (∃ record, enriched enrich feedState advisory = .ok record) ∧
        ∀ c ∈ snapshot.snapshotId ++ e.1, c.isScalar = true

lemma dependencyInventory_isOk :
    (∃ ds, dependencyInventory py snapshot = .ok ds) ↔ ∀ e ∈ snapshot.files, FileReads py e.1 e.2 := by
  rw [dependencyInventory, map_isOk, mapM_isOk]
  simp only [Dict.mem_sortedItems, fileDependencies_isOk]

lemma mem_dependencyInventory {ds : List Dependency} {d : Dependency}
    (h : dependencyInventory py snapshot = .ok ds) :
    d ∈ ds ↔ ∃ e ∈ snapshot.files, Declares py e.1 e.2 d := by
  obtain ⟨declared, hdeclared, h⟩ := bind_eq_ok.mp h
  obtain ⟨hforth, hback⟩ := mapM_eq_ok hdeclared
  rw [← Except.ok.inj h, List.mem_flatten]
  constructor
  · rintro ⟨found, hfound, hd⟩
    obtain ⟨e, he, hread⟩ := hback found hfound
    exact ⟨e, Dict.mem_sortedItems.mp he, (mem_fileDependencies hread).mp hd⟩
  · rintro ⟨e, he, hd⟩
    obtain ⟨found, hfound, hread⟩ := hforth e (Dict.mem_sortedItems.mpr he)
    exact ⟨found, hfound, (mem_fileDependencies hread).mpr hd⟩

lemma assessPair_isOk {advisory : VulnerabilityRecord} {d : Dependency} :
    (∃ found, assessPair py enrich snapshot feedState advisory d = .ok found) ↔
      (affects py advisory d = true →
        (∃ record, enriched enrich feedState advisory = .ok record) ∧
          ∀ c ∈ snapshot.snapshotId ++ d.path, c.isScalar = true) := by
  rw [assessPair]
  by_cases haffects : affects py advisory d = true
  · rw [if_pos haffects, bind_isOk]
    simp only [map_isOk, evidenceId_isOk,
      exists_and_right, haffects, forall_const]
  · rw [if_neg haffects]
    exact ⟨fun _ h => absurd h haffects, fun _ => ⟨none, rfl⟩⟩

/-- The assessment returns exactly where the snapshot is assessable. -/
theorem assess_isOk :
    (∃ r, assess py enrich snapshot feedState advisories = .ok r) ↔
      Assessable py enrich snapshot feedState advisories := by
  rw [assess, bind_isOk]
  simp only [map_isOk, mapM_isOk, List.mem_flatMap, List.mem_map]
  constructor
  · rintro ⟨ds, hds, hpairs⟩
    refine ⟨dependencyInventory_isOk.mp ⟨ds, hds⟩, fun e he d hd advisory hadvisory haffects => ?_⟩
    have hpair := hpairs (advisory, d)
      ⟨advisory, hadvisory, d, (mem_dependencyInventory hds).mpr ⟨e, he, hd⟩, rfl⟩
    rw [← hd.path_eq]
    exact assessPair_isOk.mp hpair haffects
  · intro h
    obtain ⟨ds, hds⟩ := dependencyInventory_isOk.mpr h.files
    refine ⟨ds, hds, ?_⟩
    rintro _ ⟨advisory, hadvisory, d, hd, rfl⟩
    obtain ⟨e, he, hdeclares⟩ := (mem_dependencyInventory hds).mp hd
    refine assessPair_isOk.mpr fun haffects => ?_
    rw [hdeclares.path_eq]
    exact h.affected e he d hdeclares advisory hadvisory haffects

end Assessable

end VulnerabilityIntelligenceService

end SecScanMonitor.Application
