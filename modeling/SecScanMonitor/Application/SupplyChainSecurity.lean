import SecScanMonitor.Application.EvidenceService
import SecScanMonitor.Application.VulnerabilityIntelligence

/-! The supply-chain assessment of a snapshot (`SupplyChainSecurityService` of
`application/security_services.py`, `domain/supply_chain.py`). -/

namespace SecScanMonitor.Application

open Foundations Domain

inductive SupplyChainStage where
  | source
  | dependencyResolution
  | buildEnvironment
  | cicd
  | artifact
  | provenance
  | release
  | unknown
  deriving Repr, DecidableEq

inductive ControlStatus where
  | verified
  | failed
  | notApplicable
  | notAssessed
  | inconclusive
  deriving Repr, DecidableEq

structure SbomComponent where
  name : Str
  version : Str
  ecosystem : Str
  purl : Option Str
  hashes : List Str

structure SbomAssessment where
  present : Bool
  format : Str := []
  version : Str := []
  sourceRef : Str := []
  components : List SbomComponent := []
  completeness : ControlStatus := .notAssessed
  unknowns : List Str := []

structure ProvenanceAssessment where
  present : Bool
  sourceRef : Str := []
  builderIdentity : Str := []
  sourceRevision : Str := []
  subjects : List Str := []
  attestationType : Str := []
  status : ControlStatus := .notAssessed
  contradictions : List Str := []

structure WorkflowAssessment where
  path : Str
  actionRefs : List Str
  mutableActionRefs : List Str
  permissions : Dict Str Str
  dangerousPermissions : List Str
  pullRequestTarget : Bool
  scriptInjectionCandidates : List Str
  releasePermissions : List Str
  status : ControlStatus

structure PackageResolutionAssessment where
  manifests : List Str
  lockfiles : List Str
  missingLockfiles : List Str
  integrityHashesPresent : Option Bool
  status : ControlStatus
  unknowns : List Str

structure SupplyChainAssessment where
  stages : List (SupplyChainStage × ControlStatus)
  sbom : SbomAssessment
  provenance : ProvenanceAssessment
  workflows : List WorkflowAssessment
  packageResolution : PackageResolutionAssessment
  containers : List Str
  containerBaseRefs : List Str
  digestPinnedBases : List Str
  confidence : Confidence

namespace SupplyChainSecurityService

def serviceId : Str := "SUPPLYCHAIN"

section Documents

variable (py : Interpreter)

/-- `str(members.get(key, default))` -/
def memberText (members : List (Str × Parsed)) (key default : String) : Except Raised Str :=
  py.text (getMember members key (.str default))

/-- The digest that an entry of `hashes` gives. -/
def hashContent : Parsed → Except Raised (Option Str)
  | .dict value => do
    let content ← memberText py value "content" ""
    return if strip content = [] then none else some content
  | _ => return none

/-- `SbomComponent` takes a text or nothing as its package URL. -/
def checkedPurl : Parsed → Except Raised (Option Str)
  | .none => return none
  | .str s => return some s
  | _ => raise .validationError "purl: Input should be a valid string"

def sbomComponent (item : List (Str × Parsed)) : Except Raised SbomComponent := do
  let name ← memberText py item "name" ""
  let version ← memberText py item "version" ""
  let ecosystem ← memberText py item "group" ""
  let entries ← (getMember item "hashes" (.list [])).iterate
  let read ← entries.mapM (hashContent py)
  let purl ← checkedPurl (getMember item "purl" .none)
  return ⟨name, version, ecosystem, purl, read.filterMap id⟩

def isSbom (path : Str) : Bool :=
  let name := py.lower (pathName path)
  decide (name = Str.ofString "bom.json") || endsWith ".cdx.json" name

def readSbom (path content : Str) : Except Raised SbomAssessment := do
  match ← excepting .jsonDecodeError (py.jsonLoads content) with
  | none =>
    return {
      present := true
      format := "CycloneDX"
      sourceRef := path
      completeness := .inconclusive
      unknowns := ["SBOM JSON is not parseable"] }
  | some (.dict raw) =>
    if (getMember raw "bomFormat" .none).isText "CycloneDX" = false then do
      let format ← memberText py raw "bomFormat" "unknown"
      return { present := true, format, sourceRef := path, completeness := .inconclusive }
    else
      match getMember raw "components" (.list []) with
      | .list rawComponents => do
        let components ← (rawComponents.filterMap Parsed.members?).mapM (sbomComponent py)
        let integrityComplete := !components.isEmpty && components.all fun c => !c.hashes.isEmpty
        let version ← memberText py raw "specVersion" ""
        return {
          present := true
          format := "CycloneDX"
          version
          sourceRef := path
          components
          completeness := if integrityComplete then .verified else .inconclusive
          unknowns :=
            if integrityComplete then [] else ["SBOM components do not all carry content hashes"] }
      | _ =>
        return {
          present := true
          format := "CycloneDX"
          sourceRef := path
          completeness := .inconclusive
          unknowns := ["SBOM components are not a list"] }
  | some _ =>
    return {
      present := true
      format := "unknown"
      sourceRef := path
      completeness := .inconclusive
      unknowns := ["SBOM JSON root is not an object"] }

def sbomFile (snapshot : RepositorySnapshot) : Option (Str × Str) :=
  snapshot.files.sortedItems.find? fun e => isSbom py e.1

/-- `_parse_sbom` -/
def parseSbom (snapshot : RepositorySnapshot) : Except Raised SbomAssessment :=
  match sbomFile py snapshot with
  | some (path, content) => readSbom py path content
  | none => return { present := false }

/-- A subject has a name, and a digest of which every value has a text. -/
def subjectBound : Parsed → Except Raised Bool
  | .dict subject => do
    let name ← memberText py subject "name" ""
    if strip name = [] then return false
    match getMember subject "digest" .none with
    | .dict [] => return false
    | .dict digest => digest.allM fun m => return decide (strip (← py.text m.2) ≠ [])
    | _ => return false
  | _ => return false

def builderIdentity (predicate : List (Str × Parsed)) : Except Raised Str :=
  match getMember predicate "builder" (.dict []) with
  | .dict builder => memberText py builder "id" ""
  | _ => return []

def sourceRevision (predicate : List (Str × Parsed)) : Except Raised Str :=
  match getMember predicate "invocation" (.dict []) with
  | .dict invocation => do
    let configSource ← (getMember invocation "configSource" (.dict [])).asMapping "get"
    let digest ← (getMember configSource "digest" (.dict [])).asMapping "get"
    memberText py digest "sha1" ""
  | _ => return []

def isProvenance (path : Str) : Bool :=
  ["provenance", "attestation", "slsa"].any fun token => contains (Str.ofString token) (py.lower path)

def readProvenance (path content : Str) : Except Raised ProvenanceAssessment := do
  match ← excepting .jsonDecodeError (py.jsonLoads content) with
  | some (.dict raw) =>
    match getMember raw "subject" (.list []) with
    | .list rawSubjects => do
      let subjects ← (rawSubjects.filterMap Parsed.members?).mapM fun item => memberText py item "name" ""
      let allBound ← rawSubjects.allM (subjectBound py)
      let subjectDigestsValid := !rawSubjects.isEmpty && allBound
      let predicate := (getMember raw "predicate" (.dict [])).members?.getD []
      let builder ← builderIdentity py predicate
      let revision ← sourceRevision py predicate
      let attestationType ← memberText py raw "predicateType" ""
      return {
        present := true
        sourceRef := path
        builderIdentity := builder
        sourceRevision := revision
        subjects
        attestationType
        status :=
          if subjectDigestsValid && (getMember raw "predicateType" .none).truthy && !builder.isEmpty &&
            !revision.isEmpty then .verified else .inconclusive
        contradictions :=
          if subjectDigestsValid && !revision.isEmpty then []
          else ["provenance subjects or source revision are not cryptographically bound"] }
    | _ => return { present := true, sourceRef := path, status := .inconclusive }
  | _ => return { present := true, sourceRef := path, status := .inconclusive }

def provenanceFile (snapshot : RepositorySnapshot) : Option (Str × Str) :=
  snapshot.files.sortedItems.find? fun e => isProvenance py e.1

/-- `_parse_provenance` -/
def parseProvenance (snapshot : RepositorySnapshot) : Except Raised ProvenanceAssessment :=
  match provenanceFile py snapshot with
  | some (path, content) => readProvenance py path content
  | none => return { present := false }

end Documents

section Sources

def isHex : CodePoint → Bool :=
  isAscii fun c => c.isDigit || decide ('a' ≤ c ∧ c ≤ 'f') || decide ('A' ≤ c ∧ c ≤ 'F')

/-- `uses:\s*([^\s#]+)` -/
def readUses (_ : Option CodePoint) (s : Str) : Option (Str × ℕ) :=
  let rest := s.drop 5
  let blanks := rest.takeWhile isBlankPoint
  let ref := (rest.drop blanks.length).takeWhile fun c => !isBlankPoint c && decide (c ≠ .scalar '#')
  if startsWith "uses:" s && !ref.isEmpty then some (ref, 5 + blanks.length + ref.length) else none

/-- `[^@]+@[0-9a-fA-F]{40}`, in full -/
def isCommitPinned (ref : Str) : Bool :=
  let action := ref.takeWhile fun c => decide (c ≠ .scalar '@')
  match ref.drop action.length with
  | _ :: commit => !action.isEmpty && decide (commit.length = 40) && commit.all isHex
  | [] => false

def isMutableRef (ref : Str) : Bool := !contains "@sha256:" ref && !isCommitPinned ref

def isPermissionChar : CodePoint → Bool := isAscii fun c => c.isAlphanum || c = '_' || c = '-'

/-- `^\s{2,}([A-Za-z0-9_-]+):\s*([A-Za-z]+)\s*$` in every line. The blanks at its end may run over line ends, but
stop before one. -/
def readPermission (last : Option CodePoint) (s : Str) : Option ((Str × Str) × ℕ) :=
  let indent := s.takeWhile isBlankPoint
  let key := (s.drop indent.length).takeWhile isPermissionChar
  match s.drop (indent.length + key.length) with
  | .scalar ':' :: rest =>
    let blanks := rest.takeWhile isBlankPoint
    let value := (rest.drop blanks.length).takeWhile (isAscii Char.isAlpha)
    let behind := rest.drop (blanks.length + value.length)
    let trail := behind.takeWhile isBlankPoint
    let kept := trail.reverse.dropWhile fun c => decide (c ≠ .scalar '\n')
    let read := indent.length + key.length + 1 + blanks.length + value.length
    if last.all (· = .scalar '\n') && decide (2 ≤ indent.length) && !key.isEmpty && !value.isEmpty then
      if behind.length = trail.length then some ((key, value), read + trail.length)
      else if kept.isEmpty then none
      else some ((key, value), read + (kept.length - 1))
    else none
  | _ => none

/-- `\$\{\{\s*github\.event\.[^}]+\}\}` -/
def readScript (_ : Option CodePoint) (s : Str) : Option (Str × ℕ) :=
  let blanks := (s.drop 3).takeWhile isBlankPoint
  let event := s.drop (3 + blanks.length)
  let body := (event.drop 13).takeWhile fun c => decide (c ≠ .scalar '\x7d')
  let read := 3 + blanks.length + 13 + body.length
  if startsWith "$\x7b\x7b" s && startsWith "github.event." event && !body.isEmpty &&
      startsWith "\x7d\x7d" (s.drop read) then some (s.take (read + 2), read + 2)
  else none

def sensitivePermissions : List Str := ["contents", "packages", "id-token", "actions", "deployments"]

def permissionsOf (content : Str) : Dict Str Str :=
  (findIter readPermission 0 none content).foldl
    (fun permissions m =>
      if m.1 ∈ sensitivePermissions then permissions.put m.1 m.2 else permissions) Table.empty

variable (py : Interpreter)

def isWorkflow (path : Str) : Bool :=
  contains ".github/workflows/" ("/" ++ py.lower path ++ "/")

def workflowAssessment (path content : Str) : WorkflowAssessment :=
  let actionRefs := findIter readUses 0 none content
  let mutableRefs := actionRefs.filter isMutableRef
  let permissions := permissionsOf content
  let dangerous := permissions.rows.filterMap fun (key, value) =>
    if py.lower value = Str.ofString "write" then some (key ++ ":" ++ value) else none
  { path
    actionRefs
    mutableActionRefs := mutableRefs
    permissions
    dangerousPermissions := dangerous
    pullRequestTarget := contains "pull_request_target:" content
    scriptInjectionCandidates := findIter readScript 0 none content
    releasePermissions := dangerous.filter fun item =>
      ["packages", "contents", "id-token"].any fun x => contains (Str.ofString x) item
    status := if mutableRefs = [] ∧ dangerous = [] then .verified else .failed }

/-- `_analyze_workflows` -/
def analyzeWorkflows (snapshot : RepositorySnapshot) : List WorkflowAssessment :=
  (snapshot.files.sortedItems.filter fun e => isWorkflow py e.1).map fun e =>
    workflowAssessment py e.1 e.2

def manifestNames : List Str :=
  ["package.json", "pyproject.toml", "requirements.txt", "go.mod", "cargo.toml", "pom.xml", "gemfile"]

def lockfileNames : List Str :=
  ["package-lock.json", "pnpm-lock.yaml", "yarn.lock", "poetry.lock", "requirements.lock", "go.sum",
    "cargo.lock", "gemfile.lock"]

def lockedManifestNames : List Str := ["package.json", "pyproject.toml", "go.mod", "cargo.toml"]

/-- `"integrity"\s*:\s*"[^" ]+"` -/
def integrityEntry (s : Str) : Bool :=
  let rest := (s.drop 11).dropWhile isBlankPoint
  let quoted := (rest.drop 1).dropWhile isBlankPoint
  let value := (quoted.drop 1).takeWhile fun c => decide (c ≠ .scalar '"' ∧ c ≠ .scalar ' ')
  startsWith "\"integrity\"" s && startsWith ":" rest && startsWith "\"" quoted && !value.isEmpty &&
    startsWith "\"" (quoted.drop (1 + value.length))

/-- `lead[0-9a-fA-F]{64}` -/
def hashEntry (lead s : Str) : Bool :=
  let digits := (s.drop lead.length).take 64
  startsWith lead s && decide (digits.length = 64) && digits.all isHex

def hasIntegrityHash (content : Str) : Bool :=
  content.tails.any fun s => integrityEntry s || hashEntry "--hash=sha256:" s || hashEntry "sha256:" s

/-- `_analyze_package_resolution` -/
def analyzePackageResolution (snapshot : RepositorySnapshot) : PackageResolutionAssessment :=
  let files := snapshot.files.sortedItems
  let manifests := files.filter fun e => decide (py.lower (pathName e.1) ∈ manifestNames)
  let lockfiles := files.filter fun e => decide (py.lower (pathName e.1) ∈ lockfileNames)
  let missing :=
    (manifests.any fun e => decide (py.lower (pathName e.1) ∈ lockedManifestNames)) && lockfiles.isEmpty
  let integrity := lockfiles.any fun e => hasIntegrityHash e.2
  { manifests := manifests.map Prod.fst
    lockfiles := lockfiles.map Prod.fst
    missingLockfiles :=
      if missing then ["a supported lockfile for one or more direct manifests"] else []
    integrityHashesPresent := if lockfiles = [] then none else some integrity
    status :=
      if missing then .failed
      else if lockfiles = [] then .notAssessed
      else if integrity then .verified
      else .inconclusive
    unknowns :=
      if lockfiles ≠ [] ∧ integrity = true then [] else ["dependency lock integrity was not established"] }

/-- `str.splitlines`, of which the last line read is kept in reverse. -/
def splitLinesFrom : Str → Str → List Str
  | line, [] => if line = [] then [] else [line.reverse]
  | line, .scalar '\r' :: .scalar '\n' :: s => line.reverse :: splitLinesFrom [] s
  | line, .scalar c :: s =>
    if EvidenceService.isLineBreak c then line.reverse :: splitLinesFrom [] s else splitLinesFrom (.scalar c :: line) s
  | line, c :: s => splitLinesFrom (c :: line) s

def lowerAscii : CodePoint → CodePoint
  | .scalar c => .scalar c.toLower
  | .surrogate n => .surrogate n

/-- `\s*FROM\s+([^\s]+)` at the line's start, ignoring case -/
def readFrom (line : Str) : Option Str :=
  let rest := line.dropWhile isBlankPoint
  let blanks := (rest.drop 4).takeWhile isBlankPoint
  let ref := (rest.drop (4 + blanks.length)).takeWhile fun c => !isBlankPoint c
  if (rest.take 4).map lowerAscii = Str.ofString "from" ∧ blanks ≠ [] ∧ ref ≠ [] then some ref else none

def isDockerfile (path : Str) : Bool := startsWith "dockerfile" (py.lower (pathName path))

def baseRefs (content : Str) : List Str := (splitLinesFrom [] content).filterMap readFrom

def isDigestPinned (ref : Str) : Bool := contains "@sha256:" ref

/-- `_analyze_containers` -/
def analyzeContainers (snapshot : RepositorySnapshot) : List Str × List Str × List Str :=
  let found := (snapshot.files.sortedItems.filter fun e => isDockerfile py e.1).flatMap fun e =>
    (baseRefs e.2).map fun ref => (e.1, ref)
  (found.map Prod.fst, found.map Prod.snd, (found.map Prod.snd).filter isDigestPinned)

end Sources

section Assess

variable (py : Interpreter) (snapshot : RepositorySnapshot)

def mutableObservation (workflow : WorkflowAssessment) (evidence : Str) : ServiceObservation where
  serviceId := serviceId
  code := "MUTABLE_ACTION_REFERENCE"
  statement := "workflow " ++ workflow.path ++ " contains mutable third-party action references"
  evidenceRefs := [evidence]
  confidence := .high
  suggestedSeverity := some .medium
  standardReferences := ["SCVS 1.0", "SLSA 1.2"]

def mutableCandidate (workflow : WorkflowAssessment) (evidence : Str) : ClaimCandidate where
  serviceId := serviceId
  dedupeKey := "workflow-mutable-actions:" ++ workflow.path
  statement := "Workflow " ++ workflow.path ++
    " uses third-party actions without immutable commit or digest pins."
  evidenceRefs := [evidence]
  severity := .medium
  confidence := .high
  affectedComponent := workflow.path
  impact := "A changed upstream action could alter the build or release behavior without a source review."
  remediation :=
    "Pin third-party actions to reviewed immutable commit SHAs and maintain an update process."
  verification :=
    "Check every `uses:` reference after pinning and review the pinned commit identity."
  standardReferences := ["SCVS 1.0", "SLSA 1.2"]

def permissionsCandidate (workflow : WorkflowAssessment) (evidence : Str) : ClaimCandidate where
  serviceId := serviceId
  dedupeKey := "workflow-permissions:" ++ workflow.path
  statement := "Workflow " ++ workflow.path ++ " grants security-sensitive write permissions: " ++
    join ", " (workflow.dangerousPermissions.insertionSort (· ≤ ·)) ++ "."
  evidenceRefs := [evidence]
  severity := .high
  confidence := .high
  affectedComponent := workflow.path
  impact := "A compromised workflow step may modify repository, package, or release state."
  remediation :=
    "Set least-privilege workflow permissions and isolate release jobs behind explicit environments."
  verification :=
    "Review effective permissions in CI and execute a pull-request/fork negative control."
  standardReferences := ["SCVS 1.0", "SLSA 1.2", "NIST SSDF 1.1"]

def pullRequestCandidate (workflow : WorkflowAssessment) (evidence : Str) : ClaimCandidate where
  serviceId := serviceId
  dedupeKey := "workflow-untrusted-pr:" ++ workflow.path
  statement := "Workflow " ++ workflow.path ++
    " combines an untrusted pull-request path with a security-sensitive execution signal."
  evidenceRefs := [evidence]
  severity := .high
  confidence := .medium
  affectedComponent := workflow.path
  preconditions := ["the workflow executes attacker-controlled pull-request content"]
  impact := "A pull-request contributor may influence a privileged workflow step."
  remediation :=
    "Separate untrusted validation from privileged workflows and avoid interpolating event data in shell commands."
  verification :=
    "Run a fork/pull-request fixture and verify secrets and write permissions are unavailable."
  standardReferences := ["SCVS 1.0", "SLSA 1.2"]

def containerCandidate (path ref evidence : Str) : ClaimCandidate where
  serviceId := serviceId
  dedupeKey := "container-base:" ++ path
  statement := "Container " ++ path ++ " uses a mutable base-image reference " ++ ref ++ "."
  evidenceRefs := [evidence]
  severity := .medium
  confidence := .high
  affectedComponent := path
  impact := "A mutable base reference can resolve to different build inputs over time."
  remediation :=
    "Pin the base image to a reviewed digest and record provenance for the resulting artifact."
  verification :=
    "Rebuild from the declared digest and compare the recorded source and artifact subjects."
  standardReferences := ["SCVS 1.0", "SLSA 1.2"]

/-- What is reported where a condition holds, with the evidence id of its kind. -/
def reportedWhen {α : Type} (condition : Bool) (path : Str) (kind : String) (report : Str → α) :
    Except Raised (List α) :=
  if condition then do
    let evidence ← evidenceId py snapshot path kind
    return [report evidence]
  else return []

def workflowReport (workflow : WorkflowAssessment) :
    Except Raised (List ServiceObservation × List ClaimCandidate) := do
  let evidence ← evidenceId py snapshot workflow.path "supplychain-workflow"
  let mutableRefs := !workflow.mutableActionRefs.isEmpty
  let permissions ← reportedWhen py snapshot (!workflow.dangerousPermissions.isEmpty) workflow.path
    "supplychain-permissions" (permissionsCandidate workflow)
  let pullRequest ← reportedWhen py snapshot
    (workflow.pullRequestTarget || !workflow.scriptInjectionCandidates.isEmpty) workflow.path
    "supplychain-pr" (pullRequestCandidate workflow)
  return (if mutableRefs then [mutableObservation workflow evidence] else [],
    (if mutableRefs then [mutableCandidate workflow evidence] else []) ++ permissions ++ pullRequest)

def stagesOf (sbom : SbomAssessment) (provenance : ProvenanceAssessment)
    (workflows : List WorkflowAssessment) (resolution : PackageResolutionAssessment)
    (containers : List Str) : List (SupplyChainStage × ControlStatus) :=
  let verifiedWhen (b : Bool) : ControlStatus := if b then .verified else .notAssessed
  [(.source, verifiedWhen (!snapshot.files.rows.isEmpty)),
    (.dependencyResolution, resolution.status),
    (.buildEnvironment, .notAssessed),
    (.cicd, verifiedWhen (!workflows.isEmpty)),
    (.artifact, verifiedWhen (!containers.isEmpty || sbom.present)),
    (.provenance, provenance.status),
    (.release, verifiedWhen (snapshot.files.keys.any fun path => contains "release" (py.lower path)))]

def limitationsOf (assessment : SupplyChainAssessment) : List Str :=
  (if assessment.sbom.present = false then ["SBOM was not found; completeness is not validated"]
    else if assessment.sbom.completeness ≠ .verified then
      ["SBOM component integrity is not fully validated"]
    else []) ++
    (if assessment.provenance.present = false then
      ["build provenance was not found; SLSA status is not validated"]
    else if assessment.provenance.status ≠ .verified then
      ["build provenance is present but cryptographic binding is not validated"]
    else []) ++
    (if assessment.packageResolution.status = .inconclusive then
      ["dependency lockfiles are present but integrity hashes are not validated"]
    else [])

def assess : Except Raised (ServiceResult SupplyChainAssessment) := do
  let sbom ← parseSbom py snapshot
  let provenance ← parseProvenance py snapshot
  let workflows := analyzeWorkflows py snapshot
  let packageResolution := analyzePackageResolution py snapshot
  let (containers, containerBaseRefs, digestPinnedBases) := analyzeContainers py snapshot
  let assessment : SupplyChainAssessment :=
    { stages := stagesOf py snapshot sbom provenance workflows packageResolution containers
      sbom
      provenance
      workflows
      packageResolution
      containers
      containerBaseRefs
      digestPinnedBases
      confidence := if snapshot.files.rows.isEmpty then .unknown else .medium }
  let reports ← workflows.mapM (workflowReport py snapshot)
  let bases ← (containers.zip containerBaseRefs).mapM fun (path, ref) =>
    reportedWhen py snapshot (!isDigestPinned ref) path "container-base" (containerCandidate path ref)
  let limitations := limitationsOf assessment
  return {
    serviceId := serviceId
    status := resultStatus limitations
    observations := reports.flatMap Prod.fst
    claimCandidates := reports.flatMap Prod.snd ++ bases.flatten
    limitations
    outputs := assessment }

end Assess

section Condition

variable {py : Interpreter} {path content : Str}

/-- The digests of a component can be gone through, and its package URL is a text where it has one. -/
structure ComponentReads (item : List (Str × Parsed)) : Prop where
  hashes : ∃ entries, (getMember item "hashes" (.list [])).iterate = .ok entries
  purl : getMember item "purl" .none = .none ∨ ∃ s, getMember item "purl" .none = .str s

/-- The inventory does not parse, or the objects among its components read. -/
structure SbomReads (py : Interpreter) (content : Str) : Prop where
  parses : ∀ e, py.jsonLoads content = .error e → e.kind = .jsonDecodeError
  components : ∀ raw items, py.jsonLoads content = .ok (.dict raw) →
    (getMember raw "bomFormat" .none).isText "CycloneDX" = true →
    getMember raw "components" (.list []) = .list items →
    ∀ item, Parsed.dict item ∈ items → ComponentReads item

/-- Where there is an invocation, its source and the digest of it are objects. -/
def RevisionReads (predicate : List (Str × Parsed)) : Prop :=
  ∀ invocation, getMember predicate "invocation" (.dict []) = .dict invocation →
    ∃ configSource digest, getMember invocation "configSource" (.dict []) = .dict configSource ∧
      getMember configSource "digest" (.dict []) = .dict digest

/-- The attestation does not parse, or its predicate reads where it lists subjects. -/
structure ProvenanceReads (py : Interpreter) (content : Str) : Prop where
  parses : ∀ e, py.jsonLoads content = .error e → e.kind = .jsonDecodeError
  revision : ∀ raw subjects predicate, py.jsonLoads content = .ok (.dict raw) →
    getMember raw "subject" (.list []) = .list subjects →
    getMember raw "predicate" (.dict []) = .dict predicate → RevisionReads predicate

lemma mem_members {items : List Parsed} {item : List (Str × Parsed)} :
    item ∈ items.filterMap Parsed.members? ↔ Parsed.dict item ∈ items := by
  rw [List.mem_filterMap]
  constructor
  · rintro ⟨v, hv, hitem⟩
    cases v with
    | dict members =>
      obtain rfl := Option.some.inj hitem
      exact hv
    | none | bool _ | int _ | float _ | str _ | temporal _ _ | list _ => cases hitem
  · exact fun h => ⟨_, h, rfl⟩

lemma memberText_isOk {members : List (Str × Parsed)} (h : (Parsed.dict members).printable = true)
    (key default : String) : ∃ s, memberText py members key default = .ok s :=
  text_isOk.mpr (Parsed.printable_getMember h (Parsed.printable_str default))

lemma hashContent_isOk {v : Parsed} (h : v.printable = true) : ∃ c, hashContent py v = .ok c := by
  cases v with
  | dict members => exact map_isOk.mpr (memberText_isOk h _ _)
  | none | bool _ | int _ | float _ | str _ | temporal _ _ | list _ => exact ⟨none, rfl⟩

lemma checkedPurl_isOk {v : Parsed} :
    (∃ purl, checkedPurl v = .ok purl) ↔ v = .none ∨ ∃ s, v = .str s := by
  cases v with
  | none => exact ⟨fun _ => Or.inl rfl, fun _ => ⟨none, rfl⟩⟩
  | str s => exact ⟨fun _ => Or.inr ⟨s, rfl⟩, fun _ => ⟨some s, rfl⟩⟩
  | bool _ | int _ | float _ | temporal _ _ | list _ | dict _ =>
    refine ⟨nofun, ?_⟩
    rintro (h | ⟨s, h⟩)
    · cases h
    · cases h

lemma sbomComponent_isOk {item : List (Str × Parsed)} (h : (Parsed.dict item).printable = true) :
    (∃ c, sbomComponent py item = .ok c) ↔ ComponentReads item := by
  have hhashes := @Parsed.printable_getMember item "hashes" (.list []) h (by rw [Parsed.printable]; rfl)
  rw [sbomComponent]
  simp only [bind_isOk]
  constructor
  · rintro ⟨name, -, version, -, ecosystem, -, entries, hentries, read, -, purl, hpurl, -⟩
    exact ⟨⟨entries, hentries⟩, checkedPurl_isOk.mp ⟨purl, hpurl⟩⟩
  · rintro ⟨⟨entries, hentries⟩, hpurl⟩
    obtain ⟨name, hname⟩ := @memberText_isOk py item h "name" ""
    obtain ⟨version, hversion⟩ := @memberText_isOk py item h "version" ""
    obtain ⟨ecosystem, hecosystem⟩ := @memberText_isOk py item h "group" ""
    obtain ⟨purl, hpurl⟩ := checkedPurl_isOk.mpr hpurl
    have hread : ∃ read, entries.mapM (hashContent py) = .ok read :=
      mapM_isOk.mpr fun v hv => hashContent_isOk (Parsed.printable_iterate hhashes hentries hv)
    obtain ⟨read, hread⟩ := hread
    exact ⟨name, hname, version, hversion, ecosystem, hecosystem, entries, hentries, read, hread, purl,
      hpurl, _, rfl⟩

lemma sbomComponents_isOk {items : List Parsed} (h : (Parsed.list items).printable = true) :
    (∃ cs, (items.filterMap Parsed.members?).mapM (sbomComponent py) = .ok cs) ↔
      ∀ item, Parsed.dict item ∈ items → ComponentReads item := by
  rw [mapM_isOk]
  simp only [mem_members]
  refine forall₂_congr fun item hitem => ?_
  exact sbomComponent_isOk (Parsed.printable_item h hitem)

lemma readSbom_isOk : (∃ r, readSbom py path content = .ok r) ↔ SbomReads py content := by
  rw [readSbom, excepting_bind_isOk]
  constructor
  · rintro ⟨hreads, hraises⟩
    refine ⟨fun e he => (hraises e he).1, fun raw items hraw hformat hitems => ?_⟩
    have hprintable := py.json_printable content _ hraw
    have hlist := @Parsed.printable_getMember raw "components" (.list []) hprintable
      (by rw [Parsed.printable]; rfl)
    rw [hitems] at hlist
    obtain ⟨r, hr⟩ := hreads _ hraw
    simp only [hformat, Bool.true_eq_false, if_false, hitems] at hr
    obtain ⟨components, hcomponents, -⟩ := bind_eq_ok.mp hr
    exact (sbomComponents_isOk hlist).mp ⟨components, hcomponents⟩
  · intro h
    refine ⟨fun raw hraw => ?_, fun e he => ⟨h.parses e he, _, rfl⟩⟩
    have hprintable := py.json_printable content _ hraw
    cases raw with
    | dict raw =>
      by_cases hformat : (getMember raw "bomFormat" .none).isText "CycloneDX" = false
      · simp only [hformat, if_true]
        exact map_isOk.mpr (memberText_isOk hprintable _ _)
      have hlist := @Parsed.printable_getMember raw "components" (.list []) hprintable
        (by rw [Parsed.printable]; rfl)
      simp only [hformat]
      cases hitems : getMember raw "components" (.list []) with
      | list items =>
        rw [hitems] at hlist
        obtain ⟨components, hcomponents⟩ := (sbomComponents_isOk hlist).mpr
          (h.components raw items hraw (eq_true_of_ne_false hformat) hitems)
        exact bind_isOk.mpr ⟨components, hcomponents, map_isOk.mpr (memberText_isOk hprintable _ _)⟩
      | none | bool _ | int _ | float _ | str _ | temporal _ _ | dict _ => exact ⟨_, rfl⟩
    | none | bool _ | int _ | float _ | str _ | temporal _ _ | list _ => exact ⟨_, rfl⟩

lemma allM_isOk {α : Type} {p : α → Except Raised Bool} {l : List α}
    (h : ∀ a ∈ l, ∃ b, p a = .ok b) : ∃ b, l.allM p = .ok b := by
  induction l with
  | nil => exact ⟨true, rfl⟩
  | cons a l ih =>
    obtain ⟨ha, hl⟩ := List.forall_mem_cons.mp h
    obtain ⟨b, hb⟩ := ha
    refine bind_isOk.mpr ⟨b, hb, ?_⟩
    cases b with
    | true => exact ih hl
    | false => exact ⟨false, rfl⟩

lemma subjectBound_isOk {v : Parsed} (h : v.printable = true) : ∃ b, subjectBound py v = .ok b := by
  cases v with
  | dict subject =>
    obtain ⟨name, hname⟩ := @memberText_isOk py subject h "name" ""
    refine bind_isOk.mpr ⟨name, hname, ?_⟩
    by_cases hblank : strip name = []
    · rw [if_pos hblank]
      exact ⟨false, rfl⟩
    rw [if_neg hblank]
    have hdigest := @Parsed.printable_getMember subject "digest" .none h Parsed.printable_none
    cases hv : getMember subject "digest" .none with
    | dict digest =>
      rw [hv] at hdigest
      cases digest with
      | nil => exact ⟨false, rfl⟩
      | cons m digest =>
        exact allM_isOk fun m hm => map_isOk.mpr (text_isOk.mpr (Parsed.printable_member hdigest hm))
    | none | bool _ | int _ | float _ | str _ | temporal _ _ | list _ => exact ⟨false, rfl⟩
  | none | bool _ | int _ | float _ | str _ | temporal _ _ | list _ => exact ⟨false, rfl⟩

lemma printable_nothing : (Parsed.dict []).printable = true := by
  rw [Parsed.printable]
  rfl

lemma builderIdentity_isOk {predicate : List (Str × Parsed)}
    (h : (Parsed.dict predicate).printable = true) : ∃ s, builderIdentity py predicate = .ok s := by
  have hbuilder := @Parsed.printable_getMember predicate "builder" (.dict []) h printable_nothing
  rw [builderIdentity]
  cases hv : getMember predicate "builder" (.dict []) with
  | dict builder =>
    rw [hv] at hbuilder
    exact memberText_isOk hbuilder _ _
  | none | bool _ | int _ | float _ | str _ | temporal _ _ | list _ => exact ⟨[], rfl⟩

lemma sourceRevision_isOk {predicate : List (Str × Parsed)}
    (h : (Parsed.dict predicate).printable = true) :
    (∃ s, sourceRevision py predicate = .ok s) ↔ RevisionReads predicate := by
  have hinvocation := @Parsed.printable_getMember predicate "invocation" (.dict []) h printable_nothing
  rw [sourceRevision, RevisionReads]
  cases hv : getMember predicate "invocation" (.dict []) with
  | dict invocation =>
    rw [hv] at hinvocation
    simp only [Parsed.asMapping_bind_isOk, Parsed.dict.injEq, forall_eq']
    constructor
    · rintro ⟨configSource, hconfig, digest, hdigest, -⟩
      exact ⟨configSource, digest, hconfig, hdigest⟩
    · rintro ⟨configSource, digest, hconfig, hdigest⟩
      have hprintable := @Parsed.printable_getMember invocation "configSource" (.dict []) hinvocation
        printable_nothing
      rw [hconfig] at hprintable
      have hprintable := @Parsed.printable_getMember configSource "digest" (.dict []) hprintable
        printable_nothing
      rw [hdigest] at hprintable
      exact ⟨configSource, hconfig, digest, hdigest, memberText_isOk hprintable _ _⟩
  | none | bool _ | int _ | float _ | str _ | temporal _ _ | list _ =>
    exact ⟨fun _ => nofun, fun _ => ⟨[], rfl⟩⟩

lemma printable_predicate {raw : List (Str × Parsed)} (h : (Parsed.dict raw).printable = true) :
    (Parsed.dict ((getMember raw "predicate" (.dict [])).members?.getD [])).printable = true := by
  have hpredicate := @Parsed.printable_getMember raw "predicate" (.dict []) h printable_nothing
  cases hv : getMember raw "predicate" (.dict []) with
  | dict predicate =>
    rw [hv] at hpredicate
    exact hpredicate
  | none | bool _ | int _ | float _ | str _ | temporal _ _ | list _ => exact printable_nothing

/-- A predicate that is no object counts as one without members. -/
lemma predicate_reads {raw : List (Str × Parsed)} :
    RevisionReads ((getMember raw "predicate" (.dict [])).members?.getD []) ↔
      ∀ predicate, getMember raw "predicate" (.dict []) = .dict predicate → RevisionReads predicate := by
  cases hv : getMember raw "predicate" (.dict []) with
  | dict predicate => simp only [Parsed.members?, Option.getD_some, Parsed.dict.injEq, forall_eq']
  | none | bool _ | int _ | float _ | str _ | temporal _ _ | list _ =>
    refine ⟨fun _ => nofun, fun _ invocation hinvocation => ?_⟩
    obtain rfl := Parsed.dict.inj hinvocation
    exact ⟨[], [], rfl, rfl⟩

lemma readProvenance_isOk :
    (∃ r, readProvenance py path content = .ok r) ↔ ProvenanceReads py content := by
  rw [readProvenance, excepting_bind_isOk]
  constructor
  · rintro ⟨hreads, hraises⟩
    refine ⟨fun e he => (hraises e he).1, fun raw listed predicate hraw hlisted hpredicate => ?_⟩
    have hprintable := @Parsed.printable_getMember raw "predicate" (.dict [])
      (py.json_printable content _ hraw) printable_nothing
    obtain ⟨r, hr⟩ := hreads _ hraw
    simp only [hlisted, hpredicate, Parsed.members?, Option.getD_some] at hr
    obtain ⟨subjects, -, hr⟩ := bind_eq_ok.mp hr
    obtain ⟨allBound, -, hr⟩ := bind_eq_ok.mp hr
    obtain ⟨builder, -, hr⟩ := bind_eq_ok.mp hr
    obtain ⟨revision, hrevision, -⟩ := bind_eq_ok.mp hr
    rw [hpredicate] at hprintable
    exact (sourceRevision_isOk hprintable).mp ⟨revision, hrevision⟩
  · intro h
    refine ⟨fun raw hraw => ?_, fun e he => ⟨h.parses e he, _, rfl⟩⟩
    have hprintable := py.json_printable content _ hraw
    cases raw with
    | dict raw =>
      have hlist := @Parsed.printable_getMember raw "subject" (.list []) hprintable
        (by rw [Parsed.printable]; rfl)
      simp only
      cases hlisted : getMember raw "subject" (.list []) with
      | list listed =>
        rw [hlisted] at hlist
        have hpredicate := printable_predicate hprintable
        have hsubjects : ∃ subjects, (listed.filterMap Parsed.members?).mapM
            (fun item => memberText py item "name" "") = .ok subjects :=
          mapM_isOk.mpr fun item hitem =>
            memberText_isOk (Parsed.printable_item hlist (mem_members.mp hitem)) _ _
        obtain ⟨subjects, hsubjects⟩ := hsubjects
        obtain ⟨allBound, hbound⟩ := allM_isOk fun v hv =>
          @subjectBound_isOk py _ (Parsed.printable_item hlist hv)
        obtain ⟨builder, hbuilder⟩ := @builderIdentity_isOk py _ hpredicate
        obtain ⟨revision, hrevision⟩ := (@sourceRevision_isOk py _ hpredicate).mpr
          (predicate_reads.mpr fun predicate => h.revision raw listed predicate hraw hlisted)
        refine bind_isOk.mpr ⟨subjects, hsubjects, bind_isOk.mpr ⟨allBound, hbound, ?_⟩⟩
        refine bind_isOk.mpr ⟨builder, hbuilder, bind_isOk.mpr ⟨revision, hrevision, ?_⟩⟩
        exact map_isOk.mpr (memberText_isOk hprintable _ _)
      | none | bool _ | int _ | float _ | str _ | temporal _ _ | dict _ => exact ⟨_, rfl⟩
    | none | bool _ | int _ | float _ | str _ | temporal _ _ | list _ => exact ⟨_, rfl⟩

end Condition

section Assessable

variable {py : Interpreter} {snapshot : RepositorySnapshot}

/-- The first inventory and the first attestation read, and the files that are reported have an evidence id. -/
structure Assessable (py : Interpreter) (snapshot : RepositorySnapshot) : Prop where
  sbom : ∀ e, sbomFile py snapshot = some e → SbomReads py e.2
  provenance : ∀ e, provenanceFile py snapshot = some e → ProvenanceReads py e.2
  workflows : ∀ e ∈ snapshot.files, isWorkflow py e.1 = true →
    ∀ c ∈ snapshot.snapshotId ++ e.1, c.isScalar = true
  containers : ∀ e ∈ snapshot.files, isDockerfile py e.1 = true →
    ∀ ref ∈ baseRefs e.2, isDigestPinned ref = false →
      ∀ c ∈ snapshot.snapshotId ++ e.1, c.isScalar = true

lemma parseSbom_isOk :
    (∃ r, parseSbom py snapshot = .ok r) ↔ ∀ e, sbomFile py snapshot = some e → SbomReads py e.2 := by
  rw [parseSbom]
  cases hfile : sbomFile py snapshot with
  | none => exact ⟨fun _ => nofun, fun _ => ⟨_, rfl⟩⟩
  | some e => simp only [readSbom_isOk, Option.some.injEq, forall_eq']

lemma parseProvenance_isOk :
    (∃ r, parseProvenance py snapshot = .ok r) ↔
      ∀ e, provenanceFile py snapshot = some e → ProvenanceReads py e.2 := by
  rw [parseProvenance]
  cases hfile : provenanceFile py snapshot with
  | none => exact ⟨fun _ => nofun, fun _ => ⟨_, rfl⟩⟩
  | some e => simp only [readProvenance_isOk, Option.some.injEq, forall_eq']

lemma reportedWhen_isOk {α : Type} {condition : Bool} {path : Str} {kind : String} {report : Str → α} :
    (∃ r, reportedWhen py snapshot condition path kind report = .ok r) ↔
      (condition = true → ∀ c ∈ snapshot.snapshotId ++ path, c.isScalar = true) := by
  rw [reportedWhen]
  cases condition with
  | true => simp only [if_true, map_isOk, evidenceId_isOk, forall_const]
  | false => exact ⟨fun _ => nofun, fun _ => ⟨[], rfl⟩⟩

lemma workflowReport_isOk {workflow : WorkflowAssessment} :
    (∃ r, workflowReport py snapshot workflow = .ok r) ↔
      ∀ c ∈ snapshot.snapshotId ++ workflow.path, c.isScalar = true := by
  rw [workflowReport, bind_isOk]
  constructor
  · rintro ⟨evidence, h, -⟩
    exact evidenceId_isOk.mp ⟨evidence, h⟩
  · intro h
    obtain ⟨evidence, hevidence⟩ := evidenceId_isOk.mpr h
    refine ⟨evidence, hevidence, ?_⟩
    simp only [bind_isOk]
    obtain ⟨permissions, hpermissions⟩ := reportedWhen_isOk.mpr fun _ => h
    obtain ⟨pullRequest, hpullRequest⟩ := reportedWhen_isOk.mpr fun _ => h
    exact ⟨permissions, hpermissions, pullRequest, hpullRequest, _, rfl⟩

lemma mem_analyzeContainers {path ref : Str} :
    (path, ref) ∈ (analyzeContainers py snapshot).1.zip (analyzeContainers py snapshot).2.1 ↔
      ∃ content, (path, content) ∈ snapshot.files ∧ isDockerfile py path = true ∧
        ref ∈ baseRefs content := by
  rw [analyzeContainers, ← List.zip_of_prod rfl rfl]
  simp only [List.mem_flatMap, List.mem_filter, Dict.mem_sortedItems, List.mem_map, Prod.mk.injEq]
  constructor
  · rintro ⟨⟨path', content⟩, ⟨he, hname⟩, ref', href, rfl, rfl⟩
    exact ⟨content, he, hname, href⟩
  · rintro ⟨content, he, hname, href⟩
    exact ⟨(path, content), ⟨he, hname⟩, ref, href, rfl, rfl⟩

/-- The assessment returns exactly where the snapshot is assessable. -/
theorem assess_isOk : (∃ r, assess py snapshot = .ok r) ↔ Assessable py snapshot := by
  have hworkflows : (∃ rs, (analyzeWorkflows py snapshot).mapM (workflowReport py snapshot) = .ok rs) ↔
      ∀ e ∈ snapshot.files, isWorkflow py e.1 = true →
        ∀ c ∈ snapshot.snapshotId ++ e.1, c.isScalar = true := by
    simp only [mapM_isOk, analyzeWorkflows, List.forall_mem_map, List.mem_filter, workflowReport_isOk,
      Dict.mem_sortedItems, workflowAssessment, and_imp]
  rw [assess]
  simp only [bind_isOk]
  constructor
  · rintro ⟨sbom, hsbom, provenance, hprovenance, reports, hreports, bases, hbases, -⟩
    refine ⟨parseSbom_isOk.mp ⟨sbom, hsbom⟩, parseProvenance_isOk.mp ⟨provenance, hprovenance⟩,
      hworkflows.mp ⟨reports, hreports⟩, fun e he hname ref href hpinned => ?_⟩
    have hbase := mapM_isOk.mp ⟨bases, hbases⟩ (e.1, ref)
      (mem_analyzeContainers.mpr ⟨e.2, he, hname, href⟩)
    exact reportedWhen_isOk.mp hbase (by rw [hpinned]; rfl)
  · intro h
    obtain ⟨sbom, hsbom⟩ := parseSbom_isOk.mpr h.sbom
    obtain ⟨provenance, hprovenance⟩ := parseProvenance_isOk.mpr h.provenance
    obtain ⟨reports, hreports⟩ := hworkflows.mpr h.workflows
    refine ⟨sbom, hsbom, provenance, hprovenance, reports, hreports, ?_⟩
    have hbases : ∀ p ∈ (analyzeContainers py snapshot).1.zip (analyzeContainers py snapshot).2.1,
        ∃ b, reportedWhen py snapshot (!isDigestPinned p.2) p.1 "container-base"
          (containerCandidate p.1 p.2) = .ok b := by
      rintro ⟨path, ref⟩ hp
      obtain ⟨content, he, hname, href⟩ := mem_analyzeContainers.mp hp
      refine reportedWhen_isOk.mpr fun hpinned => ?_
      exact h.containers (path, content) he hname ref href (by simpa using hpinned)
    obtain ⟨bases, hbases⟩ := mapM_isOk.mpr hbases
    exact ⟨bases, hbases, _, rfl⟩

end Assessable

end SupplyChainSecurityService

/-- Each service answers exactly on the snapshots that it can assess. -/
theorem hostile_repositories_assessed (py : Interpreter)
    (enrich : Option (VulnerabilityRecord → Except Raised VulnerabilityRecord))
    (snapshot : RepositorySnapshot) (feedState : FeedState) (advisories : List VulnerabilityRecord) :
    ((∃ r, VulnerabilityIntelligenceService.assess py enrich snapshot feedState advisories = .ok r) ↔
      VulnerabilityIntelligenceService.Assessable py enrich snapshot feedState advisories) ∧
    ((∃ r, SupplyChainSecurityService.assess py snapshot = .ok r) ↔
      SupplyChainSecurityService.Assessable py snapshot) :=
  ⟨VulnerabilityIntelligenceService.assess_isOk, SupplyChainSecurityService.assess_isOk⟩

section Documents

def emptyArray : Str := "[]"

def nullHashes : Str := "\x7b\"bomFormat\":\"CycloneDX\",\"components\":[\x7b\"hashes\":null\x7d]\x7d"

/-- The interpreter on the documents below. -/
def documentInterpreter : Interpreter where
  jsonLoads content :=
    if content = emptyArray then .ok (.list [])
    else if content = nullHashes then
      .ok (.dict [("bomFormat", .str "CycloneDX"), ("components", .list [.dict [("hashes", .none)]])])
    else raise .jsonDecodeError "Expecting value: line 1 column 1 (char 0)"
  tomlLoads _ := raise .tomlDecodeError "Invalid statement"
  render _ := []
  renderFixed _ := []
  lower s := s.map SupplyChainSecurityService.lowerAscii
  upper s := s
  sha256 _ := []
  json_printable := by
    intro content v h
    split at h
    · obtain rfl := Except.ok.inj h
      rw [Parsed.printable]
      rfl
    split at h
    · obtain rfl := Except.ok.inj h
      simp [Parsed.printable, Parsed.printableMembers, Parsed.printableItems]
    · cases h

def documentSnapshot (path content : Str) : RepositorySnapshot where
  targetId := "TGT-1"
  snapshotId := "SNAP-1"
  targetIdentity := "git:target"
  files := Dict.put Table.empty path content
  sourceIdentity := "git:target"

theorem documents_crash :
    VulnerabilityIntelligenceService.assess documentInterpreter none
        (documentSnapshot "package.json" emptyArray) .notRun [] =
      raise .attributeError "'list' object has no attribute 'get'" ∧
    SupplyChainSecurityService.assess documentInterpreter (documentSnapshot "bom.json" nullHashes) =
      raise .typeError "'NoneType' object is not iterable" := by
  constructor
  · rfl
  · rfl

end Documents

end SecScanMonitor.Application
