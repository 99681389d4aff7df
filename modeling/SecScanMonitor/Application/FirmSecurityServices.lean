import SecScanMonitor.Adjudication.AdjudicationService
import SecScanMonitor.Application.EvidenceService
import SecScanMonitor.Application.SecurityServices
import SecScanMonitor.Domain.Planning
import SecScanMonitor.Foundations.Agreement

/-! One firm assessment of a snapshot: its service runs, its report, and the rows it is read back from
(`FirmSecurityServices` of `application/security_services.py`, `FirmAssessmentReport` of
`reports/firm_assessment.py`, `PostgresSecurityServiceRepository` of `persistence/repositories.py`). -/

namespace SecScanMonitor.Application.Firm

open Foundations Domain

/-- A snapshot whose ids are texts that a record can hold. -/
structure InspectionSnapshot where
  targetId : String
  snapshotId : String
  targetIdentity : String
  files : Dict Str Str
  sourceIdentity : String

structure ClaimCandidate where
  serviceId : String
  dedupeKey : String
  statement : String
  evidenceRefs : List String
  severity : Severity
  confidence : Confidence
  affectedComponent : String
  preconditions : List String
  impact : String
  remediation : String
  verification : String
  standardReferences : List String
  contradictingEvidenceRefs : List String
  deriving DecidableEq

structure ServiceResult where
  serviceId : String
  status : ServiceRunStatus
  claimCandidates : List ClaimCandidate
  limitations : List String
  outputs : List (String × Value)
  deriving DecidableEq

structure Observation where
  observationId : String
  engagementId : String
  evidenceIds : List String
  kind : String
  statement : String
  recordedByAgentId : String
  recordedAt : Datetime
  deriving DecidableEq

structure Finding extends Domain.Finding where
  impact : String
  contributingServices : List String
  dedupeKey : String
  affectedComponent : String
  preconditions : List String
  standardReferences : List String
  deriving DecidableEq

/-- An advisory as its JSON document, with the documents of its provenance. -/
structure Advisory where
  record : Value
  provenance : List Value
  deriving DecidableEq

structure ServiceRun where
  runId : String
  clientId : String
  engagementId : String
  targetId : String
  snapshotId : String
  serviceId : String
  serviceVersion : String
  specialistId : String
  assessmentPlanId : String
  authorityLevel : AuthorityLevel := .inspectionOnly
  capabilities : List String
  evidenceIds : List String := []
  claimIds : List String := []
  status : ServiceRunStatus := .planned
  qualificationVersion : String := "AQS-V1"
  startedAt : Option Datetime := none
  finishedAt : Option Datetime := none
  limitations : List String := []
  deriving DecidableEq

namespace ServiceRun

def bindContract (run : ServiceRun) (contract : SecurityServiceContract) : Except Raised ServiceRun := do
  raiseIf (run.serviceId ≠ contract.serviceId ∨ run.serviceVersion ≠ contract.version)
    .serviceContractError "service run does not match the canonical service contract"
  raiseIf (run.authorityLevel ≠ .inspectionOnly) .serviceContractError
    "Release 0.1 service runs are inspection-only"
  return { run with capabilities := sortedSet run.capabilities }

def assertEngagementScope (run : ServiceRun) (engagement : FirmEngagement) : Except Raised Unit := do
  raiseIf (run.engagementId ≠ engagement.engagementId) .serviceContractError
    "service run crosses engagement scope"
  raiseIf (run.clientId ≠ engagement.clientId) .serviceContractError
    "service run crosses client scope"
  raiseIf (run.targetId ∉ engagement.targetIds) .serviceContractError
    "service run target is outside engagement scope"

/-- `start`, of a run that is planned. -/
def start (run : ServiceRun) (now : Datetime) : ServiceRun :=
  { run with status := .running, startedAt := some (run.startedAt.getD now) }

/-- `finish`, with a status that a result can have at its end. -/
def finish (run : ServiceRun) (status : ServiceRunStatus) (now : Datetime) : ServiceRun :=
  { run with status, finishedAt := some now }

end ServiceRun

def isSlugChar (c : Char) : Bool := c.isAlphanum || c = '_' || c = '.' || c = '-'

/-- Every run of other characters becomes one dash; `inRun` says that the dash is written. -/
def dashed : Bool → List Char → List Char
  | _, [] => []
  | inRun, c :: s =>
    if isSlugChar c then c :: dashed false s
    else if inRun then dashed true s else '-' :: dashed true s

/-- `_safe_slug`; `sha256` is the digest in hexadecimal. -/
def safeSlug (sha256 : String → String) (value : String) : String :=
  let isDash : Char → Bool := fun c => c = '-'
  let normalized := ((dashed false value.toList).dropWhile isDash).reverse.dropWhile isDash |>.reverse
  let bounded :=
    if 56 < normalized.length then
      normalized.take 45 ++ '-' :: (sha256 value).toList.take 10
    else normalized
  if bounded = [] then "root" else String.ofList bounded

def runIdOf (sha256 : String → String) (engagementId snapshotId serviceId : String) : String :=
  "SR-" ++ safeSlug sha256 (engagementId ++ "-" ++ snapshotId ++ "-" ++ serviceId)

structure CapabilityExecution where
  capabilityId : String
  serviceRunId : String
  outcome : ServiceRunStatus
  opaDecisionRef : String
  sandboxExecutionRef : String
  deriving DecidableEq

structure CanonicalContext where
  authorityId : String
  authorityLevel : AuthorityLevel
  clientId : String
  engagementId : String
  targetId : String
  snapshotId : String
  capabilityExecutions : List CapabilityExecution
  opaDecisionRefs : List String
  sandboxExecutionRefs : List String
  externalIntelligenceProvenance : List Value
  deriving DecidableEq

/-- What is adjudicated of the results of the services. -/
structure Adjudicated where
  findings : List Finding
  claims : List Claim
  evidence : List EvidenceService.EvidenceObject
  observations : List Observation
  adjudications : List Adjudication
  deriving DecidableEq

structure FirmAssessment where
  engagement : FirmEngagement
  profile : TargetSecurityProfile
  plan : AssessmentPlan
  serviceContracts : List SecurityServiceContract
  serviceRuns : List ServiceRun
  results : List ServiceResult
  observations : List Observation
  claims : List Claim
  adjudications : List Adjudication
  findings : List Finding
  evidence : List EvidenceService.EvidenceObject
  externalIntelligence : List Advisory
  report : Value
  qualificationContext : CanonicalContext
  deriving DecidableEq

section Report

structure AssessmentFinding where
  findingId : String
  severity : Severity
  title : String
  contributingServices : List String
  affectedComponent : String
  evidenceIds : List String
  standardReferences : List String
  impact : String
  remediation : String
  verification : String
  deriving DecidableEq

structure ProfileSummary where
  targetClass : String
  snapshotId : String
  languages : List String
  frameworks : List String
  packageEcosystems : List String
  agenticSurface : Bool
  unknowns : List String
  contradictions : List String
  deriving DecidableEq

structure FirmAssessmentReport where
  engagementId : String
  targetId : String
  scope : String
  servicesPerformed : List String
  profileSummary : ProfileSummary
  findings : List AssessmentFinding
  vulnerabilityPriorities : Value
  agentSecuritySummary : Value
  supplyChainSummary : Value
  limitations : List String
  evidenceCount : ℕ
  qualification : List (String × String)
  generatedAt : Datetime
  deriving DecidableEq

def timestamps : List String := ["created_at", "updated_at"]

/-- `_canonical_output` and `_without_runtime_timestamps` -/
def withoutTimestamps (v : Value) : Value := v.without timestamps

/-- The output under the key of the service's result, if the service was run. -/
def outputOf (results : List ServiceResult) (serviceId key : String) (default : Value) : Value :=
  match results.find? fun r => decide (r.serviceId = serviceId) with
  | some r => (r.outputs.lookup key).getD default
  | none => default

def AssessmentFinding.of (f : Finding) : AssessmentFinding where
  findingId := f.findingId
  severity := f.severity
  title := f.title
  contributingServices := f.contributingServices
  affectedComponent := f.affectedComponent
  evidenceIds := f.supportingEvidenceIds
  standardReferences := f.standardReferences
  impact := f.impact
  remediation := f.remediationGuidance
  verification := f.verificationStep

variable (render : Value → String)

def factTexts (facts : List ProfileFact) : List String := sortedSet (facts.map fun f => render f.value)

/-- `FirmAssessmentReport.from_canonical` -/
def fromCanonical (engagement : FirmEngagement) (profile : TargetSecurityProfile)
    (plan : AssessmentPlan) (results : List ServiceResult) (findings : List Finding)
    (evidenceCount : ℕ) : FirmAssessmentReport where
  engagementId := engagement.engagementId
  targetId := profile.targetId
  scope := engagement.scope
  servicesPerformed := results.map (·.serviceId)
  profileSummary :=
    { targetClass := profile.targetClass
      snapshotId := profile.snapshotId
      languages := factTexts render profile.languages
      frameworks := factTexts render profile.frameworks
      packageEcosystems := factTexts render profile.packageEcosystems
      agenticSurface := profile.hasAgenticSurface
      unknowns := profile.unknowns
      contradictions := profile.contradictions }
  findings := findings.map AssessmentFinding.of
  vulnerabilityPriorities := outputOf results "VULNINTEL" "priority_decisions" (.arr [])
  agentSecuritySummary :=
    withoutTimestamps (outputOf results "AGENTSEC" "agent_system_security_profile" .null)
  supplyChainSummary := withoutTimestamps (outputOf results "SUPPLYCHAIN" "assessment" .null)
  limitations := sortedSet (results.flatMap (·.limitations) ++ plan.knownLimitations)
  evidenceCount
  qualification := plan.selectedServices.map fun id => (id, "NOT_VALIDATED")
  generatedAt := engagement.createdAt

end Report

/-- What is outside of the modelled code: the digest, the texts of JSON values, and the documents that pydantic
writes of its records and reads back. -/
structure Documents where
  sha256 : String → String
  render : Value → String
  /-- `json.dumps(value, sort_keys=True, separators=(",", ":"))` -/
  compact : Value → String
  dump : FirmAssessment → Except Raised (List (String × Value))
  validate : List (String × Value) → Except Raised FirmAssessment
  dumpReport : FirmAssessmentReport → Except Raised Value
  validateReport : Value → Except Raised FirmAssessmentReport
  validate_dump : ∀ a chain, dump a = .ok chain → validate chain = .ok a
  validate_dumpReport : ∀ r report, dumpReport r = .ok report → validateReport report = .ok r

/-- The services, and what they find in a snapshot. -/
structure FirmSecurityServices where
  registry : SecurityServiceRegistry
  map : (ℕ → Datetime) → InspectionSnapshot → Except Raised TargetSecurityProfile
  assess : String → InspectionSnapshot → TargetSecurityProfile → List Advisory →
    Except Raised ServiceResult
  adjudicate : (ℕ → Datetime) → List ServiceResult → String → String → String → Except Raised Adjudicated
  assess_serviceId : ∀ id snapshot profile advisories r,
    assess id snapshot profile advisories = .ok r → r.serviceId = id

structure ServiceRunPayload where
  status : ServiceRunStatus
  limitations : List String
  outputs : List (String × Value)
  assessmentChain : Option (List (String × Value))
  reportSha256 : Option String

structure SecurityServiceRunRow where
  run : ServiceRun
  payload : ServiceRunPayload

/-- The tables of `PostgresSecurityServiceRepository`. -/
structure AssessmentStore where
  profiles : Table fun r : String × String × TargetSecurityProfile => r.1
  plans : Table fun r : AssessmentPlan × String × String => r.1.planId
  runs : Table fun r : SecurityServiceRunRow => r.run.runId

/-- A call of `run`, with the clock that its parts read. -/
structure AssessmentCall where
  engagement : FirmEngagement
  snapshot : InspectionSnapshot
  principalId : String
  advisories : List Advisory
  authorityId : String
  opaDecisionRefs : List String
  sandboxExecutionRefs : List String
  clock : ℕ → Datetime

section Run

variable (docs : Documents) (services : FirmSecurityServices)

def profileAndPlan (clock : ℕ → Datetime) (engagement : FirmEngagement)
    (snapshot : InspectionSnapshot) : Except Raised (TargetSecurityProfile × AssessmentPlan) := do
  let profile ← services.map clock snapshot
  let plan ← routeServices ⟨clock 0, clock 1⟩ profile engagement services.registry
  return (profile, plan)

def finalStatus (status : ServiceRunStatus) : ServiceRunStatus :=
  if status = .planned ∨ status = .running then .inconclusive else status

variable (call : AssessmentCall)

def serviceRun (plan : AssessmentPlan) (claims : List Claim) (result : ServiceResult) :
    Except Raised ServiceRun := do
  let contract ← services.registry.get result.serviceId
  let run : ServiceRun :=
    { runId := runIdOf docs.sha256 call.engagement.engagementId call.snapshot.snapshotId result.serviceId
      clientId := call.engagement.clientId
      engagementId := call.engagement.engagementId
      targetId := call.snapshot.targetId
      snapshotId := call.snapshot.snapshotId
      serviceId := result.serviceId
      serviceVersion := contract.version
      specialistId := contract.specialistOwner
      assessmentPlanId := plan.planId
      capabilities := contract.requiredCapabilities }
  run.assertEngagementScope call.engagement
  let run ← run.bindContract contract
  let run := run.start (call.clock 2)
  let run :=
    { run with
      evidenceIds := sortedSet (result.claimCandidates.flatMap fun c : ClaimCandidate => c.evidenceRefs)
      claimIds := (claims.filter fun c : Claim => c.agentId = result.serviceId).map fun c : Claim =>
        c.claimId }
  let run := run.finish (finalStatus result.status) (call.clock 3)
  return { run with limitations := result.limitations }

/-- The references with which a call has to come. -/
def checkReferences : Except Raised Unit := do
  raiseIf (isBlank call.authorityId) .permissionError "canonical authority decision is required"
  raiseIf (call.opaDecisionRefs = []) .permissionError "canonical OPA decision reference is required"
  raiseIf (call.sandboxExecutionRefs = []) .permissionError
    "canonical sandbox execution reference is required"
  raiseIf (call.opaDecisionRefs.any isBlank ∨ call.sandboxExecutionRefs.any isBlank) .permissionError
    "canonical execution references must be non-empty"

def canonicalContext (runs : List ServiceRun) : CanonicalContext where
  authorityId := stripped call.authorityId
  authorityLevel := call.engagement.authorityLevel
  clientId := call.engagement.clientId
  engagementId := call.engagement.engagementId
  targetId := call.snapshot.targetId
  snapshotId := call.snapshot.snapshotId
  capabilityExecutions := runs.flatMap fun run => run.capabilities.map fun capabilityId =>
    { capabilityId
      serviceRunId := run.runId
      outcome := run.status
      opaDecisionRef := stripped (call.opaDecisionRefs.headD "")
      sandboxExecutionRef := stripped (call.sandboxExecutionRefs.headD "") }
  opaDecisionRefs := call.opaDecisionRefs.map stripped
  sandboxExecutionRefs := call.sandboxExecutionRefs.map stripped
  externalIntelligenceProvenance := call.advisories.flatMap (·.provenance)

/-- The services that `run` knows. -/
def knownServices : List String := ["APPSEC", "AGENTSEC", "VULNINTEL", "SUPPLYCHAIN"]

/-- The part of `run` before its repository. -/
def assemble : Except Raised FirmAssessment := do
  checkReferences call
  let (profile, plan) ← profileAndPlan services call.clock call.engagement call.snapshot
  let results ← (plan.selectedServices.filter fun id => decide (id ∈ knownServices)).mapM fun id =>
    services.assess id call.snapshot profile call.advisories
  let adjudicated ← services.adjudicate call.clock results call.engagement.engagementId
    call.snapshot.targetId call.principalId
  let runs ← results.mapM (serviceRun docs services call plan adjudicated.claims)
  let report ← docs.dumpReport (fromCanonical docs.render call.engagement profile plan results
    adjudicated.findings adjudicated.evidence.length)
  let contracts ← plan.selectedServices.mapM services.registry.get
  return {
      engagement := call.engagement
      profile, plan, results
      serviceContracts := contracts
      serviceRuns := runs
      observations := adjudicated.observations
      claims := adjudicated.claims
      adjudications := adjudicated.adjudications
      findings := adjudicated.findings
      evidence := adjudicated.evidence
      externalIntelligence := call.advisories
      report
      qualificationContext := canonicalContext call runs }

def payloadOf (results : List ServiceResult) (run : ServiceRun) : Except Raised ServiceRunPayload := do
  let result ← orRaise (results.reverse.find? fun r => decide (r.serviceId = run.serviceId)) .keyError
    run.serviceId
  return ⟨result.status, result.limitations, result.outputs, none, none⟩

/-- The rows of the service runs; the first carries the whole assessment. -/
def rowsOf (assessment : FirmAssessment) (chain : List (String × Value)) :
    Except Raised (List SecurityServiceRunRow) := do
  let rows ← assessment.serviceRuns.mapM fun run => do
    let payload ← payloadOf assessment.results run
    return (⟨run, payload⟩ : SecurityServiceRunRow)
  match rows with
  | [] => return []
  | first :: later =>
    let digest := docs.sha256 (docs.compact assessment.report)
    return { first with
        payload := { first.payload with assessmentChain := some chain, reportSha256 := some digest } } ::
      later

/-- `PostgresSecurityServiceRepository.profile_id` -/
def profileId (profile : TargetSecurityProfile) : String :=
  String.ofList (("PROF-" ++ profile.targetId ++ "-" ++ profile.snapshotId).toList.take 96)

/-- The rows that one assessment writes; a row takes the place of the row of its key. -/
def saveAssessment (assessment : FirmAssessment) (store : AssessmentStore) :
    Except Raised AssessmentStore := do
  let chain ← docs.dump assessment
  let rows ← rowsOf docs assessment chain
  let id := profileId assessment.profile
  return {
      profiles := store.profiles.write (id, assessment.engagement.clientId, assessment.profile)
      plans := store.plans.write (assessment.plan, assessment.engagement.clientId, id)
      runs := store.runs.writeAll rows }

/-- `FirmSecurityServices.run` -/
def run : Effect AssessmentStore FirmAssessment := fun store =>
  match assemble docs services call with
  | .error e => (.error e, store)
  | .ok assessment =>
    match saveAssessment docs assessment store with
    | .error e => (.error e, store)
    | .ok store => (.ok assessment, store)

end Run

section Read

variable (docs : Documents) (clientId engagementId : String)

def listRuns (store : AssessmentStore) : List SecurityServiceRunRow :=
  sortBy (·.run.runId) (store.runs.select fun row =>
    row.run.clientId = clientId && row.run.engagementId = engagementId)

def getAssessmentChain (store : AssessmentStore) : Option (List (String × Value)) :=
  (listRuns clientId engagementId store).findSome? (·.payload.assessmentChain)

/-- `reconstruct_assessment` -/
def reconstructAssessment (store : AssessmentStore) : Except Raised FirmAssessment := do
  let payload ← orRaise (getAssessmentChain clientId engagementId store) .lookupError
    ("no persisted assessment chain for " ++ engagementId)
  let assessment ← docs.validate payload
  let stored ← docs.validateReport assessment.report
  let rebuilt ← docs.dumpReport (fromCanonical docs.render assessment.engagement assessment.profile
    assessment.plan assessment.results assessment.findings assessment.evidence.length)
  let reread ← docs.dumpReport stored
  raiseIf (rebuilt ≠ reread) .runtimeError
    "persisted report does not match the canonical assessment chain"
  return { assessment with report := rebuilt }

end Read

end SecScanMonitor.Application.Firm
