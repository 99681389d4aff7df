import SecScanMonitor.Adjudication.AdjudicationService
import SecScanMonitor.Application.AuthorityService
import SecScanMonitor.Domain.Lifecycle
import SecScanMonitor.Reports.FirmReport

/-! The activities of the engagement workflow over their in-memory runtime
(`workflows/activities.py`), with the two agents that they run (`agents/__init__.py`). -/

namespace SecScanMonitor.Workflows

open Foundations Domain Application Adjudication Reports

/-- `Engagement`, with the fields that the activities read. -/
structure EngagementRecord extends EngagementAggregate where
  requesterPrincipalId : String
  scope : String
  passType : PassType
  deriving Repr, DecidableEq

/-- `EngagementRuntime`. The policy is a parameter of the activities; the audit sink takes every event, and no
activity reads it. -/
structure EngagementRuntime where
  engagements : Dict String EngagementRecord
  grants : Dict String (List AuthorityGrant)
  approvals : Dict String Approval
  claims : Dict String (List Claim)
  findings : Dict String (List Finding)
  adjudications : Dict String (List Adjudication)
  reports : Dict String String
  effects : Dict String Value

/-- What one execution of an activity draws from outside: the clock, its readings as text, and the hex
of the uuids that it mints, by the place where they are minted. -/
structure Execution where
  now : Datetime
  date : String
  instant : ℕ → String
  hex : ℕ → String

/-- `new_id` -/
def Execution.newId (x : Execution) (kind : String) (i : ℕ) : String := kind ++ "-" ++ x.hex i

/-- `SideEffectLedger.record` -/
def record (key : String) (effect : Value) (rt : EngagementRuntime) :
    Value × EngagementRuntime :=
  match rt.effects.find? key with
  | some recorded => (recorded, rt)
  | none => (effect, { rt with effects := rt.effects.set key effect })

/-- An activity that reads, may raise, and then writes and records its effect. -/
def recording (key : String)
    (plan : EngagementRuntime → Except Raised (EngagementRuntime × Value)) :
    Effect EngagementRuntime Value := fun rt =>
  match plan rt with
  | .error e => (.error e, rt)
  | .ok (written, effect) => ((.ok (record key effect written).1), (record key effect written).2)

def loadEngagement (rt : EngagementRuntime) (engagementId : String) :
    Except Raised EngagementRecord :=
  orRaise (rt.engagements.find? engagementId) .applicationError s!"unknown engagement {engagementId}"

namespace FirmCoordinatorV1

def agentId : String := "AGT-FIRM-COORDINATOR"

structure CoordinatorVerdict where
  outcome : String
  reason : String
  deriving Repr, DecidableEq

/-- `decide`, with the responses programmed into the fake model. -/
def decide (engagement : EngagementRecord) : CoordinatorVerdict :=
  if engagement.scope = "" ∨ engagement.targetIds = [] then ⟨"refuse", "missing scope or target"⟩
  else ⟨"proceed", "scope valid"⟩

/-- `plan_capability_request` -/
def planCapabilityRequest : String × Action := ("CAP-REPO-READONLY-INSPECTION", .inspect)

end FirmCoordinatorV1

namespace SecurityReviewSpecialistV1

def agentId : String := "AGT-SECURITY-REVIEW-SPECIALIST"

structure Observation where
  observationId : String
  engagementId : String
  evidenceIds : List String
  kind : String
  statement : String
  recordedByAgentId : String
  deriving Repr, DecidableEq

/-- `ObservationSet`: kinds and statements of the observations, statements and confidence of the
claims. -/
structure ObservationSet where
  observations : List (String × String)
  claims : List (String × Confidence)
  uncertainty : String

/-- The response programmed into the fake model. -/
def response : ObservationSet where
  observations := [("repo-inspection", "target files reviewed")]
  claims := [("no severity-worthy defect observed in reviewed scope", .medium)]
  uncertainty := "review limited to declared scope; not a full audit"

def observationsOf (x : Execution) (engagementId : String) (evidenceIds : List String)
    (result : ObservationSet) : List Observation :=
  result.observations.zipIdx.map fun (item, i) =>
    ⟨x.newId "OB" i, engagementId, evidenceIds, item.1, item.2, agentId⟩

def claimsOf (x : Execution) (engagementId agentRunId : String) (evidenceIds : List String)
    (result : ObservationSet) (observations : List Observation) : List Claim :=
  result.claims.zipIdx.map fun (item, i) =>
    { claimId := x.newId "CL" (result.observations.length + i)
      engagementId, agentId, agentRunId
      observationIds := observations.map Observation.observationId
      evidenceIds
      statement := item.1
      confidence := item.2
      uncertainty := result.uncertainty }

def review (x : Execution) (engagementId agentRunId : String) (evidenceIds : List String) :
    List Observation × List Claim :=
  let observations := observationsOf x engagementId evidenceIds response
  (observations, claimsOf x engagementId agentRunId evidenceIds response observations)

end SecurityReviewSpecialistV1

section Activities

variable (policy : Value → Except Raised PolicyDecision) (inputSha256 : Value → String)
  (x : Execution)

/-- The first grant of the engagement that covers the request. -/
def matchingGrant (grants : List AuthorityGrant) (engagementId targetId principalId capabilityId : String)
    (action : Action) : Option AuthorityGrant :=
  grants.find? fun g =>
    decide (g.principalId = principalId) && decide (g.engagementId = engagementId) &&
      g.capabilityId.all (fun c => decide (c = capabilityId)) &&
      g.targetId.all (fun t => decide (t = targetId)) && g.isActive x.now (some action)

/-- `_policy_decision` -/
def policyDecision (rt : EngagementRuntime) (engagement : EngagementRecord)
    (principalId agentId capabilityId : String) (action : Action) (approval : Option Approval)
    (workflowPhase : String) : Except Raised PolicyDecision := do
  let _ ← CapabilityRegistry.canonical.get capabilityId
  let grants := (rt.grants.find? engagement.engagementId).getD []
  let targetId ← orRaise engagement.targetIds.head? .indexError "list index out of range"
  let grant := matchingGrant x grants engagement.engagementId targetId principalId capabilityId action
  let request : CapabilityRequest :=
    { principalId, targetId, capabilityId, action, workflowPhase
      agentId := some agentId
      engagementId := engagement.engagementId
      risk := "low"
      authorityGrantId := grant.map AuthorityGrant.grantId
      approvalId := approval.map Approval.approvalId
      requestedResources := Table.empty }
  AuthorityService.decide policy (fun _ => .ok ()) inputSha256 .canonical request
    engagement.toEngagement grants approval x.now

/-- The decision that `validate_and_authorize` takes. -/
def gateDecision (rt : EngagementRuntime) (engagement : EngagementRecord) :
    Except Raised PolicyDecision :=
  policyDecision policy inputSha256 x rt engagement engagement.requesterPrincipalId
    "AGT-FIRM-COORDINATOR" "CAP-REPO-READONLY-INSPECTION" .inspect none "evidence_collection"

def validation (engagementId : String) (rt : EngagementRuntime) :
    Except Raised (EngagementRuntime × Value) := do
  let engagement ← loadEngagement rt engagementId
  let decision ← gateDecision policy inputSha256 x rt engagement
  return (rt, .obj [("decision", .str decision.value)])

def validateAndAuthorize (engagementId workflowRunId : String) : Effect EngagementRuntime Value :=
  recording s!"validate:{workflowRunId}" (validation policy inputSha256 x engagementId)

/-- The decision that `coordinator_pass` takes on the coordinator's request. -/
def coordinatorDecision (rt : EngagementRuntime) (engagement : EngagementRecord) :
    Except Raised PolicyDecision :=
  let spec := FirmCoordinatorV1.planCapabilityRequest
  policyDecision policy inputSha256 x rt engagement engagement.requesterPrincipalId
    FirmCoordinatorV1.agentId spec.1 spec.2 none "analysis"

def requestedApproval (engagement : EngagementRecord) (targetId : String) : Approval :=
  let spec := FirmCoordinatorV1.planCapabilityRequest
  { approvalId := x.newId "AP" 0
    engagementId := engagement.engagementId
    requestedByPrincipalId := engagement.requesterPrincipalId
    requestRef := s!"capreq:{engagement.engagementId}:{spec.1}"
    capabilityId := spec.1
    action := spec.2
    targetId
    decision := "pending"
    decidedByPrincipalId := none
    decidedAt := none
    rationale := "" }

/-- What the pass writes and records once the kernel has decided. -/
def coordinated (engagement : EngagementRecord) (targetId : String) (rt : EngagementRuntime) :
    PolicyDecision → EngagementRuntime × Value
  | .requireApproval =>
    let approval := requestedApproval x engagement targetId
    ({ rt with approvals := rt.approvals.set approval.approvalId approval },
      .obj [("verdict", .str "proceed"), ("requires_approval", .bool true),
        ("approval_id", .str approval.approvalId)])
  | .deny => (rt, .obj [("verdict", .str "denied"), ("reason", .str "policy denied capability request")])
  | .allow => (rt, .obj [("verdict", .str "proceed"), ("requires_approval", .bool false)])

def coordination (engagementId : String) (rt : EngagementRuntime) :
    Except Raised (EngagementRuntime × Value) := do
  let engagement ← loadEngagement rt engagementId
  let verdict := FirmCoordinatorV1.decide engagement
  if verdict.outcome = "refuse" then
    return (rt, .obj [("verdict", .str "refuse"), ("reason", .str verdict.reason)])
  let targetId ← orRaise engagement.targetIds.head? .indexError "list index out of range"
  let decision ← coordinatorDecision policy inputSha256 x rt engagement
  return coordinated x engagement targetId rt decision

def coordinatorPass (engagementId agentRunId : String) : Effect EngagementRuntime Value :=
  recording s!"coordinator:{agentRunId}" (coordination policy inputSha256 x engagementId)

/-- The decision that `authorize_with_approval` takes on an approval. -/
def approvalDecision (rt : EngagementRuntime) (engagement : EngagementRecord) (approval : Approval) :
    Except Raised PolicyDecision :=
  policyDecision policy inputSha256 x rt engagement approval.requestedByPrincipalId
    "AGT-FIRM-COORDINATOR" approval.capabilityId approval.action (some approval) "analysis"

def authorization (engagementId approvalId : String) (rt : EngagementRuntime) :
    Except Raised (EngagementRuntime × Value) := do
  let engagement ← loadEngagement rt engagementId
  let approval ← orRaise (rt.approvals.find? approvalId) .applicationError
    s!"unknown approval {approvalId}"
  raiseIf (approval.decision ≠ "approved") .applicationError
    s!"approval {approvalId} is not approved"
  let decision ← approvalDecision policy inputSha256 x rt engagement approval
  raiseIf (decision ≠ .allow) .applicationError
    s!"approval {approvalId} did not authorize: {decision.value}"
  return (rt, .obj [("decision", .str "allow")])

def authorizeWithApproval (engagementId workflowRunId approvalId : String) :
    Effect EngagementRuntime Value :=
  recording s!"approval:{workflowRunId}:{approvalId}"
    (authorization policy inputSha256 x engagementId approvalId)

def specialistReview (engagementId agentRunId : String) (evidenceIds : List String)
    (rt : EngagementRuntime) : Except Raised (EngagementRuntime × Value) := do
  let engagement ← loadEngagement rt engagementId
  let (observations, claims) :=
    SecurityReviewSpecialistV1.review x engagement.engagementId agentRunId evidenceIds
  return ({ rt with claims := rt.claims.set engagement.engagementId claims },
    .obj [("observations", .int observations.length), ("claims", .int claims.length)])

def specialistPass (engagementId agentRunId : String) (evidenceIds : List String) :
    Effect EngagementRuntime Value :=
  recording s!"specialist:{agentRunId}" (specialistReview x engagementId agentRunId evidenceIds)

/-- What `adjudicate_pass` asks about a claim. -/
def adjudicationInput (engagement : EngagementRecord) (claim : Claim) : AdjudicationInput where
  engagementId := engagement.engagementId
  claim
  supportingEvidenceIds := claim.evidenceIds
  contradictingEvidenceIds := []
  specialistIdentity := claim.agentId
  toolConfidence := some .high
  scopeNote := engagement.scope
  severity := some .low
  decidedByPrincipalId := engagement.requesterPrincipalId

def adjudicateClaims (engagement : EngagementRecord) :
    ℕ → List Claim → Except Raised (List Adjudication × List Finding)
  | _, [] => .ok ([], [])
  | i, claim :: claims => do
    let (adjudication, finding) ← AdjudicationService.adjudicate (adjudicationInput engagement claim)
      ⟨x.newId "ADJ" i, x.newId "FIN" i⟩
    let (adjudications, findings) ← adjudicateClaims engagement (i + 1) claims
    return (adjudication :: adjudications, finding.toList ++ findings)

def claimAdjudication (engagementId : String) (rt : EngagementRuntime) :
    Except Raised (EngagementRuntime × Value) := do
  let engagement ← loadEngagement rt engagementId
  let claims := (rt.claims.find? engagement.engagementId).getD []
  let (adjudications, findings) ← adjudicateClaims x engagement 0 claims
  return ({ rt with
    adjudications := rt.adjudications.set engagement.engagementId adjudications
    findings := rt.findings.set engagement.engagementId findings },
    .obj [("findings", .int findings.length)])

def adjudicatePass (engagementId : String) : Effect EngagementRuntime Value :=
  recording s!"adjudicate:{engagementId}" (claimAdjudication x engagementId)

def firmFinding (finding : Finding) : FirmFinding where
  findingId := finding.findingId
  severity := finding.severity
  title := finding.title
  evidence := ", ".intercalate finding.supportingEvidenceIds
  impact := finding.summary
  remediation := if finding.remediationGuidance = "" then "see adjudication rationale"
    else finding.remediationGuidance
  verification := finding.verificationStep

def firmReport (engagement : EngagementRecord) (findings : List Finding) : FirmReport where
  engagementId := engagement.engagementId
  target := ", ".intercalate engagement.targetIds
  scope := engagement.scope
  passType := engagement.passType
  authorityLevel := engagement.authorityLevel
  date := x.date
  personas := ["Firm Coordinator V1", "Security Review Specialist V1"]
  findings := findings.map firmFinding
  gaps := []
  secretScanSummary := "no plaintext secrets persisted"
  custodyNotes := ["rendered by the platform reports layer via the case engine"]
  verdict := "go"

def rendering (engagementId : String) (rt : EngagementRuntime) :
    Except Raised (EngagementRuntime × Value) := do
  let engagement ← loadEngagement rt engagementId
  let findings := (rt.findings.find? engagement.engagementId).getD []
  let rendered := renderFirmReport (firmReport x engagement findings)
  return ({ rt with reports := rt.reports.set engagement.engagementId rendered },
    .obj [("findings", .int findings.length)])

def renderReport (engagementId : String) : Effect EngagementRuntime Value :=
  recording s!"report:{engagementId}" (rendering x engagementId)

/-- The statuses that `close_engagement` goes through, with their reasons. -/
def closingSteps : List (EngagementStatus × String) :=
  [(.active, "workflow active"), (.evidenceCollection, "evidence collected"),
    (.analysis, "analysis complete"), (.adjudication, "adjudicated"),
    (.reporting, "report rendered"), (.closed, "workflow complete")]

/-- The transitions before one that raises stay on the engagement. -/
def advance : ℕ → List (EngagementStatus × String) → EngagementRecord →
    Except Raised Unit × EngagementRecord
  | _, [], e => (.ok (), e)
  | i, (target, reason) :: steps, e =>
    if e.status = target then advance (i + 1) steps e
    else
      match e.toEngagementAggregate.transition target
          ⟨e.requesterPrincipalId, reason, x.newId "AE" i, x.instant i⟩ with
      | .error raised => (.error raised, e)
      | .ok (_, moved) => advance (i + 1) steps { e with toEngagementAggregate := moved }

def closeEngagement (engagementId : String) : Effect EngagementRuntime Value := fun rt =>
  match loadEngagement rt engagementId with
  | .error e => (.error e, rt)
  | .ok engagement =>
    let closing := advance x 0 closingSteps engagement
    let rt := { rt with engagements := rt.engagements.set engagementId closing.2 }
    match closing.1 with
    | .error e => (.error e, rt)
    | .ok _ =>
      let recorded := record s!"close:{engagementId}"
        (.obj [("status", .str closing.2.status.value)]) rt
      (.ok recorded.1, recorded.2)

end Activities

/-- The activities of the workflow, with the arguments besides the engagement's id. -/
inductive Activity where
  | validateAndAuthorize (workflowRunId : String)
  | coordinatorPass (agentRunId : String)
  | authorizeWithApproval (workflowRunId approvalId : String)
  | specialistPass (agentRunId : String) (evidenceIds : List String)
  | adjudicatePass
  | renderReport
  | closeEngagement
  deriving Repr, DecidableEq

def exec (policy : Value → Except Raised PolicyDecision) (inputSha256 : Value → String)
    (x : Execution) (engagementId : String) : Activity → Effect EngagementRuntime Value
  | .validateAndAuthorize workflowRunId =>
    validateAndAuthorize policy inputSha256 x engagementId workflowRunId
  | .coordinatorPass agentRunId => coordinatorPass policy inputSha256 x engagementId agentRunId
  | .authorizeWithApproval workflowRunId approvalId =>
    authorizeWithApproval policy inputSha256 x engagementId workflowRunId approvalId
  | .specialistPass agentRunId evidenceIds => specialistPass x engagementId agentRunId evidenceIds
  | .adjudicatePass => adjudicatePass x engagementId
  | .renderReport => renderReport x engagementId
  | .closeEngagement => closeEngagement x engagementId

end SecScanMonitor.Workflows
