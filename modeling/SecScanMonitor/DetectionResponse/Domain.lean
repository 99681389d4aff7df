import SecScanMonitor.Domain.Authority
import SecScanMonitor.Domain.Common
import SecScanMonitor.Foundations.Value
import Mathlib.Data.List.Sort

/-! Contracts shared by detection, hunting and response (`detection_response/domain.py`): scopes,
content-derived identifiers, incidents, response proposals and their approvals. -/

namespace SecScanMonitor.DetectionResponse

open Foundations Domain

/-- SHA-256 of canonical JSON text, in hexadecimal, and the two texts of a UTC instant: `isoformat`
and the form it has in a JSON dump. -/
structure Codec where
  contentDigest : Value → String
  isoformat : Datetime → String
  dumpDatetime : Datetime → String

def stableId (codec : Codec) (lead : String) (parts : List Value) : String :=
  lead ++ String.ofList ((codec.contentDigest (.arr parts)).toList.take 32)

structure Scope where
  tenantId : String
  caseId : String
  targetId : String
  nonblank : isBlank tenantId = false ∧ isBlank caseId = false ∧ isBlank targetId = false
  deriving DecidableEq

/-- The names of the scopes in the examples. -/
lemma sampleNames_nonblank : isBlank "CL-1" = false ∧ isBlank "EN-1" = false ∧ isBlank "TG-1" = false := by
  decide

lemma Scope.eq_of_parts {a b : Scope} (ht : a.tenantId = b.tenantId) (hc : a.caseId = b.caseId)
    (hg : a.targetId = b.targetId) : a = b := by
  cases a
  cases b
  simp only at ht hc hg
  subst ht hc hg
  rfl

def Scope.toValue (s : Scope) : Value :=
  .obj [("tenant", .str s.tenantId), ("case", .str s.caseId), ("target", .str s.targetId)]

lemma Scope.toValue_injective : Function.Injective Scope.toValue := by
  rintro ⟨t, c, g, h⟩ ⟨t', c', g', h'⟩ he
  simpa [Scope.toValue] using he

def Scope.key (s : Scope) : Value := .arr [.str s.tenantId, .str s.caseId, .str s.targetId]

lemma Scope.key_injective : Function.Injective Scope.key := by
  rintro ⟨t, c, g, h⟩ ⟨t', c', g', h'⟩ he
  simpa [Scope.key] using he

inductive IncidentState where
  | candidate
  | confirmed
  | contained
  | recovering
  | resolved
  | dismissed
  deriving Repr, DecidableEq

def IncidentState.value : IncidentState → String
  | .candidate => "CANDIDATE"
  | .confirmed => "CONFIRMED"
  | .contained => "CONTAINED"
  | .recovering => "RECOVERING"
  | .resolved => "RESOLVED"
  | .dismissed => "DISMISSED"

inductive OpaDecision where
  | deny
  | requireApproval
  | allow
  deriving Repr, DecidableEq

def OpaDecision.value : OpaDecision → String
  | .deny => "DENY"
  | .requireApproval => "REQUIRE_APPROVAL"
  | .allow => "ALLOW"

inductive HumanApprovalState where
  | approvalRequired
  | approved
  | denied
  | expired
  deriving Repr, DecidableEq

def HumanApprovalState.value : HumanApprovalState → String
  | .approvalRequired => "APPROVAL_REQUIRED"
  | .approved => "APPROVED"
  | .denied => "DENIED"
  | .expired => "EXPIRED"

inductive ResponseAction where
  | isolateRunner
  | suspendCapability
  | blockTool
  | revokeSession
  deriving Repr, DecidableEq

def ResponseAction.value : ResponseAction → String
  | .isolateRunner => "ISOLATE_RUNNER"
  | .suspendCapability => "SUSPEND_CAPABILITY"
  | .blockTool => "BLOCK_TOOL"
  | .revokeSession => "REVOKE_SESSION"

structure Incident where
  incidentId : String
  hypothesisId : String
  investigationId : String
  adjudicationId : String
  scope : Scope
  state : IncidentState
  severity : Severity
  confidence : Confidence
  sourceSignalIds : List String
  observationIds : List String
  claimIds : List String
  supportingEvidenceRefs : List String
  contradictingEvidenceRefs : List String
  adjudicatedAt : Datetime
  authorizedActionExecuted : Bool := false
  deriving DecidableEq

/-- The check an incident passes when it is constructed. -/
def Incident.validate (i : Incident) : Except Raised Incident :=
  if i.state = .contained ∧ i.authorizedActionExecuted = false then
    raise .validationError "an incident cannot be CONTAINED without a recorded authorized action"
  else .ok i

structure ResponseProposal where
  proposalId : String
  incidentId : String
  scope : Scope
  targetId : String
  action : ResponseAction
  reason : String
  supportingEvidenceRefs : List String
  expectedImpact : String
  risk : String
  rollbackPlan : String
  expiresAt : Datetime
  proposalDigest : String
  opaDecision : OpaDecision
  humanApprovalState : HumanApprovalState
  authorizedActionExecuted : Bool := false
  deriving DecidableEq

/-- The proposal as JSON. -/
def ResponseProposal.dump (codec : Codec) (p : ResponseProposal) : Value := .obj
  [("proposal_id", .str p.proposalId), ("incident_id", .str p.incidentId),
    ("scope", p.scope.toValue), ("target_id", .str p.targetId), ("action", .str p.action.value),
    ("reason", .str p.reason),
    ("supporting_evidence_refs", .arr (p.supportingEvidenceRefs.map .str)),
    ("expected_impact", .str p.expectedImpact), ("risk", .str p.risk),
    ("rollback_plan", .str p.rollbackPlan), ("expires_at", .str (codec.dumpDatetime p.expiresAt)),
    ("proposal_digest", .str p.proposalDigest), ("opa_decision", .str p.opaDecision.value),
    ("human_approval_state", .str p.humanApprovalState.value),
    ("authorized_action_executed", .bool p.authorizedActionExecuted)]

/-- The validators a proposal passes when it is constructed, rather than copied. -/
def ResponseProposal.validate (p : ResponseProposal) : Except Raised ResponseProposal :=
  if [p.proposalId, p.incidentId, p.targetId, p.reason, p.expectedImpact, p.risk, p.rollbackPlan,
      p.proposalDigest].any isBlank then
    raise .validationError "value must be non-empty"
  else if p.authorizedActionExecuted then
    raise .validationError "v0.3 response proposals cannot record an executed action"
  else .ok p

lemma ResponseProposal.validate_eq_ok {p q : ResponseProposal} (h : p.validate = .ok q) :
    q = p ∧ p.authorizedActionExecuted = false := by
  simp only [validate] at h
  split at h
  · cases h
  · split at h
    · cases h
    · rename_i he
      exact ⟨(Except.ok.inj h).symm, by simpa using he⟩

lemma ResponseProposal.validate_setState {p q : ResponseProposal} (h : p.validate = .ok q)
    (state : HumanApprovalState) : { p with humanApprovalState := state }.validate =
      .ok { p with humanApprovalState := state } := by
  simp only [validate] at h ⊢
  split at h
  · cases h
  · rename_i htext
    split at h
    · cases h
    · rename_i hexecuted
      rw [if_neg htext, if_neg hexecuted]

structure CapabilityRequest where
  requestId : String
  proposalId : String
  scope : Scope
  targetId : String
  action : ResponseAction
  proposalDigest : String
  requestedAt : Datetime
  deriving DecidableEq

structure HumanApproval where
  approvalId : String
  proposalId : String
  proposalDigest : String
  scope : Scope
  targetId : String
  action : ResponseAction
  decision : HumanApprovalState
  decidedBy : String
  decidedAt : Datetime
  source : String
  expiresAt : Datetime
  deriving DecidableEq

/-- The checks an approval passes when it is constructed. -/
def HumanApproval.validate (a : HumanApproval) : Except Raised HumanApproval :=
  if [a.approvalId, a.proposalId, a.proposalDigest, a.decidedBy, a.source].any isBlank then
    raise .validationError "value must be non-empty"
  else .ok a

lemma HumanApproval.validate_eq_ok {a b : HumanApproval} (h : a.validate = .ok b) : b = a := by
  simp only [validate] at h
  split at h
  · cases h
  · exact (Except.ok.inj h).symm

end SecScanMonitor.DetectionResponse
