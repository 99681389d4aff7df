import SecScanMonitor.Persistence.Models

/-! The persisted approval of a response proposal: a proposal is stored together with its capability
request and its pending approval, and a decision moves the approval and the proposal in one
transaction (`persistence/live_control_plane.py`). -/

namespace SecScanMonitor.Persistence

open Foundations Domain DetectionResponse

def responseCapability : String := "CAP-V03-RESPONSE-PROPOSAL"

def proposalRow (p : ResponseProposal) : ResponseProposalRow where
  proposalId := p.proposalId
  incidentId := p.incidentId
  tenantId := p.scope.tenantId
  caseId := p.scope.caseId
  targetId := p.targetId
  action := p.action
  reason := p.reason
  supportingEvidenceRefs := p.supportingEvidenceRefs
  expectedImpact := p.expectedImpact
  risk := p.risk
  rollbackPlan := p.rollbackPlan
  expiresAt := p.expiresAt
  proposalDigest := p.proposalDigest
  opaDecision := p.opaDecision
  humanApprovalState := p.humanApprovalState
  authorizedActionExecuted := p.authorizedActionExecuted

def saveProposal (p : ResponseProposal) (t : Table ResponseProposalRow.proposalId) :
    Except Raised (Table ResponseProposalRow.proposalId) :=
  insertOrReplay "response_proposals" (fun x y => x = y)
    (fun row x => x.proposalDigest = row.proposalDigest) (proposalRow p) t

/-- `row` is inside the requested scope. -/
def inScope (tenantId caseId targetId : String) (scope : Scope) : Prop :=
  tenantId = scope.tenantId ∧ caseId = scope.caseId ∧ targetId = scope.targetId

instance (tenantId caseId targetId : String) (scope : Scope) :
    Decidable (inScope tenantId caseId targetId scope) := by
  unfold inScope
  infer_instance

section Repository

variable (codec : Codec) (secretLike : Value → Bool)

def requestId (p : ResponseProposal) : String :=
  stableId codec "CAPREQ-" [.str p.proposalId, .str p.proposalDigest]

def capabilityRequestRow (now : Datetime) (p : ResponseProposal) : ResponseCapabilityRequestRow where
  requestId := requestId codec p
  proposalId := p.proposalId
  tenantId := p.scope.tenantId
  caseId := p.scope.caseId
  targetId := p.targetId
  action := p.action
  proposalDigest := p.proposalDigest
  requestedAt := now

def saveCapabilityRequest (row : ResponseCapabilityRequestRow)
    (t : Table ResponseCapabilityRequestRow.requestId) :
    Except Raised (Table ResponseCapabilityRequestRow.requestId) :=
  insertOrReplay "response_capability_requests"
    (fun x y => x.proposalId = y.proposalId && x.tenantId = y.tenantId && x.caseId = y.caseId &&
      x.targetId = y.targetId && x.action = y.action && x.proposalDigest = y.proposalDigest)
    (fun row x => x.proposalId = row.proposalId && x.proposalDigest = row.proposalDigest) row t

def pendingApproval (p : ResponseProposal) (requestedBy : String) : Approval where
  approvalId := stableId codec "AP-" [.str p.proposalId]
  engagementId := p.scope.caseId
  requestedByPrincipalId := requestedBy
  decidedByPrincipalId := none
  requestRef := p.proposalId
  targetId := p.targetId
  capabilityId := responseCapability
  action := .remediate
  decision := "pending"
  decidedAt := none
  rationale := ""

/-- Two approvals of one request in one engagement. -/
def sameRequest (row x : Approval) : Bool :=
  x.engagementId = row.engagementId && x.requestRef = row.requestRef

def saveApproval (row : Approval) (t : Table Approval.approvalId) :
    Except Raised (Table Approval.approvalId) :=
  insertOrReplay "approvals"
    (fun x y => x.engagementId = y.engagementId &&
      x.requestedByPrincipalId = y.requestedByPrincipalId && x.requestRef = y.requestRef &&
      x.targetId = y.targetId && x.capabilityId = y.capabilityId && x.action = y.action &&
      x.decision = y.decision)
    sameRequest row t

def persistResponseProposal (now : Datetime) (p : ResponseProposal) (requestedBy : String) :
    Transaction Unit := fun db => do
  raiseIf (secretLike (p.dump codec)) .detectionInputError
      "canonical live text contains secret-like content"
  validateEngagementScope db p.scope
  raiseIf (db.principals.get? requestedBy = none) .permissionError
      "proposal requester is not canonical"
  let proposals ← saveProposal p db.responseProposals
  if p.humanApprovalState ≠ .approvalRequired then
    return ((), { db with responseProposals := proposals })
  else
    let requests ← saveCapabilityRequest (capabilityRequestRow codec now p)
      db.responseCapabilityRequests
    let approvals ← saveApproval (pendingApproval codec p requestedBy) db.approvals
    return ((), { db with
      responseProposals := proposals, responseCapabilityRequests := requests, approvals })

def ResponseProposalRow.load (row : ResponseProposalRow) (scope : Scope) :
    Except Raised ResponseProposal :=
  ResponseProposal.validate
    { proposalId := row.proposalId, incidentId := row.incidentId, scope, targetId := row.targetId,
      action := row.action, reason := row.reason,
      supportingEvidenceRefs := row.supportingEvidenceRefs, expectedImpact := row.expectedImpact,
      risk := row.risk, rollbackPlan := row.rollbackPlan, expiresAt := row.expiresAt,
      proposalDigest := row.proposalDigest, opaDecision := row.opaDecision,
      humanApprovalState := row.humanApprovalState,
      authorizedActionExecuted := row.authorizedActionExecuted }

def loadProposal (db : Database) (proposalId : String) (scope : Scope) :
    Except Raised (Option ResponseProposal) :=
  match db.responseProposals.get? proposalId with
  | none => .ok none
  | some row =>
    if ¬ inScope row.tenantId row.caseId row.targetId scope then
      raise .permissionError "canonical live record is outside the requested scope"
    else (row.load scope).map some

def lower (s : String) : String := String.ofList (s.toList.map Char.toLower)

def canonicalHuman (db : Database) (principalId : String) : Bool :=
  (db.principals.get? principalId).any fun row => lower row.kind ∈ ["operator", "human"]

def requestMatches (p : ResponseProposal) (r : ResponseCapabilityRequestRow) : Bool :=
  r.proposalId = p.proposalId && r.tenantId = p.scope.tenantId && r.caseId = p.scope.caseId &&
    r.targetId = p.targetId && r.action = p.action && r.proposalDigest = p.proposalDigest

def approvalRow (p : ResponseProposal) (db : Database) : Except Raised Approval := do
  raiseIf ((db.engagements.get? p.scope.caseId).all fun e => decide (e.clientId ≠ p.scope.tenantId))
      .permissionError "approval is outside the requested tenant scope"
  let row ← orRaise
    (db.approvals.rows.find? fun a => a.engagementId = p.scope.caseId && a.requestRef = p.proposalId)
    .permissionError "response proposal has no canonical approval record"
  raiseIf (row.targetId ≠ p.targetId ∨ row.capabilityId ≠ responseCapability) .permissionError
      "approval is not bound to the canonical proposal"
  raiseIf (row.engagementId ≠ p.scope.caseId ∨ row.action ≠ .remediate) .permissionError
      "approval is outside the requested engagement scope"
  raiseIf ((db.responseCapabilityRequests.rows.find? (requestMatches p)).all
      fun r => decide (r.requestId ≠ requestId codec p)) .permissionError
      "capability request is not bound to the exact response proposal"
  return row

/-- An approval as read from its row: an empty decider reads as none. -/
def approvalFromRow (row : Approval) : Approval :=
  { row with decidedByPrincipalId := row.decidedByPrincipalId.filter (· ≠ "") }

/-- The state a decision calls for, in the upper case of the decision. -/
def decidedState : String → Option HumanApprovalState
  | "approved" => some .approved
  | "denied" => some .denied
  | _ => none

def recordDecision (row approval : Approval) : Approval :=
  { row with
    decidedByPrincipalId := approval.decidedByPrincipalId
    decision := approval.decision
    decidedAt := approval.decidedAt
    rationale := approval.rationale }

def setState (state : HumanApprovalState) (row : ResponseProposalRow) : ResponseProposalRow :=
  { row with humanApprovalState := state }

/-- The transaction of a decision whose arguments have been checked. -/
def commitDecision (now : Datetime) (p : ResponseProposal) (decidedBy decision rationale : String)
    (state : HumanApprovalState) : Transaction Approval := fun db => do
  let row ← approvalRow codec p db
  raiseIf (canonicalHuman db decidedBy = false) .permissionError
      "approval requires a canonical human operator"
  raiseIf (decidedBy = row.requestedByPrincipalId) .permissionError
      "requester cannot approve its own response proposal"
  let stored ← orRaise (db.responseProposals.get? p.proposalId) .permissionError
    "response proposal disappeared during decision"
  raiseIf (¬ inScope stored.tenantId stored.caseId stored.targetId p.scope) .permissionError
      "canonical live record is outside the requested scope"
  raiseIf (stored.proposalDigest ≠ p.proposalDigest ∨ stored.authorizedActionExecuted = true)
      .permissionError "proposal binding is invalid or already executed"
  raiseIf (stored.humanApprovalState ≠ .approvalRequired ∧ stored.humanApprovalState ≠ state)
      .permissionError "response proposal approval state cannot transition"
  if row.decision ≠ "pending" then
    if row.decision = decision ∧ row.decidedByPrincipalId = some decidedBy ∧
        row.rationale = rationale then return (approvalFromRow row, db)
    else raise .permissionError "approval decision is already canonical"
  else
    let approval ← (approvalFromRow row).decide now decision decidedBy rationale
    let approvals := db.approvals.modify row.approvalId
      (fun a => recordDecision a approval) (fun _ => rfl)
    let proposals := db.responseProposals.modify p.proposalId (setState state) (fun _ => rfl)
    return (approval, { db with approvals, responseProposals := proposals })

def decideApproval (now : Datetime) (p : ResponseProposal)
    (decidedBy decision proposalState rationale : String) : Transaction Approval := fun db =>
  match decidedState decision with
  | none => raise .valueError "approval decision must be approved or denied"
  | some state => do
    raiseIf (proposalState ≠ state.value) .valueError "approval and proposal decisions must match"
    raiseIf (secretLike (.obj [("rationale", .str rationale)])) .detectionInputError
        "canonical live text contains secret-like content"
    commitDecision codec now p decidedBy decision rationale state db

end Repository

end SecScanMonitor.Persistence
