import SecScanMonitor.DetectionResponse.ResponseProposals
import SecScanMonitor.Persistence.ResponseApprovals

/-! Proposing a response and deciding its approval (`application/live_incident_control_plane.py`): the
checks of the service, the policy and the in-memory approval service before the transaction of the
repository. -/

namespace SecScanMonitor.Application.LiveIncidentControlPlane

open Foundations Domain DetectionResponse Persistence

def upper (s : String) : String := String.ofList (s.toList.map Char.toUpper)

/-- `OpaDecision(value)`, where it is defined. -/
def opaDecision : String → Option OpaDecision
  | "DENY" => some .deny
  | "REQUIRE_APPROVAL" => some .requireApproval
  | "ALLOW" => some .allow
  | _ => none

/-- Builds the canonical policy request for a context and asks the client, which answers or raises. -/
abbrev PolicyClient := Value → Except Raised String

/-- Every failure is a denial. -/
def CanonicalResponsePolicy.decide (client : Option PolicyClient) (context : Value) : OpaDecision :=
  match client with
  | none => .deny
  | some ask =>
    match ask context with
    | .ok answer => (opaDecision (upper answer)).getD .deny
    | .error _ => .deny

/-- What is outside of the platform while a call runs: the policy client and the instants that the
call reads from the clock. -/
structure Surroundings where
  client : Option PolicyClient
  /-- read by the response service -/
  now : Datetime
  /-- read when the candidate approval is dated -/
  dated : Datetime
  /-- read in the transaction of the repository -/
  committed : Datetime

def requireOperator (db : Database) (principalId : String) (accessPrincipalId : Option String) :
    Except Raised Unit := do
  raiseIf (accessPrincipalId ≠ none ∧ some principalId ≠ accessPrincipalId) .permissionError
      "operator identity must match the verified access principal"
  raiseIf (canonicalHuman db principalId = false) .permissionError
      "operation requires a canonical human operator"

def loadIncident (db : Database) (incidentId : String) (scope : Scope) :
    Except Raised (Option Incident) :=
  match db.incidents.get? incidentId with
  | none => .ok none
  | some row =>
    if row.scope ≠ scope then
      raise .permissionError "canonical live record is outside the requested scope"
    else row.validate.map some

/-- `{incident.incident_id: incident}` -/
def registry {α : Type} (id : String) (record : α) (key : String) : Option α :=
  if key = id then some record else none

structure ProposeResponse where
  incidentId : String
  scope : Scope
  action : ResponseAction
  reason : String
  expectedImpact : String
  risk : String
  rollbackPlan : String
  expiresAt : Option Datetime
  requestedBy : String
  accessPrincipalId : Option String

structure DecideResponseApproval where
  proposalId : String
  scope : Scope
  decidedBy : String
  decision : String
  rationale : String
  accessPrincipalId : Option String

section Service

variable (codec : Codec) (secretLike : Value → Bool) (env : Surroundings)

def ProposeResponse.serviceArgs (call : ProposeResponse) (incident : Incident) :
    ResponseProposalService.ProposeArgs :=
  ⟨incident, call.action, call.reason, call.expectedImpact, call.risk, call.rollbackPlan,
    call.expiresAt⟩

/-- The part of `propose_response` that only reads. -/
def ProposeResponse.prepare (call : ProposeResponse) (db : Database) :
    Except Raised ResponseProposal := do
  requireOperator db call.requestedBy call.accessPrincipalId
  raiseIf (secretLike (.obj [("incident_id", .str call.incidentId), ("reason", .str call.reason),
      ("expected_impact", .str call.expectedImpact), ("risk", .str call.risk),
      ("rollback_plan", .str call.rollbackPlan)])) .valueError
      "live control-plane text must not contain secret-like content"
  let loaded ← loadIncident db call.incidentId call.scope
  let incident ← orRaise loaded .keyError "incident not found"
  (ResponseProposalService.propose ⟨codec, some call.scope, []⟩ (registry incident.incidentId incident)
    env.now (fun base => .ok (some (CanonicalResponsePolicy.decide env.client base)))
    (call.serviceArgs incident) ResponseProposalService.init).1

def proposeResponse (call : ProposeResponse) : Effect Database ResponseProposal := fun db =>
  match call.prepare codec secretLike env db with
  | .error e => (.error e, db)
  | .ok proposal =>
    match persistResponseProposal codec secretLike env.committed proposal call.requestedBy db with
    | .error e => (.error e, db)
    | .ok ((), db') => (.ok proposal, db')

/-- The context on which the policy is asked again before an approval. -/
def policyContext (p : ResponseProposal) : Value := .obj
  [("incident_id", .str p.incidentId), ("scope", p.scope.toValue), ("target_id", .str p.targetId),
    ("action", .str p.action.value), ("reason", .str p.reason),
    ("supporting_evidence_refs", .arr (p.supportingEvidenceRefs.map .str)),
    ("expected_impact", .str p.expectedImpact), ("risk", .str p.risk),
    ("rollback_plan", .str p.rollbackPlan), ("expires_at", .str (codec.isoformat p.expiresAt)),
    ("proposal_digest", .str p.proposalDigest)]

def DecideResponseApproval.candidate (call : DecideResponseApproval) (approval : Approval)
    (p : ResponseProposal) : HumanApproval where
  approvalId := approval.approvalId
  proposalId := p.proposalId
  proposalDigest := p.proposalDigest
  scope := p.scope
  targetId := p.targetId
  action := p.action
  decision := .approved
  decidedBy := call.decidedBy
  decidedAt := env.dated
  source := "human_operator"
  expiresAt := p.expiresAt

/-- Bind the stored proposal to a fresh service and approve it there. -/
def serviceApproves (call : DecideResponseApproval) (incident : Incident) (p : ResponseProposal)
    (candidate : HumanApproval) : Except Raised Unit :=
  let cfg : ResponseProposalService.Config := ⟨codec, some call.scope, [call.decidedBy]⟩
  match ResponseProposalService.bindCanonicalProposal cfg (registry incident.incidentId incident) p
      ResponseProposalService.init with
  | (.error e, _) => .error e
  | (.ok _, service) =>
    (ResponseProposalService.approve cfg (registry candidate.approvalId candidate) env.now candidate
      service).1.map fun _ => ()

/-- What an approval asks for before it is recorded. -/
def DecideResponseApproval.approvable (call : DecideResponseApproval) (db : Database)
    (p : ResponseProposal) (approval : Approval) : Except Raised Unit := do
  raiseIf (CanonicalResponsePolicy.decide env.client (policyContext codec p) = .deny) .permissionError
      "current OPA policy denies the response proposal"
  let candidate ← (call.candidate env approval p).validate
  let loaded ← loadIncident db p.incidentId call.scope
  let incident ← orRaise loaded .adjudicationRefused "response proposal incident is not canonical"
  serviceApproves codec env call incident p candidate

/-- The part of `decide_response_approval` that only reads: the proposal and the state to record. -/
def DecideResponseApproval.prepare (call : DecideResponseApproval) (db : Database) :
    Except Raised (ResponseProposal × HumanApprovalState) := do
  requireOperator db call.decidedBy call.accessPrincipalId
  raiseIf (secretLike (.obj [("rationale", .str call.rationale)])) .valueError
      "live control-plane text must not contain secret-like content"
  let loaded ← loadProposal db call.proposalId call.scope
  let p ← orRaise loaded .keyError "response proposal not found"
  let row ← approvalRow codec p db
  if call.decision = "denied" then return (p, .denied)
  else
    raiseIf (call.decision ≠ "approved") .valueError "approval decision must be approved or denied"
    call.approvable codec env db p (approvalFromRow row)
    return (p, .approved)

/-- `none` where the proposal has disappeared. -/
def decideResponseApproval (call : DecideResponseApproval) :
    Effect Database (Option ResponseProposal) := fun db =>
  match call.prepare codec secretLike env db with
  | .error e => (.error e, db)
  | .ok (p, state) =>
    match decideApproval codec secretLike env.committed p call.decidedBy call.decision state.value
        call.rationale db with
    | .error e => (.error e, db)
    | .ok (_, db') => (loadProposal db' call.proposalId call.scope, db')

inductive Call where
  | proposeResponse (call : ProposeResponse)
  | decideResponseApproval (call : DecideResponseApproval)

def Call.exec : Call → Effect Database Unit
  | .proposeResponse call => Effect.discard (LiveIncidentControlPlane.proposeResponse codec secretLike env call)
  | .decideResponseApproval call =>
    Effect.discard (LiveIncidentControlPlane.decideResponseApproval codec secretLike env call)

end Service

end SecScanMonitor.Application.LiveIncidentControlPlane
