import SecScanMonitor.Domain.Capability
import SecScanMonitor.Domain.Engagement
import SecScanMonitor.Foundations.Dict
import SecScanMonitor.Foundations.Value
import SecScanMonitor.Policy.Kernel

/-! `AuthorityService.decide`: the policy input built for a capability request, and the decision taken
on it (`application/authority_service.py`). -/

namespace SecScanMonitor.Application

open Foundations Domain

structure CapabilityRequest where
  principalId : String
  agentId : Option String
  engagementId : String
  targetId : String
  capabilityId : String
  action : Action
  risk : String
  authorityGrantId : Option String
  approvalId : Option String
  workflowPhase : String
  requestedResources : Dict String String

structure AuditEvent where
  engagementId : String
  principalId : String
  summary : String
  details : List (String × String)
  deriving Repr, DecidableEq

namespace AuthorityService

def matching (request : CapabilityRequest) (grants : List AuthorityGrant) (now : Datetime) :
    List AuthorityGrant :=
  grants.filter fun g =>
    decide (request.authorityGrantId = some g.grantId) &&
      decide (g.engagementId = request.engagementId) &&
      decide (g.principalId = request.principalId) &&
      g.capabilityId.all (fun c => decide (c = request.capabilityId)) &&
      g.targetId.all (fun t => decide (t = request.targetId)) &&
      g.isActive now (some request.action)

def grantInput (request : CapabilityRequest) (grants : List AuthorityGrant) (now : Datetime) :
    Value :=
  match matching request grants now with
  | [] => .obj
    [("matched", .bool false), ("grant_ids", .arr []), ("conditions", .arr []),
      ("principal_id", .str ""), ("engagement_id", .str ""), ("capability_id", .str ""),
      ("target_id", .str ""), ("action", .str "")]
  | grant :: _ => .obj
    [("matched", .bool true), ("grant_ids", .arr [.str grant.grantId]),
      ("conditions", .arr (grant.conditions.map .str)),
      ("principal_id", .str grant.principalId), ("engagement_id", .str grant.engagementId),
      ("capability_id", .str (grant.capabilityId.getD "")),
      ("target_id", .str (grant.targetId.getD "")), ("action", .str grant.action.value)]

def approvalInput : Option Approval → Value
  | none => .obj
    [("id", .str ""), ("recorded", .bool false), ("decision", .str "pending"),
      ("target_id", .str ""), ("capability_id", .str ""), ("action", .str ""),
      ("engagement_id", .str ""), ("decided_by_principal_id", .str "")]
  | some approval => .obj
    [("id", .str approval.approvalId), ("recorded", .bool true),
      ("decision", .str approval.decision), ("target_id", .str approval.targetId),
      ("capability_id", .str approval.capabilityId), ("action", .str approval.action.value),
      ("engagement_id", .str approval.engagementId),
      ("decided_by_principal_id", .str (approval.decidedByPrincipalId.getD ""))]

def engagementInput (request : CapabilityRequest) (engagement : Engagement) : Value := .obj
  [("id", .str request.engagementId), ("status", .str engagement.status.value),
    ("authority_level", .str engagement.authorityLevel.value),
    ("target_ids", .arr (engagement.targetIds.map .str))]

def capabilityInput (canonicalCapability : CapabilityManifest) : Value := .obj
  [("id", .str canonicalCapability.capabilityId), ("registered", .bool true),
    ("risk_class", .str canonicalCapability.riskClass.value),
    ("requires_approval", .bool canonicalCapability.requiresApproval),
    ("required_authority", .str canonicalCapability.requiredAuthority)]

def resourcesInput (request : CapabilityRequest) : Value :=
  .obj (request.requestedResources.rows.map fun e => (e.1, .str e.2))

def policyInput (request : CapabilityRequest) (engagement : Engagement)
    (grants : List AuthorityGrant) (canonicalCapability : CapabilityManifest)
    (approval : Option Approval) (now : Datetime) : Value := .obj
  [("principal", .obj [("id", .str request.principalId)]),
    ("agent", match request.agentId with
      | none | some "" => .obj []
      | some agentId => .obj [("id", .str agentId)]),
    ("engagement", engagementInput request engagement),
    ("target", .obj [("id", .str request.targetId)]),
    ("capability", capabilityInput canonicalCapability),
    ("action", .str request.action.value),
    ("risk", .str request.risk),
    ("authority_grant", grantInput request grants now),
    ("approval", approvalInput approval),
    ("workflow_phase", .str request.workflowPhase),
    ("requested_resources", resourcesInput request)]

section Decide

variable (policy : Value → Except Raised PolicyDecision) (append : AuditEvent → Except Raised Unit)
  (inputSha256 : Value → String)

def unknownCapabilityEvent (request : CapabilityRequest) : AuditEvent where
  engagementId := request.engagementId
  principalId := request.principalId
  summary := "unknown capability " ++ request.capabilityId ++ ": deny"
  details := [("decision", PolicyDecision.deny.value),
    ("input_sha256", inputSha256 (.obj
      [("capability_id", .str request.capabilityId), ("engagement_id", .str request.engagementId)]))]

def decisionEvent (request : CapabilityRequest) (input : Value) (decision : PolicyDecision) :
    AuditEvent where
  engagementId := request.engagementId
  principalId := request.principalId
  summary := "capability request " ++ request.capabilityId ++ " on " ++ request.targetId ++ ": " ++
    decision.value
  details :=
    [("capability_id", request.capabilityId), ("target_id", request.targetId),
      ("action", request.action.value), ("decision", decision.value),
      ("input_sha256", inputSha256 input), ("grant_id", request.authorityGrantId.getD ""),
      ("approval_id", request.approvalId.getD ""), ("agent_id", request.agentId.getD ""),
      ("workflow_phase", request.workflowPhase),
      ("snapshot", (request.requestedResources.find? "snapshot").getD "")]

def decide (registry : CapabilityRegistry) (request : CapabilityRequest) (engagement : Engagement)
    (grants : List AuthorityGrant) (approval : Option Approval) (now : Datetime) :
    Except Raised PolicyDecision :=
  match registry.get request.capabilityId with
  | .error e =>
    if e.kind = .unknownCapabilityError then do
      append (unknownCapabilityEvent inputSha256 request)
      return .deny
    else .error e
  | .ok canonicalCapability => do
    let input := policyInput request engagement grants canonicalCapability approval now
    let decision ← policy input
    append (decisionEvent inputSha256 request input decision)
    return decision

/-- An allowed request is one whose policy input the policy allows. -/
lemma policy_of_decide_allow {registry : CapabilityRegistry} {request : CapabilityRequest}
    {engagement : Engagement} {grants : List AuthorityGrant} {approval : Option Approval}
    {now : Datetime}
    (h : decide policy append inputSha256 registry request engagement grants approval now =
      .ok .allow) :
    ∃ manifest, registry.get request.capabilityId = .ok manifest ∧
      policy (policyInput request engagement grants manifest approval now) = .ok .allow := by
  simp only [decide] at h
  split at h
  · split at h
    · obtain ⟨_, -, hd⟩ := bind_eq_ok.mp h
      cases hd
    · cases h
  · rename_i manifest hm
    obtain ⟨d, hd, h⟩ := bind_eq_ok.mp h
    obtain ⟨_, -, h⟩ := bind_eq_ok.mp h
    obtain rfl : d = .allow := Except.ok.inj h
    exact ⟨manifest, hm, hd⟩

end Decide

end AuthorityService

end SecScanMonitor.Application
