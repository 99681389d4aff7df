import SecScanMonitor.DetectionResponse.Domain
import SecScanMonitor.Foundations.Dict
import SecScanMonitor.Foundations.Runs

/-! `ResponseProposalService`: the in-memory lifecycle of response proposals. The registries of
canonical records and the clock are read afresh by every call. -/

namespace SecScanMonitor.DetectionResponse.ResponseProposalService

open Foundations Domain

structure Config where
  codec : Codec
  scope : Option Scope
  canonicalApproverIds : List String

structure State where
  proposals : Dict String ResponseProposal
  requests : Dict String CapabilityRequest

def init : State := ⟨Table.empty, Table.empty⟩

/-- `self._proposals[p.proposal_id] = p` -/
def State.store (s : State) (p : ResponseProposal) : State :=
  { s with proposals := s.proposals.set p.proposalId p }

def refuse {α : Type} (message : String) : Except Raised α :=
  raise .responseAuthorizationError message

abbrev refuseIf (c : Prop) [Decidable c] (message : String) : Except Raised Unit :=
  raiseIf c .responseAuthorizationError message

def requireScope (cfg : Config) (scope : Scope) : Except Raised Unit :=
  if cfg.scope.all (fun bound => decide (bound = scope)) then .ok ()
  else raise .detectionScopeError "response access crossed the bound tenant/case/target scope"

structure ProposeArgs where
  incident : Incident
  action : ResponseAction
  reason : String
  expectedImpact : String
  risk : String
  rollbackPlan : String
  /-- `none` is a datetime without a time zone. -/
  expiresAt : Option Datetime

def sortedRefs (incident : Incident) : List String :=
  incident.supportingEvidenceRefs.insertionSort (· ≤ ·)

def ProposeArgs.base (args : ProposeArgs) (codec : Codec) (expiry : Datetime) : Value := .obj
  [("incident_id", .str args.incident.incidentId),
    ("scope", args.incident.scope.toValue),
    ("target_id", .str args.incident.scope.targetId),
    ("action", .str args.action.value),
    ("reason", .str args.reason),
    ("supporting_evidence_refs", .arr ((sortedRefs args.incident).map .str)),
    ("expected_impact", .str args.expectedImpact),
    ("risk", .str args.risk),
    ("rollback_plan", .str args.rollbackPlan),
    ("expires_at", .str (codec.isoformat expiry))]

def ProposeArgs.digest (args : ProposeArgs) (codec : Codec) (expiry : Datetime) : String :=
  codec.contentDigest (args.base codec expiry)

def ProposeArgs.proposal (args : ProposeArgs) (codec : Codec) (expiry : Datetime)
    (decision : OpaDecision) : ResponseProposal where
  proposalId := stableId codec "RP-" [.str (args.digest codec expiry)]
  incidentId := args.incident.incidentId
  scope := args.incident.scope
  targetId := args.incident.scope.targetId
  action := args.action
  reason := args.reason
  supportingEvidenceRefs := sortedRefs args.incident
  expectedImpact := args.expectedImpact
  risk := args.risk
  rollbackPlan := args.rollbackPlan
  expiresAt := expiry
  proposalDigest := args.digest codec expiry
  opaDecision := decision
  humanApprovalState := if decision = .deny then .denied else .approvalRequired

/-- The comparison `propose` makes with a stored proposal of the same id. -/
def sameContent (p q : ResponseProposal) : Bool :=
  p.incidentId = q.incidentId && p.scope = q.scope && p.targetId = q.targetId &&
    p.action = q.action && p.reason = q.reason &&
    p.supportingEvidenceRefs = q.supportingEvidenceRefs && p.expectedImpact = q.expectedImpact &&
    p.risk = q.risk && p.rollbackPlan = q.rollbackPlan && p.expiresAt = q.expiresAt &&
    p.proposalDigest = q.proposalDigest

section Operations

variable (cfg : Config)

def proposeChecks (incidents : String → Option Incident) (now : Datetime) (args : ProposeArgs) :
    Except Raised Datetime := do
  requireScope cfg args.incident.scope
  refuseIf (incidents args.incident.incidentId ≠ some args.incident)
      "response proposal requires the canonical adjudicated incident"
  refuseIf (args.incident.state ≠ .confirmed) "response proposals require a CONFIRMED incident"
  match args.expiresAt with
  | none => refuse "response proposal expiration must be timezone-aware"
  | some expiry =>
    refuseIf (expiry ≤ now) "response proposal expiration must be in the future"
    refuseIf (args.incident.supportingEvidenceRefs = [])
      "response proposal requires incident evidence"
    return expiry

/-- `policy` answers with `none` when it returns something other than an `OpaDecision`. -/
def propose (incidents : String → Option Incident) (now : Datetime)
    (policy : Value → Except Raised (Option OpaDecision)) (args : ProposeArgs) :
    Effect State ResponseProposal := fun s =>
  match proposeChecks cfg incidents now args with
  | .error e => (.error e, s)
  | .ok expiry =>
    let proposed := args.proposal cfg.codec expiry .deny
    match s.proposals.find? proposed.proposalId with
    | some existing =>
      if sameContent existing proposed then (.ok existing, s)
      else (refuse "response proposal identity was reused for different content", s)
    | none =>
      match policy (args.base cfg.codec expiry) with
      | .error e => (.error e, s)
      | .ok answer =>
        match (args.proposal cfg.codec expiry (answer.getD .deny)).validate with
        | .error e => (.error e, s)
        | .ok proposal =>
          (.ok proposal, s.store proposal)

def capabilityRequest (now : Datetime) (proposal : ResponseProposal) (scope : Option Scope) :
    Effect State CapabilityRequest := fun s =>
  let requested := scope.getD proposal.scope
  match requireScope cfg requested with
  | .error e => (.error e, s)
  | .ok () =>
    match s.proposals.find? proposal.proposalId with
    | none => (refuse "capability request was not bound to the canonical proposal", s)
    | some stored =>
      if stored.proposalDigest ≠ proposal.proposalDigest ∨ stored.scope ≠ requested then
        (refuse "capability request was not bound to the canonical proposal", s)
      else if stored.humanApprovalState ≠ .approvalRequired then
        (refuse "capability request is not approval-gated", s)
      else
        let requestId :=
          stableId cfg.codec "CAPREQ-" [.str stored.proposalId, .str stored.proposalDigest]
        let request : CapabilityRequest :=
          { requestId, proposalId := stored.proposalId, scope := stored.scope,
            targetId := stored.targetId, action := stored.action,
            proposalDigest := stored.proposalDigest, requestedAt := now }
        match s.requests.find? requestId with
        | some existing =>
          if existing.proposalId = request.proposalId ∧ existing.scope = request.scope ∧
              existing.targetId = request.targetId ∧ existing.action = request.action ∧
              existing.proposalDigest = request.proposalDigest then (.ok existing, s)
          else (refuse "capability request identity was reused for different content", s)
        | none => (.ok request, { s with requests := s.requests.set requestId request })

def bindCanonicalProposal (incidents : String → Option Incident) (proposal : ResponseProposal) :
    Effect State ResponseProposal := fun s =>
  match requireScope cfg proposal.scope with
  | .error e => (.error e, s)
  | .ok () =>
    if (incidents proposal.incidentId).all (fun i => decide (i.state ≠ .confirmed)) then
      (refuse "response proposal requires the canonical adjudicated incident", s)
    else if proposal.supportingEvidenceRefs = [] ∨ proposal.authorizedActionExecuted = true then
      (refuse "canonical response proposal is not approval-eligible", s)
    else if (s.proposals.find? proposal.proposalId).any (fun p => decide (p ≠ proposal)) then
      (refuse "response proposal identity was reused for different content", s)
    else (.ok proposal, s.store proposal)

/-- The checks of `approve` once the approval's proposal is found. -/
def approveChecks (now : Datetime) (approval : HumanApproval) (proposal : ResponseProposal) :
    Except Raised Unit := do
  refuseIf (proposal.expiresAt ≤ now ∨ approval.expiresAt ≤ now) "approval or proposal is expired"
  refuseIf (approval.decidedAt > now) "approval decision cannot be dated in the future"
  refuseIf (approval.expiresAt > proposal.expiresAt) "approval cannot outlive the response proposal"
  refuseIf (approval.expiresAt < approval.decidedAt)
      "approval expiration cannot precede its decision"
  refuseIf (approval.source ≠ "human_operator" ∨ approval.decision ≠ .approved)
      "only an exact human_operator approval can approve a proposal"
  refuseIf (approval.proposalDigest ≠ proposal.proposalDigest ∨ approval.scope ≠ proposal.scope ∨
      approval.targetId ≠ proposal.targetId ∨ approval.action ≠ proposal.action)
      "approval is not bound to the exact proposal scope and digest"
  refuseIf (proposal.opaDecision = .deny) "OPA denied the response proposal"

def approve (approvals : String → Option HumanApproval) (now : Datetime) (approval : HumanApproval) :
    Effect State ResponseProposal := fun s =>
  if approvals approval.approvalId ≠ some approval then
    (refuse "approval is not the canonical approval record", s)
  else if approval.decidedBy ∉ cfg.canonicalApproverIds then
    (refuse "approval is not bound to a canonical human approver", s)
  else
    match s.proposals.find? approval.proposalId with
    | none => (refuse "approval references an unknown proposal", s)
    | some proposal =>
      match approveChecks now approval proposal with
      | .error e => (.error e, s)
      | .ok () =>
        let updated := { proposal with humanApprovalState := .approved }
        (.ok updated, s.store updated)

def get (proposalId : String) (scope : Scope) : Effect State ResponseProposal := fun s =>
  match requireScope cfg scope with
  | .error e => (.error e, s)
  | .ok () =>
    match s.proposals.find? proposalId with
    | none =>
      (raise .detectionScopeError "response proposal is absent or outside the requested scope", s)
    | some proposal =>
      if proposal.scope ≠ scope then
        (raise .detectionScopeError "response proposal is absent or outside the requested scope", s)
      else (.ok proposal, s)

def execute (proposalId : String) (scope : Scope) : Effect State Unit := fun s =>
  match get cfg proposalId scope s with
  | (.error e, s) => (.error e, s)
  | (.ok _, s) => (raise .responseExecutionDisabled
      "AUTHORIZED_ACTION_EXECUTED=NO: v0.3 has no response executor", s)

end Operations

inductive Call where
  | propose (incidents : String → Option Incident) (now : Datetime)
      (policy : Value → Except Raised (Option OpaDecision)) (args : ProposeArgs)
  | bindCanonicalProposal (incidents : String → Option Incident) (proposal : ResponseProposal)
  | capabilityRequest (now : Datetime) (proposal : ResponseProposal) (scope : Option Scope)
  | approve (approvals : String → Option HumanApproval) (now : Datetime) (approval : HumanApproval)
  | execute (proposalId : String) (scope : Scope)

def exec (cfg : Config) : Call → Effect State Unit
  | .propose incidents now policy args => Effect.discard (propose cfg incidents now policy args)
  | .bindCanonicalProposal incidents proposal =>
    Effect.discard (bindCanonicalProposal cfg incidents proposal)
  | .capabilityRequest now proposal scope =>
    Effect.discard (capabilityRequest cfg now proposal scope)
  | .approve approvals now approval => Effect.discard (approve cfg approvals now approval)
  | .execute proposalId scope => execute cfg proposalId scope

def Step (cfg : Config) (s s' : State) : Prop := ∃ call, (exec cfg call s).2 = s'

end SecScanMonitor.DetectionResponse.ResponseProposalService
