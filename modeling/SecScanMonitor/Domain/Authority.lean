import SecScanMonitor.Domain.Errors
import Mathlib.Data.Int.Notation

/-! Authority records: grants, approvals and the policy decision (`domain/authority.py`,
`domain/common.py`). Times are UTC instants in microseconds, the reading `_as_utc` gives every stored datetime. -/

namespace SecScanMonitor.Domain

abbrev Datetime := Int

def Datetime.addSeconds (t : Datetime) (seconds : Int) : Datetime := t + 1000000 * seconds

inductive Action where
  | inspect
  | collect
  | activeTest
  | mutate
  | remediate
  deriving Repr, DecidableEq

def Action.value : Action → String
  | .inspect => "inspect"
  | .collect => "collect"
  | .activeTest => "active_test"
  | .mutate => "mutate"
  | .remediate => "remediate"

lemma Action.value_injective : Function.Injective Action.value := by
  intro a b h
  cases a <;> cases b <;> simp_all [Action.value]

inductive PolicyDecision where
  | allow
  | deny
  | requireApproval
  deriving Repr, DecidableEq

def PolicyDecision.value : PolicyDecision → String
  | .allow => "allow"
  | .deny => "deny"
  | .requireApproval => "require_approval"

structure AuthorityGrant where
  grantId : String
  engagementId : String
  principalId : String
  action : Action
  capabilityId : Option String
  targetId : Option String
  conditions : List String
  notBefore : Datetime
  notAfter : Option Datetime
  revokedAt : Option Datetime
  deriving Repr, DecidableEq

def AuthorityGrant.isActive (g : AuthorityGrant) (now : Datetime) (action : Option Action) : Bool :=
  if g.revokedAt.any (fun t => decide (t ≤ now)) then false
  else if now < g.notBefore then false
  else if g.notAfter.any (fun t => decide (t ≤ now)) then false
  else action.all (fun a => decide (g.action = a))

structure Approval where
  approvalId : String
  engagementId : String
  requestedByPrincipalId : String
  decidedByPrincipalId : Option String
  requestRef : String
  targetId : String
  capabilityId : String
  action : Action
  decision : String
  decidedAt : Option Datetime
  rationale : String
  deriving Repr, DecidableEq

def Approval.decide (a : Approval) (now : Datetime) (decision principal rationale : String) :
    Except Raised Approval :=
  if decision ≠ "approved" ∧ decision ≠ "denied" then
    raise .valueError ("Invalid approval decision: " ++ decision)
  else
    .ok { a with
      decision, rationale, decidedByPrincipalId := some principal, decidedAt := some now }

end SecScanMonitor.Domain
