import SecScanMonitor.Domain.Authority
import SecScanMonitor.Domain.Documents

/-! `DeterministicDecisionAdapter`, the in-memory mirror of the kernel. -/

namespace SecScanMonitor.Policy.DeterministicDecisionAdapter

open Foundations Domain Domain.Documents

def knownActions : List String := ["inspect", "collect", "active_test", "mutate", "remediate"]
def mutation : List String := ["mutate", "remediate", "active_test"]
def highRisk : List String := ["critical", "high"]
def workingStatuses : List String :=
  ["authorized", "active", "evidence_collection", "analysis", "adjudication", "reporting",
    "remediation"]

def differs (v w : Value) : Bool := v.truthy && !v.pyEq w

/-- `decide` on a request document. The comment above the capability check swallows the `if` that
would refuse a mutation without remediation authority, and its `return` is left behind as an
unreachable statement of the branch before it. -/
def decide (request : Value) : Except Raised PolicyDecision := do
  let action ← getKey request "action"
  let capability ← getKeyD request "capability" (.obj [])
  let engagement ← getKeyD request "engagement" (.obj [])
  let target ← getKeyD request "target" (.obj [])
  let grant ← getKeyD request "authority_grant" (.obj [])
  let approval ← getKeyD request "approval" (.obj [])
  if !action.truthy then return .deny
  if !(← inStrings action knownActions) then return .deny
  if !(← getKey capability "id").truthy then return .deny
  if (← getKey capability "registered") ≠ .bool true then return .deny
  if !(← inStrings (← getKey engagement "status") workingStatuses) then return .deny
  if !(← inStrings (← getKey engagement "authority_level") ["inspection-only", "remediation"]) then
    return .deny
  if !(← inside (← getKey target "id") (← getKeyD engagement "target_ids" (.arr []))) then return .deny
  if ← grantRefused request grant engagement capability target action then return .deny
  if differs (← getKey capability "required_authority") action then return .deny
  let approved ← recordedApproval approval target capability action engagement
  let high ← highRiskRequest capability request
  if high && !approved then return .requireApproval
  return .allow
where
  within (condition : String) (conditions : List Value) : Bool :=
    conditions.any (Value.pyEq (.str condition))
  oneGrant : Value → Bool
    | .arr [grantId] => grantId.truthy
    | _ => false
  principalRefused (request grant : Value) : Except Raised Bool := do
    let principalId ← getKey grant "principal_id"
    if !principalId.truthy then return false
    return !principalId.pyEq (← getKey (← getKeyD request "principal" (.obj [])) "id")
  snapshotRefused (conditions : List Value) (request : Value) : Except Raised Bool := do
    if !within "immutable_snapshot_only" conditions then return false
    return !(← getKey (← getKeyD request "requested_resources" (.obj [])) "snapshot").truthy
  grantRefused (request grant engagement capability target action : Value) :
      Except Raised Bool := do
    if !(← getKey grant "matched").truthy then return true
    if !oneGrant (← getKeyD grant "grant_ids" (.arr [])) then return true
    if ← principalRefused request grant then return true
    if differs (← getKey grant "engagement_id") (← getKey engagement "id") then return true
    if differs (← getKey grant "capability_id") (← getKey capability "id") then return true
    if differs (← getKey grant "target_id") (← getKey target "id") then return true
    if differs (← getKey grant "action") action then return true
    let conditions ← toSet (← getKeyD grant "conditions" (.arr []))
    if ← snapshotRefused conditions request then return true
    if (← inStrings action mutation) && within "no_client_writes" conditions then return true
    return within "no_production_active_testing" conditions && action.pyEq (.str "active_test")
  recordedApproval (approval target capability action engagement : Value) : Except Raised Bool := do
    if (← getKey approval "recorded") ≠ .bool true then return false
    if !(← getKey approval "id").truthy then return false
    if !(← getKey approval "decision").pyEq (.str "approved") then return false
    if !(← getKey approval "decided_by_principal_id").truthy then return false
    if !(← getKey approval "target_id").pyEq (← getKey target "id") then return false
    if !(← getKey approval "capability_id").pyEq (← getKey capability "id") then return false
    if !(← getKey approval "action").pyEq action then return false
    return (← getKey approval "engagement_id").pyEq (← getKey engagement "id")
  highRiskRequest (capability request : Value) : Except Raised Bool := do
    if ← inStrings (← getKey capability "risk_class") highRisk then return true
    if ← inStrings (← getKey request "risk") highRisk then return true
    return (← getKey capability "requires_approval").truthy

end SecScanMonitor.Policy.DeterministicDecisionAdapter
