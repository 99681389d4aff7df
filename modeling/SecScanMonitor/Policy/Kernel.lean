import SecScanMonitor.Domain.Authority
import SecScanMonitor.Foundations.Rego

/-! The authorization kernel `policy/kernel.rego`, rule by rule, over an arbitrary input document. -/

namespace SecScanMonitor.Policy.Kernel

open Foundations Foundations.Rego Domain

def knownActions : List String := ["inspect", "collect", "active_test", "mutate", "remediate"]
def knownEngagementAuthorityLevels : List String := ["inspection-only", "remediation"]
def mutationActions : List String := ["mutate", "remediate", "active_test"]
def highRiskClasses : List String := ["critical", "high"]
def workingEngagementStatuses : List String :=
  ["authorized", "active", "evidence_collection", "analysis", "adjudication", "reporting",
    "remediation"]

variable (input : Value)

def capabilityRegistered : Bool :=
  (ref input ["capability", "id"]).holds &&
    neq (ref input ["capability", "id"]) (some (.str "")) &&
    eq (ref input ["capability", "registered"]) (some (.bool true))

def engagementWorking : Bool :=
  (ref input ["engagement", "status"]).among workingEngagementStatuses

def knownEngagementAuthorityLevel : Bool :=
  (ref input ["engagement", "authority_level"]).among knownEngagementAuthorityLevels

def targetInEngagementScope : Bool :=
  member (ref input ["target", "id"]) (ref input ["engagement", "target_ids"])

def grantMatched : Bool := (ref input ["authority_grant", "matched"]).holds

def actionKnown : Bool := (ref input ["action"]).among knownActions

def actionMutates : Bool := (ref input ["action"]).among mutationActions

def actionAllowedByEngagementLevel : Bool :=
  !actionMutates input ||
    (eq (ref input ["engagement", "authority_level"]) (some (.str "remediation")) &&
      actionMutates input)

def capabilityAuthorityRequired : Bool :=
  (ref input ["capability", "required_authority"]).holds &&
    neq (ref input ["capability", "required_authority"]) (some (.str ""))

def capabilityAuthorityOk : Bool :=
  !capabilityAuthorityRequired input ||
    eq (ref input ["action"]) (ref input ["capability", "required_authority"])

def highRiskOperation : Bool :=
  (ref input ["capability", "risk_class"]).among highRiskClasses ||
    (ref input ["risk"]).among highRiskClasses

def capabilityRequiresApproval : Bool := (ref input ["capability", "requires_approval"]).holds

def approved : Bool :=
  eq (ref input ["approval", "recorded"]) (some (.bool true)) &&
    neq (ref input ["approval", "id"]) (some (.str "")) &&
    eq (ref input ["approval", "decision"]) (some (.str "approved")) &&
    neq (ref input ["approval", "decided_by_principal_id"]) (some (.str "")) &&
    eq (ref input ["approval", "target_id"]) (ref input ["target", "id"]) &&
    eq (ref input ["approval", "capability_id"]) (ref input ["capability", "id"]) &&
    eq (ref input ["approval", "action"]) (ref input ["action"]) &&
    eq (ref input ["approval", "engagement_id"]) (ref input ["engagement", "id"])

/-- The shape shared by the five `grant_*_ok` rules: the grant leaves the field out, leaves it empty,
or repeats the request's value. -/
def grantFieldOk (field : String) (requested : List String) : Bool :=
  !(ref input ["authority_grant", field]).holds ||
    eq (ref input ["authority_grant", field]) (some (.str "")) ||
    eq (ref input ["authority_grant", field]) (ref input requested)

def grantPrincipalOk : Bool := grantFieldOk input "principal_id" ["principal", "id"]
def grantEngagementOk : Bool := grantFieldOk input "engagement_id" ["engagement", "id"]
def grantCapabilityOk : Bool := grantFieldOk input "capability_id" ["capability", "id"]
def grantTargetOk : Bool := grantFieldOk input "target_id" ["target", "id"]
def grantActionOk : Bool := grantFieldOk input "action" ["action"]

def grantRequires (condition : String) : Bool :=
  member (some (.str condition)) (ref input ["authority_grant", "conditions"])

def grantRequiresSnapshot : Bool := grantRequires input "immutable_snapshot_only"
def grantRequiresNoClientWrites : Bool := grantRequires input "no_client_writes"
def grantRequiresNoActiveTesting : Bool := grantRequires input "no_production_active_testing"

def snapshotConditionOk : Bool :=
  !grantRequiresSnapshot input ||
    (grantRequiresSnapshot input &&
      neq (ref input ["requested_resources", "snapshot"]) (some (.str "")))

def noClientWritesConditionOk : Bool :=
  !grantRequiresNoClientWrites input ||
    (grantRequiresNoClientWrites input && !actionMutates input)

def noActiveTestingConditionOk : Bool :=
  !grantRequiresNoActiveTesting input ||
    (grantRequiresNoActiveTesting input && neq (ref input ["action"]) (some (.str "active_test")))

def grantConditionsOk : Bool :=
  snapshotConditionOk input && noClientWritesConditionOk input && noActiveTestingConditionOk input

def grantBindingOk : Bool :=
  eq (count (ref input ["authority_grant", "grant_ids"])) (some (.int 1)) &&
    neq ((ref input ["authority_grant", "grant_ids"]).nth 0) (some (.str "")) &&
    grantPrincipalOk input && grantEngagementOk input && grantCapabilityOk input &&
    grantTargetOk input && grantActionOk input && grantConditionsOk input

def authorizationGatesOk : Bool :=
  capabilityRegistered input && engagementWorking input && knownEngagementAuthorityLevel input &&
    targetInEngagementScope input && grantMatched input && actionAllowedByEngagementLevel input &&
    capabilityAuthorityOk input

def decisionClauses : List (PolicyDecision × Bool) :=
  [(.deny, !actionKnown input),
    (.deny, !capabilityRegistered input),
    (.deny, !engagementWorking input),
    (.deny, !knownEngagementAuthorityLevel input),
    (.deny, !targetInEngagementScope input),
    (.deny, !grantMatched input),
    (.deny, grantMatched input && !grantBindingOk input),
    (.deny, grantMatched input && !actionAllowedByEngagementLevel input),
    (.deny, grantMatched input && capabilityAuthorityRequired input &&
      neq (ref input ["action"]) (ref input ["capability", "required_authority"])),
    (.requireApproval,
      authorizationGatesOk input && highRiskOperation input && !approved input),
    (.requireApproval,
      authorizationGatesOk input && capabilityRequiresApproval input && !approved input),
    (.allow,
      authorizationGatesOk input && !highRiskOperation input && !capabilityRequiresApproval input),
    (.allow, authorizationGatesOk input && approved input)]

def decision : Except Conflict PolicyDecision := complete .deny (decisionClauses input)

def result : Except Conflict Value :=
  (decision input).map fun d => .obj
    [("decision", .str d.value),
      ("target_in_scope", .bool (targetInEngagementScope input)),
      ("grant_matched", .bool (grantMatched input)),
      ("engagement_working", .bool (engagementWorking input))]

/-- Some body of `decision` with this value holds. -/
def Derives (d : PolicyDecision) : Prop := d ∈ derived (decisionClauses input)

instance (d : PolicyDecision) : Decidable (Derives input d) :=
  inferInstanceAs (Decidable (d ∈ derived (decisionClauses input)))

end SecScanMonitor.Policy.Kernel
