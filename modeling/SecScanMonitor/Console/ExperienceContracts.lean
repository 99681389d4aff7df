import SecScanMonitor.Foundations.Value

/-! The snapshots that the console accepts (`isExperienceSnapshot` of
`secscan-experience-contracts/src/index.ts`) and the statuses that it shows for raw values
(`mapExperienceStatus` of `web/lib/api/client.ts`). -/

namespace SecScanMonitor.Console

open Foundations

def experienceStatuses : List String :=
  ["NEW", "CHANGED", "RESOLVED", "DENIED", "APPROVAL_REQUIRED", "INCONCLUSIVE", "UNAVAILABLE", "DEGRADED",
    "VERIFIED", "CONTRADICTED", "CANDIDATE", "CONFIRMED", "DISMISSED", "APPROVED", "EXPIRED", "UNKNOWN"]

def dataModes : List String := ["PREVIEW", "LOCAL_INTEGRATED", "HOSTED_INTEGRATED"]

def connectionStates : List String := ["PREVIEW", "CONNECTED", "DEGRADED", "UNAVAILABLE"]

section Readers

-- a property that an object lacks is undefined, which is `none` here
variable (value : Option Value)

def isRecord : Bool :=
  match value with
  | some (.obj _) | some (.arr _) => true
  | _ => false

def isString : Bool :=
  match value with
  | some (.str _) => true
  | _ => false

def isNumber : Bool :=
  match value with
  | some (.int _) | some (.float _) => true
  | _ => false

/-- `names.includes(value)` -/
def isOneOf (names : List String) : Bool :=
  match value with
  | some (.str s) => decide (s ∈ names)
  | _ => false

/-- `Array.isArray(value) && value.every(p)` -/
def isArrayOf (p : Option Value → Bool) : Bool :=
  match value with
  | some (.arr items) => items.all fun item => p (some item)
  | _ => false

def isStringArray : Bool := isArrayOf value isString

def isStatus : Bool := isOneOf value experienceStatuses

def property (key : String) : Option Value := value.bind (Value.member? key)

def isScope : Bool :=
  isRecord value && isString (property value "tenantId") &&
    ((property value "caseId").isNone || isString (property value "caseId"))

def isProvenance : Bool :=
  isRecord value && isString (property value "source") && isString (property value "sourceType") &&
    isString (property value "observedAt") && isStringArray (property value "evidenceRefs") &&
    isStatus (property value "status")

end Readers

section Items

variable (item : Option Value)

def isSignalItem : Bool :=
  isRecord item && isString (property item "id") && isString (property item "signalId") &&
    isString (property item "caseId") && isString (property item "ruleId") &&
    isNumber (property item "ruleVersion") && isString (property item "severity") &&
    isString (property item "confidence") && isStatus (property item "state") &&
    isStringArray (property item "eventIds") && isStringArray (property item "evidenceRefs") &&
    isScope (property item "scope") && isString (property item "source")

def isHuntItem : Bool :=
  isRecord item && isString (property item "id") && isString (property item "huntId") &&
    isString (property item "hypothesisId") && isString (property item "caseId") &&
    isStatus (property item "disposition") && isStatus (property item "state") &&
    isStringArray (property item "evidenceRefs") && isScope (property item "scope") &&
    isString (property item "source")

def isIncidentItem : Bool :=
  isRecord item && isString (property item "id") && isString (property item "incidentId") &&
    isString (property item "caseId") && isStatus (property item "state") &&
    isString (property item "severity") && isString (property item "confidence") &&
    isStringArray (property item "signalIds") && isStringArray (property item "evidenceRefs") &&
    isScope (property item "scope") && isProvenance (property item "provenance")

def isProposalItem : Bool :=
  isRecord item && isString (property item "id") && isString (property item "proposalId") &&
    isString (property item "incidentId") && isString (property item "caseId") &&
    isString (property item "targetId") && isString (property item "action") &&
    isStatus (property item "opaDecision") && isStatus (property item "humanApprovalState") &&
    isStatus (property item "state") && isStringArray (property item "evidenceRefs") &&
    isScope (property item "scope") && isString (property item "source")

def isAttentionItem : Bool :=
  isRecord item && isString (property item "id") && isString (property item "title") &&
    isString (property item "detail") && isString (property item "entityId") &&
    isStatus (property item "status") && isScope (property item "scope") && isString (property item "source")

def isCaseItem : Bool :=
  isRecord item && isString (property item "id") && isString (property item "caseId") &&
    isString (property item "clientLabel") && isString (property item "targetLabel") &&
    isString (property item "summary") && isString (property item "updatedAt") &&
    isStatus (property item "state") && isStringArray (property item "findingIds") &&
    isNumber (property item "evidenceCount") && isNumber (property item "activityCount") &&
    isScope (property item "scope") && isProvenance (property item "provenance")

def isFindingItem : Bool :=
  isRecord item && isString (property item "id") && isString (property item "findingId") &&
    isString (property item "caseId") && isString (property item "title") &&
    isString (property item "severity") && isStatus (property item "state") &&
    isStatus (property item "adjudication") && isStringArray (property item "evidenceRefs") &&
    isScope (property item "scope") && isProvenance (property item "provenance")

def isActivityItem : Bool :=
  isRecord item && isString (property item "id") && isString (property item "occurredAt") &&
    isNumber (property item "sequence") && isString (property item "title") &&
    isString (property item "detail") && isStatus (property item "state") &&
    isStringArray (property item "evidenceRefs") && isScope (property item "scope") &&
    isString (property item "source")

def isGraphNodeItem : Bool :=
  isRecord item && isString (property item "id") && isString (property item "kind") &&
    isString (property item "label") && isStatus (property item "state") &&
    isStringArray (property item "relatedIds") && isScope (property item "scope") &&
    isProvenance (property item "provenance")

def isGraphEdgeItem : Bool :=
  isRecord item && isString (property item "id") && isString (property item "sourceId") &&
    isString (property item "targetId") && isString (property item "relation") &&
    isStatus (property item "state") && isStringArray (property item "relatedIds") &&
    isScope (property item "scope") && isProvenance (property item "provenance")

def isRunnerItem : Bool :=
  isRecord item && isString (property item "id") && isString (property item "runnerId") &&
    isString (property item "capabilityId") && isStatus (property item "state") &&
    isStatus (property item "policyDecision") && isStringArray (property item "evidenceRefs") &&
    isScope (property item "scope") && isString (property item "source")

end Items

section Snapshots

variable (value : Option Value)

/-- A list that a snapshot may leave out. -/
def isOptionalArrayOf (p : Option Value → Bool) : Bool := value.isNone || isArrayOf value p

def isDetectionResponseProjection : Bool :=
  isRecord value && isOptionalArrayOf (property value "detectionSignals") isSignalItem &&
    isOptionalArrayOf (property value "hunts") isHuntItem &&
    isOptionalArrayOf (property value "incidents") isIncidentItem &&
    isOptionalArrayOf (property value "responseProposals") isProposalItem

def isExperienceSnapshot : Bool :=
  isRecord value && isOneOf (property value "mode") dataModes &&
    isOneOf (property value "connectionState") connectionStates && isString (property value "sourceLabel") &&
    isString (property value "tenantId") && isArrayOf (property value "attention") isAttentionItem &&
    isArrayOf (property value "cases") isCaseItem && isArrayOf (property value "findings") isFindingItem &&
    isArrayOf (property value "activity") isActivityItem &&
    isArrayOf (property value "graphNodes") isGraphNodeItem &&
    isArrayOf (property value "graphEdges") isGraphEdgeItem &&
    isArrayOf (property value "runners") isRunnerItem && isDetectionResponseProjection value

end Snapshots

/-- The names that are shown as a status. A text in upper case is no name that the table inherits. -/
def mappedStatuses : List (String × String) :=
  [("SUPPORTS", "VERIFIED"), ("REFUTES", "CONTRADICTED"), ("REQUIRE_APPROVAL", "APPROVAL_REQUIRED"),
    ("ALLOW", "VERIFIED"), ("DENY", "DENIED"), ("CONTAINED", "CONFIRMED"), ("RECOVERING", "CONFIRMED"),
    ("OPEN", "NEW"), ("CLOSED", "RESOLVED"), ("REFUSED", "DENIED"), ("REVOKED", "DENIED")]

def mapExperienceStatus (toUpperCase : String → String) (value : Option String) (fallback : String) : String :=
  let normalized := toUpperCase (value.getD "")
  let mapped := (mappedStatuses.lookup normalized).getD normalized
  if mapped ∈ experienceStatuses then mapped else fallback

end SecScanMonitor.Console
