import SecScanMonitor.Domain.Capability
import SecScanMonitor.Domain.Lifecycle

/-! The tables of a hosted case (`persistence/models.py`) and the rows of them that a transaction under
the identity of a human sees (`human_context`, and the row-level policies of the schema). -/

namespace SecScanMonitor.Hosted

open Foundations Domain

/-- `PassType` -/
inductive PassType where
  | diffGate
  | posture
  | triage
  | briefing
  | driftReview
  deriving Repr, DecidableEq

def PassType.value : PassType → String
  | .diffGate => "diff-gate"
  | .posture => "posture"
  | .triage => "triage"
  | .briefing => "briefing"
  | .driftReview => "drift-review"

/-- `PassType(value)` -/
def PassType.ofValue (value : String) : Option PassType :=
  [PassType.diffGate, .posture, .triage, .briefing, .driftReview].find? fun t =>
    decide (t.value = value)

lemma PassType.ofValue_eq_some {value : String} {t : PassType} :
    PassType.ofValue value = some t ↔ value = t.value := by
  constructor
  · intro h
    have ht := List.find?_some h
    exact (of_decide_eq_true ht).symm
  · rintro rfl
    cases t <;> decide

structure ClientMembershipRow where
  humanPrincipalId : String
  clientId : String
  role : String
  status : String
  deriving Repr, DecidableEq

structure ClientRow where
  clientId : String
  deriving Repr, DecidableEq

structure PrincipalRow where
  principalId : String
  deriving Repr, DecidableEq

structure TargetRow where
  targetId : String
  clientId : Option String
  snapshotId : Option String
  snapshotDigest : Option String
  sourceIdentity : Option String
  deriving Repr, DecidableEq

/-- A row of `engagements`; the targets of the engagement are the rows of `engagement_targets`. -/
structure EngagementRow where
  engagementId : String
  clientId : String
  requesterPrincipalId : String
  scope : String
  passType : PassType
  authorityLevel : AuthorityLevel
  constraints : List String
  status : EngagementStatus
  statusHistory : List StatusChange
  refusalReason : Option String
  suspendedFrom : Option EngagementStatus
  createdAt : String
  updatedAt : String
  deriving Repr, DecidableEq

structure EngagementTargetRow where
  engagementTargetId : String
  engagementId : String
  targetId : String
  inScope : Bool
  deriving Repr, DecidableEq

def EngagementTargetRow.key (r : EngagementTargetRow) : String × String :=
  (r.engagementId, r.targetId)

structure CapabilityManifestRow where
  capabilityId : String
  version : String
  riskClass : String
  requiredAuthority : String
  requiresApproval : Bool
  deriving Repr, DecidableEq

/-- A run of the workflow, with the phase that it stands in and when it was started. -/
structure WorkflowRunRow where
  workflowRunId : String
  engagementId : String
  startedByPrincipalId : String
  status : String
  currentPhase : String
  startedAt : Option Datetime
  finishedAt : Option Datetime
  createdAt : Datetime
  updatedAt : Datetime
  deriving Repr, DecidableEq

structure AuditEventRow where
  auditEventId : String
  engagementId : Option String
  principalId : Option String
  summary : String
  details : List (String × String)
  deriving Repr, DecidableEq

/-- The tables. A capability has one row, whatever its version. -/
structure Database where
  clientMemberships : List ClientMembershipRow
  clients : Table ClientRow.clientId
  principals : Table PrincipalRow.principalId
  targets : Table TargetRow.targetId
  engagements : Table EngagementRow.engagementId
  engagementTargets : Table EngagementTargetRow.key
  authorityGrants : Table AuthorityGrant.grantId
  capabilityManifests : Table CapabilityManifestRow.capabilityId
  workflowRuns : Table WorkflowRunRow.workflowRunId
  auditEvents : Table AuditEventRow.auditEventId
  deriving DecidableEq

def Database.empty : Database where
  clientMemberships := []
  clients := Table.empty
  principals := Table.empty
  targets := Table.empty
  engagements := Table.empty
  engagementTargets := Table.empty
  authorityGrants := Table.empty
  capabilityManifests := Table.empty
  workflowRuns := Table.empty
  auditEvents := Table.empty

/-- A transaction: what it returns and the database it commits, or what it raises, which rolls
everything back. -/
abbrev Transaction (α : Type) := Database → Except Raised (α × Database)

/-- The database after a transaction, whether it committed or rolled back. -/
def Database.after {α : Type} (db : Database) (r : Except Raised (α × Database)) : Database :=
  match r with
  | .ok (_, db') => db'
  | .error _ => db

section Policies

variable (db : Database) (human : String)

/-- `secscan_human_can_access_client` -/
def Database.canAccessClient (clientId : String) : Bool :=
  db.clientMemberships.any fun m =>
    decide (m.humanPrincipalId = human ∧ m.clientId = clientId ∧ m.status = "active")

/-- `secscan_human_is_platform_admin` -/
def Database.isPlatformAdmin : Bool :=
  db.clientMemberships.any fun m =>
    decide (m.humanPrincipalId = human ∧ m.role = "PLATFORM_ADMIN" ∧ m.status = "active")

/-- `secscan_human_can_access_engagement` -/
def Database.canAccessEngagement (engagementId : String) : Bool :=
  db.engagements.rows.any fun e =>
    decide (e.engagementId = engagementId) && db.canAccessClient human e.clientId

/-- The policy on `clients` and `engagements`, and on the `targets` of a client. -/
def Database.seesClient (clientId : String) : Bool :=
  db.isPlatformAdmin human || db.canAccessClient human clientId

/-- The rows that a transaction under the identity of the human reads. -/
def Database.seenBy : Database where
  clientMemberships := db.clientMemberships
  clients := db.clients.restrict fun r => db.seesClient human r.clientId
  principals := db.principals
  targets := db.targets.restrict fun r => r.clientId.any (db.seesClient human)
  engagements := db.engagements.restrict fun r => db.seesClient human r.clientId
  engagementTargets := db.engagementTargets.restrict fun r =>
    db.canAccessEngagement human r.engagementId
  authorityGrants := db.authorityGrants.restrict fun r => db.canAccessEngagement human r.engagementId
  capabilityManifests := db.capabilityManifests
  workflowRuns := db.workflowRuns.restrict fun r => db.canAccessEngagement human r.engagementId
  auditEvents := db.auditEvents.restrict fun r =>
    match r.engagementId with
    | some e => db.canAccessEngagement human e
    | none => db.isPlatformAdmin human

end Policies

end SecScanMonitor.Hosted
