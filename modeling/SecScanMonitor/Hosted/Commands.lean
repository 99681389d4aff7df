import SecScanMonitor.Application.EngagementService
import SecScanMonitor.Domain.Common
import SecScanMonitor.Hosted.HumanAccess

/-! The hosted commands on a case (`hosted/commands.py`) over the engagement repository and the audit sink
(`persistence/repositories.py`): a command reads the rows that its caller sees and writes to all of them. -/

namespace SecScanMonitor.Hosted

open Foundations Domain Application

/-- `Engagement` -/
structure Case extends EngagementAggregate where
  clientId : String
  requesterPrincipalId : String
  scope : String
  passType : PassType
  constraints : List String
  createdAt : String
  deriving Repr, DecidableEq

def engagementToRow (engagement : Case) : EngagementRow where
  engagementId := engagement.engagementId
  clientId := engagement.clientId
  requesterPrincipalId := engagement.requesterPrincipalId
  scope := engagement.scope
  passType := engagement.passType
  authorityLevel := engagement.authorityLevel
  constraints := engagement.constraints
  status := engagement.status
  statusHistory := engagement.statusHistory
  refusalReason := engagement.refusalReason
  suspendedFrom := engagement.suspendedFrom
  createdAt := engagement.createdAt
  updatedAt := engagement.updatedAt

def rowToEngagement (row : EngagementRow) : Case where
  engagementId := row.engagementId
  clientId := row.clientId
  requesterPrincipalId := row.requesterPrincipalId
  targetIds := []
  scope := row.scope
  passType := row.passType
  authorityLevel := row.authorityLevel
  constraints := row.constraints
  status := row.status
  statusHistory := row.statusHistory
  refusalReason := row.refusalReason
  suspendedFrom := row.suspendedFrom
  createdAt := row.createdAt
  updatedAt := row.updatedAt

namespace Database

/-- The targets in the scope of an engagement; the statement leaves their order to the database, which lists
them here as they came. -/
def targetsOf (db : Database) (engagementId : String) : List String :=
  (db.engagementTargets.rows.reverse.filter fun link =>
    decide (link.engagementId = engagementId) && link.inScope).map EngagementTargetRow.targetId

/-- `PostgresEngagementRepository.get` -/
def getEngagement (db : Database) (engagementId : String) : Option Case :=
  (db.engagements.get? engagementId).map fun row =>
    { rowToEngagement row with targetIds := db.targetsOf engagementId }

end Database

/-- A statement that inserts a row: a unique constraint or a policy may refuse it. -/
def insertRow {ρ κ : Type} {key : ρ → κ} [DecidableEq κ] (allowed : Bool) (clash : ρ → Bool) (row : ρ)
    (t : Table key) : Except Raised (Table key) := do
  raiseIf (allowed = false) .programmingError "new row violates row-level security policy"
  orRaise (t.insert? clash row) .integrityError "duplicate key value violates unique constraint"

/-- `PostgresAuditSink.append` -/
def appendAudit (human : String) (event : AuditEventRow) (db : Database) : Except Raised Database :=
  match (db.seenBy human).auditEvents.get? event.auditEventId with
  | some _ => .ok db
  | none => do
    let auditEvents ← insertRow (event.engagementId.any (db.canAccessEngagement human))
      (fun _ => false) event db.auditEvents
    return { db with auditEvents }

def auditEventRow (event : EngagementService.AuditEvent) : AuditEventRow where
  auditEventId := event.auditEventId
  engagementId := event.engagementId
  principalId := event.principalId
  summary := event.summary
  details := event.details

section CreateCase

/-- The arguments of `create_case`. -/
structure CreateCase where
  humanPrincipalId : String
  engagementId : String
  clientId : String
  targetIds : List String
  scope : String
  passType : String
  constraints : List String
  deriving Repr, DecidableEq

/-- What `create_case` compares of a stored case: not its constraints, and of its targets the order too. -/
def CreateCase.rebinds (cmd : CreateCase) (passType : PassType) (existing : Case) : Bool :=
  decide (existing.clientId ≠ cmd.clientId) ||
    decide (existing.requesterPrincipalId ≠ cmd.humanPrincipalId) ||
    decide (existing.targetIds ≠ cmd.targetIds) ||
    decide (existing.scope ≠ cmd.scope) ||
    decide (existing.passType ≠ passType)

def linkTarget (cmd : CreateCase) (db : Database) (targetId : String) : Except Raised Database := do
  let engagementTargetId := "ET-" ++ cmd.engagementId ++ "-" ++ targetId
  let engagementTargets ← insertRow (db.canAccessEngagement cmd.humanPrincipalId cmd.engagementId)
    (fun link => decide (link.engagementTargetId = engagementTargetId))
    ⟨engagementTargetId, cmd.engagementId, targetId, true⟩ db.engagementTargets
  return { db with engagementTargets }

/-- The case that `EngagementService.create` makes of the command. -/
def newCase (cmd : CreateCase) (passType : PassType) (created : EngagementService.State)
    (instant : String) : Case where
  toEngagementAggregate := created.engagement
  clientId := cmd.clientId
  requesterPrincipalId := cmd.humanPrincipalId
  scope := cmd.scope
  passType := passType
  constraints := cmd.constraints
  createdAt := instant

/-- `PostgresHostedCommandService.create_case`, with the audit event's id and the instant that it is given. -/
def createCase (eventId instant : String) (cmd : CreateCase) : Transaction Case := fun db => do
  raiseIf (cmd.targetIds = [] ∨ ¬ cmd.targetIds.Nodup) .valueError "case requires unique target ids"
  let passType ← orRaise (PassType.ofValue cmd.passType) .valueError "unsupported pass type"
  let session := db.seenBy cmd.humanPrincipalId
  match session.getEngagement cmd.engagementId with
  | some existing => do
    raiseIf (cmd.rebinds passType existing = true) .valueError
      "case id is already bound to different canonical state"
    return (existing, db)
  | none => do
    let targets := session.targets.select fun target =>
      decide (target.targetId ∈ cmd.targetIds) && decide (target.clientId = some cmd.clientId)
    raiseIf (session.clients.get? cmd.clientId = none ∨ targets.length ≠ cmd.targetIds.length)
      .keyError "case scope is not available"
    raiseIf (session.principals.get? cmd.humanPrincipalId = none) .keyError
      "human principal is not provisioned"
    let created := EngagementService.create cmd.engagementId cmd.targetIds cmd.humanPrincipalId eventId
      .inspectionOnly instant []
    let engagement := newCase cmd passType created instant
    let engagements ← insertRow (db.seesClient cmd.humanPrincipalId cmd.clientId) (fun _ => false)
      (engagementToRow engagement) db.engagements
    let db ← cmd.targetIds.foldlM (linkTarget cmd) { db with engagements }
    let db ← created.audit.foldlM
      (fun db event => appendAudit cmd.humanPrincipalId (auditEventRow event) db) db
    return (engagement, db)

end CreateCase

section StartInspection

/-- The arguments of `start_inspection`. -/
structure StartInspection where
  humanPrincipalId : String
  engagementId : String
  targetId : String
  targetSnapshotId : String
  deriving Repr, DecidableEq

structure HostedWorkflowRequest where
  engagementId : String
  workflowRunId : String
  clientId : String
  targetId : String
  principalId : String
  targetSnapshotId : String
  targetSnapshotSha256 : String
  targetSourceIdentity : String
  deriving Repr, DecidableEq

/-- A durable workflow starter: the run that it started, or what it raised. -/
abbrev HostedWorkflowStarter := HostedWorkflowRequest → Except Raised String

/-- `workflow_run_id` of an engagement. -/
def workflowRunId (engagementId : String) : String := "WR-" ++ engagementId

def StartInspection.request (cmd : StartInspection) (clientId digest identity : String) :
    HostedWorkflowRequest where
  engagementId := cmd.engagementId
  workflowRunId := workflowRunId cmd.engagementId
  clientId := clientId
  targetId := cmd.targetId
  principalId := cmd.humanPrincipalId
  targetSnapshotId := cmd.targetSnapshotId
  targetSnapshotSha256 := digest
  targetSourceIdentity := identity

/-- `if not value` for a column that may be null. -/
def missing (column : Option String) : Bool := column.all fun text => decide (text = "")

/-- The checks on the case and its target, and the request that they allow. -/
def StartInspection.checked (cmd : StartInspection) (session : Database) :
    Except Raised HostedWorkflowRequest := do
  raiseIf (isBlank cmd.targetSnapshotId = true) .valueError "immutable target snapshot id is required"
  let engagement ← orRaise (session.getEngagement cmd.engagementId) .keyError "case not found"
  raiseIf (engagement.status ≠ .authorized) .valueError "case must be authorized before inspection"
  raiseIf (cmd.targetId ∉ engagement.targetIds) .keyError "target is outside the case"
  let target ← orRaise (session.targets.get? cmd.targetId) .keyError "target not found"
  raiseIf (target.clientId ≠ some engagement.clientId) .keyError "target not found"
  raiseIf (target.snapshotId ≠ some cmd.targetSnapshotId ∨ missing target.snapshotDigest = true ∨
      missing target.sourceIdentity = true)
    .valueError "target is not bound to the requested immutable snapshot"
  return cmd.request engagement.clientId (target.snapshotDigest.getD "") (target.sourceIdentity.getD "")

def newRun (cmd : StartInspection) (now : Datetime) : WorkflowRunRow where
  workflowRunId := workflowRunId cmd.engagementId
  engagementId := cmd.engagementId
  startedByPrincipalId := cmd.humanPrincipalId
  status := "pending"
  currentPhase := "queued"
  startedAt := none
  finishedAt := none
  createdAt := now
  updatedAt := now

/-- The run that the command works on: the stored one, or a new one that is stored at once. -/
def claimRun (cmd : StartInspection) (now : Datetime) (db : Database) :
    Except Raised (WorkflowRunRow × Database) :=
  match (db.seenBy cmd.humanPrincipalId).workflowRuns.get? (workflowRunId cmd.engagementId) with
  | some workflow => do
    raiseIf (workflow.engagementId ≠ cmd.engagementId) .hostedCommandError "workflow run identity mismatch"
    return (workflow, db)
  | none => do
    let workflowRuns ← insertRow (db.canAccessEngagement cmd.humanPrincipalId cmd.engagementId)
      (fun _ => false) (newRun cmd now) db.workflowRuns
    return (newRun cmd now, { db with workflowRuns })

/-- What the command does before it looks at the run's status. -/
def StartInspection.claimed (cmd : StartInspection) (now : Datetime) (db : Database) :
    Except Raised (HostedWorkflowRequest × WorkflowRunRow × Database) := do
  let request ← cmd.checked (db.seenBy cmd.humanPrincipalId)
  let (workflow, db) ← claimRun cmd now db
  return (request, workflow, db)

/-- A run in one of these is not started again. -/
def underway (workflow : WorkflowRunRow) : Bool := ["running", "completed"].contains workflow.status

def failedRun (workflow : WorkflowRunRow) (now : Datetime) : WorkflowRunRow :=
  { workflow with status := "failed", currentPhase := "workflow_start", updatedAt := now }

def startedRun (workflow : WorkflowRunRow) (now : Datetime) : WorkflowRunRow :=
  { workflow with
    status := "running"
    currentPhase := "queued"
    startedAt := some (workflow.startedAt.getD now)
    updatedAt := now }

def startEvent (cmd : StartInspection) : AuditEventRow where
  auditEventId := "AE-" ++ workflowRunId cmd.engagementId ++ "-START"
  engagementId := some cmd.engagementId
  principalId := some cmd.humanPrincipalId
  summary := "hosted inspection workflow " ++ workflowRunId cmd.engagementId ++ " started"
  details := [("workflow_run_id", workflowRunId cmd.engagementId), ("target_id", cmd.targetId)]

/-- The database and the requests that the workflow starter has started, the latest last. -/
structure Service where
  db : Database
  started : List HostedWorkflowRequest

/-- `PostgresHostedCommandService.start_inspection`. A start that fails is committed before the command raises;
what is raised after a start rolls the database back, and the workflow is started all the same. -/
def startInspection (starter : Option HostedWorkflowStarter) (now : Datetime) (cmd : StartInspection) :
    Effect Service WorkflowRunRow := fun s =>
  match starter with
  | none => (raise .hostedWorkflowUnavailable "durable workflow adapter is not configured", s)
  | some start =>
    match cmd.claimed now s.db with
    | .error e => (.error e, s)
    | .ok (request, workflow, db) =>
      if underway workflow then (.ok workflow, s)
      else match start request with
        | .error _ =>
          (raise .hostedWorkflowUnavailable "durable workflow start failed closed",
            { s with db := { db with workflowRuns := db.workflowRuns.write (failedRun workflow now) } })
        | .ok _ =>
          let started := s.started ++ [request]
          let workflow := startedRun workflow now
          match appendAudit cmd.humanPrincipalId (startEvent cmd)
              { db with workflowRuns := db.workflowRuns.write workflow } with
          | .error e => (.error e, { s with started })
          | .ok db => (.ok workflow, ⟨db, started⟩)

end StartInspection

end SecScanMonitor.Hosted
