import Mathlib.Data.Prod.Lex
import SecScanMonitor.Hosted.HumanAccess
import SecScanMonitor.ReadModels.Experience
import SecScanMonitor.ReadModels.Pagination

/-! The read models of the hosted database (`PostgresReadModelService` of `persistence/repositories.py`) and the
snapshot that the operator's console is given of them. -/

namespace SecScanMonitor.ReadModels

open Foundations Domain

section Rows

structure ClientRow where
  clientId : String
  name : String
  contact : Option String

structure TargetRow where
  targetId : String
  clientId : Option String
  kind : String
  name : String
  snapshotId : Option String
  snapshotDigest : Option String

structure EngagementRow where
  engagementId : String
  clientId : String
  scope : String
  status : String
  updatedAt : Datetime

structure EngagementTargetRow where
  engagementId : String
  targetId : String
  inScope : Bool

structure FindingRow where
  findingId : String
  engagementId : String
  originatingAdjudicationId : String
  title : String
  severity : String
  summary : String
  status : String
  supportingEvidenceIds : List String

structure AdjudicationRow where
  adjudicationId : String
  engagementId : String
  verdict : String

structure EvidenceMetadataRow where
  evidenceId : String
  engagementId : String
  sha256 : String
  sanitizationState : String

structure AuditEventRow where
  auditEventId : String
  engagementId : Option String
  kind : String
  summary : String
  occurredAt : Datetime

structure DetectionSignalRow where
  signalId : String
  tenantId : String
  caseId : String
  ruleId : String
  ruleVersion : ℤ
  severity : String
  confidence : String
  status : String
  eventIds : List String
  rawEvidenceRefs : List String

/-- What the result of a hunt holds under the keys that are read. -/
structure HuntResultColumn where
  disposition : Option String
  supportingEvidenceRefs : Option (List String)
  refutingEvidenceRefs : Option (List String)

structure HuntExecutionRow where
  executionId : String
  hypothesisId : String
  tenantId : String
  caseId : String
  result : HuntResultColumn

structure IncidentRow where
  incidentId : String
  tenantId : String
  caseId : String
  state : String
  severity : String
  confidence : String
  sourceSignalIds : List String
  supportingEvidenceRefs : List String
  adjudicatedAt : Datetime

structure ResponseProposalRow where
  proposalId : String
  incidentId : String
  tenantId : String
  caseId : String
  targetId : String
  action : String
  opaDecision : String
  humanApprovalState : String
  supportingEvidenceRefs : List String

/-- The tables that are read; a JSON column holds what the services store in it. -/
structure Database where
  clientMemberships : List Hosted.ClientMembershipRow
  clients : Table ClientRow.clientId
  targets : Table TargetRow.targetId
  engagements : Table EngagementRow.engagementId
  engagementTargets : Table fun r : EngagementTargetRow => (r.engagementId, r.targetId)
  findings : Table FindingRow.findingId
  adjudications : Table AdjudicationRow.adjudicationId
  evidenceMetadata : Table EvidenceMetadataRow.evidenceId
  auditEvents : Table AuditEventRow.auditEventId
  detectionSignals : Table DetectionSignalRow.signalId
  huntExecutions : Table HuntExecutionRow.executionId
  incidents : Table IncidentRow.incidentId
  responseProposals : Table ResponseProposalRow.proposalId

end Rows

namespace Database

variable (db : Database) (human : String)

/-- `secscan_human_can_access_client` -/
def canAccessClient (clientId : String) : Bool :=
  db.clientMemberships.any fun m =>
    decide (m.humanPrincipalId = human ∧ m.clientId = clientId ∧ m.status = "active")

/-- `secscan_human_is_platform_admin` -/
def isPlatformAdmin : Bool :=
  db.clientMemberships.any fun m =>
    decide (m.humanPrincipalId = human ∧ m.role = "PLATFORM_ADMIN" ∧ m.status = "active")

/-- `secscan_human_can_access_engagement` -/
def canAccessEngagement (engagementId : String) : Bool :=
  db.engagements.rows.any fun e => decide (e.engagementId = engagementId) && db.canAccessClient human e.clientId

/-- The policy on `clients` and `engagements`, and on the `targets` of a client. -/
def seesClient (clientId : String) : Bool := db.isPlatformAdmin human || db.canAccessClient human clientId

/-- The policy on the rows of a case. -/
def seesCase (caseId : String) : Bool := db.isPlatformAdmin human || db.canAccessEngagement human caseId

/-- `_client_scope`: the clients of the human, or none for an administrator. -/
def clientScope : Option (String → Bool) :=
  if db.isPlatformAdmin human then none else some (db.canAccessClient human)

/-- `client_id IN scope`, where there is a scope -/
def inScope (clientId : Option String) : Bool :=
  match db.clientScope human with
  | none => true
  | some scope => clientId.any scope

/-- The engagement that a row is joined with. -/
def engagementOf (engagementId : String) : Option EngagementRow :=
  (db.engagements.get? engagementId).filter fun e => db.seesClient human e.clientId

/-- The row is joined with an engagement in scope. -/
def joined (engagementId : String) : Bool :=
  (db.engagementOf human engagementId).any fun e => db.inScope human (some e.clientId)

def visibleClients : List ClientRow :=
  db.clients.rows.filter fun r => db.seesClient human r.clientId && db.inScope human (some r.clientId)

def visibleTargets : List TargetRow :=
  db.targets.rows.filter fun r => r.clientId.any (db.seesClient human) && db.inScope human r.clientId

def visibleEngagements : List EngagementRow :=
  db.engagements.rows.filter fun r => db.seesClient human r.clientId && db.inScope human (some r.clientId)

def visibleFindings : List FindingRow :=
  db.findings.rows.filter fun r => db.canAccessEngagement human r.engagementId && db.joined human r.engagementId

def visibleEvidence : List EvidenceMetadataRow :=
  db.evidenceMetadata.rows.filter fun r =>
    db.canAccessEngagement human r.engagementId && db.joined human r.engagementId

/-- An event without an engagement is joined with none, and left out of any scope. -/
def visibleAuditEvents : List AuditEventRow :=
  db.auditEvents.rows.filter fun r =>
    (match r.engagementId with
      | none => db.isPlatformAdmin human
      | some e => db.canAccessEngagement human e) &&
    db.inScope human ((r.engagementId.bind (db.engagementOf human)).map (·.clientId))

def visibleSignals : List DetectionSignalRow :=
  db.detectionSignals.rows.filter fun r => db.seesCase human r.caseId && db.joined human r.caseId

def visibleHunts : List HuntExecutionRow :=
  db.huntExecutions.rows.filter fun r => db.seesCase human r.caseId && db.joined human r.caseId

def visibleIncidents : List IncidentRow :=
  db.incidents.rows.filter fun r => db.seesCase human r.caseId && db.joined human r.caseId

def visibleProposals : List ResponseProposalRow :=
  db.responseProposals.rows.filter fun r => db.seesCase human r.caseId && db.joined human r.caseId

/-- `_target_links` of an engagement -/
def targetLinks (engagementId : String) : List String :=
  (db.engagementTargets.rows.filter fun r =>
    db.canAccessEngagement human r.engagementId && decide (r.engagementId = engagementId ∧ r.inScope = true)).map
      (·.targetId)

end Database

structure ClientReadModel where
  clientId : String
  name : String
  contact : Option String

structure TargetReadModel where
  targetId : String
  clientId : Option String
  kind : String
  name : String
  snapshotId : Option String
  snapshotDigest : Option String

structure EvidenceMetadataReadModel where
  evidenceId : String
  engagementId : Option String
  clientId : Option String
  sha256 : Option String
  sanitizationState : Option String

/-- A query's rows in a window, each as its read model. -/
def listRows {ρ α : Type} (rows : List ρ) (model : ρ → α) (cursor : Option Str) (limit : ℤ) :
    Except Raised (CursorPage α) := do
  let (offset, fetch) ← readWindow cursor limit
  let rows ← window rows offset fetch
  readPage (rows.map model) offset limit

section Listings

-- `ORDER BY` of a text is by the collation of the database
variable {κ : Type} [LinearOrder κ] (collate : String → κ) (isoformat : Datetime → String)
variable (db : Database) (human : String) (cursor : Option Str) (limit : ℤ)

def listClients : Except Raised (CursorPage ClientReadModel) :=
  listRows (sortBy (fun r => collate r.clientId) (db.visibleClients human))
    (fun r => ⟨r.clientId, r.name, r.contact⟩) cursor limit

def listTargets : Except Raised (CursorPage TargetReadModel) :=
  listRows (sortBy (fun r => collate r.targetId) (db.visibleTargets human))
    (fun r => ⟨r.targetId, r.clientId, r.kind, r.name, r.snapshotId, r.snapshotDigest⟩) cursor limit

/-- `_engagement_read_model` -/
def engagementReadModel (r : EngagementRow) : EngagementReadModel where
  engagementId := r.engagementId
  clientId := r.clientId
  targetIds := db.targetLinks human r.engagementId
  scope := r.scope
  status := r.status
  updatedAt := isoformat r.updatedAt

def engagementRows : List EngagementRow :=
  sortBy (fun r => collate r.engagementId) (db.visibleEngagements human)

def listEngagements : Except Raised (CursorPage EngagementReadModel) :=
  listRows (engagementRows collate db human) (engagementReadModel isoformat db human) cursor limit

/-- `_finding_read_model` -/
def findingReadModel (r : FindingRow) : FindingReadModel where
  findingId := r.findingId
  engagementId := some r.engagementId
  severity := some r.severity
  title := some r.title
  summary := some r.summary
  status := some r.status
  adjudication := ((db.adjudications.get? r.originatingAdjudicationId).filter fun a =>
    decide (a.engagementId = r.engagementId)).map (·.verdict)
  supportingEvidenceIds := r.supportingEvidenceIds

def findingRows : List FindingRow := sortBy (fun r => collate r.findingId) (db.visibleFindings human)

def listFindings : Except Raised (CursorPage FindingReadModel) :=
  listRows (findingRows collate db human) (findingReadModel db) cursor limit

def evidenceReadModel (r : EvidenceMetadataRow) : EvidenceMetadataReadModel where
  evidenceId := r.evidenceId
  engagementId := some r.engagementId
  clientId := (db.engagementOf human r.engagementId).map (·.clientId)
  sha256 := some r.sha256
  sanitizationState := some r.sanitizationState

def evidenceRows : List EvidenceMetadataRow := sortBy (fun r => collate r.evidenceId) (db.visibleEvidence human)

def listEvidence : Except Raised (CursorPage EvidenceMetadataReadModel) :=
  listRows (evidenceRows collate db human) (evidenceReadModel db human) cursor limit

def auditReadModel (r : AuditEventRow) : AuditEventReadModel where
  auditEventId := r.auditEventId
  engagementId := r.engagementId
  kind := r.kind
  summary := r.summary
  occurredAt := isoformat r.occurredAt

def auditRows : List AuditEventRow :=
  sortBy (fun r => toLex (r.occurredAt, collate r.auditEventId)) (db.visibleAuditEvents human)

def listAudit : Except Raised (CursorPage AuditEventReadModel) :=
  listRows (auditRows collate db human) (auditReadModel isoformat) cursor limit

def signalReadModel (r : DetectionSignalRow) : DetectionSignalReadModel where
  signalId := r.signalId
  tenantId := r.tenantId
  caseId := r.caseId
  ruleId := r.ruleId
  ruleVersion := r.ruleVersion
  severity := r.severity
  confidence := r.confidence
  status := r.status
  eventIds := r.eventIds
  evidenceRefs := r.rawEvidenceRefs
  source := "canonical detection engine"

def listDetectionSignals : Except Raised (CursorPage DetectionSignalReadModel) :=
  listRows (sortBy (fun r => collate r.signalId) (db.visibleSignals human)) signalReadModel cursor limit

def HuntResultColumn.dispositionText (c : HuntResultColumn) : String := c.disposition.getD "INCONCLUSIVE"

def huntReadModel (r : HuntExecutionRow) : HuntReadModel where
  huntId := r.executionId
  hypothesisId := r.hypothesisId
  tenantId := r.tenantId
  caseId := r.caseId
  disposition := r.result.dispositionText
  status :=
    if r.result.dispositionText = "SUPPORTS" then "VERIFIED"
    else if r.result.dispositionText = "REFUTES" then "CONTRADICTED" else "INCONCLUSIVE"
  evidenceRefs :=
    if r.result.dispositionText = "SUPPORTS" then r.result.supportingEvidenceRefs.getD []
    else if r.result.dispositionText = "REFUTES" then r.result.refutingEvidenceRefs.getD []
    else r.result.supportingEvidenceRefs.getD [] ++ r.result.refutingEvidenceRefs.getD []
  source := "canonical threat-hunt engine"

def listHunts : Except Raised (CursorPage HuntReadModel) :=
  listRows (sortBy (fun r => collate r.executionId) (db.visibleHunts human)) huntReadModel cursor limit

def incidentReadModel (r : IncidentRow) : IncidentReadModel where
  incidentId := r.incidentId
  tenantId := r.tenantId
  caseId := r.caseId
  status := r.state
  severity := r.severity
  confidence := r.confidence
  signalIds := r.sourceSignalIds
  evidenceRefs := r.supportingEvidenceRefs
  provenanceSource := "canonical incident adjudication"
  provenanceSourceType := "postgresql"
  adjudicatedAt := isoformat r.adjudicatedAt

def listIncidents : Except Raised (CursorPage IncidentReadModel) :=
  listRows (sortBy (fun r => collate r.incidentId) (db.visibleIncidents human)) (incidentReadModel isoformat) cursor
    limit

def proposalReadModel (r : ResponseProposalRow) : ResponseProposalReadModel where
  proposalId := r.proposalId
  incidentId := r.incidentId
  tenantId := r.tenantId
  caseId := r.caseId
  targetId := r.targetId
  action := r.action
  opaDecision := r.opaDecision
  humanApprovalState := r.humanApprovalState
  status := r.humanApprovalState
  evidenceRefs := r.supportingEvidenceRefs
  source := "canonical response proposal service"

def listResponseProposals : Except Raised (CursorPage ResponseProposalReadModel) :=
  listRows (sortBy (fun r => collate r.proposalId) (db.visibleProposals human)) proposalReadModel cursor limit

end Listings

section Experience

/-- The number of the items of each case. -/
def countByCase {α : Type} (cases : List EngagementReadModel) (items : List α) (engagementId : α → Option String) :
    Dict String ℕ :=
  cases.foldl (fun counts c =>
    counts.put c.engagementId (items.countP fun item => engagementId item = some c.engagementId)) Table.empty

/-- The names by their ids. -/
def namesOf {α : Type} (items : List α) (id name : α → String) : Dict String String :=
  items.foldl (fun names item => names.put (id item) (name item)) Table.empty

variable {κ : Type} [LinearOrder κ] (collate : String → κ) (isoformat : Datetime → String) (upper : String → String)

/-- `experience` -/
def experience (db : Database) (human : String) : Except Raised Snapshot := do
  let clientsPage ← listClients collate db human none 100
  let targetsPage ← listTargets collate db human none 100
  let casesPage ← listEngagements collate isoformat db human none 100
  let findingsPage ← listFindings collate db human none 100
  let evidencePage ← listEvidence collate db human none 100
  let auditPage ← listAudit collate isoformat db human none 100
  let signalsPage ← listDetectionSignals collate db human none 100
  let huntsPage ← listHunts collate db human none 100
  let incidentsPage ← listIncidents collate isoformat db human none 100
  let proposalsPage ← listResponseProposals collate db human none 100
  return composeExperienceSnapshot upper
    { mode := "HOSTED_INTEGRATED"
      sourceLabel := "HOSTED / AUTHENTICATED / CANONICAL_POSTGRESQL"
      cases := casesPage.items
      findings := findingsPage.items
      evidenceCountByCase := countByCase casesPage.items evidencePage.items (·.engagementId)
      activityCountByCase := countByCase casesPage.items auditPage.items (·.engagementId)
      audit := auditPage.items
      clients := namesOf clientsPage.items (·.clientId) (·.name)
      targets := namesOf targetsPage.items (·.targetId) (·.name)
      detectionSignals := signalsPage.items
      hunts := huntsPage.items
      incidents := incidentsPage.items
      responseProposals := proposalsPage.items
      tenantId := none }

end Experience

end SecScanMonitor.ReadModels
