import SecScanMonitor.Console.ExperienceContracts
import SecScanMonitor.ReadModels.Experience

/-! The wire between the server and the console: the overlay of canonical rows over a snapshot
(`LiveControlPlaneService.experience_overlay` of `live_control_plane.py`), and when the console accepts a
snapshot and shows the statuses in it. -/

namespace SecScanMonitor.ReadModels

open Foundations Console

namespace Overlay

-- `str.upper`
variable (upper : String → String)

def statusNames : List (String × String) :=
  [("SUPPORTS", "VERIFIED"), ("REFUTES", "CONTRADICTED"), ("REQUIRE_APPROVAL", "APPROVAL_REQUIRED"),
    ("ALLOW", "VERIFIED"), ("DENY", "DENIED")]

/-- No look at `statuses`: a text that is not in the table is kept. -/
def status (value : String) (fallback : String) : String :=
  (statusNames.lookup (upper value)).getD (orText (some (upper value)) fallback)

def signalView (item : DetectionSignalReadModel) : SignalView where
  signalId := item.signalId
  caseId := item.caseId
  ruleId := item.ruleId
  ruleVersion := item.ruleVersion
  severity := item.severity
  confidence := item.confidence
  state := status upper item.status "UNKNOWN"
  eventIds := item.eventIds
  evidenceRefs := item.evidenceRefs
  scope := ⟨item.tenantId, item.caseId⟩
  source := item.source

def huntView (item : HuntReadModel) : HuntView where
  huntId := item.huntId
  hypothesisId := item.hypothesisId
  caseId := item.caseId
  disposition := status upper item.disposition "INCONCLUSIVE"
  state := status upper item.status "INCONCLUSIVE"
  evidenceRefs := item.evidenceRefs
  scope := ⟨item.tenantId, item.caseId⟩
  source := item.source

def incidentView (item : IncidentReadModel) : IncidentView where
  incidentId := item.incidentId
  caseId := item.caseId
  state := status upper item.status "UNKNOWN"
  severity := item.severity
  confidence := item.confidence
  signalIds := item.signalIds
  evidenceRefs := item.evidenceRefs
  scope := ⟨item.tenantId, item.caseId⟩
  provenance :=
    { source := item.provenanceSource
      sourceType := item.provenanceSourceType
      observedAt := item.adjudicatedAt
      evidenceRefs := item.evidenceRefs
      status := status upper item.status "UNKNOWN" }

def proposalView (item : ResponseProposalReadModel) : ProposalView where
  proposalId := item.proposalId
  incidentId := item.incidentId
  caseId := item.caseId
  targetId := item.targetId
  action := item.action
  opaDecision := status upper item.opaDecision "UNKNOWN"
  humanApprovalState := status upper item.humanApprovalState "UNKNOWN"
  state := status upper item.status "UNKNOWN"
  evidenceRefs := item.evidenceRefs
  scope := ⟨item.tenantId, item.caseId⟩
  source := item.source

end Overlay

/-- What `read_detection_signals` and its siblings return. -/
structure CanonicalRows where
  signals : List DetectionSignalReadModel
  hunts : List HuntReadModel
  incidents : List IncidentReadModel
  proposals : List ResponseProposalReadModel

def CanonicalRows.tenants (rows : CanonicalRows) : List String :=
  rows.signals.map (·.tenantId) ++ rows.hunts.map (·.tenantId) ++ rows.incidents.map (·.tenantId) ++
    rows.proposals.map (·.tenantId)

def experienceOverlay (upper : String → String) (experienceReader : Option (String → Snapshot))
    (rows : CanonicalRows) (baseSnapshot : Snapshot) (accessPrincipalId : Option String) : Snapshot :=
  { (experienceReader.map fun read => read (accessPrincipalId.getD "")).getD baseSnapshot with
    sourceLabel := "LOCAL / LOOPBACK / CANONICAL_POSTGRESQL"
    tenantId := (rows.tenants.find? fun t => t ≠ "").getD baseSnapshot.tenantId
    detectionSignals := rows.signals.map (Overlay.signalView upper)
    hunts := rows.hunts.map (Overlay.huntView upper)
    incidents := rows.incidents.map (Overlay.incidentView upper)
    responseProposals := rows.proposals.map (Overlay.proposalView upper) }

section Wire

def textValue (text : Option String) : Value := (text.map Value.str).getD .null

def textValues (texts : List String) : Value := .arr (texts.map Value.str)

def Scope.value (s : Scope) : Value := .obj [("tenantId", .str s.tenantId), ("caseId", .str s.caseId)]

def Provenance.value (p : Provenance) : Value :=
  .obj [("source", .str p.source), ("sourceType", .str p.sourceType), ("observedAt", .str p.observedAt),
    ("evidenceRefs", textValues p.evidenceRefs), ("status", .str p.status)]

def AttentionItem.value (v : AttentionItem) : Value :=
  .obj [("id", .str v.id), ("kind", .str v.kind), ("title", .str v.title), ("detail", .str v.detail),
    ("caseId", .str v.caseId), ("entityId", .str v.entityId), ("status", .str v.status),
    ("observedAt", .str v.observedAt), ("nextAction", .str v.nextAction),
    ("evidenceRefs", textValues v.evidenceRefs), ("scope", v.scope.value), ("source", .str v.source)]

def CaseView.value (v : CaseView) : Value :=
  .obj [("id", .str v.caseId), ("caseId", .str v.caseId), ("clientLabel", .str v.clientLabel),
    ("targetLabel", .str v.targetLabel), ("state", .str v.state), ("summary", .str v.summary),
    ("updatedAt", .str v.updatedAt), ("findingIds", textValues v.findingIds),
    ("evidenceCount", .int v.evidenceCount), ("activityCount", .int v.activityCount),
    ("scope", v.scope.value), ("provenance", v.provenance.value)]

def FindingView.value (v : FindingView) : Value :=
  .obj [("id", .str v.findingId), ("findingId", .str v.findingId), ("caseId", .str v.caseId),
    ("title", .str v.title), ("severity", .str v.severity), ("state", .str v.state),
    ("adjudication", .str v.state), ("evidenceRefs", textValues v.evidenceRefs), ("scope", v.scope.value),
    ("provenance", v.provenance.value)]

def ActivityView.value (v : ActivityView) : Value :=
  .obj [("id", .str v.id), ("caseId", textValue v.caseId), ("occurredAt", .str v.occurredAt),
    ("sequence", .int v.sequence), ("kind", .str v.kind), ("title", .str v.title), ("detail", .str v.title),
    ("state", .str v.state), ("evidenceRefs", textValues []), ("scope", v.scope.value),
    ("source", .str v.source)]

def SignalView.value (v : SignalView) : Value :=
  .obj [("id", .str v.signalId), ("signalId", .str v.signalId), ("caseId", .str v.caseId),
    ("ruleId", .str v.ruleId), ("ruleVersion", .int v.ruleVersion), ("severity", .str v.severity),
    ("confidence", .str v.confidence), ("state", .str v.state), ("eventIds", textValues v.eventIds),
    ("evidenceRefs", textValues v.evidenceRefs), ("scope", v.scope.value), ("source", .str v.source)]

def HuntView.value (v : HuntView) : Value :=
  .obj [("id", .str v.huntId), ("huntId", .str v.huntId), ("hypothesisId", .str v.hypothesisId),
    ("caseId", .str v.caseId), ("disposition", .str v.disposition), ("state", .str v.state),
    ("evidenceRefs", textValues v.evidenceRefs), ("scope", v.scope.value), ("source", .str v.source)]

def IncidentView.value (v : IncidentView) : Value :=
  .obj [("id", .str v.incidentId), ("incidentId", .str v.incidentId), ("caseId", .str v.caseId),
    ("state", .str v.state), ("severity", .str v.severity), ("confidence", .str v.confidence),
    ("signalIds", textValues v.signalIds), ("evidenceRefs", textValues v.evidenceRefs),
    ("scope", v.scope.value), ("provenance", v.provenance.value)]

def ProposalView.value (v : ProposalView) : Value :=
  .obj [("id", .str v.proposalId), ("proposalId", .str v.proposalId), ("incidentId", .str v.incidentId),
    ("caseId", .str v.caseId), ("targetId", .str v.targetId), ("action", .str v.action),
    ("opaDecision", .str v.opaDecision), ("humanApprovalState", .str v.humanApprovalState),
    ("state", .str v.state), ("evidenceRefs", textValues v.evidenceRefs), ("scope", v.scope.value),
    ("source", .str v.source)]

/-- The document that is sent, with the members that are the same in all snapshots. -/
def Snapshot.value (s : Snapshot) : Value :=
  .obj [("mode", .str s.mode), ("connectionState", .str "CONNECTED"), ("sourceLabel", .str s.sourceLabel),
    ("tenantId", .str s.tenantId), ("attention", .arr (s.attention.map AttentionItem.value)),
    ("cases", .arr (s.cases.map CaseView.value)), ("findings", .arr (s.findings.map FindingView.value)),
    ("activity", .arr (s.activity.map ActivityView.value)), ("graphNodes", .arr []), ("graphEdges", .arr []),
    ("runners", .arr []), ("detectionSignals", .arr (s.detectionSignals.map SignalView.value)),
    ("hunts", .arr (s.hunts.map HuntView.value)), ("incidents", .arr (s.incidents.map IncidentView.value)),
    ("responseProposals", .arr (s.responseProposals.map ProposalView.value))]

end Wire

end SecScanMonitor.ReadModels
