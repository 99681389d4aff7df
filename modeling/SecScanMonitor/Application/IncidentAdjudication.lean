import SecScanMonitor.Application.HuntRequest
import SecScanMonitor.Persistence.IncidentRecords

/-! Opening the hypothesis of an incident and adjudicating it (`open_incident_hypothesis` and
`adjudicate_incident` of `application/live_incident_control_plane.py`). Each call makes several transactions,
and other calls commit between them. -/

namespace SecScanMonitor.Application.LiveIncidentControlPlane

open Foundations Domain DetectionResponse ContinuousSecurity Persistence

structure OpenIncidentHypothesis where
  scope : Scope
  question : String
  sourceSignalIds : List String
  affectedEntities : List String
  requestedBy : String
  accessPrincipalId : Option String

structure AdjudicateIncident where
  hypothesisId : String
  supportingClaimIds : List String
  supportingEvidenceRefs : List String
  contradictingClaimIds : List String
  contradictingEvidenceRefs : List String
  observationIds : List String
  decidedBy : String
  reason : String
  severity : Severity
  confidence : Confidence
  accessPrincipalId : Option String

/-- The records of a decision. -/
structure Decision where
  investigation : IncidentInvestigation
  adjudication : IncidentAdjudication
  incident : Incident

/-- The stores that the transactions of an adjudication read, in the order of the transactions. -/
structure AdjudicationViews where
  operator : IncidentStore
  hypothesis : IncidentStore
  claims : IncidentStore
  claimsAgain : IncidentStore
  evidence : IncidentStore
  events : IncidentStore
  signals : IncidentStore

def AdjudicationViews.all (v : AdjudicationViews) : List IncidentStore :=
  [v.operator, v.hypothesis, v.claims, v.claimsAgain, v.evidence, v.events, v.signals]

/-- The dictionary of the entries, a later one in the place of an earlier one. -/
def dictOf {ν : Type} (entries : List (String × ν)) : Dict String ν :=
  entries.foldl (fun d e => d.set e.1 e.2) Table.empty

def strings (items : List String) : Value := .arr (items.map .str)

section Calls

variable (codec : Codec) (secretLike : Value → Bool) (dump : SecurityEvent → Value)
  (decode : Value → Option SecurityEvent)

def OpenIncidentHypothesis.hypothesisId (call : OpenIncidentHypothesis) : String :=
  stableId codec "IH-" [call.scope.key, .str call.question, strings (normalized call.sourceSignalIds),
    strings (normalized call.affectedEntities)]

/-- `open_incident_hypothesis`, whose transactions read two stores and change the current one. -/
def openIncidentHypothesis (call : OpenIncidentHypothesis) (now : Datetime)
    (operator signals current : IncidentStore) : Except Raised (IncidentHypothesis × IncidentStore) := do
  requireOperator operator.database call.requestedBy call.accessPrincipalId
  raiseIf (secretLike (.obj [("question", .str call.question),
      ("source_signal_ids", strings call.sourceSignalIds),
      ("affected_entities", strings call.affectedEntities)])) .valueError
    "live control-plane text must not contain secret-like content"
  let loaded ← signalsFor codec dump decode call.scope call.sourceSignalIds signals.database
  raiseIf (loaded.length ≠ call.sourceSignalIds.eraseDups.length) .permissionError
    "incident hypothesis references an unknown signal"
  raiseIf (isBlank call.question ∨ call.affectedEntities = []) .valueError
    "incident hypothesis requires a question and affected entities"
  let hypothesis ← incidentHypothesis (call.hypothesisId codec) call.scope call.question
    (normalized call.sourceSignalIds) (normalized call.affectedEntities) now
  let store ← saveIncidentHypothesis codec secretLike hypothesis current
  return (hypothesis, store)

/-- `_engine`, over the events of one store and the signals of another. -/
def engineOver (scope : Scope) (clock : ℕ → Datetime) (eventsView signalsView : IncidentStore) :
    Except Raised DetectionEngine := do
  let events := loadEvents scope eventsView.database
  let engine ← rebuild codec scope events clock
  let signals ← signalsFor codec dump decode scope [] signalsView.database
  bindSignals (events.map (·.eventId)) signals engine

def AdjudicateIncident.judgement (call : AdjudicateIncident) (h : IncidentHypothesis) : Judgement where
  hypothesis := h
  supportingClaimIds := call.supportingClaimIds
  supportingEvidenceRefs := call.supportingEvidenceRefs
  contradictingClaimIds := call.contradictingClaimIds
  contradictingEvidenceRefs := call.contradictingEvidenceRefs
  decidedBy := call.decidedBy
  reason := call.reason
  severity := call.severity
  confidence := call.confidence
  observationIds := call.observationIds

def AdjudicateIncident.claimIds (call : AdjudicateIncident) : List String :=
  call.supportingClaimIds ++ call.contradictingClaimIds

/-- The incident, when the scope is that of the adjudicator. -/
def adjudicatedIncident (a : IncidentAdjudicator) (incidentId : String) (scope : Scope) :
    Except Raised Incident := do
  raiseIf (a.scope.any fun s => decide (s ≠ scope)) .detectionScopeError
    "incident access crossed its bound scope"
  let incident ← orRaise (a.incidents.find? incidentId) .detectionScopeError
    "incident is absent or outside the requested scope"
  raiseIf (incident.scope ≠ scope) .detectionScopeError
    "incident is absent or outside the requested scope"
  return incident

/-- `get_investigation` and `get_adjudication` -/
def decisionOf (a : IncidentAdjudicator) (incident : Incident) (scope : Scope) : Except Raised Decision := do
  let stored ← adjudicatedIncident a incident.incidentId scope
  let investigation ← orRaise (a.investigations.find? stored.investigationId) .detectionInputError
    "incident is missing its canonical investigation"
  let adjudication ← orRaise (a.adjudications.find? stored.adjudicationId) .detectionInputError
    "incident is missing its canonical adjudication"
  return ⟨investigation, adjudication, incident⟩

/-- The adjudicator of a call, over what its transactions have read. -/
def AdjudicateIncident.adjudicator (call : AdjudicateIncident) (clock : ℕ → Datetime)
    (v : AdjudicationViews) (h : IncidentHypothesis) : Except Raised IncidentAdjudicator := do
  let claims ← loadClaims call.claimIds h.scope v.claims
  let refs ← loadClaimEvidenceRefs call.claimIds h.scope v.claimsAgain v.evidence
  let detector ← engineOver codec dump decode h.scope clock v.events v.signals
  return IncidentAdjudicator.init detector (some h.scope) [call.decidedBy] (dictOf claims)
    (some (dictOf refs))

/-- The part of `adjudicate_incident` that only reads. -/
def AdjudicateIncident.decide (call : AdjudicateIncident) (clock : ℕ → Datetime) (now : Datetime)
    (v : AdjudicationViews) : Except Raised Decision := do
  requireOperator v.operator.database call.decidedBy call.accessPrincipalId
  raiseIf (secretLike (.obj [("supporting_claim_ids", strings call.supportingClaimIds),
      ("supporting_evidence_refs", strings call.supportingEvidenceRefs),
      ("contradicting_claim_ids", strings call.contradictingClaimIds),
      ("contradicting_evidence_refs", strings call.contradictingEvidenceRefs),
      ("observation_ids", strings call.observationIds), ("reason", .str call.reason)])) .valueError
    "live control-plane text must not contain secret-like content"
  let loaded ← loadHypothesis call.hypothesisId v.hypothesis
  let h ← orRaise loaded .keyError "incident hypothesis not found"
  let a ← call.adjudicator codec dump decode clock v h
  match IncidentAdjudicator.adjudicate codec (call.judgement h) now a with
  | (.error e, _) => .error e
  | (.ok incident, a) => decisionOf a incident h.scope

/-- `adjudicate_incident` -/
def adjudicateIncident (call : AdjudicateIncident) (clock : ℕ → Datetime) (now : Datetime)
    (v : AdjudicationViews) (current : IncidentStore) : Except Raised (Decision × IncidentStore) := do
  let d ← call.decide codec secretLike dump decode clock now v
  let store ← saveInvestigationAndAdjudication codec secretLike d.investigation d.adjudication d.incident
    current
  return (d, store)

end Calls

end SecScanMonitor.Application.LiveIncidentControlPlane
