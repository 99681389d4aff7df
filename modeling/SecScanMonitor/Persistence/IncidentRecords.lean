import SecScanMonitor.DetectionResponse.AdjudicationRecords
import SecScanMonitor.Persistence.ApprovalLedger

/-! The records that an incident rests on: its hypothesis, its claims and their evidence, its investigation
and its adjudication (`persistence/live_control_plane.py` and `persistence/detection_response.py`). -/

namespace SecScanMonitor.Persistence

open Foundations Domain DetectionResponse

structure EvidenceMetadataRow where
  evidenceId : String
  engagementId : String
  targetId : String
  storageRef : String
  deriving DecidableEq

structure ObservationRow where
  observationId : String
  engagementId : String
  evidenceIds : List Value

structure ClaimRow where
  claimId : String
  engagementId : String
  observationIds : List String
  evidenceIds : List Value
  confidence : String

structure AdjudicationRow where
  adjudicationId : String
  engagementId : String
  claimIds : List String
  supportingEvidenceIds : List String
  contradictingEvidenceIds : List String
  verdict : String
  rationale : String
  confidence : String
  specialistIdentity : String
  decidedByPrincipalId : Option String
  decidedAt : Datetime
  deriving DecidableEq

structure IncidentHypothesisRow where
  hypothesisId : String
  scope : Scope
  question : String
  sourceSignalIds : List String
  affectedEntities : List String
  createdAt : Datetime
  deriving DecidableEq

/-- The database with the tables of the incident records. -/
structure IncidentStore where
  database : Database
  claims : Table ClaimRow.claimId
  observations : Table ObservationRow.observationId
  evidenceMetadata : Table EvidenceMetadataRow.evidenceId
  incidentHypotheses : Table IncidentHypothesisRow.hypothesisId
  incidentInvestigations : Table IncidentInvestigation.investigationId
  adjudications : Table AdjudicationRow.adjudicationId

section Hypotheses

variable (codec : Codec) (secretLike : Value → Bool)

/-- The constructor, which validates. -/
def incidentHypothesis (hypothesisId : String) (scope : Scope) (question : String)
    (sourceSignalIds affectedEntities : List String) (createdAt : Datetime) :
    Except Raised IncidentHypothesis :=
  if hblank : isBlank hypothesisId = false ∧ isBlank question = false then
    if hrefs : ∀ refs ∈ [sourceSignalIds, affectedEntities], refs ≠ [] ∧ ∀ r ∈ refs, isBlank r = false then
      .ok ⟨hypothesisId, scope, question, sourceSignalIds, affectedEntities, createdAt, hblank, hrefs⟩
    else raise .validationError "incident hypotheses require source signals and affected entities"
  else raise .validationError "value must be non-empty"

def IncidentHypothesisRow.of (h : IncidentHypothesis) : IncidentHypothesisRow where
  hypothesisId := h.hypothesisId
  scope := h.scope
  question := h.question
  sourceSignalIds := h.sourceSignalIds
  affectedEntities := h.affectedEntities
  createdAt := h.createdAt

def IncidentHypothesisRow.load (row : IncidentHypothesisRow) : Except Raised IncidentHypothesis :=
  incidentHypothesis row.hypothesisId row.scope row.question row.sourceSignalIds row.affectedEntities
    row.createdAt

/-- `model_dump(mode="json", by_alias=True)` -/
def incidentHypothesisValue (h : IncidentHypothesis) : Value := .obj
  [("hypothesis_id", .str h.hypothesisId), ("scope", h.scope.toValue), ("question", .str h.question),
    ("source_signal_ids", .arr (h.sourceSignalIds.map .str)),
    ("affected_entities", .arr (h.affectedEntities.map .str)),
    ("created_at", .str (codec.isoformat h.createdAt))]

/-- `load_hypothesis` -/
def loadHypothesis (hypothesisId : String) (store : IncidentStore) :
    Except Raised (Option IncidentHypothesis) :=
  match store.incidentHypotheses.get? hypothesisId with
  | none => .ok none
  | some row => row.load.map some

/-- The stored hypothesis asks the same question of the same signals and entities. -/
def IncidentHypothesisRow.same (existing row : IncidentHypothesisRow) : Bool :=
  existing.question = row.question && existing.sourceSignalIds = row.sourceSignalIds &&
    existing.affectedEntities = row.affectedEntities

def saveHypothesisRow (row : IncidentHypothesisRow) (t : Table IncidentHypothesisRow.hypothesisId) :
    Except Raised (Table IncidentHypothesisRow.hypothesisId) :=
  match t.get? row.hypothesisId with
  | some existing =>
    if existing.scope ≠ row.scope then
      raise .detectionScopeError "canonical detection-response record is outside the requested scope"
    else if existing.same row then .ok t
    else raise .detectionInputError "incident hypothesis identity was reused for different content"
  | none => unique (t.insert? (fun _ => false) row)

/-- `save_incident_hypothesis` -/
def saveIncidentHypothesis (h : IncidentHypothesis) (store : IncidentStore) :
    Except Raised IncidentStore := do
  raiseIf (secretLike (incidentHypothesisValue codec h)) .detectionInputError
    "canonical live text contains secret-like content"
  validateEngagementScope store.database h.scope
  let hypotheses ← saveHypothesisRow (IncidentHypothesisRow.of h) store.incidentHypotheses
  return { store with incidentHypotheses := hypotheses }

end Hypotheses

section Claims

/-- The strings of a JSON column, none of them blank. -/
def evidenceTexts (values : List Value) : Except Raised (List String) :=
  values.mapM fun v =>
    match v with
    | .str s =>
      if isBlank s then raise .detectionInputError "canonical claim evidence references are invalid"
      else .ok s
    | _ => raise .detectionInputError "canonical claim evidence references are invalid"

/-- The rows of the requested keys, all of which are there and let through. -/
def rowsOf {ρ : Type} {key : ρ → String} (t : Table key) (ids : List String) (allowed : ρ → Bool)
    (message : String) : Except Raised (List ρ) := do
  let rows := t.select fun r => decide (key r ∈ ids)
  raiseIf (rows.length ≠ ids.length ∨ ∃ r ∈ rows, allowed r = false) .permissionError message
  return rows

/-- The evidence of a claim, its own first and then that of its observations. -/
def claimEvidenceIds (row : ClaimRow) (evidenceOf : String → List Value) : Except Raised (List String) :=
  (evidenceTexts (row.evidenceIds ++ row.observationIds.flatMap evidenceOf)).map List.eraseDups

def confidenceNamed (value : String) : Option Confidence :=
  [.high, .medium, .low, .unknown].find? fun c => decide (c.value = value)

def evidenceOfObservations (observations : List ObservationRow) (id : String) : List Value :=
  (observations.filter fun o => decide (o.observationId = id)).flatMap (·.evidenceIds)

def readClaim (observations : List ObservationRow) (row : ClaimRow) :
    Except Raised (String × DetectionResponse.Claim) := do
  let evidenceIds ← claimEvidenceIds row (evidenceOfObservations observations)
  raiseIf (confidenceNamed row.confidence = none) .detectionInputError
    "canonical claim confidence is invalid"
  return (row.claimId, ⟨row.claimId, row.engagementId, row.observationIds, evidenceIds⟩)

variable (claimIds : List String) (scope : Scope)

/-- `load_claims` -/
def loadClaims (store : IncidentStore) : Except Raised (List (String × DetectionResponse.Claim)) :=
  let requested := claimIds.eraseDups
  if requested = [] then .ok []
  else do
    validateEngagementScope store.database scope
    let rows ← rowsOf store.claims requested (fun r => r.engagementId = scope.caseId)
      "claim is absent or outside the requested scope"
    let observations ← rowsOf store.observations (rows.flatMap (·.observationIds)).eraseDups
      (fun o => o.engagementId = scope.caseId)
      "claim observation is absent or outside the requested scope"
    let texts ← evidenceTexts (rows.flatMap (·.evidenceIds) ++ observations.flatMap (·.evidenceIds))
    raiseIf (texts = []) .permissionError "claim has no canonical evidence"
    let _ ← rowsOf store.evidenceMetadata texts.eraseDups
      (fun e => e.engagementId = scope.caseId && e.targetId = scope.targetId)
      "claim evidence is absent or outside the requested scope"
    rows.mapM (readClaim observations)

/-- The second transaction of `load_claim_evidence_refs`: the storage references of the evidence. -/
def storageRefs (evidenceIds : List String) (store : IncidentStore) :
    Except Raised (List EvidenceMetadataRow) := do
  validateEngagementScope store.database scope
  rowsOf store.evidenceMetadata evidenceIds
    (fun e => e.engagementId = scope.caseId && e.targetId = scope.targetId && !isBlank e.storageRef)
    "claim evidence is absent or outside the requested scope"

def storageRefsOf (rows : List EvidenceMetadataRow) (evidenceIds : List String) : List String :=
  normalized ((rows.filter fun e => decide (e.evidenceId ∈ evidenceIds)).map (·.storageRef))

/-- `load_claim_evidence_refs`, whose two transactions find two stores. -/
def loadClaimEvidenceRefs (claimsView evidenceView : IncidentStore) :
    Except Raised (List (String × List String)) := do
  let claims ← loadClaims claimIds scope claimsView
  if claims = [] then return []
  let rows ← storageRefs scope (claims.flatMap (·.2.evidenceIds)).eraseDups evidenceView
  return claims.map fun c => (c.1, storageRefsOf rows c.2.evidenceIds)

end Claims

section Incidents

variable (codec : Codec) (secretLike : Value → Bool)

def adjudicationRow (a : IncidentAdjudication) (state : IncidentState) : AdjudicationRow where
  adjudicationId := a.adjudicationId
  engagementId := a.scope.caseId
  claimIds := a.supportingClaimIds ++ a.contradictingClaimIds
  supportingEvidenceIds := a.supportingEvidenceRefs
  contradictingEvidenceIds := a.contradictingEvidenceRefs
  verdict := state.value
  rationale := a.reason
  confidence := a.confidence.value
  specialistIdentity := "secscan-v03-incident-adjudicator"
  decidedByPrincipalId := some a.decidedBy
  decidedAt := a.decidedAt

/-- Everything is compared but the time. -/
def sameInvestigation (existing row : IncidentInvestigation) : Bool :=
  existing.hypothesisId = row.hypothesisId && existing.scope = row.scope &&
    existing.observationIds = row.observationIds && existing.claimIds = row.claimIds

/-- Everything is compared but the specialist and the time. -/
def AdjudicationRow.same (existing row : AdjudicationRow) : Bool :=
  existing.engagementId = row.engagementId && existing.claimIds = row.claimIds &&
    existing.supportingEvidenceIds = row.supportingEvidenceIds &&
    existing.contradictingEvidenceIds = row.contradictingEvidenceIds &&
    existing.verdict = row.verdict && existing.rationale = row.rationale &&
    existing.confidence = row.confidence &&
    existing.decidedByPrincipalId = row.decidedByPrincipalId

/-- Everything is compared but the time. -/
def sameIncident (existing row : Incident) : Bool :=
  !existing.differs row && existing.authorizedActionExecuted = row.authorizedActionExecuted

def investigationValue (i : IncidentInvestigation) : Value := .obj
  [("investigation_id", .str i.investigationId), ("hypothesis_id", .str i.hypothesisId),
    ("scope", i.scope.toValue), ("observation_ids", .arr (i.observationIds.map .str)),
    ("claim_ids", .arr (i.claimIds.map .str)), ("opened_at", .str (codec.isoformat i.openedAt))]

def adjudicationValue (a : IncidentAdjudication) : Value := .obj
  [("adjudication_id", .str a.adjudicationId), ("hypothesis_id", .str a.hypothesisId),
    ("scope", a.scope.toValue), ("supporting_claim_ids", .arr (a.supportingClaimIds.map .str)),
    ("supporting_evidence_refs", .arr (a.supportingEvidenceRefs.map .str)),
    ("contradicting_claim_ids", .arr (a.contradictingClaimIds.map .str)),
    ("contradicting_evidence_refs", .arr (a.contradictingEvidenceRefs.map .str)),
    ("decided_by", .str a.decidedBy), ("decided_at", .str (codec.isoformat a.decidedAt)),
    ("reason", .str a.reason), ("confidence", .str a.confidence.value),
    ("severity", .str a.severity.value)]

/-- `save_incident` -/
def saveIncident (incident : Incident) (t : Table Incident.incidentId) :
    Except Raised (Table Incident.incidentId) :=
  insertOrReplay "incidents" sameIncident (fun _ _ => false) incident t

/-- `save_investigation_and_adjudication`; the one who decided is a principal, or the flush fails. -/
def saveInvestigationAndAdjudication (investigation : IncidentInvestigation)
    (adjudication : IncidentAdjudication) (incident : Incident) (store : IncidentStore) :
    Except Raised IncidentStore := do
  raiseIf (investigation.scope ≠ incident.scope ∨ adjudication.scope ≠ incident.scope) .permissionError
    "incident records crossed their canonical scope"
  raiseIf (secretLike (.obj [("investigation", investigationValue codec investigation),
      ("adjudication", adjudicationValue codec adjudication)])) .detectionInputError
    "canonical live text contains secret-like content"
  validateEngagementScope store.database incident.scope
  let investigations ← insertOrReplay "incident_investigations" sameInvestigation
    (fun _ _ => false) investigation store.incidentInvestigations
  let adjudications ← insertOrReplay "adjudications" AdjudicationRow.same (fun _ _ => false)
    (adjudicationRow adjudication incident.state) store.adjudications
  let incidents ← saveIncident incident store.database.incidents
  raiseIf (store.adjudications.get? adjudication.adjudicationId = none ∧
      store.database.principals.get? adjudication.decidedBy = none) .integrityError
    "insert or update on table \"adjudications\" violates foreign key constraint"
  return { store with
    database := { store.database with incidents }
    incidentInvestigations := investigations
    adjudications }

end Incidents

end SecScanMonitor.Persistence
