import SecScanMonitor.DetectionResponse.Engine

/-! Incidents are adjudicated from scoped claims over the evidence of detection signals
(`IncidentAdjudicator` of `detection_response/engine.py`). -/

namespace SecScanMonitor.DetectionResponse

open Foundations Domain ContinuousSecurity

/-- What adjudication reads of a claim (`domain/evidence.py`). -/
structure Claim where
  claimId : String
  engagementId : String
  observationIds : List String
  evidenceIds : List String
  deriving DecidableEq

@[ext]
structure IncidentHypothesis where
  hypothesisId : String
  scope : Scope
  question : String
  sourceSignalIds : List String
  affectedEntities : List String
  createdAt : Datetime
  nonblank : isBlank hypothesisId = false ∧ isBlank question = false
  referenced : ∀ refs ∈ [sourceSignalIds, affectedEntities], refs ≠ [] ∧ ∀ r ∈ refs, isBlank r = false

instance : DecidableEq IncidentHypothesis := fun _ _ => decidable_of_iff _ IncidentHypothesis.ext_iff.symm

structure IncidentInvestigation where
  investigationId : String
  hypothesisId : String
  scope : Scope
  observationIds : List String
  claimIds : List String
  openedAt : Datetime
  deriving DecidableEq

def IncidentInvestigation.validate (i : IncidentInvestigation) : Except Raised Unit :=
  raiseIf ([i.investigationId, i.hypothesisId].any isBlank) .validationError "value must be non-empty"

structure IncidentAdjudication where
  adjudicationId : String
  hypothesisId : String
  scope : Scope
  supportingClaimIds : List String
  supportingEvidenceRefs : List String
  contradictingClaimIds : List String
  contradictingEvidenceRefs : List String
  decidedBy : String
  decidedAt : Datetime
  reason : String
  confidence : Confidence
  severity : Severity
  deriving DecidableEq

def IncidentAdjudication.validate (a : IncidentAdjudication) : Except Raised Unit :=
  raiseIf ([a.adjudicationId, a.hypothesisId, a.decidedBy, a.reason].any isBlank) .validationError
    "value must be non-empty"

/-- The arguments of `adjudicate`. -/
structure Judgement where
  hypothesis : IncidentHypothesis
  supportingClaimIds : List String
  supportingEvidenceRefs : List String
  contradictingClaimIds : List String
  contradictingEvidenceRefs : List String
  decidedBy : String
  reason : String
  severity : Severity
  confidence : Confidence
  observationIds : List String
  deriving DecidableEq

namespace Judgement

variable (codec : Codec)

def claimIds (j : Judgement) : List String := j.supportingClaimIds ++ j.contradictingClaimIds

def evidenceRefs (j : Judgement) : List String :=
  j.supportingEvidenceRefs ++ j.contradictingEvidenceRefs

def investigationId (j : Judgement) : String :=
  stableId codec "INV-" [.str j.hypothesis.hypothesisId,
    .arr ((normalized j.observationIds).map .str), .arr ((normalized j.supportingClaimIds).map .str)]

def adjudicationId (j : Judgement) : String :=
  stableId codec "ADJ-" [j.hypothesis.scope.key, .str j.hypothesis.hypothesisId,
    .arr ((normalized j.supportingClaimIds).map .str),
    .arr ((normalized j.supportingEvidenceRefs).map .str),
    .arr ((normalized j.contradictingClaimIds).map .str),
    .arr ((normalized j.contradictingEvidenceRefs).map .str)]

def incidentId (j : Judgement) : String :=
  stableId codec "INC-" [.str (j.adjudicationId codec), j.hypothesis.scope.key]

def state (j : Judgement) : IncidentState :=
  if normalized j.contradictingClaimIds ≠ [] ∨ normalized j.contradictingEvidenceRefs ≠ [] then
    .candidate
  else .confirmed

def investigation (j : Judgement) (now : Datetime) : IncidentInvestigation where
  investigationId := j.investigationId codec
  hypothesisId := j.hypothesis.hypothesisId
  scope := j.hypothesis.scope
  observationIds := normalized j.observationIds
  claimIds := normalized j.supportingClaimIds
  openedAt := now

def adjudication (j : Judgement) (now : Datetime) : IncidentAdjudication where
  adjudicationId := j.adjudicationId codec
  hypothesisId := j.hypothesis.hypothesisId
  scope := j.hypothesis.scope
  supportingClaimIds := normalized j.supportingClaimIds
  supportingEvidenceRefs := normalized j.supportingEvidenceRefs
  contradictingClaimIds := normalized j.contradictingClaimIds
  contradictingEvidenceRefs := normalized j.contradictingEvidenceRefs
  decidedBy := j.decidedBy
  decidedAt := now
  reason := j.reason
  confidence := j.confidence
  severity := j.severity

def incident (j : Judgement) (now : Datetime) : Incident where
  incidentId := j.incidentId codec
  hypothesisId := j.hypothesis.hypothesisId
  investigationId := j.investigationId codec
  adjudicationId := j.adjudicationId codec
  scope := j.hypothesis.scope
  state := j.state
  severity := j.severity
  confidence := j.confidence
  sourceSignalIds := j.hypothesis.sourceSignalIds
  observationIds := normalized j.observationIds
  claimIds := normalized j.supportingClaimIds
  supportingEvidenceRefs := normalized j.supportingEvidenceRefs
  contradictingEvidenceRefs := normalized j.contradictingEvidenceRefs
  adjudicatedAt := now

end Judgement

/-- The stored adjudication is not that of the request. Its id and its time are not compared. -/
def IncidentAdjudication.differs (existing requested : IncidentAdjudication) : Bool :=
  existing.hypothesisId ≠ requested.hypothesisId || existing.scope ≠ requested.scope ||
    existing.supportingClaimIds ≠ requested.supportingClaimIds ||
    existing.supportingEvidenceRefs ≠ requested.supportingEvidenceRefs ||
    existing.contradictingClaimIds ≠ requested.contradictingClaimIds ||
    existing.contradictingEvidenceRefs ≠ requested.contradictingEvidenceRefs ||
    existing.decidedBy ≠ requested.decidedBy || existing.reason ≠ requested.reason ||
    existing.confidence ≠ requested.confidence || existing.severity ≠ requested.severity

/-- The stored incident is not that of the request. Its id and its time are not compared. -/
def Incident.differs (existing requested : Incident) : Bool :=
  existing.hypothesisId ≠ requested.hypothesisId ||
    existing.investigationId ≠ requested.investigationId ||
    existing.adjudicationId ≠ requested.adjudicationId || existing.scope ≠ requested.scope ||
    existing.state ≠ requested.state || existing.severity ≠ requested.severity ||
    existing.confidence ≠ requested.confidence ||
    existing.sourceSignalIds ≠ requested.sourceSignalIds ||
    existing.observationIds ≠ requested.observationIds || existing.claimIds ≠ requested.claimIds ||
    existing.supportingEvidenceRefs ≠ requested.supportingEvidenceRefs ||
    existing.contradictingEvidenceRefs ≠ requested.contradictingEvidenceRefs

structure IncidentAdjudicator where
  detections : DetectionEngine
  scope : Option Scope
  canonicalAdjudicatorIds : List String
  canonicalClaims : Dict String Claim
  canonicalClaimEvidenceRefs : Option (Dict String (List String))
  incidents : Dict String Incident
  adjudications : Dict String IncidentAdjudication
  investigations : Dict String IncidentInvestigation
  hypotheses : Dict String IncidentHypothesis

namespace IncidentAdjudicator

def init (detections : DetectionEngine) (scope : Option Scope) (adjudicatorIds : List String)
    (claims : Dict String Claim) (evidenceRefs : Option (Dict String (List String))) :
    IncidentAdjudicator where
  detections := detections
  scope := scope <|> detections.scope
  canonicalAdjudicatorIds := adjudicatorIds
  canonicalClaims := claims
  canonicalClaimEvidenceRefs := evidenceRefs
  incidents := Table.empty
  adjudications := Table.empty
  investigations := Table.empty
  hypotheses := Table.empty

def canonicalClaim (a : IncidentAdjudicator) (scope : Scope) (claimId : String) :
    Except Raised (String × Claim) :=
  let message := "incident adjudication requires canonical, evidence-grounded claims"
  do
    let claim ← orRaise (a.canonicalClaims.find? claimId) .adjudicationRefused message
    raiseIf (claim.claimId ≠ claimId ∨ claim.engagementId ≠ scope.caseId ∨
        (claim.evidenceIds = [] ∧ claim.observationIds = [])) .adjudicationRefused message
    return (claimId, claim)

/-- The canonical evidence of a claim. -/
def claimEvidenceRefs (a : IncidentAdjudicator) (claimId : String) (claim : Claim) : List String :=
  match a.canonicalClaimEvidenceRefs with
  | some refs => (refs.find? claimId).getD []
  | none => claim.evidenceIds

def claimEvidence (a : IncidentAdjudicator) (record : String × Claim) :
    Except Raised (String × List String) := do
  let refs := a.claimEvidenceRefs record.1 record.2
  raiseIf (refs.any isBlank) .adjudicationRefused "incident claim evidence references are invalid"
  raiseIf (refs = []) .adjudicationRefused
      "incident adjudication requires canonical claim evidence"
  return (record.1, refs)

/-- The evidence of those of the claims that are named. -/
def evidenceOfClaims (evidence : List (String × List String)) (claimIds : List String) :
    List String :=
  (evidence.filter fun e => decide (e.1 ∈ claimIds)).flatMap Prod.snd

/-- Each of the references is among the others: `set(refs).issubset(others)`. -/
def within (refs others : List String) : Prop := ∀ r ∈ refs, r ∈ others

instance (refs others : List String) : Decidable (within refs others) := by
  unfold within
  infer_instance

/-- A hypothesis that was adjudicated keeps its content. -/
def pinned (a : IncidentAdjudicator) (h : IncidentHypothesis) : Prop :=
  ∀ existing ∈ a.hypotheses.find? h.hypothesisId, existing.scope = h.scope ∧
    existing.question = h.question ∧ existing.sourceSignalIds = h.sourceSignalIds ∧
    existing.affectedEntities = h.affectedEntities

instance (a : IncidentAdjudicator) (h : IncidentHypothesis) : Decidable (a.pinned h) := by
  unfold pinned
  infer_instance

/-- The checks of `adjudicate`, in their order. -/
def review (j : Judgement) (a : IncidentAdjudicator) : Except Raised Unit := do
  let scope := j.hypothesis.scope
  raiseIf (a.scope.any fun s => decide (scope ≠ s)) .detectionScopeError
      "incident hypothesis crossed its bound scope"
  raiseIf (j.supportingClaimIds = [] ∨ j.supportingEvidenceRefs = []) .adjudicationRefused
      "an Incident requires supporting claims and evidence references"
  raiseIf (j.decidedBy ∉ a.canonicalAdjudicatorIds) .adjudicationRefused
      "incident adjudication requires a canonical human authority"
  raiseIf (j.claimIds.any isBlank) .adjudicationRefused
      "incident adjudication requires non-empty claim references"
  let records ← j.claimIds.mapM (a.canonicalClaim scope)
  raiseIf (j.evidenceRefs.any isBlank) .adjudicationRefused
      "incident adjudication requires non-empty evidence references"
  raiseIf (["llm", "model", "agent-opinion"].any fun token =>
      decide (token.toList <:+: j.decidedBy.toLower.toList)) .adjudicationRefused
      "incident adjudication requires an accountable authority"
  let signals ← j.hypothesis.sourceSignalIds.mapM fun id => a.detections.getSignal id scope
  raiseIf (signals = []) .adjudicationRefused "incident hypothesis has no verifiable source signals"
  let events ← a.detections.events.events (some scope)
  raiseIf (¬ within j.evidenceRefs (events.map (·.rawEvidenceRef))) .adjudicationRefused
      "incident evidence references are not bound to canonical events"
  raiseIf (¬ within j.evidenceRefs (signals.flatMap (·.rawEvidenceRefs))) .adjudicationRefused
      "incident evidence references are not bound to its source signals"
  let evidence ← records.mapM a.claimEvidence
  raiseIf (¬ within j.supportingEvidenceRefs (evidenceOfClaims evidence j.supportingClaimIds))
      .adjudicationRefused "supporting incident evidence is not bound to its supporting claims"
  raiseIf (¬ within j.contradictingEvidenceRefs (evidenceOfClaims evidence j.contradictingClaimIds))
      .adjudicationRefused
      "contradicting incident evidence is not bound to its contradicting claims"
  raiseIf (j.observationIds.any isBlank) .adjudicationRefused
      "incident observation references must be non-empty strings"
  raiseIf (¬ within j.observationIds (records.flatMap (·.2.observationIds))) .adjudicationRefused
      "incident observations are not bound to canonical claims"
  raiseIf (¬ a.pinned j.hypothesis) .adjudicationRefused
      "incident hypothesis identity was reused for different content"

def adjudicate (codec : Codec) (j : Judgement) (now : Datetime) :
    Effect IncidentAdjudicator Incident := fun a =>
  match a.review j with
  | .error e => (.error e, a)
  | .ok () =>
    match a.adjudications.find? (j.adjudicationId codec), a.incidents.find? (j.incidentId codec) with
    | some adjudication, some incident =>
      if adjudication.differs (j.adjudication codec now) || incident.differs (j.incident codec now) then
        (raise .adjudicationRefused "adjudication identity was reused for different content", a)
      else (.ok incident, a)
    | none, none =>
      match (j.investigation codec now).validate >>= fun _ => (j.adjudication codec now).validate >>=
          fun _ => (j.incident codec now).validate with
      | .error e => (.error e, a)
      | .ok incident =>
        (.ok incident,
          { a with
            investigations := a.investigations.set (j.investigationId codec) (j.investigation codec now)
            adjudications := a.adjudications.set (j.adjudicationId codec) (j.adjudication codec now)
            incidents := a.incidents.set (j.incidentId codec) incident
            hypotheses := a.hypotheses.set j.hypothesis.hypothesisId j.hypothesis })
    | _, _ => (raise .adjudicationRefused "adjudication identity has incomplete canonical state", a)

end IncidentAdjudicator

end SecScanMonitor.DetectionResponse
