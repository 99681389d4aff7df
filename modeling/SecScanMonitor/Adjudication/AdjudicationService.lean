import Mathlib.Tactic.Common
import SecScanMonitor.Domain.Common

/-! Claims, and the only place where findings are made of them (`domain/evidence.py`,
`domain/finding.py`, `adjudication/__init__.py`). -/

namespace SecScanMonitor.Domain

structure Claim where
  claimId : String
  engagementId : String
  agentId : String
  agentRunId : String
  observationIds : List String
  evidenceIds : List String
  statement : String
  confidence : Confidence
  uncertainty : String
  deriving Repr, DecidableEq

inductive AdjudicationVerdict where
  | confirmed
  | supported
  | inconclusive
  | rejected
  deriving Repr, DecidableEq

structure Adjudication where
  adjudicationId : String
  engagementId : String
  claimIds : List String
  supportingEvidenceIds : List String
  contradictingEvidenceIds : List String
  verdict : AdjudicationVerdict
  rationale : String
  confidence : Confidence
  specialistIdentity : String
  toolConfidence : Option Confidence
  scopeNote : String
  decidedByPrincipalId : String
  deriving Repr, DecidableEq

structure Finding where
  findingId : String
  engagementId : String
  originatingAdjudicationId : String
  title : String
  severity : Severity
  summary : String
  remediationGuidance : String
  verificationStep : String
  supportingEvidenceIds : List String
  contradictingEvidenceIds : List String
  rationale : String
  confidence : Confidence
  deriving Repr, DecidableEq

end SecScanMonitor.Domain

namespace SecScanMonitor.Adjudication

open Domain

/-- What one claim is adjudicated with. -/
structure AdjudicationInput where
  engagementId : String
  claim : Claim
  supportingEvidenceIds : List String
  contradictingEvidenceIds : List String
  specialistIdentity : String
  toolConfidence : Option Confidence
  scopeNote : String
  severity : Option Severity
  decidedByPrincipalId : String

/-- The two ids that an adjudication mints. -/
structure AdjudicationIds where
  adjudicationId : String
  findingId : String

namespace AdjudicationService

def verdictOf (i : AdjudicationInput) : AdjudicationVerdict × Confidence :=
  let evidenceOk := i.claim.evidenceIds ≠ [] ∨ i.supportingEvidenceIds ≠ []
  let contradicted := i.contradictingEvidenceIds ≠ []
  if contradicted ∧ ¬ evidenceOk then (.rejected, .high)
  else if contradicted then (.inconclusive, .unknown)
  else if ¬ evidenceOk then (.inconclusive, .unknown)
  else if i.claim.confidence = .high ∧ (i.toolConfidence = none ∨ i.toolConfidence = some .high) then
    (.confirmed, .high)
  else (.supported, if i.claim.confidence ≠ .unknown then i.claim.confidence else .medium)

/-- `_rationale` -/
def rationale (verdict : AdjudicationVerdict) (claim : Claim) (contradicted : Bool)
    (specialistIdentity : String) : String :=
  let identity := if specialistIdentity = "" then "unattributed" else specialistIdentity
  let base := s!"claim {claim.claimId} by {claim.agentId} ({identity})"
  match verdict with
  | .confirmed => s!"{base}: evidence corroborates with high confidence; no contradicting evidence."
  | .supported =>
    s!"{base}: evidence supports the claim; categorical confidence {claim.confidence.value}."
  | .inconclusive =>
    if contradicted then
      s!"{base}: supporting and contradicting evidence both present; inconclusive."
    else s!"{base}: insufficient evidence; inconclusive."
  | .rejected => s!"{base}: no evidence and/or contradiction; rejected."

/-- `s.rsplit(" ", 1)[0]` -/
def beforeLastSpace (s : List Char) : List Char :=
  if ' ' ∈ s then ((s.reverse.dropWhile (fun c => c ≠ ' ')).drop 1).reverse else s

def titleOf (statement : String) : String :=
  if statement.toList.length ≤ 255 then statement
  else String.ofList (beforeLastSpace (statement.toList.take 252)) ++ "..."

def adjudicationOf (i : AdjudicationInput) (ids : AdjudicationIds) : Adjudication where
  adjudicationId := ids.adjudicationId
  engagementId := i.engagementId
  claimIds := [i.claim.claimId]
  supportingEvidenceIds :=
    if i.supportingEvidenceIds = [] then i.claim.evidenceIds else i.supportingEvidenceIds
  contradictingEvidenceIds := i.contradictingEvidenceIds
  verdict := (verdictOf i).1
  rationale := rationale (verdictOf i).1 i.claim (i.contradictingEvidenceIds ≠ [])
    i.specialistIdentity
  confidence := (verdictOf i).2
  specialistIdentity := i.specialistIdentity
  toolConfidence := i.toolConfidence
  scopeNote := i.scopeNote
  decidedByPrincipalId := i.decidedByPrincipalId

def findingOf (i : AdjudicationInput) (ids : AdjudicationIds) (severity : Severity) : Finding where
  findingId := ids.findingId
  engagementId := i.engagementId
  originatingAdjudicationId := ids.adjudicationId
  title := titleOf i.claim.statement
  severity := severity
  summary := i.claim.statement
  remediationGuidance := ""
  verificationStep := ""
  supportingEvidenceIds := (adjudicationOf i ids).supportingEvidenceIds
  contradictingEvidenceIds := i.contradictingEvidenceIds
  rationale := (adjudicationOf i ids).rationale
  confidence := (verdictOf i).2

def adjudicate (i : AdjudicationInput) (ids : AdjudicationIds) :
    Except Raised (Adjudication × Option Finding) := do
  raiseIf (i.claim.engagementId ≠ i.engagementId) .adjudicationInputError
    s!"claim {i.claim.claimId} belongs to engagement {i.claim.engagementId}, not {i.engagementId}"
  let adjudication := adjudicationOf i ids
  if adjudication.verdict = .confirmed ∨ adjudication.verdict = .supported then
    let severity ← orRaise i.severity .adjudicationInputError
      "severity is required to create a Finding from a confirmed/supported claim"
    return (adjudication, some (findingOf i ids severity))
  return (adjudication, none)

/-- An adjudication carries the id that was minted for it. -/
lemma adjudicate_id {i : AdjudicationInput} {ids : AdjudicationIds} {r : Adjudication × Option Finding}
    (h : adjudicate i ids = .ok r) : r.1.adjudicationId = ids.adjudicationId := by
  unfold adjudicate at h
  obtain ⟨-, h⟩ := raiseIf_bind_eq_ok.mp h
  dsimp only at h
  split at h
  · obtain ⟨severity, -, h⟩ := bind_eq_ok.mp h
    rw [← Except.ok.inj h]
    rfl
  · rw [← Except.ok.inj h]
    rfl

end AdjudicationService

end SecScanMonitor.Adjudication
