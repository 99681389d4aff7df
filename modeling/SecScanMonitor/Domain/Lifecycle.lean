import Mathlib.Data.List.Basic
import SecScanMonitor.Domain.Engagement
import SecScanMonitor.Domain.Errors

/-! The engagement state machine (`domain/engagement.py`). -/

namespace SecScanMonitor.Domain

namespace EngagementStatus

/-- `TERMINAL_STATES` -/
def terminalStates : List EngagementStatus := [.refused, .revoked, .failed, .partly, .closed]

/-- `_TRANSITIONS` -/
def transitions : EngagementStatus → List EngagementStatus
  | .draft => [.intake, .refused]
  | .intake => [.scopeValidated, .refused]
  | .scopeValidated => [.authorized, .refused]
  | .authorized => [.active, .suspended, .revoked]
  | .active => [.evidenceCollection, .suspended, .revoked, .failed]
  | .evidenceCollection => [.analysis, .suspended, .revoked, .failed]
  | .analysis => [.adjudication, .suspended, .revoked, .failed]
  | .adjudication => [.reporting, .suspended, .revoked, .failed]
  | .reporting => [.remediation, .closed, .partly, .suspended, .revoked, .failed]
  | .remediation => [.closed, .partly, .revoked, .failed]
  | .suspended =>
    [.authorized, .active, .evidenceCollection, .analysis, .adjudication, .reporting, .remediation]
  | .refused | .revoked | .failed | .partly | .closed => []

/-- `_SUSPENDABLE` -/
def suspendable : List EngagementStatus :=
  [.authorized, .active, .evidenceCollection, .analysis, .adjudication, .reporting, .remediation]

lemma transitions_terminal {status : EngagementStatus} (h : status ∈ terminalStates) :
    status.transitions = [] := by
  simp only [terminalStates, List.mem_cons, List.not_mem_nil, or_false] at h
  rcases h with rfl | rfl | rfl | rfl | rfl <;> rfl

/-- A suspended engagement may resume whatever may be suspended. -/
lemma suspendable_resumes {status : EngagementStatus} (h : status ∈ suspendable) :
    status ∈ EngagementStatus.suspended.transitions ∧ status ∉ terminalStates ∧
      status ≠ .suspended := by
  simp only [suspendable, List.mem_cons, List.not_mem_nil, or_false] at h
  rcases h with rfl | rfl | rfl | rfl | rfl | rfl | rfl <;> decide

end EngagementStatus

/-- An entry of `status_history`; the instant is as `isoformat` writes it. -/
structure StatusChange where
  fromStatus : String
  toStatus : String
  reason : String
  principalId : String
  instant : String
  deriving Repr, DecidableEq

/-- `Engagement`, with the fields that a transition reads and writes. -/
structure EngagementAggregate extends Engagement where
  statusHistory : List StatusChange
  refusalReason : Option String
  suspendedFrom : Option EngagementStatus
  updatedAt : String
  deriving Repr, DecidableEq

/-- What the recorder is told of a transition. -/
structure TransitionRecord where
  eventId : String
  engagementId : String
  principalId : String
  fromStatus : EngagementStatus
  toStatus : EngagementStatus
  reason : String
  occurredAt : String
  deriving Repr, DecidableEq

/-- Who asks for a transition, why, and the id and the instant that it is given. -/
structure TransitionRequest where
  principalId : String
  reason : String
  eventId : String
  instant : String
  deriving Repr, DecidableEq

namespace EngagementAggregate

open EngagementStatus

/-- The checks of `transition`. -/
def checkTransition (toStatus : EngagementStatus) (e : EngagementAggregate) :
    Except Raised Unit := do
  raiseIf (toStatus ∉ e.status.transitions) .invalidEngagementTransition
      s!"Engagement {e.engagementId}: invalid transition {e.status.value} -> {toStatus.value}"
  raiseIf (toStatus = .suspended ∧ e.status ∉ suspendable) .invalidEngagementTransition
      s!"Engagement {e.engagementId}: {e.status.value} is not suspendable"
  if e.status = .suspended then
    let suspendedFrom ← orRaise e.suspendedFrom .invalidEngagementTransition
      s!"Engagement {e.engagementId}: suspended without a recorded suspended-from state"
    raiseIf (toStatus ∈ terminalStates ∨ toStatus = .suspended) .invalidEngagementTransition
      s!"Engagement {e.engagementId}: cannot resume {e.status.value} -> {toStatus.value}"
    raiseIf (toStatus ≠ suspendedFrom) .invalidEngagementTransition
      s!"Engagement {e.engagementId}: resume target {toStatus.value} does not match suspended-from state {suspendedFrom.value}"

/-- The engagement after a transition that is permitted. -/
def moved (toStatus : EngagementStatus) (request : TransitionRequest) (e : EngagementAggregate) :
    EngagementAggregate :=
  { e with
    status := toStatus
    suspendedFrom :=
      if e.status = .suspended then none
      else if toStatus = .suspended then some e.status
      else e.suspendedFrom
    updatedAt := request.instant
    statusHistory := e.statusHistory ++
      [⟨e.status.value, toStatus.value, request.reason, request.principalId, request.instant⟩] }

def transition (toStatus : EngagementStatus) (request : TransitionRequest)
    (e : EngagementAggregate) : Except Raised (TransitionRecord × EngagementAggregate) := do
  checkTransition toStatus e
  return (⟨request.eventId, e.engagementId, request.principalId, e.status, toStatus, request.reason,
    request.instant⟩, moved toStatus request e)

variable {toStatus : EngagementStatus} {request : TransitionRequest} {e : EngagementAggregate}

lemma checkTransition_eq_ok : checkTransition toStatus e = .ok () ↔
    toStatus ∈ e.status.transitions ∧ (toStatus = .suspended → e.status ∈ suspendable) ∧
      (e.status = .suspended → e.suspendedFrom = some toStatus ∧ toStatus ∉ terminalStates ∧
        toStatus ≠ .suspended) := by
  rw [checkTransition, raiseIf_bind_eq_ok, raiseIf_bind_eq_ok, not_not, not_and_not_right]
  by_cases hsuspended : e.status = .suspended
  · rw [if_pos hsuspended, orRaise_bind_eq_ok]
    simp only [raiseIf_bind_eq_ok, raiseIf_eq_ok, not_not, not_or, hsuspended, true_implies]
    constructor
    · rintro ⟨hin, hable, suspendedFrom, hfrom, ⟨hterminal, hagain⟩, rfl⟩
      exact ⟨hin, hable, hfrom, hterminal, hagain⟩
    · rintro ⟨hin, hable, hfrom, hterminal, hagain⟩
      exact ⟨hin, hable, toStatus, hfrom, ⟨hterminal, hagain⟩, rfl⟩
  · rw [if_neg hsuspended]
    constructor
    · rintro ⟨hin, hable, -⟩
      exact ⟨hin, hable, fun h => absurd h hsuspended⟩
    · rintro ⟨hin, hable, -⟩
      exact ⟨hin, hable, rfl⟩

lemma transition_eq_ok {record : TransitionRecord} {e' : EngagementAggregate} :
    transition toStatus request e = .ok (record, e') ↔ checkTransition toStatus e = .ok () ∧
      record = ⟨request.eventId, e.engagementId, request.principalId, e.status, toStatus,
        request.reason, request.instant⟩ ∧ e' = moved toStatus request e := by
  rw [transition, bind_eq_ok]
  constructor
  · rintro ⟨u, hcheck, h⟩
    obtain ⟨hrecord, hmoved⟩ := Prod.mk.inj (Except.ok.inj h)
    exact ⟨hcheck, hrecord.symm, hmoved.symm⟩
  · rintro ⟨hcheck, rfl, rfl⟩
    exact ⟨(), hcheck, rfl⟩

end EngagementAggregate

end SecScanMonitor.Domain
