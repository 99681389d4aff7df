import SecScanMonitor.Domain.Lifecycle
import SecScanMonitor.Foundations.History

/-! The use cases of an engagement's lifecycle (`application/engagement_service.py`) and the audit events
that they append. -/

namespace SecScanMonitor.Application

open Foundations Domain

namespace EngagementService

inductive AuditEventKind where
  | engagementStateChange
  | authorityCreated
  | authorityRevoked
  | approvalDecision
  | agentRun
  | capabilityRequest
  | policyDecision
  | toolInvocation
  | sandboxLifecycle
  | evidenceIngestion
  | claimCreated
  | adjudication
  | findingCreated
  | specialistServiceEvent
  | reportGenerated
  | refusal
  | remediationApplied
  | system
  deriving Repr, DecidableEq

/-- An event of the ledger, with its kind and what it links to. -/
structure AuditEvent where
  auditEventId : String
  engagementId : Option String
  principalId : Option String
  kind : AuditEventKind
  summary : String
  details : List (String × String)
  deriving Repr, DecidableEq

/-- The event is a status change of the engagement. -/
def AuditEvent.ofEngagement (engagementId : String) (event : AuditEvent) : Bool :=
  decide (event.kind = .engagementStateChange ∧ event.engagementId = some engagementId)

/-- The statuses that an event names. -/
def AuditEvent.statuses (event : AuditEvent) : Option String × Option String :=
  (event.details.lookup "from", event.details.lookup "to")

/-- `record_engagement_transition` -/
def recordEngagementTransition (record : TransitionRecord) : AuditEvent where
  auditEventId := record.eventId
  engagementId := some record.engagementId
  principalId := some record.principalId
  kind := .engagementStateChange
  summary := s!"engagement {record.engagementId}: {record.fromStatus.value} -> {record.toStatus.value} ({record.reason})"
  details := [("from", record.fromStatus.value), ("to", record.toStatus.value),
    ("reason", record.reason)]

@[simp] lemma statuses_record (record : TransitionRecord) :
    (recordEngagementTransition record).statuses =
      (some record.fromStatus.value, some record.toStatus.value) := by
  simp [recordEngagementTransition, AuditEvent.statuses, List.lookup_cons]

/-- An engagement and the ledger of the audit sink, in the order of its appends. -/
structure State where
  engagement : EngagementAggregate
  audit : List AuditEvent
  deriving Repr, DecidableEq

def create (engagementId : String) (targetIds : List String) (requesterPrincipalId eventId : String)
    (authorityLevel : AuthorityLevel) (createdAt : String) (audit : List AuditEvent) : State where
  engagement :=
    { engagementId, targetIds, authorityLevel
      status := .draft
      statusHistory := []
      refusalReason := none
      suspendedFrom := none
      updatedAt := createdAt }
  audit := audit ++ [
    { auditEventId := eventId
      engagementId := some engagementId
      principalId := some requesterPrincipalId
      kind := .engagementStateChange
      summary := s!"engagement {engagementId} created (draft)"
      details := [("to", EngagementStatus.draft.value)] }]

def transition (toStatus : EngagementStatus) (request : TransitionRequest) (s : State) :
    Except Raised State :=
  (s.engagement.transition toStatus request).map fun r =>
    ⟨r.2, s.audit ++ [recordEngagementTransition r.1]⟩

def refusalEvent (request : TransitionRequest) (refusalEventId engagementId : String) :
    AuditEvent where
  auditEventId := refusalEventId
  engagementId := some engagementId
  principalId := some request.principalId
  kind := .refusal
  summary := s!"engagement {engagementId} refused: {request.reason}"
  details := []

/-- The reason is on the engagement before the transition is asked for. -/
def refuse (request : TransitionRequest) (refusalEventId : String) (s : State) :
    Except Raised Unit × State :=
  let s := { s with engagement := { s.engagement with refusalReason := some request.reason } }
  match transition .refused request s with
  | .error e => (.error e, s)
  | .ok s =>
    (.ok (), { s with
      audit := s.audit ++ [refusalEvent request refusalEventId s.engagement.engagementId] })

def suspend (request : TransitionRequest) (s : State) : Except Raised State :=
  transition .suspended request s

def resume (request : TransitionRequest) (s : State) : Except Raised State := do
  let suspendedFrom ← orRaise s.engagement.suspendedFrom .valueError
    s!"engagement {s.engagement.engagementId} is not suspended"
  transition suspendedFrom request s

/-- The record of a transition that the engagement makes. -/
def recordOf (toStatus : EngagementStatus) (request : TransitionRequest) (e : EngagementAggregate) :
    TransitionRecord :=
  ⟨request.eventId, e.engagementId, request.principalId, e.status, toStatus, request.reason,
    request.instant⟩

lemma transition_eq_ok {toStatus : EngagementStatus} {request : TransitionRequest} {s s' : State} :
    transition toStatus request s = .ok s' ↔ s.engagement.checkTransition toStatus = .ok () ∧
      s' = ⟨s.engagement.moved toStatus request,
        s.audit ++ [recordEngagementTransition (recordOf toStatus request s.engagement)]⟩ := by
  rw [transition, map_eq_ok]
  constructor
  · rintro ⟨⟨record, e'⟩, h, rfl⟩
    obtain ⟨hcheck, rfl, rfl⟩ := EngagementAggregate.transition_eq_ok.mp h
    exact ⟨hcheck, rfl⟩
  · rintro ⟨hcheck, rfl⟩
    exact ⟨_, EngagementAggregate.transition_eq_ok.mpr ⟨hcheck, rfl, rfl⟩, rfl⟩

/-- A call of the service, or an event of someone else that reaches the ledger in between. -/
inductive Call (engagementId : String) where
  | transition (toStatus : EngagementStatus) (request : TransitionRequest)
  | suspend (request : TransitionRequest)
  | resume (request : TransitionRequest)
  | refuse (request : TransitionRequest) (refusalEventId : String)
  | elsewhere (event : AuditEvent) (h : event.ofEngagement engagementId = false)

/-- The state after a call that may raise. -/
def settle (r : Except Raised State) (s : State) : Except Raised Unit × State :=
  match r with
  | .error e => (.error e, s)
  | .ok s => (.ok (), s)

def exec {engagementId : String} : Call engagementId → State → Except Raised Unit × State
  | .transition toStatus request, s => settle (transition toStatus request s) s
  | .suspend request, s => settle (suspend request s) s
  | .resume request, s => settle (resume request s) s
  | .refuse request refusalEventId, s => refuse request refusalEventId s
  | .elsewhere event _, s => (.ok (), { s with audit := s.audit ++ [event] })

end EngagementService

end SecScanMonitor.Application
