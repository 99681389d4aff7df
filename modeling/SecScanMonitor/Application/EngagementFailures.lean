import SecScanMonitor.Application.EngagementService
import SecScanMonitor.Domain.Atomicity

/-! The operations of the engagement service over an audit sink that may raise. Each assignment to the
engagement is made where the source makes it, so that it outlives a later exception. -/

namespace SecScanMonitor.Application.EngagementService

open Foundations Domain EngagementAggregate

/-- An audit sink, which takes an event or raises. -/
abbrev AuditSink (σ : Type) := AuditEvent → Effect σ Unit

/-- An engagement, beside the state of the sink. -/
abbrev AuditedEngagement (σ : Type) := EngagementAggregate × σ

section Operations

variable {σ : Type} (sink : AuditSink σ)

/-- `self._audit.append(event)` -/
def append (event : AuditEvent) : Effect (AuditedEngagement σ) Unit := fun s =>
  ((sink event s.2).1, s.1, (sink event s.2).2)

/-- The engagement has made the transition when the recorder is told of it. -/
def auditedTransition (toStatus : EngagementStatus) (request : TransitionRequest) :
    Effect (AuditedEngagement σ) Unit := fun s =>
  match s.1.checkTransition toStatus with
  | .error x => (.error x, s)
  | .ok () =>
    append sink (recordEngagementTransition (recordOf toStatus request s.1))
      (s.1.moved toStatus request, s.2)

/-- The reason is on the engagement before the transition is asked for. -/
def auditedRefuse (request : TransitionRequest) (refusalEventId : String) :
    Effect (AuditedEngagement σ) Unit := fun s =>
  match auditedTransition sink .refused request ({ s.1 with refusalReason := some request.reason }, s.2) with
  | (.error x, s) => (.error x, s)
  | (.ok (), s) => append sink (refusalEvent request refusalEventId s.1.engagementId) s

def auditedSuspend (request : TransitionRequest) : Effect (AuditedEngagement σ) Unit :=
  auditedTransition sink .suspended request

def auditedResume (request : TransitionRequest) : Effect (AuditedEngagement σ) Unit := fun s =>
  match s.1.suspendedFrom with
  | none => (raise .valueError s!"engagement {s.1.engagementId} is not suspended", s)
  | some suspendedFrom => auditedTransition sink suspendedFrom request s

/-- An operation on an engagement. -/
inductive Operation where
  | transition (toStatus : EngagementStatus) (request : TransitionRequest)
  | suspend (request : TransitionRequest)
  | resume (request : TransitionRequest)
  | refuse (request : TransitionRequest) (refusalEventId : String)

def Operation.run : Operation → Effect (AuditedEngagement σ) Unit
  | .transition toStatus request => auditedTransition sink toStatus request
  | .suspend request => auditedSuspend sink request
  | .resume request => auditedResume sink request
  | .refuse request refusalEventId => auditedRefuse sink request refusalEventId

def Operation.call (engagementId : String) : Operation → Call engagementId
  | .transition toStatus request => .transition toStatus request
  | .suspend request => .suspend request
  | .resume request => .resume request
  | .refuse request refusalEventId => .refuse request refusalEventId

end Operations

section Ledger

/-- A sink that takes every event. -/
def ledger : AuditSink (List AuditEvent) := fun event audit => (.ok (), audit ++ [event])

def State.audited (s : State) : AuditedEngagement (List AuditEvent) := (s.engagement, s.audit)

lemma auditedTransition_ledger (toStatus : EngagementStatus) (request : TransitionRequest) (s : State) :
    auditedTransition ledger toStatus request s.audited =
      ((settle (transition toStatus request s) s).1,
        (settle (transition toStatus request s) s).2.audited) := by
  rw [auditedTransition, transition, EngagementAggregate.transition, State.audited]
  cases hcheck : s.engagement.checkTransition toStatus with
  | error x => rfl
  | ok u => rfl

/-- Over a sink that takes every event, an operation does what the call of the service does. -/
theorem run_ledger (operation : Operation) (engagementId : String) (s : State) :
    operation.run ledger s.audited =
      ((exec (operation.call engagementId) s).1, (exec (operation.call engagementId) s).2.audited) := by
  cases operation with
  | transition toStatus request => exact auditedTransition_ledger toStatus request s
  | suspend request => exact auditedTransition_ledger .suspended request s
  | resume request =>
    rw [Operation.run, Operation.call, exec, resume, auditedResume, State.audited]
    cases hfrom : s.engagement.suspendedFrom with
    | none => rfl
    | some suspendedFrom => exact auditedTransition_ledger suspendedFrom request s
  | refuse request refusalEventId =>
    rw [Operation.run, Operation.call, exec, refuse, auditedRefuse]
    have hmoved := auditedTransition_ledger .refused request
      { s with engagement := { s.engagement with refusalReason := some request.reason } }
    rw [State.audited] at hmoved ⊢
    simp only at hmoved ⊢
    rw [hmoved]
    cases transition .refused request
        { s with engagement := { s.engagement with refusalReason := some request.reason } } with
    | error x => rfl
    | ok s' => rfl

end Ledger

section Failures

variable {σ : Type} {sink : AuditSink σ} {toStatus : EngagementStatus} {request : TransitionRequest}

/-- Every field of the engagement is as it was; the sink may have changed. -/
def SameEngagement (s s' : AuditedEngagement σ) : Prop := s.1 = s'.1

/-- If the engagement may make the transition, the sink takes the event of it. -/
def Recorded (sink : AuditSink σ) (toStatus : EngagementStatus) (request : TransitionRequest)
    (s : AuditedEngagement σ) : Prop :=
  s.1.checkTransition toStatus = .ok () →
    (sink (recordEngagementTransition (recordOf toStatus request s.1)) s.2).1 = .ok ()

/-- The sink takes what the operation records, and a refusal that is not permitted brings no new reason. -/
def Operation.Accepted (sink : AuditSink σ) (s : AuditedEngagement σ) : Operation → Prop
  | .transition toStatus request => Recorded sink toStatus request s
  | .suspend request => Recorded sink .suspended request s
  | .resume request => ∀ suspendedFrom ∈ s.1.suspendedFrom, Recorded sink suspendedFrom request s
  | .refuse request refusalEventId =>
    let event := recordEngagementTransition (recordOf .refused request s.1)
    if s.1.checkTransition .refused = .ok () then
      (sink event s.2).1 = .ok () ∧
        (sink (refusalEvent request refusalEventId s.1.engagementId) (sink event s.2).2).1 = .ok ()
    else s.1.refusalReason = some request.reason

/-- A transition adds to the history. -/
lemma moved_ne (toStatus : EngagementStatus) (request : TransitionRequest) (e e' : EngagementAggregate)
    (h : e.statusHistory = e'.statusHistory) : e.moved toStatus request ≠ e' := by
  intro hsame
  have hlength := congrArg (fun e => e.statusHistory.length) hsame
  simp [EngagementAggregate.moved, h] at hlength

lemma unit_ok_or_error (r : Except Raised Unit) : r = .ok () ∨ ∃ x, r = .error x := by
  cases r with
  | ok u => exact Or.inl rfl
  | error x => exact Or.inr ⟨x, rfl⟩

/-- The step lemma of a transition: it is not permitted, or it is made and recorded, or made and not. -/
lemma auditedTransition_unharmed (s : AuditedEngagement σ) :
    Effect.Unharmed SameEngagement (auditedTransition sink toStatus request) s ↔
      Recorded sink toStatus request s := by
  rw [Recorded]
  cases hcheck : s.1.checkTransition toStatus with
  | error x =>
    have hrun : auditedTransition sink toStatus request s = (.error x, s) := by
      rw [auditedTransition, hcheck]
    exact iff_of_true (Effect.unharmed_of_kept (fun _ => rfl) hrun) nofun
  | ok u =>
    have hrun : auditedTransition sink toStatus request s =
        append sink (recordEngagementTransition (recordOf toStatus request s.1))
          (s.1.moved toStatus request, s.2) := by
      rw [auditedTransition, hcheck]
    rw [append] at hrun
    rcases unit_ok_or_error (sink (recordEngagementTransition (recordOf toStatus request s.1)) s.2).1 with
      hsink | ⟨x, hsink⟩
    · rw [hsink] at hrun
      exact iff_of_true (Effect.unharmed_of_ok hrun) fun _ => hsink
    · rw [hsink] at hrun
      rw [Effect.unharmed_error hrun, hsink]
      exact iff_of_false (moved_ne toStatus request s.1 s.1 rfl) fun h => nomatch h rfl

lemma auditedRefuse_unharmed (refusalEventId : String) (s : AuditedEngagement σ) :
    Effect.Unharmed SameEngagement (auditedRefuse sink request refusalEventId) s ↔
      (Operation.refuse request refusalEventId).Accepted sink s := by
  let noted : AuditedEngagement σ := ({ s.1 with refusalReason := some request.reason }, s.2)
  have hchecks : noted.1.checkTransition .refused = s.1.checkTransition .refused := rfl
  rw [Operation.Accepted]
  cases hcheck : s.1.checkTransition .refused with
  | error x =>
    have hrun : auditedRefuse sink request refusalEventId s = (.error x, noted) := by
      simp only [auditedRefuse, auditedTransition]
      rw [hchecks.trans hcheck]
    rw [Effect.unharmed_error hrun, if_neg nofun]
    constructor
    · intro hsame
      exact (congrArg EngagementAggregate.refusalReason hsame).symm
    · intro hreason
      have hnoted : { s.1 with refusalReason := some request.reason } = s.1 := by rw [← hreason]
      exact hnoted
  | ok u =>
    rw [if_pos rfl]
    let event := recordEngagementTransition (recordOf .refused request s.1)
    have hrecord : recordOf .refused request noted.1 = recordOf .refused request s.1 := rfl
    have hnever : ∀ audit, ¬ SameEngagement (noted.1.moved .refused request, audit) s :=
      fun _ => moved_ne .refused request noted.1 s.1 rfl
    have hfirst : auditedTransition sink .refused request noted =
        ((sink event s.2).1, noted.1.moved .refused request, (sink event s.2).2) := by
      rw [auditedTransition, hchecks.trans hcheck]
      rfl
    have hrefuse : auditedRefuse sink request refusalEventId s =
        match auditedTransition sink .refused request noted with
        | (.error x, s) => (.error x, s)
        | (.ok (), s) => append sink (refusalEvent request refusalEventId s.1.engagementId) s := rfl
    rw [hfirst] at hrefuse
    rcases unit_ok_or_error (sink event s.2).1 with hsink | ⟨x, hsink⟩
    · rw [hsink] at hrefuse
      simp only [append] at hrefuse
      let second := sink (refusalEvent request refusalEventId s.1.engagementId) (sink event s.2).2
      have hrun : auditedRefuse sink request refusalEventId s =
          (second.1, noted.1.moved .refused request, second.2) := hrefuse
      rcases unit_ok_or_error second.1 with hsecond | ⟨x, hsecond⟩
      · rw [hsecond] at hrun
        exact iff_of_true (Effect.unharmed_of_ok hrun) ⟨hsink, hsecond⟩
      · rw [hsecond] at hrun
        rw [Effect.unharmed_error hrun]
        refine iff_of_false (hnever _) ?_
        rintro ⟨-, htaken⟩
        exact nomatch htaken.symm.trans hsecond
    · rw [hsink] at hrefuse
      rw [Effect.unharmed_error hrefuse]
      refine iff_of_false (hnever _) ?_
      rintro ⟨htaken, -⟩
      exact nomatch htaken.symm.trans hsink

/-- An operation that raises leaves every field of the engagement as it was, exactly where the sink takes
every event of an operation that is permitted, and where a refusal that is not permitted has the reason that
the engagement has already. -/
theorem operation_unharmed_iff (operation : Operation) (s : AuditedEngagement σ) :
    Effect.Unharmed SameEngagement (operation.run sink) s ↔ operation.Accepted sink s := by
  cases operation with
  | transition toStatus request => exact auditedTransition_unharmed s
  | suspend request => exact auditedTransition_unharmed s
  | resume request =>
    cases hfrom : s.1.suspendedFrom with
    | none =>
      have hrun : auditedResume sink request s =
          (raise .valueError s!"engagement {s.1.engagementId} is not suspended", s) := by
        rw [auditedResume, hfrom]
      refine iff_of_true (Effect.unharmed_of_kept (fun _ => rfl) hrun) ?_
      rw [Operation.Accepted, hfrom]
      exact nofun
    | some suspendedFrom =>
      have hrun : Effect.Unharmed SameEngagement (auditedResume sink request) s ↔
          Effect.Unharmed SameEngagement (auditedTransition sink suspendedFrom request) s := by
        rw [Effect.Unharmed, Effect.Unharmed, auditedResume, hfrom]
      rw [Operation.run, hrun, Operation.Accepted, hfrom, auditedTransition_unharmed]
      simp
  | refuse request refusalEventId => exact auditedRefuse_unharmed refusalEventId s

/-- An engagement at work. -/
def activeEngagement : EngagementAggregate where
  engagementId := "EN-1"
  targetIds := ["TG-1"]
  authorityLevel := .inspectionOnly
  status := .active
  statusHistory := []
  refusalReason := none
  suspendedFrom := none
  updatedAt := "2026-01-01T00:00:00+00:00"

/-- An engagement at work cannot be refused, and keeps the reason for it. -/
theorem refused_reason_kept : ¬ ∀ (operation : Operation) (s : AuditedEngagement (List AuditEvent)),
    Effect.Unharmed SameEngagement (operation.run ledger) s := by
  intro h
  have hsame := h (.refuse ⟨"PR-1", "out of scope", "AE-1", "2026-01-02T00:00:00+00:00"⟩ "AE-2")
    (activeEngagement, []) _ rfl
  exact nomatch congrArg EngagementAggregate.refusalReason hsame

end Failures

end SecScanMonitor.Application.EngagementService
