import SecScanMonitor.Application.EngagementService

/-! Whole lives of an engagement: what holds after any sequence of calls, the refused ones included. -/

namespace SecScanMonitor.Application.EngagementService

open Foundations Domain EngagementStatus EngagementAggregate

variable {engagementId : String}

/-- None of the events is a status change of the engagement. -/
def Unconcerned (engagementId : String) (events : List AuditEvent) : Prop :=
  ∀ e ∈ events, e.ofEngagement engagementId = false

/-- What a call can do: nothing but note a reason for refusal, or one permitted transition. -/
inductive Step (engagementId : String) (s s' : State) : Prop
  | kept (reason : Option String) (events : List AuditEvent)
      (hevents : Unconcerned engagementId events)
      (h : s' = ⟨{ s.engagement with refusalReason := reason }, s.audit ++ events⟩)
  | moved (toStatus : EngagementStatus) (request : TransitionRequest) (reason : Option String)
      (events : List AuditEvent) (hcheck : checkTransition toStatus s.engagement = .ok ())
      (hevents : Unconcerned engagementId events)
      (h : s' = ⟨moved toStatus request { s.engagement with refusalReason := reason },
        s.audit ++ recordEngagementTransition (recordOf toStatus request s.engagement) :: events⟩)

lemma unconcerned_nil : Unconcerned engagementId [] := by
  intro e he
  cases he

lemma settle_step {toStatus : EngagementStatus} {request : TransitionRequest} {s : State} :
    Step engagementId s (settle (transition toStatus request s) s).2 := by
  cases h : transition toStatus request s with
  | error e =>
    refine .kept s.engagement.refusalReason [] unconcerned_nil ?_
    rw [List.append_nil]
    rfl
  | ok s' =>
    obtain ⟨hcheck, rfl⟩ := transition_eq_ok.mp h
    exact .moved toStatus request s.engagement.refusalReason [] hcheck unconcerned_nil rfl

lemma exec_step (call : Call engagementId) (s : State) : Step engagementId s (exec call s).2 := by
  cases call with
  | transition toStatus request => exact settle_step
  | suspend request => exact settle_step
  | resume request =>
    rw [exec, resume]
    cases hfrom : s.engagement.suspendedFrom with
    | none =>
      refine .kept s.engagement.refusalReason [] unconcerned_nil ?_
      rw [List.append_nil]
      rfl
    | some suspendedFrom => exact settle_step
  | refuse request refusalEventId =>
    rw [exec, refuse]
    cases h : transition .refused request
        { s with engagement := { s.engagement with refusalReason := some request.reason } } with
    | error e =>
      refine .kept (some request.reason) [] unconcerned_nil ?_
      rw [List.append_nil]
    | ok s' =>
      obtain ⟨hcheck, rfl⟩ := transition_eq_ok.mp h
      refine .moved .refused request (some request.reason)
        [refusalEvent request refusalEventId s.engagement.engagementId] hcheck ?_ ?_
      · intro e he
        obtain rfl := List.mem_singleton.mp he
        simp [AuditEvent.ofEngagement, refusalEvent]
      · simp only [List.append_assoc, List.singleton_append]
        rfl
  | elsewhere event h =>
    refine .kept s.engagement.refusalReason [event] ?_ rfl
    intro e he
    obtain rfl := List.mem_singleton.mp he
    exact h

/-- The changes lead from one status to another, each from where the one before it led. -/
def Leads : String → List StatusChange → String → Prop
  | start, [], finish => start = finish
  | start, change :: changes, finish =>
    change.fromStatus = start ∧ Leads change.toStatus changes finish

lemma leads_append {start middle finish : String} {changes later : List StatusChange}
    (h : Leads start changes middle) (hlater : Leads middle later finish) :
    Leads start (changes ++ later) finish := by
  induction changes generalizing start with
  | nil =>
    obtain rfl := h
    exact hlater
  | cons change changes ih => exact ⟨h.1, ih h.2⟩

/-- The statuses that an entry of the history names. -/
def named (change : StatusChange) : Option String × Option String :=
  (some change.fromStatus, some change.toStatus)

/-- After the first events, the ledger has one status change of the engagement for each entry of its
history, in the same order. -/
def Audited (engagementId : String) (opening : List AuditEvent) (s : State) : Prop :=
  ∃ later, s.audit = opening ++ later ∧
    (later.filter (AuditEvent.ofEngagement engagementId)).map AuditEvent.statuses =
      s.engagement.statusHistory.map named

structure Coherent (engagementId : String) (opening : List AuditEvent) (s : State) : Prop where
  id : s.engagement.engagementId = engagementId
  outside : s.engagement.status ≠ .suspended → s.engagement.suspendedFrom = none
  inside : s.engagement.status = .suspended →
    ∃ left ∈ suspendable, s.engagement.suspendedFrom = some left
  chained : Leads draft.value s.engagement.statusHistory s.engagement.status.value
  audited : Audited engagementId opening s

lemma Unconcerned.filter {events : List AuditEvent} (h : Unconcerned engagementId events) :
    events.filter (AuditEvent.ofEngagement engagementId) = [] := by
  apply List.filter_eq_nil_iff.mpr
  intro e he
  simp [h e he]

lemma Step.coherent {opening : List AuditEvent} {s s' : State} (h : Step engagementId s s')
    (hs : Coherent engagementId opening s) : Coherent engagementId opening s' := by
  obtain ⟨later, haudit, hstatuses⟩ := hs.audited
  cases h with
  | kept reason events hevents h =>
    subst h
    refine ⟨hs.id, hs.outside, hs.inside, hs.chained, later ++ events, ?_, ?_⟩
    · rw [haudit, List.append_assoc]
    · rw [List.filter_append, hevents.filter, List.append_nil]
      exact hstatuses
  | moved toStatus request reason events hcheck hevents h =>
    obtain ⟨-, hable, hresume⟩ := checkTransition_eq_ok.mp hcheck
    subst h
    refine ⟨hs.id, ?_, ?_, ?_,
      later ++ recordEngagementTransition (recordOf toStatus request s.engagement) :: events, ?_, ?_⟩
    · intro hto
      by_cases hsuspended : s.engagement.status = .suspended
      · simp only [EngagementAggregate.moved, if_pos hsuspended]
      · simp only [EngagementAggregate.moved, if_neg hsuspended, if_neg (show toStatus ≠ .suspended from hto)]
        exact hs.outside hsuspended
    · intro hto
      have hsuspended : s.engagement.status ≠ .suspended := fun h => (hresume h).2.2 hto
      refine ⟨s.engagement.status, hable hto, ?_⟩
      simp only [EngagementAggregate.moved, if_neg hsuspended]
      exact if_pos hto
    · exact leads_append hs.chained ⟨rfl, rfl⟩
    · rw [haudit, List.append_assoc]
    · have hconcerned : (recordEngagementTransition (recordOf toStatus request
          s.engagement)).ofEngagement engagementId = true := by
        simp [recordEngagementTransition, recordOf, AuditEvent.ofEngagement, hs.id]
      rw [List.filter_append, List.filter_cons_of_pos hconcerned, hevents.filter, List.map_append,
        hstatuses]
      simp only [EngagementAggregate.moved, List.map_append, List.map_cons, List.map_nil,
        statuses_record]
      rfl

section History

variable {targetIds : List String} {requester eventId createdAt : String}
  {authorityLevel : AuthorityLevel} {earlier opening : List AuditEvent}
  {es : List (Entry (Call engagementId) State (Except Raised Unit))} {s start : State}

/-- The status of the engagement at its latest entry that did not find it suspended. -/
def statusLeft (es : List (Entry (Call engagementId) State (Except Raised Unit))) :
    Option EngagementStatus :=
  (es.map fun e => e.before.engagement.status).find? fun status => decide (status ≠ .suspended)

/-- A suspended engagement leaves its suspension for the status that it had before it, and `resume` takes
it there. -/
def ResumesLeft (es : List (Entry (Call engagementId) State (Except Raised Unit))) (s : State) : Prop :=
  s.engagement.status = .suspended → ∃ left, statusLeft es = some left ∧
    (∀ call : Call engagementId, (exec call s).2.engagement.status = .suspended ∨
      (exec call s).2.engagement.status = left) ∧
    ∀ request, (exec (.resume request : Call engagementId) s).1 = .ok () ∧
      (exec (.resume request : Call engagementId) s).2.engagement.status = left

/-- A terminal status is the status ever after. -/
def TerminalKept (es : List (Entry (Call engagementId) State (Except Raised Unit))) (s : State) : Prop :=
  ∀ e ∈ es, e.before.engagement.status ∈ terminalStates →
    s.engagement.status = e.before.engagement.status

lemma history_coherent (h : History exec start es s) (hstart : Coherent engagementId opening start) :
    Coherent engagementId opening s := by
  apply h.invariant (p := Coherent engagementId opening)
  · intro call s hs
    exact (exec_step call s).coherent hs
  · exact hstart

lemma create_coherent : Coherent engagementId
    (create engagementId targetIds requester eventId authorityLevel createdAt earlier).audit
    (create engagementId targetIds requester eventId authorityLevel createdAt earlier) where
  id := rfl
  outside _ := rfl
  inside := nofun
  chained := rfl
  audited := ⟨[], (List.append_nil _).symm, rfl⟩

lemma Step.terminal {s s' : State} (h : Step engagementId s s') (hs : s.engagement.status ∈ terminalStates) :
    s'.engagement.status = s.engagement.status := by
  cases h with
  | kept reason events hevents h =>
    subst h
    rfl
  | moved toStatus request reason events hcheck hevents h =>
    have hin := (checkTransition_eq_ok.mp hcheck).1
    rw [transitions_terminal hs] at hin
    cases hin

lemma history_terminal (h : History exec start es s) : TerminalKept es s := by
  intro e he hterminal
  obtain ⟨-, -, later, hlater⟩ := h.split he
  apply hlater.invariant (p := fun s => s.engagement.status = e.before.engagement.status)
  · intro call s hs
    rw [(exec_step call s).terminal (hs ▸ hterminal)]
    exact hs
  · exact (exec_step e.call e.before).terminal hterminal

/-- While the engagement is suspended, the status that it left is the one that it has recorded. -/
lemma history_left (h : History exec start es s) (hopen : start.engagement.status ≠ .suspended) (hsuspended : s.engagement.status = .suspended) :
    statusLeft es = s.engagement.suspendedFrom := by
  induction h with
  | nil => exact absurd hsuspended hopen
  | @call es s call h ih =>
    have hstep := exec_step call s
    revert hsuspended
    generalize (exec call s).2 = s' at hstep
    intro hsuspended
    cases hstep with
    | kept reason events hevents hs' =>
      subst hs'
      rw [statusLeft, List.map_cons, List.find?_cons_of_neg (by simpa using hsuspended)]
      exact ih hsuspended
    | moved toStatus request reason events hcheck hevents hs' =>
      subst hs'
      have hfound : s.engagement.status ≠ .suspended :=
        fun hs => ((checkTransition_eq_ok.mp hcheck).2.2 hs).2.2 hsuspended
      rw [statusLeft, List.map_cons, List.find?_cons_of_pos (by simpa using hfound)]
      simp only [moved, if_neg hfound]
      exact (if_pos hsuspended).symm

lemma Step.leaves {left : EngagementStatus} {s s' : State} (h : Step engagementId s s')
    (hs : s.engagement.status = .suspended) (hleft : s.engagement.suspendedFrom = some left) :
    s'.engagement.status = .suspended ∨ s'.engagement.status = left := by
  cases h with
  | kept reason events hevents h =>
    subst h
    exact Or.inl hs
  | moved toStatus request reason events hcheck hevents h =>
    subst h
    have hto := ((checkTransition_eq_ok.mp hcheck).2.2 hs).1
    rw [hleft] at hto
    exact Or.inr (Option.some.inj hto).symm

lemma resume_left {left : EngagementStatus} {s : State} (hs : s.engagement.status = .suspended)
    (hable : left ∈ suspendable) (hleft : s.engagement.suspendedFrom = some left)
    (request : TransitionRequest) :
    exec (.resume request : Call engagementId) s = (.ok (), ⟨s.engagement.moved left request,
      s.audit ++ [recordEngagementTransition (recordOf left request s.engagement)]⟩) := by
  obtain ⟨hin, hterminal, hagain⟩ := suspendable_resumes hable
  have hcheck : checkTransition left s.engagement = .ok () := by
    refine checkTransition_eq_ok.mpr ⟨hs ▸ hin, ?_, ?_⟩
    · intro h
      exact absurd h hagain
    · intro _
      exact ⟨hleft, hterminal, hagain⟩
  rw [exec, resume, hleft]
  change settle (transition left request s) s = _
  rw [transition_eq_ok.mpr ⟨hcheck, rfl⟩]
  rfl

/-- The engagement lifecycle, over any sequence of calls on a created engagement. -/
theorem engagement_lifecycle (h : History exec
      (create engagementId targetIds requester eventId authorityLevel createdAt earlier) es s) :
    (s.engagement.suspendedFrom.isSome ↔ s.engagement.status = .suspended) ∧
      ResumesLeft es s ∧ TerminalKept es s ∧
      Leads draft.value s.engagement.statusHistory s.engagement.status.value ∧
      Audited engagementId
        (create engagementId targetIds requester eventId authorityLevel createdAt earlier).audit s := by
  have hcoherent := history_coherent h create_coherent
  refine ⟨?_, ?_, history_terminal h, hcoherent.chained, hcoherent.audited⟩
  · constructor
    · intro hsome
      by_contra hstatus
      rw [hcoherent.outside hstatus] at hsome
      cases hsome
    · intro hsuspended
      obtain ⟨left, -, hleft⟩ := hcoherent.inside hsuspended
      rw [hleft]
      rfl
  · intro hsuspended
    obtain ⟨left, hable, hleft⟩ := hcoherent.inside hsuspended
    refine ⟨left, ?_, ?_, ?_⟩
    · rw [history_left h (by simp [create]) hsuspended]
      exact hleft
    · intro call
      exact (exec_step call s).leaves hsuspended hleft
    · intro request
      rw [resume_left hsuspended hable hleft request]
      exact ⟨rfl, rfl⟩

/-- An engagement that is suspended in its analysis and then resumed; a refusal in between is refused. -/
def analysisCalls (engagementId : String) : List (Call engagementId) :=
  let request : TransitionRequest := ⟨"P-1", "", "AE-1", "2026-07-15T00:00:00+00:00"⟩
  [.resume request, .refuse request "AE-2", .suspend request, .transition .analysis request,
    .transition .evidenceCollection request, .transition .active request,
    .transition .authorized request, .transition .scopeValidated request,
    .transition .intake request]

theorem analysis_lifecycle :
    let start := create "E-1" [] "P-1" "AE-0" .inspectionOnly "2026-07-15T00:00:00+00:00" []
    let r := History.ofCalls exec start (analysisCalls "E-1")
    r.2.engagement.status = .analysis ∧ r.2.engagement.statusHistory.length = 8 ∧
      (r.2.engagement.suspendedFrom.isSome ↔ r.2.engagement.status = .suspended) ∧
      ResumesLeft r.1 r.2 ∧ TerminalKept r.1 r.2 ∧
      Leads draft.value r.2.engagement.statusHistory r.2.engagement.status.value ∧
      Audited "E-1" start.audit r.2 :=
  ⟨by decide, by decide, engagement_lifecycle (History.ofCalls_history _)⟩

end History

end SecScanMonitor.Application.EngagementService
