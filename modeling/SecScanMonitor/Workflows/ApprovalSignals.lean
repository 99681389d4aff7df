import Mathlib.Data.List.Induction
import SecScanMonitor.Workflows.EngagementWorkflow
import SecScanMonitor.Workflows.Repetition

/-! Approval signals in any order and number: which of them the outcome of a run depends on, and what the
gate lets through. -/

namespace SecScanMonitor.Workflows

open Foundations Domain EngagementWorkflow WorkflowRun

/-- The approval that an event signals a decision on. -/
def WorkflowEvent.decision : WorkflowEvent → Option ApprovalSignal
  | .approve approvalId => some ⟨approvalId, "approved"⟩
  | .deny approvalId => some ⟨approvalId, "denied"⟩
  | _ => none

/-- The event signals a decision on another approval. -/
def WorkflowEvent.foreign (approvalId : String) (e : WorkflowEvent) : Bool :=
  e.decision.any fun signal => decide (signal.approvalId ≠ approvalId)

/-- The last decision that a history signals on an approval. -/
def lastDecision (approvalId : String) (events : List WorkflowEvent) : Option ApprovalSignal :=
  (events.filterMap WorkflowEvent.decision).reverse.find? fun signal =>
    decide (signal.approvalId = approvalId)

namespace EngagementWorkflow

/-- The gate has not been passed yet. -/
def Undecided (w : EngagementWorkflow) : Prop := w.awaited = none ∨ w.stage = .awaiting

/-- The activities beyond the gate. -/
def beyond : Activity → Bool
  | .specialistPass _ _ | .adjudicatePass | .renderReport | .closeEngagement => true
  | _ => false

/-- The run has gone on past the gate. -/
def Proceeded (w : EngagementWorkflow) : Prop :=
  ∃ a, (w.stage = .pausing a ∨ w.stage = .executing a) ∧ beyond a = true

/-- The workflow without the decision that was signalled last. -/
def forget (w : EngagementWorkflow) : EngagementWorkflow := { w with approvalDecision := none }

/-- What an activity is executed with: no approval before the gate, the awaited one at it. -/
def Awaits (awaited : Option String) : Activity → Prop
  | .validateAndAuthorize _ | .coordinatorPass _ => awaited = none
  | .authorizeWithApproval _ approvalId => awaited = some approvalId
  | _ => True

def Orderly (w : EngagementWorkflow) : Prop :=
  ∀ a, w.stage = .pausing a ∨ w.stage = .executing a → Awaits w.awaited a

section Orderly

variable {input : EngagementWorkflowInput} {w : EngagementWorkflow}

lemma orderly_of_stage {w : EngagementWorkflow}
    (h : ∀ a, w.stage ≠ .pausing a ∧ w.stage ≠ .executing a) : Orderly w := by
  intro a ha
  rcases ha with ha | ha
  · exact absurd ha (h a).1
  · exact absurd ha (h a).2

lemma orderly_checkPause {next : Activity} (h : Awaits w.awaited next) :
    Orderly (w.checkPause next) := by
  intro a ha
  simp only [checkPause, goto] at ha ⊢
  by_cases hpaused : w.paused = true
  · rw [if_pos hpaused] at ha
    rcases ha with ha | ha
    · rwa [← Stage.pausing.inj ha]
    · cases ha
  · rw [if_neg hpaused] at ha
    rcases ha with ha | ha
    · cases ha
    · rwa [← Stage.executing.inj ha]

lemma orderly_finish {status reason : String} : Orderly (w.finish status reason) :=
  orderly_of_stage fun _ => ⟨nofun, nofun⟩

lemma passGate_cases : passGate input w = w ∨
    ∃ approvalId, w.awaited = some approvalId ∧
      (passGate input w = w.finish "denied" "approval denied" ∨
        passGate input w =
          w.goto (.executing (.authorizeWithApproval input.workflowRunId approvalId))) := by
  rw [passGate]
  split
  · rename_i approvalId signal hawaited _
    split
    · split
      · exact Or.inr ⟨approvalId, hawaited, Or.inl rfl⟩
      · exact Or.inr ⟨approvalId, hawaited, Or.inr rfl⟩
    · exact Or.inl rfl
  · exact Or.inl rfl

lemma passGate_awaited : (passGate input w).awaited = w.awaited := by
  obtain h | ⟨_, -, h | h⟩ := @passGate_cases input w
  all_goals rw [h]
  all_goals rfl

lemma orderly_passGate (h : Orderly w) : Orderly (passGate input w) := by
  obtain hgate | ⟨approvalId, hawaited, hgate | hgate⟩ := @passGate_cases input w
  · rwa [hgate]
  · rw [hgate]
    exact orderly_finish
  · rw [hgate]
    intro a ha
    rcases ha with ha | ha
    · cases ha
    · rw [← Stage.executing.inj ha]
      exact hawaited

lemma orderly_afterCoordinator {effect : Value} : Orderly (afterCoordinator input effect w) := by
  simp only [afterCoordinator]
  split
  · exact orderly_finish
  · split
    · split
      · exact orderly_finish
      · exact orderly_passGate (orderly_of_stage fun _ => ⟨nofun, nofun⟩)
    · exact orderly_checkPause trivial

lemma orderly_resume {effect : Value} {a : Activity} (h : Awaits w.awaited a) :
    Orderly (resume input effect w a) := by
  cases a with
  | validateAndAuthorize workflowRunId =>
    simp only [resume]
    split
    · exact orderly_finish
    · exact orderly_checkPause h
  | coordinatorPass agentRunId => exact orderly_afterCoordinator
  | authorizeWithApproval workflowRunId approvalId =>
    simp only [resume]
    split
    · exact orderly_finish
    · exact orderly_checkPause trivial
  | specialistPass agentRunId evidenceIds => exact orderly_checkPause trivial
  | adjudicatePass => exact orderly_checkPause trivial
  | renderReport => exact orderly_checkPause trivial
  | closeEngagement => exact orderly_of_stage fun _ => ⟨nofun, nofun⟩

lemma orderly_attemptFailed (h : Orderly w) : Orderly w.attemptFailed := by
  rw [attemptFailed]
  split
  · exact h
  · exact orderly_of_stage fun _ => ⟨nofun, nofun⟩

/-- An awaited approval stays the one that is awaited. -/
lemma resume_awaited {effect : Value} {a : Activity} {approvalId : String} (h : Awaits w.awaited a)
    (hawaited : w.awaited = some approvalId) : (resume input effect w a).awaited = some approvalId := by
  cases a with
  | coordinatorPass agentRunId =>
    have hnone : w.awaited = none := h
    rw [hnone] at hawaited
    cases hawaited
  | validateAndAuthorize workflowRunId =>
    simp only [resume]
    split
    · exact hawaited
    · exact hawaited
  | authorizeWithApproval workflowRunId approvalId =>
    simp only [resume]
    split
    · exact hawaited
    · exact hawaited
  | specialistPass agentRunId evidenceIds => exact hawaited
  | adjudicatePass => exact hawaited
  | renderReport => exact hawaited
  | closeEngagement => exact hawaited

end Orderly

end EngagementWorkflow

/-- The same outcome so far: only the decision signalled last may differ. -/
structure SameOutcome (r r' : WorkflowRun) : Prop where
  workflow : r.workflow.forget = r'.workflow.forget
  runtime : r.runtime = r'.runtime

section Runs

variable {inputSha256 : Value → String} {input : EngagementWorkflowInput} {rt : EngagementRuntime}
  {r : WorkflowRun} {events : List WorkflowEvent} {e : WorkflowEvent}

/-- An attempt either runs on with what the activity gives, or is one that failed. -/
lemma attempt_cases {policy : Value → Except Raised PolicyDecision} {x : Execution}
    {delivered : Bool} :
    r.attempt inputSha256 input policy x delivered = r ∨
      ∃ a, r.workflow.stage = .executing a ∧
        let outcome := exec policy inputSha256 x input.engagementId a r.runtime
        ((∃ effect, outcome.1 = .ok effect ∧ delivered = true ∧
            r.attempt inputSha256 input policy x delivered =
              ⟨resume input effect r.workflow a, outcome.2⟩) ∨
          r.attempt inputSha256 input policy x delivered =
            ⟨r.workflow.attemptFailed, outcome.2⟩) := by
  unfold attempt
  split
  · rename_i a hstage
    refine Or.inr ⟨a, hstage, ?_⟩
    dsimp only
    split
    · rename_i effect houtcome
      exact Or.inl ⟨effect, houtcome, rfl, rfl⟩
    · exact Or.inr rfl
  · exact Or.inl rfl

lemma step_orderly (h : Orderly r.workflow) : Orderly (step inputSha256 input e r).workflow := by
  cases e with
  | pause => exact h
  | resume => exact h
  | approve approvalId => exact h
  | deny approvalId => exact h
  | elsewhere rt => exact h
  | activated =>
    simp only [step, signal, activate]
    split
    · rename_i next hstage
      exact orderly_checkPause (h next (Or.inl hstage))
    · exact orderly_passGate h
    · exact h
  | attempt policy x delivered =>
    obtain hsame | ⟨a, hstage, ⟨effect, -, -, hrun⟩ | hrun⟩ := @attempt_cases inputSha256 input r
      policy x delivered
    · rw [step, hsame]
      exact h
    · rw [step, hrun]
      exact orderly_resume (h a (Or.inr hstage))
    · rw [step, hrun]
      exact orderly_attemptFailed h

lemma attemptFailed_awaited {w : EngagementWorkflow} : w.attemptFailed.awaited = w.awaited := by
  rw [attemptFailed]
  split
  · rfl
  · rfl

lemma step_awaited {approvalId : String} (h : Orderly r.workflow)
    (hawaited : r.workflow.awaited = some approvalId) :
    (step inputSha256 input e r).workflow.awaited = some approvalId := by
  cases e with
  | pause => exact hawaited
  | resume => exact hawaited
  | approve approvalId => exact hawaited
  | deny approvalId => exact hawaited
  | elsewhere rt => exact hawaited
  | activated =>
    simp only [step, signal, activate]
    split
    · exact hawaited
    · rw [passGate_awaited, hawaited]
    · exact hawaited
  | attempt policy x delivered =>
    obtain hsame | ⟨a, hstage, ⟨effect, -, -, hrun⟩ | hrun⟩ := @attempt_cases inputSha256 input r
      policy x delivered
    · rw [step, hsame, hawaited]
    · rw [step, hrun]
      exact resume_awaited (h a (Or.inr hstage)) hawaited
    · rw [step, hrun, attemptFailed_awaited, hawaited]

lemma after_concat : after inputSha256 input rt (events ++ [e]) =
    step inputSha256 input e (after inputSha256 input rt events) := by
  rw [after, List.foldl_append]
  rfl

lemma after_orderly : Orderly (after inputSha256 input rt events).workflow := by
  induction events using List.reverseRecOn with
  | nil =>
    intro a ha
    rcases ha with ha | ha
    · rw [← Stage.pausing.inj ha]
      rfl
    · cases ha
  | append_singleton events e ih =>
    rw [after_concat]
    exact step_orderly ih

/-- A signalled decision that a run with fewer signals has stored: it is on the approval, and before the gate
is passed the decisions on the approval are the same in both. -/
structure Stored (approvalId : String) (w : EngagementWorkflow) (stored : Option ApprovalSignal) :
    Prop where
  own : ∀ signal, stored = some signal → signal.approvalId = approvalId
  same : w.Undecided → ∀ signal, signal.approvalId = approvalId →
    (w.approvalDecision = some signal ↔ stored = some signal)

variable {approvalId : String} {w w' : EngagementWorkflow} {stored : Option ApprovalSignal}

lemma Stored.of_undecided (h : Stored approvalId w stored)
    (hdecision : w'.approvalDecision = w.approvalDecision) (hundecided : w'.Undecided → w.Undecided) :
    Stored approvalId w' stored where
  own := h.own
  same hw signal hid := by
    rw [hdecision]
    exact h.same (hundecided hw) signal hid

/-- The workflow with another decision stored. -/
def EngagementWorkflow.storing (stored : Option ApprovalSignal) (w : EngagementWorkflow) :
    EngagementWorkflow :=
  { w with approvalDecision := stored }

lemma passGate_blocked (h : ∀ signal, w.approvalDecision = some signal →
    w.awaited ≠ some signal.approvalId) : passGate input w = w := by
  rw [passGate]
  split
  · rename_i id signal hawaited hsignal
    split
    · rename_i hid
      exact absurd (hid ▸ hawaited) (h signal hsignal)
    · rfl
  · rfl

/-- The gate reads the decision on the awaited approval only. -/
lemma passGate_storing (h : Stored approvalId w stored) (hundecided : w.Undecided)
    (hawaited : ∀ id, w.awaited = some id → id = approvalId) :
    passGate input (w.storing stored) = (passGate input w).storing stored := by
  by_cases hown : ∃ signal, w.approvalDecision = some signal ∧ signal.approvalId = approvalId
  · obtain ⟨signal, hsignal, hid⟩ := hown
    have hsame : stored = w.approvalDecision := by
      rw [hsignal]
      exact (h.same hundecided signal hid).mp hsignal
    subst hsame
    have hdecision : (passGate input w).approvalDecision = w.approvalDecision := by
      obtain hgate | ⟨_, -, hgate | hgate⟩ := @passGate_cases input w
      all_goals rw [hgate]
      all_goals rfl
    calc passGate input (w.storing w.approvalDecision)
        = (passGate input w).storing (passGate input w).approvalDecision := rfl
      _ = (passGate input w).storing w.approvalDecision := by rw [hdecision]
  · rw [passGate_blocked, passGate_blocked]
    · intro signal hsignal hgate
      exact hown ⟨signal, hsignal, hawaited _ hgate⟩
    · intro signal hsignal hgate
      have hid := h.own signal hsignal
      exact hown ⟨signal, (h.same hundecided signal hid).mpr hsignal, hid⟩

lemma passGate_stored (h : Stored approvalId w stored) (hundecided : w.Undecided) :
    Stored approvalId (passGate input w) stored := by
  obtain hgate | ⟨_, -, hgate | hgate⟩ := @passGate_cases input w
  · rw [hgate]
    exact h
  · rw [hgate]
    exact h.of_undecided rfl fun _ => hundecided
  · rw [hgate]
    exact h.of_undecided rfl fun _ => hundecided

lemma goto_undecided {stage : Stage} (h : (w.goto stage).Undecided) (hstage : stage ≠ .awaiting) :
    w.awaited = none :=
  h.resolve_right hstage

lemma checkPause_undecided {next : Activity} (h : (w.checkPause next).Undecided) :
    w.awaited = none := by
  refine goto_undecided h ?_
  split
  · exact nofun
  · exact nofun

/-- What an activity gives is worked on in the same way, whichever decision is stored. -/
lemma resume_storing {effect : Value} {a : Activity} (h : Stored approvalId w stored)
    (hawaits : Awaits w.awaited a)
    (hawaited : ∀ id, (resume input effect w a).awaited = some id → id = approvalId) :
    resume input effect (w.storing stored) a = (resume input effect w a).storing stored ∧
      Stored approvalId (resume input effect w a) stored := by
  cases a with
  | validateAndAuthorize workflowRunId =>
    simp only [resume]
    split
    · exact ⟨rfl, h.of_undecided rfl fun _ => Or.inl hawaits⟩
    · exact ⟨rfl, h.of_undecided rfl fun _ => Or.inl hawaits⟩
  | coordinatorPass agentRunId =>
    have hundecided : w.Undecided := Or.inl hawaits
    simp only [resume, afterCoordinator] at hawaited ⊢
    split
    · exact ⟨rfl, h.of_undecided rfl fun _ => hundecided⟩
    · split
      · split
        · exact ⟨rfl, h.of_undecided rfl fun _ => hundecided⟩
        · rename_i hverdict happroval hid
          rw [if_neg hverdict, if_pos happroval, if_neg hid] at hawaited
          have hgate : Stored approvalId
              ({ w with awaited := some (textOf effect "approval_id" "") }.goto .awaiting) stored :=
            h.of_undecided rfl fun _ => hundecided
          rw [passGate_awaited] at hawaited
          exact ⟨passGate_storing hgate (Or.inr rfl) hawaited, passGate_stored hgate (Or.inr rfl)⟩
      · exact ⟨rfl, h.of_undecided rfl fun _ => hundecided⟩
  | authorizeWithApproval workflowRunId id =>
    simp only [resume]
    split
    · exact ⟨rfl, h.of_undecided rfl fun hw => Or.inl (goto_undecided hw nofun)⟩
    · exact ⟨rfl, h.of_undecided rfl fun hw => Or.inl (checkPause_undecided hw)⟩
  | specialistPass agentRunId evidenceIds =>
    exact ⟨rfl, h.of_undecided rfl fun hw => Or.inl (checkPause_undecided hw)⟩
  | adjudicatePass =>
    exact ⟨rfl, h.of_undecided rfl fun hw => Or.inl (checkPause_undecided (w := { w with
      adjudication := effect }) hw)⟩
  | renderReport =>
    exact ⟨rfl, h.of_undecided rfl fun hw => Or.inl (checkPause_undecided (w := { w with
      report := effect }) hw)⟩
  | closeEngagement =>
    exact ⟨rfl, h.of_undecided rfl fun hw => Or.inl (goto_undecided hw nofun)⟩

lemma attemptFailed_storing : (w.storing stored).attemptFailed = w.attemptFailed.storing stored := by
  by_cases hmore : w.attempts + 1 < maximumAttempts
  · have hstoring : (w.storing stored).attempts + 1 < maximumAttempts := hmore
    rw [attemptFailed, attemptFailed, if_pos hmore, if_pos hstoring]
    rfl
  · have hstoring : ¬ (w.storing stored).attempts + 1 < maximumAttempts := hmore
    rw [attemptFailed, attemptFailed, if_neg hmore, if_neg hstoring]
    rfl

lemma attemptFailed_undecided (hstage : w.stage ≠ .awaiting) (h : w.attemptFailed.Undecided) :
    w.Undecided := by
  rw [attemptFailed] at h
  split at h
  · exact Or.inl (h.resolve_right hstage)
  · exact Or.inl (goto_undecided h nofun)

lemma activate_storing (h : Stored approvalId w stored)
    (hawaited : ∀ id, (activate input w).awaited = some id → id = approvalId) :
    activate input (w.storing stored) = (activate input w).storing stored ∧
      Stored approvalId (activate input w) stored := by
  have hstoring : (w.storing stored).stage = w.stage := rfl
  unfold activate at hawaited ⊢
  rw [hstoring]
  cases hstage : w.stage with
  | pausing next =>
    exact ⟨rfl, h.of_undecided rfl fun hw => Or.inl (checkPause_undecided hw)⟩
  | awaiting =>
    simp only [hstage, passGate_awaited] at hawaited
    exact ⟨passGate_storing h (Or.inr hstage) hawaited, passGate_stored h (Or.inr hstage)⟩
  | executing a => exact ⟨rfl, h⟩
  | finished result => exact ⟨rfl, h⟩
  | failed => exact ⟨rfl, h⟩

lemma attempt_storing {policy : Value → Except Raised PolicyDecision} {x : Execution}
    {delivered : Bool} (horderly : Orderly r.workflow) (h : Stored approvalId r.workflow stored)
    (hawaited : ∀ id, (r.attempt inputSha256 input policy x delivered).workflow.awaited = some id →
      id = approvalId) :
    attempt inputSha256 input policy x delivered ⟨r.workflow.storing stored, r.runtime⟩ =
        ⟨(r.attempt inputSha256 input policy x delivered).workflow.storing stored,
          (r.attempt inputSha256 input policy x delivered).runtime⟩ ∧
      Stored approvalId (r.attempt inputSha256 input policy x delivered).workflow stored := by
  have hstoring : (r.workflow.storing stored).stage = r.workflow.stage := rfl
  unfold attempt at hawaited ⊢
  rw [hstoring]
  cases hstage : r.workflow.stage with
  | executing a =>
    simp only [hstage] at hawaited ⊢
    have hfailed : Stored approvalId r.workflow.attemptFailed stored := by
      refine h.of_undecided ?_ (attemptFailed_undecided (hstage ▸ nofun))
      rw [attemptFailed]
      split
      · rfl
      · rfl
    cases houtcome : (exec policy inputSha256 x input.engagementId a r.runtime).1 with
    | error raised =>
      simp only [attemptFailed_storing]
      exact ⟨trivial, hfailed⟩
    | ok effect =>
      cases delivered with
      | false =>
        simp only [attemptFailed_storing]
        exact ⟨trivial, hfailed⟩
      | true =>
        simp only [houtcome] at hawaited ⊢
        obtain ⟨hresume, hstored⟩ := resume_storing h (horderly a (Or.inr hstage)) hawaited
        rw [hresume]
        exact ⟨rfl, hstored⟩
  | pausing next => exact ⟨rfl, h⟩
  | awaiting => exact ⟨rfl, h⟩
  | finished result => exact ⟨rfl, h⟩
  | failed => exact ⟨rfl, h⟩

/-- A step that is no decision on another approval does the same with another decision stored. -/
lemma step_storing (hown : e.foreign approvalId = false) (horderly : Orderly r.workflow)
    (h : Stored approvalId r.workflow stored)
    (hawaited : ∀ id, (step inputSha256 input e r).workflow.awaited = some id → id = approvalId) :
    step inputSha256 input e ⟨r.workflow.storing stored, r.runtime⟩ =
        ⟨(step inputSha256 input e r).workflow.storing (e.decision <|> stored),
          (step inputSha256 input e r).runtime⟩ ∧
      Stored approvalId (step inputSha256 input e r).workflow (e.decision <|> stored) := by
  cases e with
  | pause => exact ⟨rfl, h.of_undecided rfl id⟩
  | resume => exact ⟨rfl, h.of_undecided rfl id⟩
  | elsewhere rt => exact ⟨rfl, h⟩
  | approve id =>
    have hid : id = approvalId := by simpa [WorkflowEvent.foreign, WorkflowEvent.decision] using hown
    exact ⟨rfl, fun _ hsignal => (Option.some.inj hsignal) ▸ hid, fun _ _ _ => Iff.rfl⟩
  | deny id =>
    have hid : id = approvalId := by simpa [WorkflowEvent.foreign, WorkflowEvent.decision] using hown
    exact ⟨rfl, fun _ hsignal => (Option.some.inj hsignal) ▸ hid, fun _ _ _ => Iff.rfl⟩
  | activated =>
    obtain ⟨hactivate, hstored⟩ := activate_storing h hawaited
    refine ⟨?_, hstored⟩
    rw [step, signal, hactivate]
    rfl
  | attempt policy x delivered => exact attempt_storing horderly h hawaited

/-- A decision on another approval that finds none on this one leaves everything else as it is. -/
lemma step_foreign (hforeign : e.foreign approvalId = true) (h : Stored approvalId r.workflow stored)
    (hquiet : r.workflow.Undecided → ∀ signal, r.workflow.approvalDecision = some signal →
      signal.approvalId ≠ approvalId) :
    (⟨(step inputSha256 input e r).workflow.storing stored, (step inputSha256 input e r).runtime⟩ :
        WorkflowRun) = ⟨r.workflow.storing stored, r.runtime⟩ ∧
      Stored approvalId (step inputSha256 input e r).workflow stored := by
  have hsignalled : ∀ signal : ApprovalSignal, signal.approvalId ≠ approvalId →
      Stored approvalId (r.workflow.storing (some signal)) stored := by
    intro signal hid
    refine ⟨h.own, fun hw other hother => ⟨fun hsame => ?_, fun hsame => ?_⟩⟩
    · exact absurd ((Option.some.inj hsame) ▸ hother) hid
    · exact absurd hother (hquiet hw other ((h.same hw other hother).mpr hsame))
  cases e with
  | approve id =>
    exact ⟨rfl, hsignalled ⟨id, "approved"⟩ (by
      simpa [WorkflowEvent.foreign, WorkflowEvent.decision] using hforeign)⟩
  | deny id =>
    exact ⟨rfl, hsignalled ⟨id, "denied"⟩ (by
      simpa [WorkflowEvent.foreign, WorkflowEvent.decision] using hforeign)⟩
  | pause => cases hforeign
  | resume => cases hforeign
  | activated => cases hforeign
  | attempt policy x delivered => cases hforeign
  | elsewhere rt => cases hforeign

lemma lastDecision_concat : lastDecision approvalId (events ++ [e]) =
    if e.foreign approvalId then lastDecision approvalId events
    else e.decision <|> lastDecision approvalId events := by
  rw [lastDecision, List.filterMap_append, List.reverse_append, WorkflowEvent.foreign]
  cases hdecision : e.decision with
  | none =>
    rw [List.filterMap_cons_none hdecision]
    rfl
  | some signal =>
    rw [List.filterMap_cons_some hdecision]
    by_cases hid : signal.approvalId = approvalId
    · simp [hid]
    · simp [hid, lastDecision]

variable (inputSha256 input rt approvalId) in
/-- No decision on another approval arrives while one on this approval is stored and the gate is not
passed. -/
def Undisturbed (events : List WorkflowEvent) : Prop :=
  ∀ before e rest, events = before ++ e :: rest → e.foreign approvalId = true →
    (after inputSha256 input rt before).workflow.Undecided →
    ∀ signal, (after inputSha256 input rt before).workflow.approvalDecision = some signal →
      signal.approvalId ≠ approvalId

lemma after_own (hawaited : ∀ id, (after inputSha256 input rt events).workflow.awaited = some id →
      id = approvalId) (hquiet : Undisturbed inputSha256 input rt approvalId events) :
    after inputSha256 input rt (events.filter fun e => !e.foreign approvalId) =
        ⟨(after inputSha256 input rt events).workflow.storing (lastDecision approvalId events),
          (after inputSha256 input rt events).runtime⟩ ∧
      Stored approvalId (after inputSha256 input rt events).workflow
        (lastDecision approvalId events) := by
  induction events using List.reverseRecOn with
  | nil => exact ⟨rfl, nofun, fun _ _ _ => Iff.rfl⟩
  | append_singleton events e ih =>
    rw [after_concat] at hawaited ⊢
    obtain ⟨hbefore, hstored⟩ := ih
      (fun id hid => hawaited id (step_awaited after_orderly hid))
      (fun before e' rest heq => hquiet before e' (rest ++ [e]) (by rw [heq]; simp))
    rw [List.filter_append, lastDecision_concat]
    cases hforeign : e.foreign approvalId with
    | false =>
      obtain ⟨hstep, hafter⟩ := step_storing hforeign after_orderly hstored hawaited
      rw [List.filter_cons_of_pos (by simp [hforeign]), List.filter_nil, after_concat, hbefore]
      exact ⟨hstep, hafter⟩
    | true =>
      obtain ⟨hstep, hafter⟩ := @step_foreign inputSha256 input _ _ _ _ hforeign hstored
        (hquiet events e [] rfl hforeign)
      rw [List.filter_cons_of_neg (by simp [hforeign]), List.filter_nil, List.append_nil, hbefore]
      exact ⟨hstep.symm, hafter⟩

lemma not_proceeded_finish {status reason : String} : ¬ (w.finish status reason).Proceeded := by
  rintro ⟨a, ha | ha, -⟩
  · cases ha
  · cases ha

lemma proceeded_checkPause {next : Activity} (h : (w.checkPause next).Proceeded) :
    beyond next = true := by
  obtain ⟨a, ha, hbeyond⟩ := h
  simp only [checkPause, goto] at ha
  split at ha
  · rcases ha with ha | ha
    · rwa [Stage.pausing.inj ha]
    · cases ha
  · rcases ha with ha | ha
    · cases ha
    · rwa [Stage.executing.inj ha]

/-- The gate itself leads to the authorization only. -/
lemma proceeded_passGate (h : (passGate input w).Proceeded) : w.Proceeded := by
  obtain hgate | ⟨_, -, hgate | hgate⟩ := @passGate_cases input w
  · rwa [hgate] at h
  · rw [hgate] at h
    exact absurd h not_proceeded_finish
  · rw [hgate] at h
    obtain ⟨a, ha | ha, hbeyond⟩ := h
    · cases ha
    · rw [← Stage.executing.inj ha] at hbeyond
      cases hbeyond

lemma not_proceeded_awaiting : ¬ (w.goto .awaiting).Proceeded := by
  rintro ⟨a, ha | ha, -⟩
  · cases ha
  · cases ha

/-- With an approval awaited, only its authorization leads past the gate. -/
lemma resume_proceeded {effect : Value} {a : Activity} (hawaits : Awaits w.awaited a)
    (hbefore : beyond a = false) (h : (resume input effect w a).Proceeded)
    (hawaited : (resume input effect w a).awaited = some approvalId) :
    ∃ run, a = .authorizeWithApproval run approvalId := by
  cases a with
  | validateAndAuthorize workflowRunId =>
    simp only [resume] at h
    split at h
    · exact absurd h not_proceeded_finish
    · exact absurd (proceeded_checkPause h) nofun
  | coordinatorPass agentRunId =>
    simp only [resume, afterCoordinator] at h hawaited
    split at h
    · exact absurd h not_proceeded_finish
    · rename_i hverdict
      rw [if_neg hverdict] at hawaited
      split at h
      · rename_i happroval
        rw [if_pos happroval] at hawaited
        split at h
        · exact absurd h not_proceeded_finish
        · exact absurd (proceeded_passGate h) not_proceeded_awaiting
      · rename_i happroval
        rw [if_neg happroval] at hawaited
        have hnone : w.awaited = none := hawaits
        exact absurd (hnone.symm.trans hawaited) nofun
  | authorizeWithApproval run id =>
    have hid : w.awaited = some id := hawaits
    have hsame : (resume input effect w (.authorizeWithApproval run id)).awaited = some id :=
      resume_awaited hawaits hid
    rw [hsame] at hawaited
    exact ⟨run, by rw [Option.some.inj hawaited]⟩
  | specialistPass agentRunId evidenceIds => cases hbefore
  | adjudicatePass => cases hbefore
  | renderReport => cases hbefore
  | closeEngagement => cases hbefore

variable (inputSha256 input) in
/-- The run executes the authorization of the approval, and the kernel, asked again with the approval as it is
recorded, allows the request. -/
structure Reauthorized (policy : Value → Except Raised PolicyDecision) (x : Execution)
    (r : WorkflowRun) (approvalId : String) : Prop where
  stage : ∃ run, r.workflow.stage = .executing (.authorizeWithApproval run approvalId)
  allowed : ∃ engagement approval, r.runtime.engagements.find? input.engagementId = some engagement ∧
    r.runtime.approvals.find? approvalId = some approval ∧ approval.decision = "approved" ∧
      approvalDecision policy inputSha256 x r.runtime engagement approval = .ok .allow

lemma authorized_of_exec {policy : Value → Except Raised PolicyDecision} {x : Execution}
    {engagementId run : String} {effect : Value}
    (h : (exec policy inputSha256 x engagementId (.authorizeWithApproval run approvalId) rt).1 =
      .ok effect) :
    ∃ engagement approval, rt.engagements.find? engagementId = some engagement ∧
      rt.approvals.find? approvalId = some approval ∧ approval.decision = "approved" ∧
        approvalDecision policy inputSha256 x rt engagement approval = .ok .allow := by
  simp only [exec, authorizeWithApproval, recording] at h
  split at h
  · cases h
  · rename_i hplan
    obtain ⟨engagement, hload, approval, hfound, happroved, hallow, -⟩ := authorization_eq_ok.mp hplan
    exact ⟨engagement, approval, hload, hfound, happroved, hallow⟩

/-- The step that leads past the gate. -/
lemma step_proceeded (horderly : Orderly r.workflow) (hbefore : ¬ r.workflow.Proceeded)
    (h : (step inputSha256 input e r).workflow.Proceeded)
    (hawaited : (step inputSha256 input e r).workflow.awaited = some approvalId) :
    ∃ policy x, e = .attempt policy x true ∧
      Reauthorized inputSha256 input policy x r approvalId := by
  cases e with
  | pause => exact absurd h hbefore
  | resume => exact absurd h hbefore
  | approve id => exact absurd h hbefore
  | deny id => exact absurd h hbefore
  | elsewhere rt => exact absurd h hbefore
  | activated =>
    simp only [step, signal, activate] at h
    split at h
    · rename_i next hstage
      exact absurd ⟨next, Or.inl hstage, proceeded_checkPause h⟩ hbefore
    · exact absurd (proceeded_passGate h) hbefore
    · exact absurd h hbefore
  | attempt policy x delivered =>
    obtain hsame | ⟨a, hstage, ⟨effect, houtcome, rfl, hrun⟩ | hrun⟩ := @attempt_cases inputSha256 input
      r policy x delivered
    · rw [step, hsame] at h
      exact absurd h hbefore
    · rw [step, hrun] at h hawaited
      have hearly : beyond a = false := by
        rw [← Bool.not_eq_true]
        exact fun hbeyond => hbefore ⟨a, Or.inr hstage, hbeyond⟩
      obtain ⟨run, rfl⟩ := resume_proceeded (horderly a (Or.inr hstage)) hearly h hawaited
      exact ⟨policy, x, rfl, ⟨run, hstage⟩, authorized_of_exec houtcome⟩
    · rw [step, hrun, attemptFailed] at h
      split at h
      · exact absurd h hbefore
      · obtain ⟨b, hb | hb, -⟩ := h
        · cases hb
        · cases hb

/-- Past the gate, no other approval is awaited. -/
lemma awaited_proceeded (h : r.workflow.Proceeded) :
    (step inputSha256 input e r).workflow.awaited = r.workflow.awaited := by
  cases e with
  | pause => rfl
  | resume => rfl
  | approve id => rfl
  | deny id => rfl
  | elsewhere rt => rfl
  | activated =>
    simp only [step, signal, activate]
    split
    · rfl
    · exact passGate_awaited
    · rfl
  | attempt policy x delivered =>
    obtain hsame | ⟨a, hstage, ⟨effect, -, -, hrun⟩ | hrun⟩ := @attempt_cases inputSha256 input r
      policy x delivered
    · rw [step, hsame]
    · rw [step, hrun]
      obtain ⟨b, hb | hb, hbeyond⟩ := h
      · rw [hstage] at hb
        cases hb
      · obtain rfl : a = b := Stage.executing.inj (hstage.symm.trans hb)
        cases a with
        | specialistPass agentRunId evidenceIds => rfl
        | adjudicatePass => rfl
        | renderReport => rfl
        | closeEngagement => rfl
        | validateAndAuthorize workflowRunId => cases hbeyond
        | coordinatorPass agentRunId => cases hbeyond
        | authorizeWithApproval workflowRunId id => cases hbeyond
    · rw [step, hrun]
      exact attemptFailed_awaited

/-- A run that has gone on past the gate was let through by the kernel. -/
lemma after_proceeded (h : (after inputSha256 input rt events).workflow.Proceeded)
    (hawaited : (after inputSha256 input rt events).workflow.awaited = some approvalId) :
    ∃ before policy x rest, events = before ++ .attempt policy x true :: rest ∧
      Reauthorized inputSha256 input policy x (after inputSha256 input rt before) approvalId := by
  induction events using List.reverseRecOn with
  | nil =>
    obtain ⟨a, ha | ha, hbeyond⟩ := h
    · rw [← Stage.pausing.inj ha] at hbeyond
      cases hbeyond
    · cases ha
  | append_singleton events e ih =>
    by_cases hbefore : (after inputSha256 input rt events).workflow.Proceeded
    · rw [after_concat, awaited_proceeded hbefore] at hawaited
      obtain ⟨before, policy, x, rest, hevents, hauthorized⟩ := ih hbefore hawaited
      exact ⟨before, policy, x, rest ++ [e], by rw [hevents]; simp, hauthorized⟩
    · rw [after_concat] at h hawaited
      obtain ⟨policy, x, rfl, hauthorized⟩ := step_proceeded after_orderly hbefore h hawaited
      exact ⟨events, policy, x, [], rfl, hauthorized⟩

variable (inputSha256 input rt approvalId) in
/-- Decisions on other approvals change nothing of the run, and the last one on this approval is stored until
the gate is passed. -/
structure DecisionsKept (events : List WorkflowEvent) : Prop where
  outcome : SameOutcome (after inputSha256 input rt events)
    (after inputSha256 input rt (events.filter fun e => !e.foreign approvalId))
  received : (after inputSha256 input rt events).workflow.Undecided →
    ∀ signal, lastDecision approvalId events = some signal →
      (after inputSha256 input rt events).workflow.approvalDecision = some signal

end Runs

/-- Past the gate, the kernel has allowed the request again. For the approval that a run awaits, if it awaits
one, the decisions on it are kept in every history in which no decision on another approval arrives over one on
this approval before the gate is passed. -/
theorem approvals_gated (inputSha256 : Value → String) (input : EngagementWorkflowInput)
    (rt : EngagementRuntime) (approvalId : String) (events : List WorkflowEvent) :
    ((after inputSha256 input rt events).workflow.Proceeded →
      (after inputSha256 input rt events).workflow.awaited = some approvalId →
        ∃ before policy x rest, events = before ++ .attempt policy x true :: rest ∧
          Reauthorized inputSha256 input policy x (after inputSha256 input rt before) approvalId) ∧
    ((∀ id, (after inputSha256 input rt events).workflow.awaited = some id → id = approvalId) →
      Undisturbed inputSha256 input rt approvalId events →
        DecisionsKept inputSha256 input rt approvalId events) := by
  refine ⟨after_proceeded, fun hawaited hquiet => ?_⟩
  obtain ⟨hown, hstored⟩ := after_own hawaited hquiet
  refine ⟨⟨?_, ?_⟩, fun hundecided signal hlast => ?_⟩
  · rw [hown]
    rfl
  · rw [hown]
  · exact (hstored.same hundecided signal (hstored.own signal hlast)).mpr hlast

section Example

def sampleInput : EngagementWorkflowInput where
  engagementId := "EN-1"
  workflowRunId := "WR-1"
  coordinatorAgentRunId := "AR-1"
  specialistAgentRunId := "AR-2"
  evidenceIds := none

/-- The run up to its gate, where it awaits the approval that its coordinator asked for. -/
def toGate : List WorkflowEvent :=
  [.activated, .attempt (fun _ => .ok .allow) (minting '1') true,
    .attempt (fun _ => .ok .requireApproval) (minting '1') true]

/-- A decision on another approval comes first, then those on the awaited one. -/
def heard : List WorkflowEvent :=
  [.approve "AP-2", .deny "AP-1", .approve "AP-1"] ++ toGate ++ [.activated]

lemma heard_undisturbed : Undisturbed noDigest sampleInput seeded "AP-1" heard := by
  intro before e rest hevents hforeign _ signal hsignal
  cases before with
  | nil => cases hsignal
  | cons first before =>
    have he : e ∈ heard.tail := by
      rw [hevents]
      simp
    have hown : ∀ e ∈ heard.tail, e.foreign "AP-1" = false := by
      simp [heard, toGate, WorkflowEvent.foreign, WorkflowEvent.decision]
    rw [hown e he] at hforeign
    cases hforeign

lemma heard_awaits : (after noDigest sampleInput seeded heard).workflow.awaited = some "AP-1" := by
  decide +kernel

/-- The awaited decision is kept where the other one comes before it. -/
theorem heard_kept : DecisionsKept noDigest sampleInput seeded "AP-1" heard :=
  (approvals_gated noDigest sampleInput seeded "AP-1" heard).2
    (fun _ hid => Option.some.inj (hid.symm.trans heard_awaits)) heard_undisturbed

/-- A decision on another approval that arrives with the awaited one, after it. -/
def drowned : List WorkflowEvent := toGate ++ [.approve "AP-1", .approve "AP-2", .activated]

/-- The run goes on waiting for a decision that it was sent. -/
theorem decision_drowned : ¬ ∀ (inputSha256 : Value → String) (input : EngagementWorkflowInput)
    (rt : EngagementRuntime) (approvalId : String) (events : List WorkflowEvent),
    (∀ id, (after inputSha256 input rt events).workflow.awaited = some id → id = approvalId) →
      DecisionsKept inputSha256 input rt approvalId events := by
  intro hall
  have hawaits : (after noDigest sampleInput seeded drowned).workflow.awaited = some "AP-1" := by
    decide +kernel
  have hwaiting : (after noDigest sampleInput seeded drowned).workflow.stage = .awaiting := by
    decide +kernel
  have hauthorizing : (after noDigest sampleInput seeded
      (drowned.filter fun e => !e.foreign "AP-1")).workflow.stage =
        .executing (.authorizeWithApproval "WR-1" "AP-1") := by
    decide +kernel
  have hkept := hall noDigest sampleInput seeded "AP-1" drowned
    fun _ hid => Option.some.inj (hid.symm.trans hawaits)
  have hstage := congrArg EngagementWorkflow.stage hkept.outcome.workflow
  exact absurd (hwaiting.symm.trans (hstage.trans hauthorizing)) nofun

end Example

end SecScanMonitor.Workflows
