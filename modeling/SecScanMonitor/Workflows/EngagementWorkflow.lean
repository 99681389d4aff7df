import SecScanMonitor.Workflows.Activities

/-! The engagement workflow (`workflows/engagement_workflow.py`): its run over the activities, the signals
that reach it, and the moments where it waits. -/

namespace SecScanMonitor.Workflows

open Foundations Domain

structure EngagementWorkflowInput where
  engagementId : String
  workflowRunId : String
  coordinatorAgentRunId : String
  specialistAgentRunId : String
  evidenceIds : Option (List String)

structure EngagementWorkflowResult where
  status : String
  findingsCount : ℤ
  reportRendered : Bool
  approvalWaited : Bool
  denials : List String
  deriving Repr, DecidableEq

structure ApprovalSignal where
  approvalId : String
  decision : String
  deriving Repr, DecidableEq

/-- Where `run` stands: at a pause, in an activity, at the approval gate, or at its end. -/
inductive Stage where
  | pausing (next : Activity)
  | executing (activity : Activity)
  | awaiting
  | finished (result : EngagementWorkflowResult)
  | failed
  deriving Repr, DecidableEq

/-- The fields of the workflow and the locals of `run`. -/
structure EngagementWorkflow where
  paused : Bool
  approvalDecision : Option ApprovalSignal
  stage : Stage
  attempts : ℕ
  awaited : Option String
  adjudication : Value
  report : Value
  deriving DecidableEq

namespace EngagementWorkflow

def start (input : EngagementWorkflowInput) : EngagementWorkflow where
  paused := false
  approvalDecision := none
  stage := .pausing (.validateAndAuthorize input.workflowRunId)
  attempts := 0
  awaited := none
  adjudication := .obj []
  report := .obj []

def goto (stage : Stage) (w : EngagementWorkflow) : EngagementWorkflow :=
  { w with stage := stage, attempts := 0 }

/-- `_check_pause`, before an activity -/
def checkPause (next : Activity) (w : EngagementWorkflow) : EngagementWorkflow :=
  w.goto (if w.paused then .pausing next else .executing next)

def finish (status reason : String) (w : EngagementWorkflow) : EngagementWorkflow :=
  w.goto (.finished ⟨status, 0, false, w.awaited.isSome, [reason]⟩)

/-- The wait condition of the gate, and what follows once it holds. -/
def passGate (input : EngagementWorkflowInput) (w : EngagementWorkflow) : EngagementWorkflow :=
  match w.awaited, w.approvalDecision with
  | some approvalId, some signal =>
    if signal.approvalId = approvalId then
      if signal.decision ≠ "approved" then w.finish "denied" "approval denied"
      else w.goto (.executing (.authorizeWithApproval input.workflowRunId approvalId))
    else w
  | _, _ => w

def textOf (effect : Value) (key default : String) : String :=
  match effect.member? key with
  | some (.str s) => s
  | _ => default

def numberOf (effect : Value) (key : String) (default : ℤ) : ℤ :=
  match effect.member? key with
  | some (.int n) => n
  | _ => default

def specialist (input : EngagementWorkflowInput) : Activity :=
  .specialistPass input.specialistAgentRunId (input.evidenceIds.getD [])

/-- What `run` does with the plan of the coordinator. -/
def afterCoordinator (input : EngagementWorkflowInput) (effect : Value) (w : EngagementWorkflow) :
    EngagementWorkflow :=
  let verdict := textOf effect "verdict" ""
  if verdict = "denied" ∨ verdict = "refuse" then
    w.finish "denied" (textOf effect "reason" "coordinator refused")
  else if (effect.member? "requires_approval").any Value.truthy then
    let approvalId := textOf effect "approval_id" ""
    if approvalId = "" then w.finish "failed" "requires_approval without approval id"
    else passGate input ({ w with awaited := some approvalId }.goto .awaiting)
  else w.checkPause (specialist input)

/-- What `run` does with what an activity gives, up to where it waits again. -/
def resume (input : EngagementWorkflowInput) (effect : Value) (w : EngagementWorkflow) :
    Activity → EngagementWorkflow
  | .validateAndAuthorize _ =>
    if textOf effect "decision" "" = "deny" then w.finish "denied" "authorization gate denied"
    else w.checkPause (.coordinatorPass input.coordinatorAgentRunId)
  | .coordinatorPass _ => afterCoordinator input effect w
  | .authorizeWithApproval _ _ =>
    if textOf effect "decision" "" ≠ "allow" then w.finish "denied" "approval did not authorize"
    else w.checkPause (specialist input)
  | .specialistPass _ _ => w.checkPause .adjudicatePass
  | .adjudicatePass => { w with adjudication := effect }.checkPause .renderReport
  | .renderReport => { w with report := effect }.checkPause .closeEngagement
  | .closeEngagement => w.goto (.finished
      { status := textOf effect "status" "closed"
        findingsCount := numberOf w.report "findings" (numberOf w.adjudication "findings" 0)
        reportRendered := decide (0 ≤ numberOf w.report "findings" (-1))
        approvalWaited := w.awaited.isSome
        denials := [] })

/-- `_RETRY_3` -/
def maximumAttempts : ℕ := 3

def attemptFailed (w : EngagementWorkflow) : EngagementWorkflow :=
  if w.attempts + 1 < maximumAttempts then { w with attempts := w.attempts + 1 }
  else w.goto .failed

end EngagementWorkflow

/-- What reaches the workflow: a signal, the end of an activation, in which its wait conditions are looked at,
an attempt at the activity it executes, whose outcome may get lost, or what others do to the runtime. -/
inductive WorkflowEvent where
  | pause
  | resume
  | approve (approvalId : String)
  | deny (approvalId : String)
  | activated
  | attempt (policy : Value → Except Raised PolicyDecision) (x : Execution) (delivered : Bool)
  | elsewhere (rt : EngagementRuntime)

/-- The workflow and the runtime of its activities. -/
structure WorkflowRun where
  workflow : EngagementWorkflow
  runtime : EngagementRuntime

namespace WorkflowRun

open EngagementWorkflow

variable (inputSha256 : Value → String) (input : EngagementWorkflowInput)

def signal (f : EngagementWorkflow → EngagementWorkflow) (r : WorkflowRun) : WorkflowRun :=
  { r with workflow := f r.workflow }

def activate (w : EngagementWorkflow) : EngagementWorkflow :=
  match w.stage with
  | .pausing next => w.checkPause next
  | .awaiting => passGate input w
  | _ => w

def attempt (policy : Value → Except Raised PolicyDecision) (x : Execution) (delivered : Bool)
    (r : WorkflowRun) : WorkflowRun :=
  match r.workflow.stage with
  | .executing a =>
    let outcome := exec policy inputSha256 x input.engagementId a r.runtime
    match outcome.1, delivered with
    | .ok effect, true => ⟨resume input effect r.workflow a, outcome.2⟩
    | _, _ => ⟨r.workflow.attemptFailed, outcome.2⟩
  | _ => r

def step (e : WorkflowEvent) (r : WorkflowRun) : WorkflowRun :=
  match e with
  | .pause => r.signal fun w => { w with paused := true }
  | .resume => r.signal fun w => { w with paused := false }
  | .approve approvalId => r.signal fun w =>
      { w with approvalDecision := some ⟨approvalId, "approved"⟩ }
  | .deny approvalId => r.signal fun w =>
      { w with approvalDecision := some ⟨approvalId, "denied"⟩ }
  | .activated => r.signal (activate input)
  | .attempt policy x delivered => r.attempt inputSha256 input policy x delivered
  | .elsewhere rt => { r with runtime := rt }

/-- The run after a history of events, the latest last. -/
def after (rt : EngagementRuntime) (events : List WorkflowEvent) : WorkflowRun :=
  events.foldl (fun r e => step inputSha256 input e r) ⟨start input, rt⟩

end WorkflowRun

end SecScanMonitor.Workflows
