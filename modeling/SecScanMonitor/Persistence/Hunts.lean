import SecScanMonitor.DetectionResponse.Hunting
import SecScanMonitor.Persistence.WorkQueue

/-! Hunt requests, their leases and the executions stored for them (`persistence/live_control_plane.py`
and `persistence/detection_response.py`). A call reads the clock once, and its transaction is atomic. -/

namespace SecScanMonitor.Persistence

open Foundations Domain DetectionResponse ContinuousSecurity

section Request

variable (codec : Codec) (secretLike : Value → Bool)

def huntHypothesisValue (h : HuntHypothesis) : Value := .obj
  [("hypothesis_id", .str h.hypothesisId), ("scope", h.scope.toValue),
    ("question", .str h.question), ("entity_keys", .arr (h.entityKeys.map .str)),
    ("supporting_signal_ids", .arr (h.supportingSignalIds.map .str)),
    ("required_evidence_refs", .arr (h.requiredEvidenceRefs.map .str)),
    ("created_at", .str (codec.dumpDatetime h.createdAt))]

def sameHuntHypothesis (a b : HuntHypothesis) : Bool := a = { b with createdAt := a.createdAt }

/-- Equal but for the order of the members of the query. -/
def sameHuntPlan (p q : HuntPlan) : Bool :=
  p.planId = q.planId && p.hypothesisId = q.hypothesisId && p.scope = q.scope &&
    p.windowStart = q.windowStart && p.windowEnd = q.windowEnd &&
    (Value.obj p.query).pyEq (.obj q.query) && p.exitCriteria = q.exitCriteria &&
    p.maxEvents = q.maxEvents

def HuntPlanRow.of (p : HuntPlan) (createdAt : Datetime) : HuntPlanRow where
  plan := p
  status := .pending
  leaseUntil := none
  workerId := none
  createdAt := createdAt
  completedAt := none

def saveHuntRequest (hypothesis : HuntHypothesis) (plan : HuntPlan) : Transaction Unit := fun db => do
  raiseIf (hypothesis.scope ≠ plan.scope ∨ hypothesis.hypothesisId ≠ plan.hypothesisId)
      .permissionError "hunt request scope and hypothesis binding do not match"
  raiseIf (secretLike (.obj [("hypothesis", huntHypothesisValue codec hypothesis),
      ("plan", plan.toValue codec)])) .detectionInputError
      "canonical live text contains secret-like content"
  validateEngagementScope db plan.scope
  let hypotheses ← insertOrReplay "hunt_hypotheses" sameHuntHypothesis (fun _ _ => false) hypothesis
    db.huntHypotheses
  let plans ← insertOrReplay "hunt_plans" (fun a b => sameHuntPlan a.plan b.plan) (fun _ _ => false)
    (HuntPlanRow.of plan hypothesis.createdAt) db.huntPlans
  return ((), { db with huntHypotheses := hypotheses, huntPlans := plans })

end Request

namespace HuntPlanRow

variable (row : HuntPlanRow) (now : Datetime)

/-- The lease has not run out. -/
def leased : Bool := row.leaseUntil.any fun t => decide (now < t)

def claim (workerId : String) (leaseSeconds : Int) : HuntPlanRow :=
  { row with
    status := .claimed
    workerId := some workerId
    leaseUntil := some (now.addSeconds leaseSeconds) }

def complete : HuntPlanRow :=
  { row with status := .completed, leaseUntil := none, workerId := none, completedAt := some now }

end HuntPlanRow

abbrev HuntPlans := Table fun r : HuntPlanRow => r.plan.planId

abbrev HuntExecutions := Table fun r : HuntExecutionRow => r.execution.executionId

/-- A completed plan is claimed without a lease. -/
def claimHunt (now : Datetime) (planId workerId : String) (leaseSeconds : Int) : Transaction Bool :=
  fun db =>
    if isBlank workerId ∨ ¬ (1 ≤ leaseSeconds ∧ leaseSeconds ≤ 3600) then
      raise .valueError "hunt claim bounds are invalid"
    else
      match db.huntPlans.get? planId with
      | none => raise .keyError "hunt plan not found"
      | some row =>
        if row.status = .completed then .ok (true, db)
        else if row.status = .claimed ∧ row.workerId ≠ some workerId ∧ row.leased now then
          .ok (false, db)
        else
          let plans := db.huntPlans.modify planId (fun r => r.claim now workerId leaseSeconds)
            (fun _ => rfl)
          .ok (true, { db with huntPlans := plans })

section Save

variable (now : Datetime) (execution : HuntExecution) (result : HuntResult)

def saveHuntExecution (executions : HuntExecutions) : Except Raised HuntExecutions := do
  raiseIf (execution.scope ≠ result.scope ∨ execution.resultId ≠ result.resultId)
      .detectionInputError "hunt execution and result are not bound to the same scope/result"
  raiseIf (execution.executionId ≠ result.executionId) .detectionInputError
      "hunt execution and result are not bound to the same execution"
  match executions.get? execution.executionId with
  | some existing => do
    raiseIf (existing.execution.scope ≠ execution.scope) .detectionScopeError
        "canonical detection-response record is outside the requested scope"
    raiseIf (existing.execution.planId ≠ execution.planId ∨
        existing.hypothesisId ≠ result.hypothesisId ∨
        existing.execution.resultId ≠ execution.resultId ∨
        existing.execution.queryDigest ≠ execution.queryDigest ∨
        existing.execution.inputEventIds ≠ execution.inputEventIds ∨
        existing.execution.inputSignalIds ≠ execution.inputSignalIds ∨ existing.result ≠ result)
        .detectionInputError "hunt execution identity was reused for different content"
    return executions
  | none =>
    unique (executions.insert? (fun row => decide (row.execution.resultId = execution.resultId))
      ⟨execution, result.hypothesisId, result⟩)

/-- A claimed plan is completed by its worker under the lease, and no worker completes a plan that was
not claimed. -/
def checkHuntLease (row : HuntPlanRow) (workerId : Option String) : Except Raised Unit :=
  match row.status with
  | .claimed =>
    raiseIf (workerId = none ∨ row.workerId ≠ workerId ∨ row.leased now = false) .permissionError
      "hunt completion is not bound to its active lease"
  | .completed => .ok ()
  | .pending =>
    raiseIf (workerId ≠ none) .permissionError "hunt completion is not bound to its claimed plan"

/-- The plan of the execution, as far as it may be completed. -/
def admitHunt (workerId : Option String) (db : Database) : Except Raised HuntPlanRow := do
  let row ← orRaise (db.huntPlans.get? execution.planId) .detectionInputError
      "hunt execution is missing its canonical plan"
  raiseIf (row.plan.scope ≠ execution.scope) .permissionError
      "hunt execution crossed its canonical plan scope"
  checkHuntLease now row workerId
  return row

def saveHunt (workerId : Option String) : Transaction Unit := fun db => do
  let _ ← admitHunt now execution workerId db
  let executions ← saveHuntExecution execution result db.huntExecutions
  let plans := db.huntPlans.modify execution.planId (fun r => r.complete now) (fun _ => rfl)
  return ((), { db with huntExecutions := executions, huntPlans := plans })

end Save

inductive HuntCall where
  | ingest (event : SecurityEvent)
  | request (hypothesis : HuntHypothesis) (plan : HuntPlan)
  | claim (planId workerId : String) (leaseSeconds : Int)
  | save (execution : HuntExecution) (result : HuntResult) (workerId : Option String)

/-- A call at an instant, and what it answers: whether a plan was claimed. -/
def HuntCall.exec (codec : Codec) (secretLike : Value → Bool) :
    Datetime × HuntCall → Effect Database Bool
  | (now, .ingest event) => fun db =>
    let r := ingestEvent codec now event db
    (r.map fun _ => true, committed db r)
  | (_, .request hypothesis plan) => fun db =>
    let r := saveHuntRequest codec secretLike hypothesis plan db
    (r.map fun _ => true, committed db r)
  | (now, .claim planId workerId leaseSeconds) => fun db =>
    let r := claimHunt now planId workerId leaseSeconds db
    (r.map Prod.fst, committed db r)
  | (now, .save execution result workerId) => fun db =>
    let r := saveHunt now execution result workerId db
    (r.map fun _ => true, committed db r)

end SecScanMonitor.Persistence
