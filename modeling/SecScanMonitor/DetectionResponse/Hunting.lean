import SecScanMonitor.DetectionResponse.Engine
import SecScanMonitor.Foundations.Paths

/-! Bounded hunts over the events and the signals of a detection engine
(`ThreatHuntEngine` of `detection_response/engine.py`). The events of a hunt engine are those of its
detection engine. -/

namespace SecScanMonitor.DetectionResponse

open Foundations Domain ContinuousSecurity

section Documents

variable (codec : Codec)

def HuntHypothesis.digest (h : HuntHypothesis) : String :=
  codec.contentDigest (.obj
    [("hypothesis_id", .str h.hypothesisId), ("scope", h.scope.toValue),
      ("question", .str h.question), ("entity_keys", .arr (h.entityKeys.map .str)),
      ("supporting_signal_ids", .arr (h.supportingSignalIds.map .str)),
      ("required_evidence_refs", .arr (h.requiredEvidenceRefs.map .str))])

def HuntPlan.toValue (p : HuntPlan) : Value := .obj
  [("plan_id", .str p.planId), ("hypothesis_id", .str p.hypothesisId),
    ("scope", p.scope.toValue), ("window_start", .str (codec.dumpDatetime p.windowStart)),
    ("window_end", .str (codec.dumpDatetime p.windowEnd)), ("query", .obj p.query),
    ("exit_criteria", .str p.exitCriteria), ("max_events", .int p.maxEvents)]

def HuntPlan.queryDigest (p : HuntPlan) : String := codec.contentDigest (.obj p.query)

end Documents

def HuntDisposition.value : HuntDisposition → String
  | .supports => "SUPPORTS"
  | .refutes => "REFUTES"
  | .inconclusive => "INCONCLUSIVE"

section Search

variable (render : Value → String)

def HuntPlan.covers (p : HuntPlan) (event : SecurityEvent) : Bool :=
  p.windowStart ≤ event.occurredAt && event.occurredAt ≤ p.windowEnd

/-- `plan.query.get("event", plan.query)` -/
def HuntPlan.eventQuery (p : HuntPlan) : Value := (p.query.lookup "event").getD (.obj p.query)

def HuntPlan.predicates (p : HuntPlan) : Except Raised (List (String × Value)) :=
  match p.eventQuery with
  | .obj predicates => .ok predicates
  | _ => raise .detectionInputError "hunt event query must be a mapping"

def matchingEvents (predicates : List (String × Value)) :
    List SecurityEvent → Except Raised (List SecurityEvent)
  | [] => .ok []
  | event :: events => do
    let (matched, _) ← matchesEvent render event predicates
    let later ← matchingEvents predicates events
    return if matched then event :: later else later

/-- The ids that the query asks for, or else those of the hypothesis. -/
def requestedSignals (h : HuntHypothesis) (p : HuntPlan) : Except Raised (List String) :=
  match p.query.lookup "signal_ids" with
  | none => .ok h.supportingSignalIds
  | some (.arr items) => .ok (items.map (text render))
  | some _ => raise .detectionInputError "hunt signal_ids must be a bounded sequence"

/-- One signal of `signal_is_in_window`, given the answers for its sources. -/
def visitSignal (available : List SecurityEvent) (signals : List DetectionSignal)
    (signalId : String) (isInWindow : String → Bool) : Bool :=
  match signals.find? fun s => decide (s.signalId = signalId) with
  | none => false
  | some signal =>
    (signal.eventIds.all fun id => decide (id ∈ available.map (·.eventId))) &&
      signal.sourceSignalIds.all isInWindow && (signal.eventIds ≠ [] || signal.sourceSignalIds ≠ [])

/-- All of the signal's events are available, and so are those of its sources. -/
def signalIsInWindow (available : List SecurityEvent) (signals : List DetectionSignal)
    (signalId : String) : Bool :=
  Paths.along false (visitSignal available signals) (signals.length + 1) [] signalId

/-- A signal's provenance goes no deeper than there are signals. -/
lemma signalIsInWindow_eq (available : List SecurityEvent) (signals : List DetectionSignal) {n : ℕ}
    (hn : signals.length < n) (signalId : String) :
    Paths.along false (visitSignal available signals) n [] signalId =
      signalIsInWindow available signals signalId := by
  induction n, hn using Nat.le_induction with
  | base => rfl
  | succ n hn ih =>
    rw [← ih]
    apply Paths.along_succ (signals.map (·.signalId))
    · intro id hid f g
      have hnone : (signals.find? fun s => decide (s.signalId = id)) = none := by
        apply List.find?_eq_none.mpr
        intro s hs
        simpa using fun h => hid (List.mem_map.mpr ⟨s, hs, h⟩)
      rw [visitSignal, visitSignal, hnone]
    · have hle := Paths.room_le (signals.map (·.signalId)) []
      rw [List.length_map] at hle
      omega

/-- What a hunt finds: the events of its window, and those events and signals that match. -/
structure HuntFindings where
  available : List SecurityEvent
  events : List SecurityEvent
  signals : List DetectionSignal

def search (h : HuntHypothesis) (p : HuntPlan) (detections : DetectionEngine) :
    Except Raised HuntFindings := do
  let events ← detections.events.events (some p.scope)
  let available := events.filter p.covers
  raiseIf (p.maxEvents < available.length) .detectionInputError
      "hunt exceeded its bounded event limit"
  let predicates ← p.predicates
  let matched ← matchingEvents render predicates available
  let requested ← requestedSignals render h p
  let signals ← detections.signalsOf (some p.scope)
  return ⟨available, matched, signals.filter fun s =>
    decide (s.signalId ∈ requested) && signalIsInWindow available signals s.signalId⟩

end Search

namespace HuntFindings

variable (codec : Codec) (h : HuntHypothesis) (p : HuntPlan) (f : HuntFindings)

def eventIds : List String := f.events.map (·.eventId)

def signalIds : List String := f.signals.map (·.signalId)

def evidenceRefs : List String :=
  normalized (f.events.map (·.rawEvidenceRef) ++ f.signals.flatMap (·.rawEvidenceRefs))

/-- The evidence of every event of the window, which a refutation refers to. -/
def availableRefs : List String := (f.available.map (·.rawEvidenceRef)).insertionSort (· ≤ ·)

def disposition : HuntDisposition :=
  if f.eventIds ≠ [] ∨ f.signalIds ≠ [] then .supports else .refutes

/-- What the id of an execution is derived from. -/
def identity : List Value :=
  [.str p.planId, .str h.hypothesisId, p.scope.key, .str (p.queryDigest codec),
    .arr (f.eventIds.map .str), .arr (f.signalIds.map .str)]

def executionId : String := stableId codec "HUNT-EXEC-" (f.identity codec h p)

def resultId : String := stableId codec "HUNT-RESULT-" [.str (f.executionId codec h p)]

def execution (started completed : Datetime) : HuntExecution where
  executionId := f.executionId codec h p
  planId := p.planId
  scope := p.scope
  queryDigest := p.queryDigest codec
  inputEventIds := f.eventIds
  inputSignalIds := f.signalIds
  startedAt := started
  completedAt := completed
  resultId := f.resultId codec h p

def result : HuntResult where
  resultId := f.resultId codec h p
  executionId := f.executionId codec h p
  hypothesisId := h.hypothesisId
  scope := p.scope
  disposition := f.disposition
  eventIds := f.eventIds
  signalIds := f.signalIds
  supportingEvidenceRefs := if f.disposition = .supports then f.evidenceRefs else []
  refutingEvidenceRefs := if f.disposition = .supports then [] else f.availableRefs
  resultDigest := codec.contentDigest (.arr [.str h.hypothesisId, .str p.planId,
    .str f.disposition.value, .arr (f.eventIds.map .str), .arr (f.signalIds.map .str)])

end HuntFindings

/-- The stored execution is not that of the request. Its id and its times are not compared. -/
def HuntExecution.differs (existing requested : HuntExecution) : Bool :=
  existing.planId ≠ requested.planId || existing.scope ≠ requested.scope ||
    existing.queryDigest ≠ requested.queryDigest ||
    existing.inputEventIds ≠ requested.inputEventIds ||
    existing.inputSignalIds ≠ requested.inputSignalIds || existing.resultId ≠ requested.resultId

/-- The stored result is not that of the request. Its id and its digest are not compared. -/
def HuntResult.differs (existing requested : HuntResult) : Bool :=
  existing.executionId ≠ requested.executionId ||
    existing.hypothesisId ≠ requested.hypothesisId || existing.scope ≠ requested.scope ||
    existing.disposition ≠ requested.disposition || existing.eventIds ≠ requested.eventIds ||
    existing.signalIds ≠ requested.signalIds ||
    existing.supportingEvidenceRefs ≠ requested.supportingEvidenceRefs ||
    existing.refutingEvidenceRefs ≠ requested.refutingEvidenceRefs

structure ThreatHuntEngine where
  detections : DetectionEngine
  executions : Dict String HuntExecution
  results : Dict String HuntResult
  planBindings : Dict String String
  hypothesisBindings : Dict String String

namespace ThreatHuntEngine

def init (detections : DetectionEngine) : ThreatHuntEngine where
  detections := detections
  executions := Table.empty
  results := Table.empty
  planBindings := Table.empty
  hypothesisBindings := Table.empty

section Run

variable (codec : Codec) (render : Value → String) (h : HuntHypothesis) (p : HuntPlan)

def checkScope (engine : ThreatHuntEngine) : Except Raised Unit :=
  raiseIf (h.hypothesisId ≠ p.hypothesisId ∨ h.scope ≠ p.scope ∨
      engine.detections.scope.any fun s => decide (s ≠ p.scope)) .detectionScopeError
      "hunt scope does not match its hypothesis or detector"

def bindHypothesis : Effect ThreatHuntEngine Unit := fun engine =>
  if (engine.hypothesisBindings.find? h.hypothesisId).any fun d => decide (d ≠ h.digest codec) then
    (raise .detectionInputError "hunt hypothesis identity was reused for different content", engine)
  else
    (.ok (),
      { engine with
        hypothesisBindings := engine.hypothesisBindings.set h.hypothesisId (h.digest codec) })

def bindPlan : Effect ThreatHuntEngine Unit := fun engine =>
  let digest := codec.contentDigest (p.toValue codec)
  if (engine.planBindings.find? p.planId).any fun d => decide (d ≠ digest) then
    (raise .detectionInputError "hunt plan identity was reused for different content", engine)
  else (.ok (), { engine with planBindings := engine.planBindings.set p.planId digest })

/-- Replay the result of an execution that was stored, or store a new one. -/
def record (f : HuntFindings) (started completed : Datetime) : Effect ThreatHuntEngine HuntResult :=
  fun engine =>
    let execution := f.execution codec h p started completed
    let result := f.result codec h p
    match engine.executions.find? execution.executionId, engine.results.find? result.resultId with
    | some existingExecution, some existingResult =>
      if existingExecution.differs execution || existingResult.differs result then
        (raise .detectionInputError "hunt execution identity was reused for different content", engine)
      else (.ok existingResult, engine)
    | none, none =>
      (.ok result,
        { engine with
          executions := engine.executions.set execution.executionId execution
          results := engine.results.set result.resultId result })
    | _, _ =>
      (raise .detectionInputError "hunt execution identity has incomplete canonical state", engine)

/-- What precedes the search. The bindings that it stores outlive a later exception. -/
def begin : Effect ThreatHuntEngine Unit := fun engine =>
  match engine.checkScope h p with
  | .error e => (.error e, engine)
  | .ok () =>
    match bindHypothesis codec h engine with
    | (.error e, engine) => (.error e, engine)
    | (.ok (), engine) => bindPlan codec p engine

def run (started completed : Datetime) : Effect ThreatHuntEngine HuntResult := fun engine =>
  match begin codec h p engine with
  | (.error e, engine) => (.error e, engine)
  | (.ok (), engine) =>
    match search render h p engine.detections with
    | .error e => (.error e, engine)
    | .ok f => record codec h p f started completed engine

end Run

/-- The execution paired with a result. -/
def execution (engine : ThreatHuntEngine) (resultId : String) (scope : Scope) :
    Except Raised HuntExecution := do
  raiseIf (engine.detections.scope.any fun s => decide (s ≠ scope)) .detectionScopeError
      "hunt execution access crossed its bound scope"
  let result ← orRaise ((engine.results.find? resultId).filter fun r => decide (r.scope = scope))
      .detectionScopeError "hunt result is absent or outside the requested scope"
  orRaise (engine.executions.find? result.executionId) .detectionInputError
      "hunt result is missing its canonical execution"

/-- A hunt by a worker, with the execution that it stores (`_execute_claimed_hunt`). -/
def hunt (codec : Codec) (render : Value → String) (h : HuntHypothesis) (p : HuntPlan)
    (started completed : Datetime) : Effect ThreatHuntEngine (HuntExecution × HuntResult) :=
  fun engine =>
    match run codec render h p started completed engine with
    | (.error e, engine) => (.error e, engine)
    | (.ok result, engine) =>
      ((engine.execution result.resultId p.scope).map fun execution => (execution, result), engine)

end ThreatHuntEngine

end SecScanMonitor.DetectionResponse
