import SecScanMonitor.Persistence.DetectionOutputs
import SecScanMonitor.Persistence.WorkLease

/-! Dispatches over the event store (`application/detection_response_orchestration.py`): a worker
claims items, rebuilds an engine from the stored events, runs every live rule and stores what it emits,
one transaction after the other. Between two transactions other workers and ingests take their steps. -/

namespace SecScanMonitor.Application

open Foundations Domain DetectionResponse ContinuousSecurity Persistence

section Detect

variable (codec : Codec)

def ingestAll (scope : Scope) :
    List SecurityEvent → BoundedSecurityEventIngestor → Except Raised BoundedSecurityEventIngestor
  | [], ingestor => .ok ingestor
  | event :: events, ingestor => do
    let (_, ingestor) ← ingestor.ingest codec event (some scope)
    ingestAll scope events ingestor

def rebuild (scope : Scope) (events : List SecurityEvent) (clock : ℕ → Datetime) :
    Except Raised DetectionEngine := do
  let ingestor ← ingestAll codec scope events ⟨SecurityEventPlane.empty, some scope⟩
  return DetectionEngine.init ingestor (some scope) clock

structure Outputs where
  run : DetectionRun
  evaluations : List DetectionEvaluation
  signals : List DetectionSignal

/-- Run one rule and collect what it emitted. -/
def detect (render : Value → String) (scope : Scope) (rule : DetectionRule) (plan : DetectionPlan)
    (engine : DetectionEngine) : Except Raised (Outputs × DetectionEngine) := do
  let (_, engine) ← engine.registerRule codec rule (some plan) none
  let (run, engine) ← engine.run codec render (.rule rule) (some scope) none
  let evaluations ← engine.evaluationsOf (some scope)
  let signals ← run.signalIds.mapM fun id => engine.getSignal id scope
  return (⟨run, evaluations.filter fun e => e.runId = run.runId, signals⟩, engine)

end Detect

/-- How far a worker is with the item it processes. -/
inductive Phase where
  | claimed
  | loaded (engine : DetectionEngine)
  | running (engine : DetectionEngine) (remaining : List (DetectionRule × DetectionPlan))
      (runIds signalIds : List String)
  | failing (errorType : String)

structure Process where
  work : DetectionWorkItemRow
  rest : List DetectionWorkItemRow
  phase : Phase

namespace Process

/-- The items of a claim are processed one after the other. -/
def start : List DetectionWorkItemRow → Option Process
  | [] => none
  | work :: rest => some ⟨work, rest, .claimed⟩

def goto (p : Process) (phase : Phase) : Process := { p with phase }

def failed (p : Process) (error : Raised) : Process := p.goto (.failing error.kind.name)

def workerId (p : Process) : String := p.work.workerId.getD ""

/-- The next transaction of a dispatch, at the instant `now`. -/
def advance (codec : Codec) (render : Value → String) (clock : ℕ → Datetime) (now : Datetime)
    (p : Process) (db : Database) : Database × Option Process :=
  match p.phase with
  | .claimed =>
    match rebuild codec p.work.scope (loadEvents p.work.scope db) clock with
    | .ok engine => (db, some (p.goto (.loaded engine)))
    | .error e => (db, some (p.failed e))
  | .loaded engine =>
    match activeRules codec db with
    | .ok rules => (db, some (p.goto (.running engine rules [] [])))
    | .error e => (db, some (p.failed e))
  | .running engine ((rule, plan) :: remaining) runIds signalIds =>
    match detect codec render p.work.scope rule plan engine with
    | .error e => (db, some (p.failed e))
    | .ok (out, engine) =>
      match persistDetectionOutputs codec rule plan out.run out.evaluations out.signals db with
      | .error e => (db, some (p.failed e))
      | .ok ((), db') =>
        (db', some (p.goto (.running engine remaining (runIds ++ [out.run.runId])
          (signalIds ++ out.run.signalIds))))
  | .running _ [] runIds signalIds =>
    match completeWork now p.work.workId p.workerId runIds signalIds.eraseDups db with
    | .error e => (db, some (p.failed e))
    | .ok (_, db') => (db', start p.rest)
  | .failing errorType =>
    -- the exception is raised again once the item is marked, which ends the dispatch
    (committed db (failWork now p.work.workId p.workerId errorType db), none)

end Process

structure System where
  db : Database
  processes : List Process

/-- One transaction of an ingest or of a dispatch in the scope, or a worker that stops. -/
inductive Step (codec : Codec) (render : Value → String) (scope : Scope) : System → System → Prop
  | ingest {now : Datetime} {event : SecurityEvent} {r : DetectionWorkItemRow × Bool × Bool}
      {db db' : Database} {processes : List Process} :
      event.scope = scope → ingestEvent codec now event db = .ok (r, db') →
      Step codec render scope ⟨db, processes⟩ ⟨db', processes⟩
  | claim {call : WorkCall} {worker : String} {now : Datetime} {rows : List DetectionWorkItemRow}
      {db db' : Database} {processes : List Process} :
      call.claimant = some (worker, now) → call.exec codec db = .ok (rows, db') →
      Step codec render scope ⟨db, processes⟩ ⟨db', (Process.start rows).toList ++ processes⟩
  | work {clock : ℕ → Datetime} {now : Datetime} {p : Process} {db : Database}
      {before after : List Process} :
      Step codec render scope ⟨db, before ++ p :: after⟩
        ⟨(p.advance codec render clock now db).1,
          before ++ (p.advance codec render clock now db).2.toList ++ after⟩
  | stop {p : Process} {db : Database} {before after : List Process} :
      Step codec render scope ⟨db, before ++ p :: after⟩ ⟨db, before ++ after⟩

end SecScanMonitor.Application
