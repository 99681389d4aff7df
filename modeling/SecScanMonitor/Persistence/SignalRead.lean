import SecScanMonitor.Foundations.Closure
import SecScanMonitor.Foundations.Paths
import SecScanMonitor.Foundations.SortBy
import SecScanMonitor.Persistence.DetectionOutputs

/-! Stored detection signals, read back only with the events, the rules and the runs that they rest on
(`load_signals` of `persistence/live_control_plane.py`, `load_event` of `persistence/detection_response.py`). -/

namespace SecScanMonitor.Persistence

open Foundations Domain DetectionResponse ContinuousSecurity

structure SecurityEventRow where
  eventId : String
  scope : Scope
  payload : Value
  fingerprint : String

structure DetectionSignalRow where
  signalId : String
  scope : Scope
  ruleId : String
  ruleVersion : Int
  eventIds : List String
  sourceSignalIds : List String
  detectedAt : Datetime
  severity : String
  confidence : String
  matchedPredicates : List String
  rawEvidenceRefs : List String
  ruleDigest : String
  status : String

structure DetectionEvaluationRow where
  evaluationId : String
  runId : String
  scope : Scope
  ruleId : String
  ruleVersion : Int
  inputEventIds : List String
  matchedPredicates : List String
  result : String
  signalId : Option String
  engineVersion : String
  ruleDigest : String

structure DetectionRunRow where
  runId : String
  scope : Scope
  ruleIds : List String
  inputEventIds : List String
  evaluationIds : List String
  signalIds : List String
  engineVersion : String
  status : String

/-- The tables that a signal is read with. -/
structure DetectionTables where
  events : Table SecurityEventRow.eventId
  signals : Table DetectionSignalRow.signalId
  evaluations : Table DetectionEvaluationRow.evaluationId
  runs : Table DetectionRunRow.runId
  ruleVersions : Versions
  plans : Table DetectionPlan.planId

section Load

variable (codec : Codec) (decode : Value → Option SecurityEvent) (scope : Scope)
  (tables : DetectionTables)

/-- `load_event`; the payload is validated again. -/
def loadEvent (row : SecurityEventRow) : Except Raised SecurityEvent := do
  let event ← orRaise (decode row.payload) .eventIdentityConflict
    "stored security event payload failed canonical validation"
  raiseIf (event.eventId ≠ row.eventId ∨ event.fingerprint codec ≠ row.fingerprint)
    .eventIdentityConflict "stored security event payload does not match its replay fingerprint"
  return event

def severityOf (value : String) : Option Severity :=
  [.critical, .high, .medium, .low].find? fun s => decide (s.value = value)

def confidenceOf (value : String) : Option Confidence :=
  [.high, .medium, .low, .unknown].find? fun c => decide (c.value = value)

/-- The signal of a row, which has events or source signals and no blank evidence. -/
def validatedSignal (row : DetectionSignalRow) : Option DetectionSignal := do
  let severity ← severityOf row.severity
  let confidence ← confidenceOf row.confidence
  if (row.eventIds = [] ∧ row.sourceSignalIds = []) ∨ row.rawEvidenceRefs.any isBlank then none
  else
    some
      { signalId := row.signalId
        scope
        ruleId := row.ruleId
        ruleVersion := row.ruleVersion
        eventIds := row.eventIds
        sourceSignalIds := row.sourceSignalIds
        detectedAt := row.detectedAt
        severity
        confidence
        matchedPredicates := row.matchedPredicates
        rawEvidenceRefs := row.rawEvidenceRefs
        ruleDigest := row.ruleDigest
        status := row.status }

/-- The registered version of a rule, bound to its digest and to a stored plan. -/
def boundRule (ruleId : String) (version : Int) : Except Raised DetectionRuleVersion := do
  let row ← orRaise (tables.ruleVersions.get? (ruleId, version)) .permissionError
    "canonical signal references an unknown rule version"
  raiseIf (row.rule.owner ≠ "SecScanMonitor" ∨ row.canonicalDigest = "" ∨
      canonicalRuleDigest codec row.rule ≠ row.canonicalDigest) .permissionError
    "canonical signal rule binding is invalid"
  let plans := tables.plans.select fun p => p.ruleId = row.rule.ruleId && p.ruleVersion = row.rule.version
  raiseIf ((plans.any fun p => p.same (row.rule.plan codec)) = false) .permissionError
    "canonical signal detection plan binding is invalid"
  return row.rule

def readSignal (row : DetectionSignalRow) : Except Raised DetectionSignal := do
  let signal ← orRaise (validatedSignal scope row) .permissionError
    "canonical detection signal failed validation"
  raiseIf (normalized signal.eventIds ≠ signal.eventIds ∨ ¬ signal.sourceSignalIds.Nodup ∨
      normalized signal.rawEvidenceRefs ≠ signal.rawEvidenceRefs) .permissionError
    "canonical detection signal is not deterministically ordered"
  let rule ← boundRule codec tables signal.ruleId signal.ruleVersion
  raiseIf (signal.ruleDigest ≠ rule.contentDigest ∨ signal.severity ≠ rule.severity ∨
      signal.confidence ≠ rule.confidence) .permissionError
    "canonical signal does not match its registered rule version"
  return signal

def signalNamed (signals : List DetectionSignal) (id : String) : Option DetectionSignal :=
  signals.find? fun s => decide (s.signalId = id)

/-- The evidence of one signal, given the evidence of its sources. -/
def gather (events : List SecurityEvent) (signals : List DetectionSignal) (id : String)
    (evidenceOf : String → Except Raised (List String)) : Except Raised (List String) := do
  let signal ← orRaise (signalNamed signals id) .permissionError
    "canonical signal references an unknown source signal"
  let own ← signal.eventIds.mapM fun eventId => do
    let event ← orRaise (events.find? fun e => decide (e.eventId = eventId)) .permissionError
      "canonical signal references an unknown event"
    return event.rawEvidenceRef
  let inherited ← signal.sourceSignalIds.mapM evidenceOf
  let refs := own ++ inherited.flatten
  raiseIf (refs = []) .permissionError "canonical signal has no resolvable event evidence"
  return refs

def evidenceRefs (events : List SecurityEvent) (signals : List DetectionSignal) (id : String) :
    Except Raised (List String) :=
  Paths.along (raise .permissionError "canonical signal provenance contains a cycle")
    (gather events signals) (signals.length + 1) [] id

def checkEvidence (events : List SecurityEvent) (signals : List DetectionSignal)
    (signal : DetectionSignal) : Except Raised Unit := do
  let refs ← evidenceRefs events signals signal.signalId
  raiseIf (¬ (signal.rawEvidenceRefs ⊆ refs ∧ refs ⊆ signal.rawEvidenceRefs)) .permissionError
    "canonical signal evidence is not bound to its source events"

/-- The evaluation has found the signal, in a run of the scope that is completed and lists both. -/
def backs (signal : DetectionSignal) (evaluation : DetectionEvaluationRow) : Bool :=
  evaluation.scope = scope && evaluation.signalId = some signal.signalId && evaluation.result = "MATCH" &&
    evaluation.ruleId = signal.ruleId && evaluation.ruleVersion = signal.ruleVersion &&
    evaluation.inputEventIds = signal.eventIds &&
    evaluation.matchedPredicates = signal.matchedPredicates &&
    evaluation.ruleDigest = signal.ruleDigest &&
    (tables.runs.get? evaluation.runId).any fun run =>
      run.status = "COMPLETED" && run.scope = scope && !isBlank run.engineVersion &&
        evaluation.engineVersion = run.engineVersion && run.ruleIds.contains signal.ruleId &&
        run.signalIds.contains signal.signalId &&
        run.evaluationIds.contains evaluation.evaluationId &&
        signal.eventIds.all fun id => run.inputEventIds.contains id

def checkBacked (signal : DetectionSignal) : Except Raised Unit :=
  raiseIf ((tables.evaluations.rows.any (backs scope tables signal)) = false) .permissionError
    "canonical signal has no matching completed detection evaluation"

/-- The rows of the scope. -/
def held : List DetectionSignalRow := tables.signals.select fun r => r.scope = scope

def requestedRows (requested : List String) : List DetectionSignalRow :=
  (held scope tables).filter fun r => decide (requested = [] ∨ r.signalId ∈ requested)

/-- The rows that a call reads: those of the request and, for a request by ids, those of all its sources. -/
def loadedRows (requested : List String) : Except Raised (List DetectionSignalRow) :=
  let rows := requestedRows scope tables requested
  if requested = [] then .ok rows
  else
    orRaise (Closure.closeOver DetectionSignalRow.signalId DetectionSignalRow.sourceSignalIds
        (held scope tables) rows rows) .permissionError
      "canonical signal references an unknown source signal"

/-- `load_signals` -/
def loadSignals (ids : List String) : Except Raised (List DetectionSignal) := do
  let requested := ids.eraseDups
  let found := (requestedRows scope tables requested).map (·.signalId)
  raiseIf (¬ requested ⊆ found) .permissionError
    "one or more signals are absent or outside the requested scope"
  if found = [] then return []
  let rows ← loadedRows scope tables requested
  let events ← (tables.events.select fun r => r.scope = scope).mapM (loadEvent codec decode)
  let signals ← (sortBy DetectionSignalRow.signalId rows).mapM (readSignal codec scope tables)
  let _ ← signals.mapM (checkEvidence events signals)
  let _ ← signals.mapM (checkBacked scope tables)
  if requested = [] then return signals
  else requested.mapM fun id => orRaise (signalNamed signals id) .keyError id

end Load

section Columns

def DetectionSignalRow.of (x : DetectionSignal) : DetectionSignalRow where
  signalId := x.signalId
  scope := x.scope
  ruleId := x.ruleId
  ruleVersion := x.ruleVersion
  eventIds := x.eventIds
  sourceSignalIds := x.sourceSignalIds
  detectedAt := x.detectedAt
  severity := x.severity.value
  confidence := x.confidence.value
  matchedPredicates := x.matchedPredicates
  rawEvidenceRefs := x.rawEvidenceRefs
  ruleDigest := x.ruleDigest
  status := x.status

def DetectionEvaluationRow.of (x : DetectionEvaluation) : DetectionEvaluationRow where
  evaluationId := x.evaluationId
  runId := x.runId
  scope := x.scope
  ruleId := x.ruleId
  ruleVersion := x.ruleVersion
  inputEventIds := x.inputEventIds
  matchedPredicates := x.matchedPredicates
  result := x.result.value
  signalId := x.signalId
  engineVersion := x.engineVersion
  ruleDigest := x.ruleDigest

def DetectionRunRow.of (x : DetectionRun) : DetectionRunRow where
  runId := x.runId
  scope := x.scope
  ruleIds := x.ruleIds
  inputEventIds := x.inputEventIds
  evaluationIds := x.evaluationIds
  signalIds := x.signalIds
  engineVersion := x.engineVersion
  status := x.status

/-- What `load_signals` reads of the database, whose events are stored as `dump` writes them. -/
def Database.detectionTables (codec : Codec) (dump : SecurityEvent → Value) (db : Database) :
    DetectionTables where
  events := db.securityEvents.map (fun e => ⟨e.eventId, e.scope, dump e, e.fingerprint codec⟩)
    fun _ => rfl
  signals := db.detectionSignals.map DetectionSignalRow.of fun _ => rfl
  evaluations := db.detectionEvaluations.map DetectionEvaluationRow.of fun _ => rfl
  runs := db.detectionRuns.map DetectionRunRow.of fun _ => rfl
  ruleVersions := db.detectionRuleVersions
  plans := db.detectionPlans

end Columns

end SecScanMonitor.Persistence
