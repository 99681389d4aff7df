import SecScanMonitor.Foundations.Lease
import SecScanMonitor.Persistence.Models

/-! The event store and its work queue: each event is appended together with a work item, and workers
claim items under leases (`persistence/live_control_plane.py`). A call reads the clock before its
transaction starts. -/

namespace SecScanMonitor.Persistence

open Foundations Domain DetectionResponse ContinuousSecurity

section Ingest

variable (codec : Codec)

/-- Rows that the unique constraint on (tenant, case, target, fingerprint) keeps apart from it. -/
def fingerprintClash (event row : SecurityEvent) : Bool :=
  row.scope = event.scope && row.fingerprint codec = event.fingerprint codec

def saveEvent (event : SecurityEvent) (events : Table SecurityEvent.eventId) :
    Except Raised (Table SecurityEvent.eventId) :=
  match events.get? event.eventId with
  | some row =>
    if row.scope ≠ event.scope then
      raise .detectionScopeError
        "canonical detection-response record is outside the requested scope"
    else if row.fingerprint codec ≠ event.fingerprint codec then
      raise .eventIdentityConflict "security event identity was reused for different content"
    else .ok events
  | none => unique (events.insert? (fingerprintClash codec event) event)

/-- Append or replay the event; a new event whose insert breaks a constraint is looked up again, by its
id and then by its fingerprint. -/
def recordEvent (event : SecurityEvent) (events : Table SecurityEvent.eventId) :
    Except Raised (Table SecurityEvent.eventId × Bool) :=
  match events.get? event.eventId with
  | some _ => (saveEvent codec event events).map fun t => (t, false)
  | none =>
    match saveEvent codec event events with
    | .ok t => .ok (t, true)
    | .error e =>
      if e.kind = .integrityError ∧ events.rows.any (fingerprintClash codec event) then
        raise .eventIdentityConflict "same event payload was assigned multiple identities"
      else .error e

def workFor (event : SecurityEvent) (row : DetectionWorkItemRow) : Bool :=
  row.scope = event.scope && row.eventId = event.eventId

def candidate (now : Datetime) (event : SecurityEvent) : DetectionWorkItemRow where
  workId := stableId codec "WORK-"
    [event.scope.key, .str event.eventId, .str (event.fingerprint codec)]
  eventId := event.eventId
  scope := event.scope
  eventFingerprint := event.fingerprint codec
  status := .pending
  attempts := 0
  leaseUntil := none
  workerId := none
  runIds := []
  signalIds := []
  lastError := none
  createdAt := now
  updatedAt := now
  completedAt := none

def DetectionWorkItemRow.reopen (w : DetectionWorkItemRow) : DetectionWorkItemRow :=
  { w with status := .pending, lastError := none, leaseUntil := none, workerId := none }

def recordWork (now : Datetime) (event : SecurityEvent) (work : Table DetectionWorkItemRow.workId) :
    Except Raised (Table DetectionWorkItemRow.workId × DetectionWorkItemRow × Bool) :=
  match work.rows.find? (workFor event) with
  | none => do
    let work' ← unique (work.insert? (workFor event) (candidate codec now event))
    return (work', candidate codec now event, true)
  | some w =>
    if w.eventFingerprint ≠ event.fingerprint codec then
      raise .eventIdentityConflict "detection work identity was reused for different content"
    else if w.status = .failed then
      .ok (work.modify w.workId DetectionWorkItemRow.reopen (fun _ => rfl), w.reopen, false)
    else .ok (work, w, false)

def ingestEvent (now : Datetime) (event : SecurityEvent) :
    Transaction (DetectionWorkItemRow × Bool × Bool) := fun db => do
  validateEngagementScope db event.scope
  let (events, eventCreated) ← recordEvent codec event db.securityEvents
  let (work, item, created) ← recordWork codec now event db.detectionWorkItems
  return ((item, created, eventCreated),
    { db with securityEvents := events, detectionWorkItems := work })

end Ingest

structure ClaimArgs where
  workerId : String
  limit : Int := 20
  scope : Option Scope := none
  workId : Option String := none
  leaseSeconds : Int := 120

def claimable (now : Datetime) (w : DetectionWorkItemRow) : Bool :=
  match w.status with
  | .pending | .failed => true
  | .claimed => w.leaseUntil.any fun t => decide (t ≤ now)
  | .completed => false

def ClaimArgs.selects (args : ClaimArgs) (now : Datetime) (w : DetectionWorkItemRow) : Bool :=
  claimable now w && args.workId.all (fun id => decide (w.workId = id)) &&
    args.scope.all fun s => decide (w.scope = s)

def createdBefore (a b : DetectionWorkItemRow) : Prop :=
  a.createdAt < b.createdAt ∨ a.createdAt = b.createdAt ∧ a.workId ≤ b.workId

instance : DecidableRel createdBefore := fun a b => by
  unfold createdBefore
  infer_instance

def ClaimArgs.batch (args : ClaimArgs) (now : Datetime) (work : Table DetectionWorkItemRow.workId) :
    List DetectionWorkItemRow :=
  ((work.select (args.selects now)).insertionSort createdBefore).take args.limit.toNat

def ClaimArgs.claim (args : ClaimArgs) (now : Datetime) (w : DetectionWorkItemRow) :
    DetectionWorkItemRow :=
  { w with
    status := .claimed
    attempts := w.attempts + 1
    workerId := some args.workerId
    leaseUntil := some (now.addSeconds args.leaseSeconds)
    updatedAt := now
    lastError := none }

def claimWork (now : Datetime) (args : ClaimArgs) : Transaction (List DetectionWorkItemRow) :=
  fun db =>
    if isBlank args.workerId ∨ ¬ (1 ≤ args.limit ∧ args.limit ≤ 100) ∨
        ¬ (1 ≤ args.leaseSeconds ∧ args.leaseSeconds ≤ 3600) then
      raise .valueError "work claim bounds are invalid"
    else
      let rows := args.batch now db.detectionWorkItems
      let work := db.detectionWorkItems.update
        (fun w => if w ∈ rows then args.claim now w else w) (fun w => by split <;> rfl)
      .ok (rows.map (args.claim now), { db with detectionWorkItems := work })

/-- `now` is read to look at the item's lease, `later` by the claim itself. -/
def claimOne (now later : Datetime) (workId workerId : String) (leaseSeconds : Int) :
    Transaction (Option DetectionWorkItemRow) := fun db =>
  match db.detectionWorkItems.get? workId with
  | none => .ok (none, db)
  | some work =>
    if work.status = .completed then .ok (some work, db)
    else if work.status = .claimed ∧ work.leaseUntil.any (fun t => decide (now < t)) ∧
        work.workerId ≠ some workerId then .ok (none, db)
    else
      (claimWork later
        { workerId, limit := 1, scope := some work.scope, workId := some workId, leaseSeconds } db).map
        fun (claimed, db') => (claimed.head?.filter fun w => decide (w.workId = workId), db')

/-- `row` is the item of an unexpired lease of the worker. -/
def activeLease (now : Datetime) (workerId : String) (w : DetectionWorkItemRow) : Bool :=
  w.status = .claimed && w.workerId = some workerId && w.leaseUntil.any fun t => decide (now < t)

def DetectionWorkItemRow.complete (w : DetectionWorkItemRow) (now : Datetime)
    (runIds signalIds : List String) : DetectionWorkItemRow :=
  { w with
    status := .completed
    runIds := runIds.eraseDups
    signalIds := signalIds.eraseDups
    leaseUntil := none
    workerId := none
    lastError := none
    completedAt := some now
    updatedAt := now }

def completeWork (now : Datetime) (workId workerId : String) (runIds signalIds : List String) :
    Transaction DetectionWorkItemRow := fun db =>
  match db.detectionWorkItems.get? workId with
  | none => raise .keyError "detection work item not found"
  | some row =>
    if row.status = .completed then .ok (row, db)
    else if activeLease now workerId row then
      let work := db.detectionWorkItems.modify workId
        (fun w => w.complete now runIds signalIds) (fun _ => rfl)
      .ok (row.complete now runIds signalIds, { db with detectionWorkItems := work })
    else raise .permissionError "detection work completion is not bound to its active lease"

def DetectionWorkItemRow.fail (w : DetectionWorkItemRow) (now : Datetime) (error : String) :
    DetectionWorkItemRow :=
  { w with
    status := .failed
    lastError := some error
    leaseUntil := none
    workerId := none
    updatedAt := now }

def safeError (errorType : String) : String :=
  if errorType = "" then "unknown" else String.ofList (errorType.toList.take 128)

def failWork (now : Datetime) (workId workerId errorType : String) :
    Transaction DetectionWorkItemRow := fun db =>
  match db.detectionWorkItems.get? workId with
  | none => raise .keyError "detection work item not found"
  | some row =>
    if row.status = .completed then .ok (row, db)
    else if activeLease now workerId row then
      let work := db.detectionWorkItems.modify workId
        (fun w => w.fail now (safeError errorType)) (fun _ => rfl)
      .ok (row.fail now (safeError errorType), { db with detectionWorkItems := work })
    else raise .permissionError "detection work failure is not bound to its active lease"

inductive WorkCall where
  | ingestEvent (now : Datetime) (event : SecurityEvent)
  | claimWork (now : Datetime) (args : ClaimArgs)
  | claimOne (now later : Datetime) (workId workerId : String) (leaseSeconds : Int)
  | completeWork (now : Datetime) (workId workerId : String) (runIds signalIds : List String)
  | failWork (now : Datetime) (workId workerId errorType : String)

/-- A call, returning the work items it answers with. -/
def WorkCall.exec (codec : Codec) : WorkCall → Transaction (List DetectionWorkItemRow)
  | .ingestEvent now event => fun db =>
    (Persistence.ingestEvent codec now event db).map fun r => ([r.1.1], r.2)
  | .claimWork now args => Persistence.claimWork now args
  | .claimOne now later workId workerId leaseSeconds => fun db =>
    (Persistence.claimOne now later workId workerId leaseSeconds db).map fun r => (r.1.toList, r.2)
  | .completeWork now workId workerId runIds signalIds => fun db =>
    (Persistence.completeWork now workId workerId runIds signalIds db).map fun r => ([r.1], r.2)
  | .failWork now workId workerId errorType => fun db =>
    (Persistence.failWork now workId workerId errorType db).map fun r => ([r.1], r.2)

end SecScanMonitor.Persistence
