import SecScanMonitor.ContinuousSecurity.Events
import SecScanMonitor.DetectionResponse.Matching
import SecScanMonitor.Domain.Documents

/-! Source records and how the event plane normalizes them (`SecurityEventPlane.normalize`,
`ingest_raw` and `_parse_timestamp`). -/

namespace SecScanMonitor.ContinuousSecurity

open Foundations Domain DetectionResponse

/-- What a source record holds in a field: a document, or an instant that may lack its timezone. -/
inductive RawValue where
  | json (v : Value)
  | datetime (aware : Bool) (t : Datetime)
  deriving DecidableEq

abbrev Raw := List (String × RawValue)

/-- The texts that `str` gives to what is no plain text, and the instants that texts stand for. -/
structure Reader where
  render : Value → String
  renderDatetime : Bool → Datetime → String
  fromisoformat : String → Option (Bool × Datetime)

namespace Reader

variable (reader : Reader)

/-- `str(v)` -/
def str : RawValue → String
  | .json v => text reader.render v
  | .datetime aware t => reader.renderDatetime aware t

/-- `str(raw.get(key, default))` -/
def field (raw : Raw) (key default : String) : String :=
  match raw.lookup key with
  | some v => reader.str v
  | none => default

end Reader

/-- `raw.get(key)` when it is not None. -/
def present (raw : Raw) (key : String) : Option RawValue :=
  match raw.lookup key with
  | some (.json .null) => none
  | v => v

def awareOnly (parsed : Bool × Datetime) : Except Raised Datetime :=
  if parsed.1 then .ok parsed.2
  else raise .eventTimestampError "security event timestamps must be timezone-aware"

def parseTimestamp (reader : Reader) (v : Option RawValue) : Except Raised Datetime :=
  match v with
  | some (.datetime aware t) => awareOnly (aware, t)
  | some (.json (.str s)) => do
    let zoned := String.ofList
      (s.toList.flatMap fun c => if c = 'Z' then "+00:00".toList else [c])
    let parsed ← orRaise (reader.fromisoformat zoned) .eventTimestampError
        "normalization requires ISO-8601 timestamps"
    awareOnly parsed
  | _ => raise .eventTimestampError "normalization requires datetime or ISO-8601 timestamp values"

/-- `dict(raw.get(key, {}))` -/
def dictField (raw : Raw) (key : String) : Except Raised (List (Value × Value)) :=
  match raw.lookup key with
  | none => .ok []
  | some (.json v) => Documents.toDict v
  | some (.datetime _ _) => raise .typeError "'datetime.datetime' object is not iterable"

def EventClass.all : List EventClass :=
  [.genericSecscan, .agentActivity, .mcpActivity, .a2aActivity, .endpointActivity,
    .cloudAuditActivity, .ocsfActivity, .capabilityDecision, .scannerActivity, .targetChange]

def EventClass.ofValue? (s : String) : Option EventClass :=
  EventClass.all.find? fun c => decide (c.value = s)

def EventProvenance.of (sourceRecordId sourceSystem collectorVersion rawEvidenceRef
    sourceDigest : String) : Except Raised EventProvenance :=
  if h : [sourceRecordId, sourceSystem, collectorVersion, rawEvidenceRef, sourceDigest].all
      (fun s => !isBlank s) then
    .ok ⟨sourceRecordId, sourceSystem, collectorVersion, rawEvidenceRef, sourceDigest, h⟩
  else raise .validationError "event provenance fields must be non-empty"

/-- The arguments of the constructor of events, before its validators have seen them. -/
structure EventArguments where
  eventId : String
  source : String
  sourceType : String
  eventClass : EventClass
  occurredAt : Datetime
  observedAt : Datetime
  tenant : String
  case_ : String
  target : String
  actor : String
  objectRef : String
  action : String
  outcome : String
  severity : Option String
  rawEvidenceRef : String
  normalizationVersion : String
  provenance : EventProvenance
  attributes : List (Value × Value)
  sourceFamily : String
  ocsfClass : String
  ocsfVersion : String
  ingestedAt : Datetime
  orderingMetadata : List (Value × Value)

namespace EventArguments

def texts (a : EventArguments) : List String :=
  [a.eventId, a.source, a.sourceType, a.actor, a.objectRef, a.action, a.outcome, a.rawEvidenceRef,
    a.normalizationVersion, a.sourceFamily, a.ocsfClass, a.ocsfVersion]

/-- The event, when every validator accepts its arguments. -/
def event (a : EventArguments) : Except Raised SecurityEvent :=
  if hscope : isBlank a.tenant = false ∧ isBlank a.case_ = false ∧ isBlank a.target = false then
    if htexts : a.texts.all (fun s => !isBlank s) then
      match Documents.stringKeys a.attributes, Documents.stringKeys a.orderingMetadata with
      | some attributes, some orderingMetadata =>
        if hordered : a.occurredAt ≤ a.observedAt then
          if hevidence : a.rawEvidenceRef = a.provenance.rawEvidenceRef then
            .ok
              { a with
                scope := ⟨a.tenant, a.case_, a.target, hscope⟩
                attributes, orderingMetadata
                nonblank := htexts
                ordered := hordered
                evidence := hevidence }
          else raise .validationError "event raw_evidence_ref must match provenance raw_evidence_ref"
        else raise .validationError "occurred_at cannot be later than observed_at"
      | _, _ => raise .validationError "Input should be a valid string"
    else raise .validationError "security event identity and provenance fields must be non-empty"
  else raise .validationError "security event identity and provenance fields must be non-empty"

end EventArguments

def isValueError : ExceptionKind → Bool
  | .valueError | .validationError | .eventTimestampError => true
  | _ => false

/-- A value error about the order of an event's instants is raised again as a timestamp error. -/
def asTimestampError {α : Type} (r : Except Raised α) : Except Raised α :=
  match r with
  | .ok a => .ok a
  | .error e =>
    if isValueError e.kind ∧ ("occurred_at".toList <:+: e.message.toList ∨
        "observed_at".toList <:+: e.message.toList) then
      raise .eventTimestampError e.message
    else .error e

namespace SecurityEventPlane

/-- `ingested_at` of a record, or the present instant where the record has none. -/
def ingestedAtOf (reader : Reader) (now : Datetime) (raw : Raw) : Except Raised Datetime :=
  match present raw "ingested_at" with
  | some v => parseTimestamp reader (some v)
  | none => .ok now

def argumentsOf (reader : Reader) (raw : Raw) (eventId : String) (eventClass : EventClass)
    (occurredAt observedAt : Datetime) (provenance : EventProvenance)
    (attributes : List (Value × Value)) (ingestedAt : Datetime)
    (orderingMetadata : List (Value × Value)) : EventArguments where
  eventId := eventId
  source := reader.field raw "source" ""
  sourceType := reader.field raw "source_type" ""
  eventClass := eventClass
  occurredAt := occurredAt
  observedAt := observedAt
  tenant := reader.field raw "tenant" ""
  case_ := reader.field raw "case" ""
  target := reader.field raw "target" ""
  actor := reader.field raw "actor" ""
  objectRef := reader.field raw "object" ""
  action := reader.field raw "action" ""
  outcome := reader.field raw "outcome" ""
  severity := (present raw "severity").map reader.str
  rawEvidenceRef := reader.field raw "raw_evidence_ref" ""
  normalizationVersion := reader.field raw "normalization_version" "security-events-v1"
  provenance := provenance
  attributes := attributes
  sourceFamily := reader.field raw "source_family" "secscan"
  ocsfClass := reader.field raw "ocsf_class" eventClass.value
  ocsfVersion := reader.field raw "ocsf_version" "1.8.0"
  ingestedAt := ingestedAt
  orderingMetadata := orderingMetadata

variable (codec : Codec) (reader : Reader)

/-- The event of a source record, at the instant `now`. -/
def normalize (now : Datetime) (raw : Raw) : Except Raised SecurityEvent := do
  let source := reader.field raw "source" ""
  let sourceRecordId := reader.field raw "source_record_id" ""
  let sourceDigest := reader.field raw "source_digest" ""
  let occurredAt ← parseTimestamp reader (raw.lookup "occurred_at")
  let observedAt ← parseTimestamp reader (raw.lookup "observed_at")
  let derivedId := deriveEventId codec source sourceRecordId occurredAt sourceDigest
  raiseIf ((present raw "event_id").any fun id => decide (reader.str id ≠ derivedId))
      .eventIdentityConflict "caller-supplied event_id does not match deterministic identity"
  let eventClass ← orRaise ((raw.lookup "event_class").bind fun v => EventClass.ofValue? (reader.str v))
      .valueError "unsupported security event class"
  let provenance ← EventProvenance.of sourceRecordId (reader.field raw "source_system" source)
      (reader.field raw "collector_version" "") (reader.field raw "raw_evidence_ref" "") sourceDigest
  asTimestampError do
    let attributes ← dictField raw "attributes"
    let ingestedAt ← ingestedAtOf reader now raw
    let orderingMetadata ← dictField raw "ordering_metadata"
    (argumentsOf reader raw derivedId eventClass occurredAt observedAt provenance attributes
      ingestedAt orderingMetadata).event

def ingestRaw (now : Datetime) (raw : Raw) : Effect SecurityEventPlane EventIngestResult := fun plane =>
  match normalize codec reader now raw with
  | .ok event => plane.ingest codec event
  | .error e => (.error e, plane)

variable {codec : Codec} {reader : Reader}

lemma EventArguments.event_eq_ok {a : EventArguments} {e : SecurityEvent} (h : a.event = .ok e) :
    e.eventId = a.eventId ∧ e.source = a.source ∧ e.occurredAt = a.occurredAt ∧
      e.provenance = a.provenance ∧ e.scope.tenantId = a.tenant ∧ e.scope.caseId = a.case_ ∧
      e.outcome = a.outcome := by
  unfold EventArguments.event at h
  split at h
  · split at h
    · split at h
      · split at h
        · split at h
          · obtain rfl := Except.ok.inj h
            exact ⟨rfl, rfl, rfl, rfl, rfl, rfl, rfl⟩
          · cases h
        · cases h
      · cases h
    · cases h
  · cases h

lemma asTimestampError_eq_ok {α : Type} {r : Except Raised α} {a : α} :
    asTimestampError r = .ok a ↔ r = .ok a := by
  cases r with
  | ok b => rfl
  | error e =>
    unfold asTimestampError
    simp only
    split
    · exact ⟨nofun, nofun⟩
    · exact Iff.rfl

/-- A normalized event has the id that its identity fields derive, and it belongs to the tenant and the
case that its record names. -/
lemma normalize_eq_ok {now : Datetime} {raw : Raw} {e : SecurityEvent}
    (h : normalize codec reader now raw = .ok e) :
    e.eventId = expectedId codec e ∧ e.scope.tenantId = reader.field raw "tenant" "" ∧
      e.scope.caseId = reader.field raw "case" "" ∧ e.outcome = reader.field raw "outcome" "" := by
  obtain ⟨occurredAt, -, h⟩ := bind_eq_ok.mp h
  obtain ⟨observedAt, -, h⟩ := bind_eq_ok.mp h
  obtain ⟨-, h⟩ := raiseIf_bind_eq_ok.mp h
  obtain ⟨eventClass, -, h⟩ := orRaise_bind_eq_ok.mp h
  obtain ⟨provenance, hprovenance, h⟩ := bind_eq_ok.mp h
  obtain ⟨attributes, -, h⟩ := bind_eq_ok.mp (asTimestampError_eq_ok.mp h)
  obtain ⟨ingestedAt, -, h⟩ := bind_eq_ok.mp h
  obtain ⟨orderingMetadata, -, h⟩ := bind_eq_ok.mp h
  obtain ⟨hid, hsource, hoccurred, hprov, htenant, hcase, houtcome⟩ :=
    EventArguments.event_eq_ok h
  have hrecord : provenance.sourceRecordId = reader.field raw "source_record_id" "" ∧
      provenance.sourceDigest = reader.field raw "source_digest" "" := by
    unfold EventProvenance.of at hprovenance
    split at hprovenance
    · obtain rfl := Except.ok.inj hprovenance
      exact ⟨rfl, rfl⟩
    · cases hprovenance
  refine ⟨?_, htenant, hcase, houtcome⟩
  rw [hid, expectedId, hprov, hsource, hoccurred]
  simp only [argumentsOf, hrecord]

end SecurityEventPlane

end SecScanMonitor.ContinuousSecurity
