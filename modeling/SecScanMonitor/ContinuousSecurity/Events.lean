import SecScanMonitor.DetectionResponse.Domain
import SecScanMonitor.Foundations.Dict

/-! Normalized security events, their identity and fingerprint, and the in-memory event plane
(`continuous_security/events.py`). -/

namespace SecScanMonitor.ContinuousSecurity

open Foundations Domain DetectionResponse

inductive EventClass where
  | genericSecscan
  | agentActivity
  | mcpActivity
  | a2aActivity
  | endpointActivity
  | cloudAuditActivity
  | ocsfActivity
  | capabilityDecision
  | scannerActivity
  | targetChange
  deriving Repr, DecidableEq

def EventClass.value : EventClass → String
  | .genericSecscan => "secscan_activity"
  | .agentActivity => "agent_activity"
  | .mcpActivity => "mcp_activity"
  | .a2aActivity => "a2a_activity"
  | .endpointActivity => "endpoint_activity"
  | .cloudAuditActivity => "cloud_audit_activity"
  | .ocsfActivity => "ocsf_activity"
  | .capabilityDecision => "capability_decision"
  | .scannerActivity => "scanner_activity"
  | .targetChange => "target_change"

structure EventProvenance where
  sourceRecordId : String
  sourceSystem : String
  collectorVersion : String
  rawEvidenceRef : String
  sourceDigest : String
  nonblank : [sourceRecordId, sourceSystem, collectorVersion, rawEvidenceRef, sourceDigest].all
    (fun s => !isBlank s)
  deriving DecidableEq

/-- A validated event: the fields of its identity are not blank, it did not occur after it was
observed, and its evidence is the evidence of its provenance. -/
structure SecurityEvent where
  eventId : String
  source : String
  sourceType : String
  eventClass : EventClass
  occurredAt : Datetime
  observedAt : Datetime
  scope : Scope
  actor : String
  objectRef : String
  action : String
  outcome : String
  severity : Option String
  rawEvidenceRef : String
  normalizationVersion : String
  provenance : EventProvenance
  attributes : List (String × Value)
  sourceFamily : String
  ocsfClass : String
  ocsfVersion : String
  ingestedAt : Datetime
  orderingMetadata : List (String × Value)
  nonblank : [eventId, source, sourceType, actor, objectRef, action, outcome, rawEvidenceRef,
    normalizationVersion, sourceFamily, ocsfClass, ocsfVersion].all (fun s => !isBlank s)
  ordered : occurredAt ≤ observedAt
  evidence : rawEvidenceRef = provenance.rawEvidenceRef
  deriving DecidableEq

namespace SecurityEvent

variable (codec : Codec)

def canonicalDict (e : SecurityEvent) : Value := .obj
  [("source", .str e.source), ("source_type", .str e.sourceType),
    ("event_class", .str e.eventClass.value),
    ("occurred_at", .str (codec.dumpDatetime e.occurredAt)),
    ("observed_at", .str (codec.dumpDatetime e.observedAt)),
    ("tenant", .str e.scope.tenantId), ("case", .str e.scope.caseId),
    ("target", .str e.scope.targetId), ("actor", .str e.actor), ("object", .str e.objectRef),
    ("action", .str e.action), ("outcome", .str e.outcome),
    ("severity", match e.severity with
      | none => .null
      | some severity => .str severity),
    ("raw_evidence_ref", .str e.rawEvidenceRef),
    ("normalization_version", .str e.normalizationVersion),
    ("provenance", .obj
      [("source_record_id", .str e.provenance.sourceRecordId),
        ("source_system", .str e.provenance.sourceSystem),
        ("collector_version", .str e.provenance.collectorVersion),
        ("raw_evidence_ref", .str e.provenance.rawEvidenceRef),
        ("source_digest", .str e.provenance.sourceDigest)]),
    ("attributes", .obj e.attributes),
    ("source_family", .str e.sourceFamily), ("ocsf_class", .str e.ocsfClass),
    ("ocsf_version", .str e.ocsfVersion)]

/-- The digest of an event's content without its id, its arrival time and its transport ordering. -/
def fingerprint (e : SecurityEvent) : String := codec.contentDigest (e.canonicalDict codec)

end SecurityEvent

structure EventIngestResult where
  event : SecurityEvent
  created : Bool
  duplicate : Bool

structure SecurityEventPlane where
  events : Dict String SecurityEvent
  fingerprints : Dict String String

namespace SecurityEventPlane

def empty : SecurityEventPlane := ⟨Table.empty, Table.empty⟩

def deriveEventId (codec : Codec) (source sourceRecordId : String) (occurredAt : Datetime)
    (sourceDigest : String) : String :=
  "SE-" ++ String.ofList ((codec.contentDigest (.obj
    [("source", .str source), ("source_record_id", .str sourceRecordId),
      ("occurred_at", .str (codec.isoformat occurredAt)),
      ("source_digest", .str sourceDigest)])).toList.take 32)

def expectedId (codec : Codec) (event : SecurityEvent) : String :=
  deriveEventId codec event.source event.provenance.sourceRecordId event.occurredAt
    event.provenance.sourceDigest

def ingest (codec : Codec) (event : SecurityEvent) : Effect SecurityEventPlane EventIngestResult :=
  fun plane =>
    if event.eventId ≠ expectedId codec event then
      (raise .eventIdentityConflict "event_id does not match deterministic event identity", plane)
    else
      match plane.events.find? event.eventId with
      | some existing =>
        if existing.fingerprint codec ≠ event.fingerprint codec then
          (raise .eventIdentityConflict ("event identity " ++ event.eventId ++
            " was reused for different content"), plane)
        else (.ok ⟨existing, false, true⟩, plane)
      | none =>
        if (plane.fingerprints.find? (event.fingerprint codec)).any
            (fun id => decide (id ≠ event.eventId)) then
          (raise .eventIdentityConflict "same event payload was assigned multiple identities", plane)
        else
          (.ok ⟨event, true, false⟩,
            ⟨plane.events.set event.eventId event,
              plane.fingerprints.set (event.fingerprint codec) event.eventId⟩)

/-- The order in which a plane lists its events. -/
def before (a b : SecurityEvent) : Prop :=
  a.occurredAt < b.occurredAt ∨ a.occurredAt = b.occurredAt ∧
    (a.observedAt < b.observedAt ∨ a.observedAt = b.observedAt ∧ a.eventId ≤ b.eventId)

instance : DecidableRel before := fun a b => by
  unfold before
  infer_instance

def eventsOf (plane : SecurityEventPlane) (tenant case_ : String) : List SecurityEvent :=
  ((plane.events.values).filter fun e =>
    e.scope.tenantId = tenant && e.scope.caseId = case_).insertionSort before

end SecurityEventPlane

end SecScanMonitor.ContinuousSecurity
