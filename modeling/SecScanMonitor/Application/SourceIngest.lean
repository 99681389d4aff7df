import SecScanMonitor.Application.LiveIngest
import SecScanMonitor.ContinuousSecurity.Normalize
import SecScanMonitor.DetectionResponse.Engine
import SecScanMonitor.Persistence.WorkLease

/-! Live ingestion under a source's binding (`SecurityEventIngestService` of `application/live_ingest.py`):
what an accepted event takes from the binding and what from its request. -/

namespace SecScanMonitor.DetectionResponse

open Foundations Domain ContinuousSecurity

/-- `SOURCE_FAMILY_EVENT_CLASSES` -/
def sourceFamilyEventClasses : List (String × List String) :=
  [("endpoint_fixture", ["endpoint_activity"]),
    ("cloud_audit_fixture", ["cloud_audit_activity"]),
    ("mcp_a2a_gateway", ["mcp_activity", "a2a_activity"]),
    ("edge_runner", ["capability_decision"]),
    ("secscan", supportedOcsfClasses),
    ("ocsf_json", supportedOcsfClasses)]

structure SecuritySourceBinding where
  sourceId : String
  principalId : String
  scope : Scope
  sourceFamily : String
  sourceType : String
  status : String
  nonblank : [sourceId, principalId, sourceFamily, sourceType].all (fun s => !isBlank s)
  supported : sourceFamily ∈ supportedSourceFamilies
  deriving DecidableEq

/-- Every family that a binding can have says which classes it admits. -/
lemma admitted_isSome {family : String} (h : family ∈ supportedSourceFamilies) :
    (sourceFamilyEventClasses.lookup family).isSome := by
  simp only [supportedSourceFamilies, List.mem_cons, List.not_mem_nil, or_false] at h
  rcases h with rfl | rfl | rfl | rfl | rfl | rfl
  all_goals decide

namespace BoundedSecurityEventIngestor

def requiredText : List String :=
  ["source", "source_record_id", "source_digest", "source_system", "collector_version",
    "source_type", "source_family", "tenant", "case", "target", "actor", "object", "action",
    "outcome", "raw_evidence_ref", "normalization_version", "ocsf_version"]

def isText : Option RawValue → Bool
  | some (.json (.str s)) => !isBlank s
  | _ => false

def isMapping : Option RawValue → Bool
  | some (.json (.obj _)) => true
  | _ => false

/-- `_validate_raw` -/
def validateRaw (raw : Raw) : Except Raised Unit := do
  for field in requiredText do
    raiseIf (isText (raw.lookup field) = false) .detectionInputError
      s!"raw security event field {field} must be a non-empty string"
  raiseIf ((raw.lookup "event_id").isSome ∧ isText (raw.lookup "event_id") = false)
    .detectionInputError "raw security event event_id must be a non-empty string when supplied"
  raiseIf ((present raw "severity").any fun v =>
      match v with
      | .json (.str _) => false
      | _ => true)
    .detectionInputError "raw security event severity must be a string when supplied"
  for field in ["attributes", "ordering_metadata"] do
    raiseIf ((raw.lookup field).isSome ∧ isMapping (raw.lookup field) = false) .detectionInputError
      s!"raw security event {field} must be a mapping"

def ingestRaw (codec : Codec) (reader : Reader) (now : Datetime) (raw : Raw) (scope : Option Scope)
    (i : BoundedSecurityEventIngestor) :
    Except Raised (EventIngestResult × BoundedSecurityEventIngestor) := do
  validateRaw raw
  let event ← SecurityEventPlane.normalize codec reader now raw
  i.ingest codec event scope

end BoundedSecurityEventIngestor

end SecScanMonitor.DetectionResponse

namespace SecScanMonitor.Application

open Foundations Domain DetectionResponse ContinuousSecurity Persistence Sanitize

/-- The envelope of a request, before its validators have seen it. -/
structure LiveSecurityEventInput where
  sourceId : String
  sourceRecordId : String
  sourceDigest : String
  eventClass : String
  ocsfClass : Option String
  ocsfVersion : String
  occurredAt : Bool × Datetime
  observedAt : Bool × Datetime
  actor : String
  objectRef : String
  action : String
  outcome : String
  severity : Option String
  rawEvidenceRef : String
  normalizationVersion : String
  collectorVersion : String
  sourceSystem : String
  attributes : List (String × Value)
  orderingMetadata : List (String × Value)

namespace LiveSecurityEventInput

/-- The texts of a request, with the bound on each. -/
def texts (r : LiveSecurityEventInput) : List (String × ℕ) :=
  [(r.sourceId, 128), (r.sourceRecordId, 512), (r.sourceDigest, 128), (r.eventClass, 96),
    (r.ocsfVersion, 32), (r.actor, 255), (r.objectRef, 255), (r.action, 255), (r.outcome, 96),
    (r.rawEvidenceRef, 512), (r.normalizationVersion, 64), (r.collectorVersion, 64),
    (r.sourceSystem, 128)]

/-- The texts that may be absent; these may be empty. -/
def optionalTexts (r : LiveSecurityEventInput) : List (String × ℕ) :=
  (r.ocsfClass.map fun s => (s, 96)).toList ++ (r.severity.map fun s => (s, 16)).toList

variable (tooling : LiveIngest.Tooling) (u : UnicodeTables)

def checkText (least : ℕ) (text : String × ℕ) : Except Raised Unit := do
  raiseIf (text.1.toList.length < least ∨ text.2 < text.1.toList.length) .validationError
    s!"String should have at least {least} and at most {text.2} characters"
  raiseIf (payloadContainsSecretLikeContent u (.str text.1)) .validationError
    "secret-like event text is not accepted"

def validate (r : LiveSecurityEventInput) : Except Raised Unit := do
  r.texts.forM (checkText u 1)
  r.optionalTexts.forM (checkText u 0)
  raiseIf (r.occurredAt.1 = false ∨ r.observedAt.1 = false) .validationError
    "live event timestamps must be timezone-aware"
  raiseIf (r.ocsfVersion ≠ supportedOcsfVersion) .validationError
    s!"only OCSF {supportedOcsfVersion} is supported"
  raiseIf (r.ocsfClass.any fun c => decide (c ∉ supportedOcsfClasses)) .validationError
    "unsupported OCSF event class"
  let _ ← LiveIngest.boundedMetadata tooling u r.attributes
  let _ ← LiveIngest.boundedMetadata tooling u r.orderingMetadata
  raiseIf (r.observedAt.2 < r.occurredAt.2) .validationError
    "occurred_at cannot be later than observed_at"
  raiseIf (r.eventClass ∉ supportedOcsfClasses) .validationError "unsupported event class"
  raiseIf (r.ocsfClass.any fun c => decide (c ≠ r.eventClass)) .validationError
    "OCSF class must match the normalized event class"

def optionalText : Option String → RawValue
  | some s => .json (.str s)
  | none => .json .null

/-- `model_dump(mode="json", by_alias=True)` -/
def dump (codec : Codec) (r : LiveSecurityEventInput) : Raw :=
  [("source_id", .json (.str r.sourceId)), ("source_record_id", .json (.str r.sourceRecordId)),
    ("source_digest", .json (.str r.sourceDigest)), ("event_class", .json (.str r.eventClass)),
    ("ocsf_class", optionalText r.ocsfClass), ("ocsf_version", .json (.str r.ocsfVersion)),
    ("occurred_at", .json (.str (codec.dumpDatetime r.occurredAt.2))),
    ("observed_at", .json (.str (codec.dumpDatetime r.observedAt.2))),
    ("actor", .json (.str r.actor)), ("object", .json (.str r.objectRef)),
    ("action", .json (.str r.action)), ("outcome", .json (.str r.outcome)),
    ("severity", optionalText r.severity), ("raw_evidence_ref", .json (.str r.rawEvidenceRef)),
    ("normalization_version", .json (.str r.normalizationVersion)),
    ("collector_version", .json (.str r.collectorVersion)),
    ("source_system", .json (.str r.sourceSystem)), ("attributes", .json (.obj r.attributes)),
    ("ordering_metadata", .json (.obj r.orderingMetadata))]

end LiveSecurityEventInput

structure LiveIngestReceipt where
  eventId : String
  sourceId : String
  tenantId : String
  caseId : String
  targetId : String
  eventCreated : Bool
  workId : String
  workCreated : Bool
  workStatus : DetectionWorkStatus

/-- The sources that are registered, and the rest of the database. -/
structure LiveStore where
  sources : Table SecuritySourceBinding.sourceId
  db : Database

namespace SecurityEventIngestService

/-- What the binding puts in the place of the request's own fields. -/
def bound (binding : SecuritySourceBinding) (r : LiveSecurityEventInput) : Raw :=
  [("source", .json (.str binding.sourceId)), ("source_type", .json (.str binding.sourceType)),
    ("source_family", .json (.str binding.sourceFamily)),
    ("event_class", .json (.str r.eventClass)),
    ("ocsf_class", .json (.str (match r.ocsfClass with
      | none | some "" => r.eventClass
      | some c => c))),
    ("tenant", .json (.str binding.scope.tenantId)), ("case", .json (.str binding.scope.caseId)),
    ("target", .json (.str binding.scope.targetId))]

/-- `raw.update(changes)`; the order of the keys is not read. -/
def update (raw changes : Raw) : Raw :=
  changes ++ raw.filter fun m => decide (m.1 ∉ changes.map Prod.fst)

def rawOf (codec : Codec) (binding : SecuritySourceBinding) (r : LiveSecurityEventInput) : Raw :=
  (update (r.dump codec) (bound binding r)).filter fun m => decide (m.1 ≠ "source_id")

def registerSource (binding : SecuritySourceBinding) : Effect LiveStore SecuritySourceBinding :=
  fun store =>
    let checked := do
      validateEngagementScope store.db binding.scope
      raiseIf ((store.db.principals.get? binding.principalId).isNone) .permissionError
        "source principal is not canonical"
      match store.sources.get? binding.sourceId with
      | some existing =>
        raiseIf (existing ≠ binding) .detectionInputError
          "source identity was reused for different binding"
        return store.sources
      | none => unique (store.sources.insert? (fun _ => false) binding)
    match checked with
    | .error e => (.error e, store)
    | .ok sources => (.ok binding, { store with sources })

/-- The checks of `ingest`, and the event that it normalizes. -/
def accept (tooling : LiveIngest.Tooling) (u : UnicodeTables) (codec : Codec) (reader : Reader)
    (now : Datetime) (r : LiveSecurityEventInput) (principalId : String) (store : LiveStore) :
    Except Raised (SecuritySourceBinding × SecurityEvent) := do
  r.validate tooling u
  let binding ← orRaise ((store.sources.get? r.sourceId).filter fun b => decide (b.status = "ACTIVE"))
    .permissionError "source is not registered"
  raiseIf (binding.principalId ≠ principalId) .permissionError "source principal is not authorized"
  let allowed ← orRaise (sourceFamilyEventClasses.lookup binding.sourceFamily) .keyError
    binding.sourceFamily
  raiseIf (r.eventClass ∉ allowed) .detectionInputError
    "event class is not allowed for the registered source family"
  let (normalized, _) ← BoundedSecurityEventIngestor.ingestRaw codec reader now
    (rawOf codec binding r) (some binding.scope) ⟨SecurityEventPlane.empty, some binding.scope⟩
  return (binding, normalized.event)

/-- `later` is the instant that the repository reads. -/
def ingest (tooling : LiveIngest.Tooling) (u : UnicodeTables) (codec : Codec) (reader : Reader)
    (now later : Datetime) (r : LiveSecurityEventInput) (principalId : String) :
    Effect LiveStore LiveIngestReceipt := fun store =>
  match accept tooling u codec reader now r principalId store with
  | .error e => (.error e, store)
  | .ok (binding, event) =>
    match ingestEvent codec later event store.db with
    | .error e => (.error e, store)
    | .ok ((work, workCreated, eventCreated), db) =>
      (.ok
        { eventId := event.eventId
          sourceId := binding.sourceId
          tenantId := binding.scope.tenantId
          caseId := binding.scope.caseId
          targetId := binding.scope.targetId
          eventCreated
          workId := work.workId
          workCreated
          workStatus := work.status },
        { store with db })

/-- The event belongs to the binding: its scope, its source and its family are the binding's, and its class
is one that the family admits. -/
structure OfBinding (binding : SecuritySourceBinding) (event : SecurityEvent) : Prop where
  scope : event.scope = binding.scope
  source : event.source = binding.sourceId
  sourceFamily : event.sourceFamily = binding.sourceFamily
  sourceType : event.sourceType = binding.sourceType
  admitted : ∃ classes, sourceFamilyEventClasses.lookup binding.sourceFamily = some classes ∧
    event.eventClass.value ∈ classes

section Fields

variable {codec : Codec} {reader : Reader} {now : Datetime} {raw : Raw} {event : SecurityEvent}

lemma lookup_filter {p : String → Bool} {k : String} (hk : p k = true) (raw : Raw) :
    (raw.filter fun m => p m.1).lookup k = raw.lookup k := by
  induction raw with
  | nil => rfl
  | cons m raw ih =>
    by_cases hm : p m.1 = true
    · rw [List.filter_cons_of_pos (by exact hm), List.lookup_cons, List.lookup_cons, ih]
    · have hne : (k == m.1) = false := by
        rw [beq_eq_false_iff_ne]
        rintro rfl
        exact hm hk
      rw [List.filter_cons_of_neg (by exact hm), List.lookup_cons, hne, ih]

/-- What the binding sets is what the record holds. -/
lemma rawOf_lookup {binding : SecuritySourceBinding} {r : LiveSecurityEventInput} {k : String}
    {v : RawValue} (hk : k ≠ "source_id") (hv : (bound binding r).lookup k = some v) :
    (rawOf codec binding r).lookup k = some v := by
  rw [rawOf, lookup_filter (p := fun j => decide (j ≠ "source_id")) (by simpa using hk), update,
    List.lookup_append, hv]
  rfl

lemma field_of_lookup {k default t : String} (h : raw.lookup k = some (.json (.str t))) :
    reader.field raw k default = t := by
  rw [Reader.field, h]
  rfl

lemma event_fields {a : EventArguments} (h : a.event = .ok event) :
    event.source = a.source ∧ event.sourceType = a.sourceType ∧
      event.sourceFamily = a.sourceFamily ∧ event.eventClass = a.eventClass := by
  unfold EventArguments.event at h
  split at h
  · split at h
    · split at h
      · split at h
        · split at h
          · obtain rfl := Except.ok.inj h
            exact ⟨rfl, rfl, rfl, rfl⟩
          · cases h
        · cases h
      · cases h
    · cases h
  · cases h

lemma normalize_fields (h : SecurityEventPlane.normalize codec reader now raw = .ok event) :
    event.source = reader.field raw "source" "" ∧
      event.sourceType = reader.field raw "source_type" "" ∧
      event.sourceFamily = reader.field raw "source_family" "secscan" ∧
      ∃ v, raw.lookup "event_class" = some v ∧ event.eventClass.value = reader.str v := by
  obtain ⟨occurredAt, -, h⟩ := bind_eq_ok.mp h
  obtain ⟨observedAt, -, h⟩ := bind_eq_ok.mp h
  obtain ⟨-, h⟩ := raiseIf_bind_eq_ok.mp h
  obtain ⟨eventClass, hclass, h⟩ := orRaise_bind_eq_ok.mp h
  obtain ⟨provenance, -, h⟩ := bind_eq_ok.mp h
  obtain ⟨attributes, -, h⟩ := bind_eq_ok.mp (SecurityEventPlane.asTimestampError_eq_ok.mp h)
  obtain ⟨ingestedAt, -, h⟩ := bind_eq_ok.mp h
  obtain ⟨orderingMetadata, -, h⟩ := bind_eq_ok.mp h
  obtain ⟨hsource, htype, hfamily, hevent⟩ := event_fields h
  obtain ⟨v, hv, hvalue⟩ := Option.bind_eq_some_iff.mp hclass
  refine ⟨hsource, htype, hfamily, v, hv, ?_⟩
  have hname := List.find?_some hvalue
  rw [hevent]
  exact of_decide_eq_true hname

/-- An empty plane answers with the event itself. -/
lemma ingest_empty {scope : Option Scope} {result : EventIngestResult}
    {i' : BoundedSecurityEventIngestor}
    (h : BoundedSecurityEventIngestor.ingest codec event scope ⟨SecurityEventPlane.empty, scope⟩ =
      .ok (result, i')) :
    result.event = event ∧ BoundedSecurityEventIngestor.validate event scope = .ok () := by
  obtain ⟨-, -, h⟩ := bind_eq_ok.mp h
  obtain ⟨_, hvalid, h⟩ := bind_eq_ok.mp h
  refine ⟨?_, hvalid⟩
  split at h
  · rename_i answer plane hplane
    obtain ⟨rfl, -⟩ := Prod.mk.inj (Except.ok.inj h)
    unfold SecurityEventPlane.ingest at hplane
    split at hplane
    · cases hplane
    · obtain ⟨hanswer, -⟩ := Prod.mk.inj hplane
      rw [← Except.ok.inj hanswer]
  · cases h

lemma scope_of_validate {scope : Scope}
    (h : BoundedSecurityEventIngestor.validate event (some scope) = .ok ()) :
    event.scope = scope := by
  unfold BoundedSecurityEventIngestor.validate at h
  obtain ⟨-, h⟩ := raiseIf_bind_eq_ok.mp h
  obtain ⟨-, h⟩ := raiseIf_bind_eq_ok.mp h
  obtain ⟨-, h⟩ := raiseIf_bind_eq_ok.mp h
  obtain ⟨-, h⟩ := raiseIf_bind_eq_ok.mp h
  simpa using raiseIf_eq_ok.mp h

end Fields

variable {tooling : LiveIngest.Tooling} {u : UnicodeTables} {codec : Codec} {reader : Reader}
  {now later : Datetime} {r : LiveSecurityEventInput} {principalId : String} {store store' : LiveStore}
  {binding : SecuritySourceBinding} {event : SecurityEvent}

/-- What is admitted belongs to the binding of its source. -/
lemma accept_ofBinding
    (h : accept tooling u codec reader now r principalId store = .ok (binding, event)) :
    store.sources.get? r.sourceId = some binding ∧ binding.principalId = principalId ∧
      OfBinding binding event := by
  obtain ⟨-, -, h⟩ := bind_eq_ok.mp h
  obtain ⟨found, hfound, h⟩ := orRaise_bind_eq_ok.mp h
  obtain ⟨hprincipal, h⟩ := raiseIf_bind_eq_ok.mp h
  obtain ⟨allowed, hallowed, h⟩ := orRaise_bind_eq_ok.mp h
  obtain ⟨hclass, h⟩ := raiseIf_bind_eq_ok.mp h
  obtain ⟨⟨normalized, i'⟩, hnormalized, h⟩ := bind_eq_ok.mp h
  obtain ⟨rfl, rfl⟩ := Prod.mk.inj (Except.ok.inj h)
  obtain ⟨-, -, hnormalized⟩ := bind_eq_ok.mp hnormalized
  obtain ⟨event, hevent, hingested⟩ := bind_eq_ok.mp hnormalized
  obtain ⟨hsame, hvalid⟩ := ingest_empty hingested
  obtain ⟨hsource, htype, hfamily, v, hv, hvalue⟩ := normalize_fields hevent
  rw [rawOf_lookup (by decide) rfl] at hv
  rw [← Option.some.inj hv] at hvalue
  rw [hsame]
  refine ⟨(Option.filter_eq_some_iff.mp hfound).1, not_not.mp hprincipal, ?_⟩
  exact
    { scope := scope_of_validate hvalid
      source := hsource.trans (field_of_lookup (rawOf_lookup (by decide) rfl))
      sourceFamily := hfamily.trans (field_of_lookup (rawOf_lookup (by decide) rfl))
      sourceType := htype.trans (field_of_lookup (rawOf_lookup (by decide) rfl))
      admitted := ⟨allowed, hallowed, hvalue.symm ▸ not_not.mp hclass⟩ }

/-- What a call that succeeds leaves of the stored events: those there were, and what is new belongs to the
binding; the event that the receipt names is one of its scope. -/
structure Confined (binding : SecuritySourceBinding) (store store' : LiveStore)
    (receipt : LiveIngestReceipt) : Prop where
  kept : store'.db.securityEvents.Extends store.db.securityEvents
  new : ∀ event ∈ store'.db.securityEvents, event ∉ store.db.securityEvents →
    OfBinding binding event
  stored : ∃ event ∈ store'.db.securityEvents, event.eventId = receipt.eventId ∧
    event.scope = binding.scope
  receipt : receipt.sourceId = binding.sourceId ∧ receipt.tenantId = binding.scope.tenantId ∧
    receipt.caseId = binding.scope.caseId ∧ receipt.targetId = binding.scope.targetId

lemma ingestEvent_events {db db' : Database} {work : DetectionWorkItemRow × Bool × Bool}
    (h : ingestEvent codec later event db = .ok (work, db')) :
    db'.securityEvents.Extends db.securityEvents ∧
      (∀ e ∈ db'.securityEvents, e ∈ db.securityEvents ∨ e = event) ∧
        ∃ e ∈ db'.securityEvents, e.eventId = event.eventId ∧ e.scope = event.scope := by
  obtain ⟨-, -, h⟩ := bind_eq_ok.mp h
  obtain ⟨⟨events, created⟩, hevents, h⟩ := bind_eq_ok.mp h
  obtain ⟨⟨items, item, fresh⟩, -, h⟩ := bind_eq_ok.mp h
  obtain ⟨-, rfl⟩ := Prod.mk.inj (Except.ok.inj h)
  rcases recordEvent_eq_ok hevents with ⟨⟨row, hrow, hreplays⟩, rfl⟩ | ⟨-, hrows⟩
  · exact ⟨Table.Extends.refl _, fun _ he => Or.inl he, row, hrow, hreplays.event, hreplays.scope⟩
  · refine ⟨fun e he => ?_, fun e he => ?_, event, ?_, rfl, rfl⟩
    · rw [Table.mem_def, hrows]
      exact List.mem_cons_of_mem _ he
    · rw [Table.mem_def, hrows, List.mem_cons] at he
      exact he.symm
    · rw [Table.mem_def, hrows]
      exact List.mem_cons_self

/-- A call that succeeds is one of a registered source under its own principal. -/
lemma ingest_step {receipt : LiveIngestReceipt}
    (hbinding : store.sources.get? r.sourceId = some binding)
    (h : ingest tooling u codec reader now later r principalId store = (.ok receipt, store')) :
    Confined binding store store' receipt ∧ binding.principalId = principalId := by
  unfold ingest at h
  split at h
  · cases h
  · rename_i found event haccept
    split at h
    · cases h
    · rename_i work workCreated eventCreated db hstored
      obtain ⟨hreceipt, rfl⟩ := Prod.mk.inj h
      obtain ⟨hfound, hprincipal, hof⟩ := accept_ofBinding haccept
      obtain rfl := Option.some.inj (hbinding.symm.trans hfound)
      obtain ⟨hkept, hnew, e, he, hid, hscope⟩ := ingestEvent_events hstored
      rw [← Except.ok.inj hreceipt]
      refine ⟨⟨hkept, fun e he hold => ?_, ⟨e, he, hid, hscope.trans hof.scope⟩,
        rfl, rfl, rfl, rfl⟩, hprincipal⟩
      obtain rfl := (hnew e he).resolve_left hold
      exact hof

/-- A call that raises leaves the store as it is. -/
lemma ingest_error {raised : Raised}
    (h : (ingest tooling u codec reader now later r principalId store).1 = .error raised) :
    (ingest tooling u codec reader now later r principalId store).2 = store := by
  unfold ingest at h ⊢
  split at h
  · rfl
  · split at h
    · rfl
    · cases h

/-- Two calls under the credential of one binding, each on a store where the source is registered with it: the
events that they store are of the binding's scope, source and family, whatever the requests hold, and of a class
that the family admits; a call that raises stores nothing. -/
theorem ingest_confined (tooling : LiveIngest.Tooling) (u : UnicodeTables) (codec : Codec)
    (reader : Reader) (binding : SecuritySourceBinding) (now later now' later' : Datetime)
    (r r' : LiveSecurityEventInput) (principalId : String) (store after store' after' : LiveStore)
    (receipt receipt' : LiveIngestReceipt)
    (hsource : store.sources.get? r.sourceId = some binding)
    (hsource' : store'.sources.get? r'.sourceId = some binding) :
    (ingest tooling u codec reader now later r principalId store = (.ok receipt, after) →
      Confined binding store after receipt ∧ binding.principalId = principalId) ∧
    (ingest tooling u codec reader now later r principalId store = (.ok receipt, after) →
      ingest tooling u codec reader now' later' r' principalId store' = (.ok receipt', after') →
        ∀ event ∈ after.db.securityEvents, event ∉ store.db.securityEvents →
        ∀ event' ∈ after'.db.securityEvents, event' ∉ store'.db.securityEvents →
          event.scope = event'.scope ∧ event.source = event'.source ∧
            event.sourceFamily = event'.sourceFamily) ∧
    ((∃ raised, (ingest tooling u codec reader now later r principalId store).1 = .error raised) →
      (ingest tooling u codec reader now later r principalId store).2 = store) := by
  refine ⟨ingest_step hsource, fun hrun hrun' event he hnew event' he' hnew' => ?_, ?_⟩
  · have hof := (ingest_step hsource hrun).1.new event he hnew
    have hof' := (ingest_step hsource' hrun').1.new event' he' hnew'
    exact ⟨hof.scope.trans hof'.scope.symm, hof.source.trans hof'.source.symm,
      hof.sourceFamily.trans hof'.sourceFamily.symm⟩
  · rintro ⟨raised, h⟩
    exact ingest_error h

section Example

def edgeScope : Scope := ⟨"client-1", "EN-1", "TG-1", by decide⟩

def edgeBinding : SecuritySourceBinding where
  sourceId := "runner-1"
  principalId := "PR-1"
  scope := edgeScope
  sourceFamily := "edge_runner"
  sourceType := "runner"
  status := "ACTIVE"
  nonblank := by decide
  supported := by decide

/-- The engagement of the binding, with nothing ingested yet. -/
def edgeStore : LiveStore where
  sources := Table.single edgeBinding
  db :=
    { Database.empty with
      engagements := Table.single ⟨"EN-1", "client-1"⟩
      engagementTargets := Table.single ⟨"EN-1", "TG-1", true⟩ }

/-- A request whose attributes name another tenant. -/
def edgeRequest : LiveSecurityEventInput where
  sourceId := "runner-1"
  sourceRecordId := "record-1"
  sourceDigest := "32609f0db66e86af5caa2c9997e4146bc75b0e5a2fabb8c0b833ec063a02477e"
  eventClass := "capability_decision"
  ocsfClass := none
  ocsfVersion := "1.8.0"
  occurredAt := (true, 0)
  observedAt := (true, 0)
  actor := "agent-1"
  objectRef := "tool"
  action := "invoke"
  outcome := "ok"
  severity := none
  rawEvidenceRef := "EV-1"
  normalizationVersion := "1"
  collectorVersion := "1"
  sourceSystem := "runner"
  attributes := [("tenant", .str "client-2"), ("source", .str "runner-2")]
  orderingMetadata := []

def edgeDigests : Codec where
  contentDigest _ := "2e7d656e26cd336166fa1155f0ee57d0f3065cb20529a77a40046b894e3a76e9"
  isoformat _ := "1970-01-01T00:00:00+00:00"
  dumpDatetime _ := "1970-01-01T00:00:00Z"

def edgeReader : Reader := ⟨fun _ => "", fun _ _ => "", fun _ => some (true, 0)⟩

def edgeIngested : Except Raised LiveIngestReceipt × LiveStore :=
  ingest LiveIngest.plainTooling LiveIngest.plainTables edgeDigests edgeReader 5 6 edgeRequest "PR-1"
    edgeStore

/-- The event is stored, and under the binding. -/
theorem edge_ingested :
    edgeIngested.2.db.securityEvents.rows.length = 1 ∧
      List.Forall (OfBinding edgeBinding) edgeIngested.2.db.securityEvents.rows := by
  have hok : edgeIngested.1.isOk = true := by decide +kernel
  have hone : edgeIngested.2.db.securityEvents.rows.length = 1 := by decide +kernel
  rcases hrun : edgeIngested with ⟨answer, after⟩
  rw [hrun] at hok hone
  cases answer with
  | error raised => cases hok
  | ok receipt =>
    have hconfined := (ingest_confined LiveIngest.plainTooling LiveIngest.plainTables edgeDigests
      edgeReader edgeBinding 5 6 5 6 edgeRequest edgeRequest "PR-1" edgeStore after edgeStore after
      receipt receipt rfl rfl).1 hrun
    refine ⟨hone, List.forall_iff_forall_mem.mpr fun event he => ?_⟩
    exact hconfined.1.new event he List.not_mem_nil

end Example

end SecurityEventIngestService

end SecScanMonitor.Application
