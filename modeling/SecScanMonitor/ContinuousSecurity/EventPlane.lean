import SecScanMonitor.ContinuousSecurity.Ingestion
import SecScanMonitor.ContinuousSecurity.Normalize
import SecScanMonitor.Foundations.Journal

/-! The event plane keeps a journal of the events that arrive: under every derived identity the first
event stays, a later one is a duplicate or a conflict. -/

namespace SecScanMonitor.ContinuousSecurity

open Foundations Domain DetectionResponse

/-- An event without what its arrival gave it, its mappings in the order of their keys. -/
def SecurityEvent.withoutArrival (e : SecurityEvent) : SecurityEvent :=
  { e with
    attributes := Value.sortedMembers e.attributes
    ingestedAt := 0
    orderingMetadata := [] }

/-- On these events neither the digest of canonical texts nor the text of an instant collides. -/
structure Separates (codec : Codec) (known : SecurityEvent → Prop) : Prop where
  digest : ∀ a b, known a → known b → a.fingerprint codec = b.fingerprint codec →
    (a.canonicalDict codec).sorted = (b.canonicalDict codec).sorted
  occurred : ∀ a b, known a → known b →
    codec.dumpDatetime a.occurredAt = codec.dumpDatetime b.occurredAt → a.occurredAt = b.occurredAt
  observed : ∀ a b, known a → known b →
    codec.dumpDatetime a.observedAt = codec.dumpDatetime b.observedAt → a.observedAt = b.observedAt

namespace SecurityEventPlane

/-- `events(tenant=tenant, case=case)` -/
def listed (plane : SecurityEventPlane) (tenant case_ : Option String) : List SecurityEvent :=
  ((plane.events.values).filter fun e =>
    tenant.all (fun t => e.scope.tenantId = t) && case_.all (fun c => e.scope.caseId = c)).insertionSort
      before

end SecurityEventPlane

inductive IngestCall where
  | prebuilt (event : SecurityEvent)
  | raw (now : Datetime) (record : Raw)

namespace IngestCall

variable (codec : Codec) (reader : Reader)

def event : IngestCall → Except Raised SecurityEvent
  | .prebuilt e => .ok e
  | .raw now record => SecurityEventPlane.normalize codec reader now record

def exec : IngestCall → Effect SecurityEventPlane EventIngestResult
  | .prebuilt e => SecurityEventPlane.ingest codec e
  | .raw now record => SecurityEventPlane.ingestRaw codec reader now record

def outcomes : List IngestCall → SecurityEventPlane →
    List (IngestCall × Except Raised EventIngestResult)
  | [], _ => []
  | call :: calls, plane =>
    (call, (call.exec codec reader plane).1) :: outcomes calls (call.exec codec reader plane).2

def after : List IngestCall → SecurityEventPlane → SecurityEventPlane
  | [], plane => plane
  | call :: calls, plane => after calls (call.exec codec reader plane).2

/-- The event that a call brings to the journal: one with its derived id. -/
def admitted (call : IngestCall) : Option SecurityEvent :=
  match call.event codec reader with
  | .ok e => if e.eventId = SecurityEventPlane.expectedId codec e then some e else none
  | .error _ => none

/-- What a call makes of the journal's answer. -/
def outcome (call : IngestCall) (answer : Journal.Answer SecurityEvent) :
    Except Raised EventIngestResult :=
  match call.event codec reader, answer with
  | .error e, _ => .error e
  | .ok _, .refused =>
    raise .eventIdentityConflict "event_id does not match deterministic event identity"
  | .ok _, .created kept => .ok ⟨kept, true, false⟩
  | .ok _, .duplicate kept => .ok ⟨kept, false, true⟩
  | .ok e, .conflict => raise .eventIdentityConflict
      ("event identity " ++ e.eventId ++ " was reused for different content")

abbrev transcript : List IngestCall → Dict String SecurityEvent →
    List (IngestCall × Journal.Answer SecurityEvent) :=
  Journal.transcript (admitted codec reader) SecurityEvent.eventId (SecurityEvent.fingerprint codec)

variable {codec : Codec} {reader : Reader}

lemma exec_of_event {call : IngestCall} {e : SecurityEvent} (h : call.event codec reader = .ok e)
    (plane : SecurityEventPlane) : call.exec codec reader plane = plane.ingest codec e := by
  cases call with
  | prebuilt e' =>
    obtain rfl := Except.ok.inj h
    rfl
  | raw now record =>
    simp only [event] at h
    simp only [exec, SecurityEventPlane.ingestRaw, h]

lemma exec_of_error {call : IngestCall} {x : Raised} (h : call.event codec reader = .error x)
    (plane : SecurityEventPlane) : call.exec codec reader plane = (.error x, plane) := by
  cases call with
  | prebuilt e => cases h
  | raw now record =>
    simp only [event] at h
    simp only [exec, SecurityEventPlane.ingestRaw, h]

lemma admitted_eq_some {call : IngestCall} {e : SecurityEvent} :
    call.admitted codec reader = some e ↔
      call.event codec reader = .ok e ∧ e.eventId = SecurityEventPlane.expectedId codec e := by
  unfold admitted
  cases call.event codec reader with
  | error x => simp
  | ok a =>
    by_cases ha : a.eventId = SecurityEventPlane.expectedId codec a
    · simp only [if_pos ha, Option.some.injEq, Except.ok.injEq]
      constructor
      · rintro rfl
        exact ⟨rfl, ha⟩
      · exact fun h => h.1
    · simp only [if_neg ha, reduceCtorEq, Except.ok.injEq, false_iff, not_and]
      rintro rfl
      exact ha

end IngestCall

section Content

variable {codec : Codec} {known : SecurityEvent → Prop} {a b : SecurityEvent}

lemma EventClass.value_injective : Function.Injective EventClass.value := by
  intro x y h
  cases x <;> cases y <;> first | rfl | (revert h; decide)

lemma EventProvenance.eq_of_parts {p q : EventProvenance}
    (h₁ : p.sourceRecordId = q.sourceRecordId) (h₂ : p.sourceSystem = q.sourceSystem)
    (h₃ : p.collectorVersion = q.collectorVersion) (h₄ : p.rawEvidenceRef = q.rawEvidenceRef)
    (h₅ : p.sourceDigest = q.sourceDigest) : p = q := by
  cases p
  cases q
  simp only at h₁ h₂ h₃ h₄ h₅
  subst h₁ h₂ h₃ h₄ h₅
  rfl

/-- The canonical document determines every field that it lists. -/
lemma SecurityEvent.canonicalDict_fields
    (h : (a.canonicalDict codec).sorted = (b.canonicalDict codec).sorted) :
    a.source = b.source ∧ a.sourceType = b.sourceType ∧ a.eventClass = b.eventClass ∧
      codec.dumpDatetime a.occurredAt = codec.dumpDatetime b.occurredAt ∧
      codec.dumpDatetime a.observedAt = codec.dumpDatetime b.observedAt ∧ a.scope = b.scope ∧
      a.actor = b.actor ∧ a.objectRef = b.objectRef ∧ a.action = b.action ∧ a.outcome = b.outcome ∧
      a.severity = b.severity ∧ a.rawEvidenceRef = b.rawEvidenceRef ∧
      a.normalizationVersion = b.normalizationVersion ∧ a.provenance = b.provenance ∧
      Value.sortedMembers a.attributes = Value.sortedMembers b.attributes ∧
      a.sourceFamily = b.sourceFamily ∧ a.ocsfClass = b.ocsfClass ∧ a.ocsfVersion = b.ocsfVersion := by
  have hvalues := Value.values_of_sorted h rfl (by simp)
  simp only [List.map_cons, List.map_nil, Value.sorted, List.cons.injEq, Value.str.injEq,
    Value.obj.injEq, and_true] at hvalues
  obtain ⟨hsource, htype, hclass, hoccurred, hobserved, htenant, hcase, htarget, hactor, hobject,
    haction, houtcome, hseverity, hevidence, hversion, hprovenance, hattributes, hfamily, hocsf,
    hocsfVersion⟩ := hvalues
  have hscope : a.scope = b.scope := Scope.eq_of_parts htenant hcase htarget
  have hseverity : a.severity = b.severity := by
    cases ha : a.severity <;> cases hb : b.severity <;> simp_all [Value.sorted]
  have hparts := Value.values_of_sorted (congrArg Value.obj hprovenance) rfl (by simp)
  simp only [List.map_cons, List.map_nil, Value.sorted, List.cons.injEq, Value.str.injEq,
    and_true] at hparts
  obtain ⟨hrecord, hsystem, hcollector, hraw, hdigest⟩ := hparts
  exact ⟨hsource, htype, EventClass.value_injective hclass, hoccurred, hobserved, hscope, hactor,
    hobject, haction, houtcome, hseverity, hevidence, hversion,
    EventProvenance.eq_of_parts hrecord hsystem hcollector hraw hdigest, hattributes, hfamily, hocsf,
    hocsfVersion⟩

variable (hsep : Separates codec known)

include hsep

/-- Events of one fingerprint have one identity. -/
lemma Separates.expectedId (ha : known a) (hb : known b)
    (h : a.fingerprint codec = b.fingerprint codec) :
    SecurityEventPlane.expectedId codec a = SecurityEventPlane.expectedId codec b := by
  obtain ⟨hsource, -, -, hoccurred, -, -, -, -, -, -, -, -, -, hprovenance, -⟩ :=
    SecurityEvent.canonicalDict_fields (hsep.digest a b ha hb h)
  rw [SecurityEventPlane.expectedId, SecurityEventPlane.expectedId, hsource, hprovenance,
    hsep.occurred a b ha hb hoccurred]

lemma Separates.scope (ha : known a) (hb : known b)
    (h : a.fingerprint codec = b.fingerprint codec) : a.scope = b.scope := by
  obtain ⟨-, -, -, -, -, hscope, -⟩ :=
    SecurityEvent.canonicalDict_fields (hsep.digest a b ha hb h)
  exact hscope

lemma Separates.withoutArrival (ha : known a) (hb : known b) (hid : a.eventId = b.eventId)
    (h : a.fingerprint codec = b.fingerprint codec) : a.withoutArrival = b.withoutArrival := by
  obtain ⟨h₁, h₂, h₃, hoccurred, hobserved, h₄, h₅, h₆, h₇, h₈, h₉, h₁₀, h₁₁, h₁₂, h₁₃, h₁₄, h₁₅, h₁₆⟩ :=
    SecurityEvent.canonicalDict_fields (hsep.digest a b ha hb h)
  have h₁₇ := hsep.occurred a b ha hb hoccurred
  have h₁₈ := hsep.observed a b ha hb hobserved
  rw [SecurityEvent.withoutArrival, SecurityEvent.withoutArrival, SecurityEvent.mk.injEq]
  exact ⟨hid, h₁, h₂, h₃, h₁₇, h₁₈, h₄, h₅, h₆, h₇, h₈, h₉, h₁₀, h₁₁, h₁₂, h₁₃, h₁₄, h₁₅, h₁₆, rfl, rfl⟩

end Content

namespace SecurityEventPlane

section Ingest

variable {codec : Codec} {known : SecurityEvent → Prop} {plane : SecurityEventPlane}
  {e x : SecurityEvent}

/-- Every stored event has its derived id, and a recorded fingerprint is that of a stored event. -/
structure Sound (codec : Codec) (known : SecurityEvent → Prop) (plane : SecurityEventPlane) : Prop where
  stored : ∀ id e, plane.events.find? id = some e → e.eventId = id ∧ id = expectedId codec e ∧ known e
  recorded : ∀ fp id, plane.fingerprints.find? fp = some id →
    ∃ e, plane.events.find? id = some e ∧ e.fingerprint codec = fp

lemma Sound.empty : Sound codec known SecurityEventPlane.empty where
  stored id e h := absurd h (by simp [SecurityEventPlane.empty])
  recorded fp id h := absurd h (by simp [SecurityEventPlane.empty])

/-- No event is held under two identities: its fingerprint tells its identity. -/
lemma Sound.single (hsep : Separates codec known) (hp : Sound codec known plane) (he : known e)
    (hid : e.eventId = expectedId codec e) {id : String}
    (h : plane.fingerprints.find? (e.fingerprint codec) = some id) : id = e.eventId := by
  obtain ⟨x, hx, hfp⟩ := hp.recorded _ id h
  obtain ⟨-, hxid, hknown⟩ := hp.stored id x hx
  rw [hxid, hid, hsep.expectedId hknown he hfp]

lemma ingest_fresh (hsep : Separates codec known) (hp : Sound codec known plane) (he : known e)
    (hid : e.eventId = expectedId codec e) (hx : plane.events.find? e.eventId = none) :
    plane.ingest codec e = (.ok ⟨e, true, false⟩,
      ⟨plane.events.set e.eventId e, plane.fingerprints.set (e.fingerprint codec) e.eventId⟩) := by
  have hsingle : (plane.fingerprints.find? (e.fingerprint codec)).any
      (fun id => decide (id ≠ e.eventId)) = false := by
    cases hfp : plane.fingerprints.find? (e.fingerprint codec) with
    | none => rfl
    | some id => simp [hp.single hsep he hid hfp]
  unfold ingest
  rw [if_neg (not_not.mpr hid), hx]
  simp only [hsingle, Bool.false_eq_true, if_false]

lemma Sound.fresh (hp : Sound codec known plane) (he : known e)
    (hid : e.eventId = expectedId codec e) (hx : plane.events.find? e.eventId = none) :
    Sound codec known
      ⟨plane.events.set e.eventId e, plane.fingerprints.set (e.fingerprint codec) e.eventId⟩ where
  stored id a ha := by
    rcases Dict.find?_set_eq_some ha with ⟨rfl, rfl⟩ | ha
    · exact ⟨rfl, hid, he⟩
    · exact hp.stored id a ha
  recorded fp id h := by
    rcases Dict.find?_set_eq_some h with ⟨rfl, rfl⟩ | h
    · exact ⟨e, Dict.find?_set_self _ _ _, rfl⟩
    · obtain ⟨a, ha, hfp⟩ := hp.recorded fp id h
      refine ⟨a, ?_, hfp⟩
      have hne : id ≠ e.eventId := by
        rintro rfl
        rw [hx] at ha
        cases ha
      rw [Dict.find?_set_of_ne _ _ hne]
      exact ha

end Ingest

end SecurityEventPlane

namespace IngestCall

variable {codec : Codec} {reader : Reader} {known : SecurityEvent → Prop}
  {plane : SecurityEventPlane} {call : IngestCall} {calls : List IngestCall}

/-- A call does to the plane what its event does to the journal of the plane's events. -/
lemma exec_refines (hsep : Separates codec known) (hp : plane.Sound codec known)
    (hknown : ∀ e, call.event codec reader = .ok e → known e) :
    (call.exec codec reader plane).1 = call.outcome codec reader
        (Journal.record (admitted codec reader) SecurityEvent.eventId (SecurityEvent.fingerprint codec)
          call plane.events).1 ∧
      (call.exec codec reader plane).2.events =
        (Journal.record (admitted codec reader) SecurityEvent.eventId (SecurityEvent.fingerprint codec)
          call plane.events).2 ∧
      (call.exec codec reader plane).2.Sound codec known := by
  cases hevent : call.event codec reader with
  | error x =>
    have hnone : call.admitted codec reader = none := by simp only [admitted, hevent]
    rw [exec_of_error hevent, Journal.record, hnone]
    exact ⟨by simp only [outcome, hevent], rfl, hp⟩
  | ok e =>
    have he := hknown e hevent
    rw [exec_of_event hevent]
    by_cases hid : e.eventId = SecurityEventPlane.expectedId codec e
    · have hsome : call.admitted codec reader = some e := admitted_eq_some.mpr ⟨hevent, hid⟩
      rw [Journal.record, hsome]
      simp only [Journal.keep]
      cases hx : plane.events.find? e.eventId with
      | none =>
        rw [SecurityEventPlane.ingest_fresh hsep hp he hid hx]
        exact ⟨by simp only [outcome, hevent, Journal.answer], rfl, hp.fresh he hid hx⟩
      | some x =>
        rw [SecurityEventPlane.ingest_kept hid hx]
        by_cases hfp : x.fingerprint codec = e.fingerprint codec
        · have hanswer : Journal.answer (SecurityEvent.fingerprint codec) e (some x) = .duplicate x :=
            if_pos hfp
          rw [if_pos hfp, hanswer]
          exact ⟨by simp only [outcome, hevent], rfl, hp⟩
        · have hanswer : Journal.answer (SecurityEvent.fingerprint codec) e (some x) = .conflict :=
            if_neg hfp
          rw [if_neg hfp, hanswer]
          exact ⟨by simp only [outcome, hevent], rfl, hp⟩
    · have hnone : call.admitted codec reader = none := by simp only [admitted, hevent, if_neg hid]
      rw [SecurityEventPlane.ingest_misnamed hid, Journal.record, hnone]
      exact ⟨by simp only [outcome, hevent], rfl, hp⟩

/-- So a run of calls is a run of the journal. -/
theorem run_refines (hsep : Separates codec known) (hp : plane.Sound codec known)
    (hknown : ∀ call ∈ calls, ∀ e, call.event codec reader = .ok e → known e) :
    outcomes codec reader calls plane =
        (transcript codec reader calls plane.events).map
          (fun r => (r.1, r.1.outcome codec reader r.2)) ∧
      (after codec reader calls plane).events = Journal.keepAll SecurityEvent.eventId
        (calls.filterMap (admitted codec reader)) plane.events ∧
      (after codec reader calls plane).Sound codec known := by
  induction calls generalizing plane with
  | nil => exact ⟨rfl, rfl, hp⟩
  | cons call calls ih =>
    obtain ⟨hanswer, hevents, hsound⟩ := exec_refines hsep hp (hknown call List.mem_cons_self)
    obtain ⟨houtcomes, hkept, hafter⟩ := ih hsound fun c hc => hknown c (List.mem_cons_of_mem call hc)
    refine ⟨?_, ?_, hafter⟩
    · simp only [outcomes, transcript, Journal.transcript, List.map_cons, hanswer, houtcomes, hevents]
    · rw [after, hkept, hevents, Journal.record]
      cases haccept : call.admitted codec reader with
      | none => simp only [List.filterMap_cons, haccept]
      | some e => simp only [List.filterMap_cons, haccept, Journal.keepAll]

end IngestCall

end SecScanMonitor.ContinuousSecurity
