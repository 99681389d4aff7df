import SecScanMonitor.ContinuousSecurity.EventPlane

/-! What holds of the event plane after any sequence of ingests: its events have their derived ids,
replays change nothing, and without conflicts the order of arrival does not matter. -/

namespace SecScanMonitor.ContinuousSecurity

open Foundations Domain DetectionResponse

namespace SecurityEventPlane

section Order

instance : Std.Total before where
  total a b := by
    have hid := String.le_total a.eventId b.eventId
    unfold before
    rcases lt_trichotomy a.occurredAt b.occurredAt with h | h | h
    · exact Or.inl (Or.inl h)
    · rcases lt_trichotomy a.observedAt b.observedAt with h' | h' | h'
      · exact Or.inl (Or.inr ⟨h, Or.inl h'⟩)
      · rcases hid with hle | hle
        · exact Or.inl (Or.inr ⟨h, Or.inr ⟨h', hle⟩⟩)
        · exact Or.inr (Or.inr ⟨h.symm, Or.inr ⟨h'.symm, hle⟩⟩)
      · exact Or.inr (Or.inr ⟨h.symm, Or.inl h'⟩)
    · exact Or.inr (Or.inl h)

instance : IsTrans SecurityEvent before where
  trans a b c hab hbc := by
    unfold before at *
    rcases hab with h | ⟨h, h' | ⟨h', hle⟩⟩
    · rcases hbc with k | ⟨k, -⟩
      · exact Or.inl (h.trans k)
      · exact Or.inl (k ▸ h)
    · rcases hbc with k | ⟨k, k' | ⟨k', -⟩⟩
      · exact Or.inl (h ▸ k)
      · exact Or.inr ⟨h.trans k, Or.inl (h'.trans k')⟩
      · exact Or.inr ⟨h.trans k, Or.inl (k' ▸ h')⟩
    · rcases hbc with k | ⟨k, k' | ⟨k', hle'⟩⟩
      · exact Or.inl (h ▸ k)
      · exact Or.inr ⟨h.trans k, Or.inl (h' ▸ k')⟩
      · exact Or.inr ⟨h.trans k, Or.inr ⟨h'.trans k', String.le_trans hle hle'⟩⟩

lemma eventId_of_before {a b : SecurityEvent} (h : before a b) (h' : before b a) :
    a.eventId = b.eventId := by
  unfold before at h h'
  rcases h with h | ⟨h, k | ⟨k, hle⟩⟩
  · rcases h' with h' | ⟨h', -⟩
    · exact absurd h' (lt_asymm h)
    · exact absurd h' h.ne'
  · rcases h' with h' | ⟨-, k' | ⟨k', -⟩⟩
    · exact absurd h h'.ne'
    · exact absurd k' (lt_asymm k)
    · exact absurd k' k.ne'
  · rcases h' with h' | ⟨-, k' | ⟨-, hle'⟩⟩
    · exact absurd h h'.ne'
    · exact absurd k k'.ne'
    · exact String.le_antisymm hle hle'

/-- Two lists of the same events, told apart by their ids, are listed alike. -/
lemma sort_eq_of_perm {l m : List SecurityEvent} (hp : l.Perm m)
    (hl : (l.map (·.eventId)).Nodup) : l.insertionSort before = m.insertionSort before := by
  have hsorted := (List.perm_insertionSort before l).trans
    (hp.trans (List.perm_insertionSort before m).symm)
  refine hsorted.eq_of_pairwise ?_ (List.pairwise_insertionSort before l)
    (List.pairwise_insertionSort before m)
  intro a b ha hb hab hba
  have ha' := (List.mem_insertionSort before).mp ha
  have hb' := hp.mem_iff.mpr ((List.mem_insertionSort before).mp hb)
  exact List.inj_on_of_nodup_map hl ha' hb' (eventId_of_before hab hba)

end Order

section Listing

variable {codec : Codec} {known : SecurityEvent → Prop} {plane plane' : SecurityEventPlane}

lemma Sound.values_nodup (hp : plane.Sound codec known) :
    ((plane.events.values.map SecurityEvent.withoutArrival).map (·.eventId)).Nodup := by
  have hkeys : (plane.events.values.map SecurityEvent.withoutArrival).map (·.eventId) =
      plane.events.rows.map Prod.fst := by
    rw [Dict.values, List.map_map, List.map_map, List.map_inj_left]
    rintro ⟨id, e⟩ hmem
    exact (hp.stored id e (Dict.find?_eq_some_iff.mpr hmem)).1
  rw [hkeys]
  exact plane.events.nodup

/-- Planes that hold the same contents under the same ids list the same. -/
lemma listed_eq (hp : plane.Sound codec known) (hp' : plane'.Sound codec known)
    (h : ∀ id, (plane.events.find? id).map SecurityEvent.withoutArrival =
      (plane'.events.find? id).map SecurityEvent.withoutArrival) (tenant case_ : Option String) :
    (plane.listed tenant case_).map SecurityEvent.withoutArrival =
      (plane'.listed tenant case_).map SecurityEvent.withoutArrival := by
  have hperm : (plane.events.values.map SecurityEvent.withoutArrival).Perm
      (plane'.events.values.map SecurityEvent.withoutArrival) := by
    refine (List.perm_ext_iff_of_nodup (hp.values_nodup.of_map _) (hp'.values_nodup.of_map _)).mpr ?_
    intro x
    have hmem : ∀ p : SecurityEventPlane, x ∈ p.events.values.map SecurityEvent.withoutArrival ↔
        ∃ id, (p.events.find? id).map SecurityEvent.withoutArrival = some x := by
      intro p
      simp only [List.mem_map, Dict.mem_values_iff_find?, Option.map_eq_some_iff]
      constructor
      · rintro ⟨e, ⟨id, hid⟩, rfl⟩
        exact ⟨id, e, hid, rfl⟩
      · rintro ⟨id, e, hid, rfl⟩
        exact ⟨e, ⟨id, hid⟩, rfl⟩
    rw [hmem plane, hmem plane']
    simp only [h]
  have hlisted : ∀ p : SecurityEventPlane,
      (p.listed tenant case_).map SecurityEvent.withoutArrival =
        ((p.events.values.map SecurityEvent.withoutArrival).filter fun e =>
          tenant.all (fun t => e.scope.tenantId = t) &&
            case_.all (fun c => e.scope.caseId = c)).insertionSort before := by
    intro p
    rw [listed, List.filter_map]
    exact List.map_insertionSort before before SecurityEvent.withoutArrival _ fun _ _ _ _ => Iff.rfl
  rw [hlisted, hlisted]
  refine sort_eq_of_perm (hperm.filter _) ?_
  exact hp.values_nodup.sublist (List.filter_sublist.map _)

end Listing

end SecurityEventPlane

namespace IngestCall

variable (codec : Codec) (reader : Reader)

/-- No call of the sequence meets an identity conflict. -/
def ConflictFree (calls : List IngestCall) : Prop :=
  ∀ r ∈ outcomes codec reader calls SecurityEventPlane.empty, ∀ message,
    r.2 ≠ raise .eventIdentityConflict message

/-- The plane after a sequence of calls. -/
abbrev planeOf (calls : List IngestCall) : SecurityEventPlane :=
  after codec reader calls SecurityEventPlane.empty

variable {codec : Codec} {reader : Reader} {known : SecurityEvent → Prop} {calls calls' : List IngestCall}

section Conflicts

variable (hsep : Separates codec known)
  (hknown : ∀ call ∈ calls, ∀ e, call.event codec reader = .ok e → known e)

include hsep hknown

lemma conflictFree_iff : ConflictFree codec reader calls ↔
    (∀ call ∈ calls, ∀ message, call.event codec reader ≠ raise .eventIdentityConflict message) ∧
      (∀ call ∈ calls, ∀ e, call.event codec reader = .ok e →
        e.eventId = SecurityEventPlane.expectedId codec e) ∧
      Journal.Consistent SecurityEvent.eventId (SecurityEvent.fingerprint codec)
        (calls.filterMap (admitted codec reader)) := by
  have houtcomes := (run_refines hsep .empty hknown).1
  rw [ConflictFree, houtcomes, ← Journal.conflictFree_iff]
  simp only [List.forall_mem_map]
  have hcall : ∀ call ∈ calls, ∃ answer,
      (call, answer) ∈ transcript codec reader calls SecurityEventPlane.empty.events := by
    intro call hmem
    have hfst : (transcript codec reader calls SecurityEventPlane.empty.events).map Prod.fst = calls :=
      Journal.transcript_fst calls _
    rw [← hfst] at hmem
    obtain ⟨⟨c, answer⟩, hr, rfl⟩ := List.mem_map.mp hmem
    exact ⟨answer, hr⟩
  constructor
  · intro h
    refine ⟨?_, ?_, ?_⟩
    · intro call hmem message hevent
      obtain ⟨answer, hr⟩ := hcall call hmem
      apply h _ hr message
      simp only [outcome, hevent, raise]
    · intro call hmem e hevent
      by_contra hid
      obtain ⟨answer, hr⟩ := hcall call hmem
      have hnone : call.admitted codec reader = none := by simp only [admitted, hevent, if_neg hid]
      obtain rfl : answer = .refused := (Journal.refused_iff hr).mpr hnone
      apply h _ hr "event_id does not match deterministic event identity"
      simp only [outcome, hevent]
    · intro r hr hanswer
      cases hevent : r.1.event codec reader with
      | error x =>
        have hnone : r.1.admitted codec reader = none := by simp only [admitted, hevent]
        rw [(Journal.refused_iff hr).mpr hnone] at hanswer
        cases hanswer
      | ok e =>
        apply h r hr ("event identity " ++ e.eventId ++ " was reused for different content")
        simp only [outcome, hevent, hanswer]
  · rintro ⟨herror, hnamed, hanswers⟩ r hr message hraise
    have hmem := Journal.mem_transcript hr
    cases hevent : r.1.event codec reader with
    | error x =>
      simp only [outcome, hevent] at hraise
      rw [Except.error.inj hraise] at hevent
      exact herror r.1 hmem message hevent
    | ok e =>
      have hsome := admitted_eq_some.mpr ⟨hevent, hnamed r.1 hmem e hevent⟩
      cases hanswer : r.2 with
      | refused =>
        rw [(Journal.refused_iff hr).mp hanswer] at hsome
        cases hsome
      | created kept =>
        simp only [outcome, hevent, hanswer] at hraise
        cases hraise
      | duplicate kept =>
        simp only [outcome, hevent, hanswer] at hraise
        cases hraise
      | conflict => exact hanswers r hr hanswer

/-- The order of arrival does not matter without conflicts. -/
lemma ConflictFree.perm (hfree : ConflictFree codec reader calls) (hp : calls.Perm calls') :
    ConflictFree codec reader calls' ∧ ∀ tenant case_,
      ((planeOf codec reader calls').listed tenant case_).map SecurityEvent.withoutArrival =
        ((planeOf codec reader calls).listed tenant case_).map SecurityEvent.withoutArrival := by
  have hknown' : ∀ call ∈ calls', ∀ e, call.event codec reader = .ok e → known e :=
    fun call hmem => hknown call (hp.mem_iff.mpr hmem)
  obtain ⟨herror, hnamed, hconsistent⟩ := (conflictFree_iff hsep hknown).mp hfree
  have hadmitted := hp.filterMap (admitted codec reader)
  constructor
  · refine (conflictFree_iff hsep hknown').mpr ⟨?_, ?_, hconsistent.perm hadmitted⟩
    · exact fun call hmem => herror call (hp.mem_iff.mpr hmem)
    · exact fun call hmem => hnamed call (hp.mem_iff.mpr hmem)
  · intro tenant case_
    obtain ⟨-, hkept, hsound⟩ := run_refines hsep .empty hknown
    obtain ⟨-, hkept', hsound'⟩ := run_refines hsep .empty hknown'
    refine SecurityEventPlane.listed_eq hsound' hsound ?_ tenant case_
    intro id
    have hcontents := Journal.first_perm hadmitted hconsistent id
    have hfirst : ∀ {cs : List IngestCall} {events : Dict String SecurityEvent},
        events = Journal.keepAll SecurityEvent.eventId (cs.filterMap (admitted codec reader))
          SecurityEventPlane.empty.events →
        events.find? id = Journal.first SecurityEvent.eventId (cs.filterMap (admitted codec reader)) id := by
      rintro cs events rfl
      rw [Journal.find?_keepAll]
      rfl
    rw [← hfirst hkept, ← hfirst hkept'] at hcontents
    cases hx : (planeOf codec reader calls).events.find? id with
    | none =>
      rw [hx, Option.map_none, eq_comm, Option.map_eq_none_iff] at hcontents
      rw [hcontents]
    | some x =>
      rw [hx, Option.map_some, eq_comm, Option.map_eq_some_iff] at hcontents
      obtain ⟨y, hy, hfp⟩ := hcontents
      obtain ⟨hxid, -, hxknown⟩ := hsound.stored id x hx
      obtain ⟨hyid, -, hyknown⟩ := hsound'.stored id y hy
      rw [hy, Option.map_some, Option.map_some,
        hsep.withoutArrival hyknown hxknown (hyid.trans hxid.symm) hfp]

end Conflicts

/-- What holds after a sequence of calls. Of the events and calls that follow, those over known events
are meant. -/
structure PlaneLaws (codec : Codec) (reader : Reader) (known : SecurityEvent → Prop)
    (calls : List IngestCall) : Prop where
  derived : ∀ id e, (planeOf codec reader calls).events.find? id = some e →
    e.eventId = id ∧ id = SecurityEventPlane.expectedId codec e
  distinct : ∀ a ∈ (planeOf codec reader calls).events.values,
    ∀ b ∈ (planeOf codec reader calls).events.values, a.eventId = b.eventId → a = b
  duplicate : ∀ (call : IngestCall) (e x : SecurityEvent), call.event codec reader = .ok e → known e →
    (planeOf codec reader calls).events.find? e.eventId = some x →
    x.fingerprint codec = e.fingerprint codec →
    call.exec codec reader (planeOf codec reader calls) =
      (.ok ⟨x, false, true⟩, planeOf codec reader calls)
  conflict : ∀ (call : IngestCall) (e x : SecurityEvent), call.event codec reader = .ok e →
    (planeOf codec reader calls).events.find? e.eventId = some x →
    x.fingerprint codec ≠ e.fingerprint codec → ∃ message,
      call.exec codec reader (planeOf codec reader calls) =
        (raise .eventIdentityConflict message, planeOf codec reader calls)
  single : ∀ e, known e → ((planeOf codec reader calls).ingest codec e).1 ≠
    raise .eventIdentityConflict "same event payload was assigned multiple identities"
  permuted : ConflictFree codec reader calls → ∀ calls', calls.Perm calls' →
    ConflictFree codec reader calls' ∧ ∀ tenant case_,
      ((planeOf codec reader calls').listed tenant case_).map SecurityEvent.withoutArrival =
        ((planeOf codec reader calls).listed tenant case_).map SecurityEvent.withoutArrival

theorem planeLaws (hsep : Separates codec known)
    (hknown : ∀ call ∈ calls, ∀ e, call.event codec reader = .ok e → known e) :
    PlaneLaws codec reader known calls := by
  obtain ⟨-, -, hsound⟩ := run_refines hsep .empty hknown
  refine ⟨?_, ?_, ?_, ?_, ?_, fun hfree calls' hp => hfree.perm hsep hknown hp⟩
  · intro id e he
    obtain ⟨hid, hexpected, -⟩ := hsound.stored id e he
    exact ⟨hid, hexpected⟩
  · intro a ha b hb hid
    obtain ⟨k, hk⟩ := Dict.mem_values_iff_find?.mp ha
    obtain ⟨l, hl⟩ := Dict.mem_values_iff_find?.mp hb
    rw [← (hsound.stored k a hk).1] at hk
    rw [← (hsound.stored l b hl).1, ← hid, hk] at hl
    exact Option.some.inj hl
  · intro call e x hevent he hx hfp
    obtain ⟨hid, hexpected, hxknown⟩ := hsound.stored _ x hx
    have hnamed : e.eventId = SecurityEventPlane.expectedId codec e :=
      hexpected.trans (hsep.expectedId hxknown he hfp)
    rw [exec_of_event hevent, SecurityEventPlane.ingest_kept hnamed hx, if_pos hfp]
  · intro call e x hevent hx hfp
    rw [exec_of_event hevent]
    by_cases hnamed : e.eventId = SecurityEventPlane.expectedId codec e
    · rw [SecurityEventPlane.ingest_kept hnamed hx, if_neg hfp]
      exact ⟨_, rfl⟩
    · rw [SecurityEventPlane.ingest_misnamed hnamed]
      exact ⟨_, rfl⟩
  · intro e he hraise
    by_cases hnamed : e.eventId = SecurityEventPlane.expectedId codec e
    · cases hx : (planeOf codec reader calls).events.find? e.eventId with
      | none =>
        rw [SecurityEventPlane.ingest_fresh hsep hsound he hnamed hx] at hraise
        cases hraise
      | some x =>
        rw [SecurityEventPlane.ingest_kept hnamed hx] at hraise
        split at hraise
        · cases hraise
        · have hmessage := congrArg String.toList (Raised.mk.inj (Except.error.inj hraise)).2
          simp only [String.toList_append] at hmessage
          exact absurd (congrArg List.head? hmessage) (by simp)
    · rw [SecurityEventPlane.ingest_misnamed hnamed] at hraise
      exact absurd (Raised.mk.inj (Except.error.inj hraise)).2 (by decide)

section Example

def sampleRecord : Raw :=
  [("source", .json (.str "agent")), ("source_record_id", .json (.str "R-1")),
    ("source_digest", .json (.str "d1")), ("collector_version", .json (.str "1")),
    ("source_type", .json (.str "log")), ("event_class", .json (.str "agent_activity")),
    ("occurred_at", .datetime true 0), ("observed_at", .datetime true 0),
    ("tenant", .json (.str "CL-1")), ("case", .json (.str "EN-1")),
    ("target", .json (.str "TG-1")), ("actor", .json (.str "svc")),
    ("object", .json (.str "tool")), ("action", .json (.str "invoke")),
    ("outcome", .json (.str "ok")), ("raw_evidence_ref", .json (.str "EV-1")),
    ("normalization_version", .json (.str "1"))]

def sampleReader : Reader := ⟨fun _ => "", fun _ _ => "", fun _ => none⟩

/-- The digests of the identity and of the content of the record. -/
def recordDigests : Codec where
  contentDigest
    | .obj [_, _, _, _] => "2e7d656e26cd336166fa1155f0ee57d0f3065cb20529a77a40046b894e3a76e9"
    | _ => "32609f0db66e86af5caa2c9997e4146bc75b0e5a2fabb8c0b833ec063a02477e"
  isoformat _ := "1970-01-01T00:00:00+00:00"
  dumpDatetime _ := "1970-01-01T00:00:00Z"

/-- The record arrives twice. -/
def recordCalls : List IngestCall := [.raw 5 sampleRecord, .raw 7 sampleRecord]

def recordEvents : List SecurityEvent :=
  recordCalls.filterMap (admitted recordDigests sampleReader)

lemma record_separates : Separates recordDigests (· ∈ recordEvents) := by
  have hdigest : ∀ a ∈ recordEvents, ∀ b ∈ recordEvents,
      a.fingerprint recordDigests = b.fingerprint recordDigests →
        a.canonicalDict recordDigests = b.canonicalDict recordDigests := by decide
  have hinstants : ∀ e ∈ recordEvents, e.occurredAt = 0 ∧ e.observedAt = 0 := by decide
  refine ⟨fun a b ha hb h => congrArg Value.sorted (hdigest a ha b hb h), ?_, ?_⟩
  · exact fun a b ha hb _ => (hinstants a ha).1.trans (hinstants b hb).1.symm
  · exact fun a b ha hb _ => (hinstants a ha).2.trans (hinstants b hb).2.symm

theorem record_planeLaws :
    ((planeOf recordDigests sampleReader recordCalls).listed none none).map
        (fun e => (e.eventId, e.ingestedAt)) =
          [("SE-2e7d656e26cd336166fa1155f0ee57d0", 5)] ∧
      PlaneLaws recordDigests sampleReader (· ∈ recordEvents) recordCalls := by
  refine ⟨by decide +kernel, planeLaws record_separates ?_⟩
  intro call hmem e hevent
  refine List.mem_filterMap.mpr ⟨call, hmem, admitted_eq_some.mpr ⟨hevent, ?_⟩⟩
  simp only [recordCalls, List.mem_cons, List.not_mem_nil, or_false] at hmem
  rcases hmem with rfl | rfl
  · exact (SecurityEventPlane.normalize_eq_ok hevent).1
  · exact (SecurityEventPlane.normalize_eq_ok hevent).1

end Example

end IngestCall

end SecScanMonitor.ContinuousSecurity
