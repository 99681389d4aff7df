import SecScanMonitor.Application.Dispatch
import SecScanMonitor.ContinuousSecurity.Ingestion
import SecScanMonitor.Persistence.DetectionLedger

/-! An engine is rebuilt from exactly the stored events of its scope. -/

namespace SecScanMonitor.Application

open Foundations Domain DetectionResponse ContinuousSecurity Persistence

variable {codec : Codec} {s : Scope}

lemma ingest_new {i i' : BoundedSecurityEventIngestor} {event : SecurityEvent} {r : EventIngestResult}
    (hnew : i.plane.events.find? event.eventId = none)
    (h : i.ingest codec event (some s) = .ok (r, i')) :
    i'.plane.events = i.plane.events.set event.eventId event := by
  obtain ⟨-, -, h⟩ := bind_eq_ok.mp h
  obtain ⟨-, -, h⟩ := bind_eq_ok.mp h
  split at h
  · rename_i result plane hplane
    obtain ⟨-, rfl⟩ := Prod.mk.inj (Except.ok.inj h)
    have hingested := SecurityEventPlane.ingest_ingested codec i.plane event
    rw [hplane] at hingested
    exact hingested.set hnew rfl
  · cases h

lemma ingest_scope {i i' : BoundedSecurityEventIngestor} {event : SecurityEvent}
    {scope : Option Scope} {r : EventIngestResult} (h : i.ingest codec event scope = .ok (r, i')) :
    i'.scope = i.scope := by
  obtain ⟨-, -, h⟩ := bind_eq_ok.mp h
  obtain ⟨-, -, h⟩ := bind_eq_ok.mp h
  split at h
  · obtain ⟨-, rfl⟩ := Prod.mk.inj (Except.ok.inj h)
    rfl
  · cases h

lemma ingestAll_scope {events : List SecurityEvent} {i i' : BoundedSecurityEventIngestor}
    (h : ingestAll codec s events i = .ok i') : i'.scope = i.scope := by
  induction events generalizing i with
  | nil =>
    obtain rfl := Except.ok.inj h
    rfl
  | cons event events ih =>
    obtain ⟨⟨r, i₁⟩, hfirst, h⟩ := bind_eq_ok.mp h
    exact (ih h).trans (ingest_scope hfirst)

/-- Events of distinct ids are held as they were given. -/
lemma ingestAll_find {events : List SecurityEvent} {i i' : BoundedSecurityEventIngestor}
    (hids : (events.map (·.eventId)).Nodup)
    (hnew : ∀ e ∈ events, i.plane.events.find? e.eventId = none)
    (h : ingestAll codec s events i = .ok i') :
    ∀ id e, i'.plane.events.find? id = some e ↔
      i.plane.events.find? id = some e ∨ e ∈ events ∧ e.eventId = id := by
  induction events generalizing i with
  | nil =>
    obtain rfl := Except.ok.inj h
    intro id e
    simp
  | cons event events ih =>
    obtain ⟨⟨r, i₁⟩, hfirst, h⟩ := bind_eq_ok.mp h
    obtain ⟨hhead, htail⟩ := List.nodup_cons.mp hids
    have hset := ingest_new (hnew event List.mem_cons_self) hfirst
    have hne : ∀ e ∈ events, e.eventId ≠ event.eventId := by
      intro e he hid
      apply hhead
      exact List.mem_map.mpr ⟨e, he, hid⟩
    have hnew₁ : ∀ e ∈ events, i₁.plane.events.find? e.eventId = none := by
      intro e he
      rw [hset, Dict.find?_set_of_ne _ _ (hne e he)]
      exact hnew e (List.mem_cons_of_mem event he)
    intro id e
    rw [ih htail hnew₁ h, hset, List.mem_cons]
    by_cases hid : id = event.eventId
    · subst hid
      rw [Dict.find?_set_self, hnew event List.mem_cons_self]
      constructor
      · rintro (hself | ⟨he, hid⟩)
        · obtain rfl := Option.some.inj hself
          exact Or.inr ⟨Or.inl rfl, rfl⟩
        · exact Or.inr ⟨Or.inr he, hid⟩
      · rintro (hnone | ⟨rfl | he, hid⟩)
        · cases hnone
        · exact Or.inl rfl
        · exact Or.inr ⟨he, hid⟩
    · rw [Dict.find?_set_of_ne _ _ hid]
      constructor
      · rintro (hold | ⟨he, heid⟩)
        · exact Or.inl hold
        · exact Or.inr ⟨Or.inr he, heid⟩
      · rintro (hold | ⟨rfl | he, heid⟩)
        · exact Or.inl hold
        · exact absurd heid.symm hid
        · exact Or.inr ⟨he, heid⟩

lemma mem_eventsIn {rows : List SecurityEvent} {e : SecurityEvent} :
    e ∈ eventsIn s rows ↔ e ∈ rows ∧ e.scope = s := by
  simp [eventsIn]

lemma eventsIn_nodup {rows : List SecurityEvent} (h : (rows.map (·.eventId)).Nodup) :
    ((eventsIn s rows).map (·.eventId)).Nodup := by
  have hperm := (List.perm_insertionSort DetectionEngine.occurredBefore
    (rows.filter fun e => e.scope = s)).map (·.eventId)
  refine hperm.nodup_iff.mpr ?_
  exact h.sublist ((List.filter_sublist (l := rows)).map (·.eventId))

lemma rebuilt_events {rows events : List SecurityEvent} {i : BoundedSecurityEventIngestor}
    (hrows : (rows.map (·.eventId)).Nodup)
    (h : ingestAll codec s (eventsIn s rows) ⟨SecurityEventPlane.empty, some s⟩ = .ok i)
    (hread : i.events (some s) = .ok events) (e : SecurityEvent) :
    e ∈ events ↔ e ∈ rows ∧ e.scope = s := by
  have hfind := ingestAll_find (eventsIn_nodup hrows) (fun _ _ => rfl) h
  rw [BoundedSecurityEventIngestor.mem_events hread]
  have hvalue : (∃ k, i.plane.events.find? k = some e) ↔ e ∈ rows ∧ e.scope = s := by
    constructor
    · rintro ⟨k, hk⟩
      rcases (hfind k e).mp hk with hempty | ⟨he, -⟩
      · cases hempty
      · exact mem_eventsIn.mp he
    · intro he
      exact ⟨e.eventId, (hfind e.eventId e).mpr (Or.inr ⟨mem_eventsIn.mpr he, rfl⟩)⟩
  rw [hvalue]
  exact ⟨fun h => h.1, fun h => ⟨h, h.2⟩⟩

/-- The event lists that engines of the scope can have read while the store grew to `rows`. -/
def Readings (codec : Codec) (s : Scope) (rows : List SecurityEvent) : History := fun events =>
  ∃ stored, stored <:+ rows ∧ ∃ i,
    ingestAll codec s (eventsIn s stored) ⟨SecurityEventPlane.empty, some s⟩ = .ok i ∧
      i.events (some s) = .ok events

lemma Readings.mono {rows rows' : List SecurityEvent} (h : rows <:+ rows')
    (events : List SecurityEvent) (hevents : Readings codec s rows events) :
    Readings codec s rows' events := by
  obtain ⟨stored, hstored, hread⟩ := hevents
  exact ⟨stored, hstored.trans h, hread⟩

lemma readings_mem {rows events : List SecurityEvent} (hrows : (rows.map (·.eventId)).Nodup)
    (h : Readings codec s rows events) {e : SecurityEvent} (he : e ∈ events) : e ∈ rows := by
  obtain ⟨stored, hstored, i, hingest, hread⟩ := h
  have hids : (stored.map (·.eventId)).Nodup := hrows.sublist (hstored.sublist.map (·.eventId))
  exact hstored.mem ((rebuilt_events hids hingest hread e).mp he).1

/-- What the database makes of rule versions and events is determined by their keys. -/
lemma named_of_tables {db : Database} :
    Named (rulesOf db) (Readings codec s db.securityEvents.rows) where
  rule := by
    intro v hv w hw hid hversion
    obtain ⟨a, ha, rfl⟩ := List.mem_map.mp hv
    obtain ⟨b, hb, rfl⟩ := List.mem_map.mp hw
    rw [Table.eq_of_key_eq ha hb (Prod.ext hid hversion)]
  event := by
    intro a b ha hb e he e' he' hid
    have hnodup := db.securityEvents.nodup
    exact Table.eq_of_key_eq (t := db.securityEvents) (readings_mem hnodup ha he)
      (readings_mem hnodup hb he') hid

/-- A rebuilt engine is an engine over a reading of the store. -/
lemma rebuild_eq_ok {engine : DetectionEngine} {events : List SecurityEvent} {clock : ℕ → Datetime}
    (h : rebuild codec s events clock = .ok engine) :
    ∃ i read, ingestAll codec s events ⟨SecurityEventPlane.empty, some s⟩ = .ok i ∧
      i.events (some s) = .ok read ∧ engine = DetectionEngine.init i (some s) clock := by
  obtain ⟨i, hi, h⟩ := bind_eq_ok.mp h
  obtain rfl := Except.ok.inj h
  have hscope : i.requireScope s = .ok () := by
    rw [BoundedSecurityEventIngestor.requireScope, ingestAll_scope hi]
    exact raiseIf_eq_ok.mpr (by simp)
  have hread : ∃ read, i.events (some s) = .ok read := by
    unfold BoundedSecurityEventIngestor.events
    exact ⟨_, orRaise_bind_eq_ok.mpr ⟨s, rfl, bind_eq_ok.mpr ⟨(), hscope, rfl⟩⟩⟩
  obtain ⟨read, hread⟩ := hread
  exact ⟨i, read, hi, hread, rfl⟩

section Detect

variable {render : Value → String} {rules : List DetectionRuleVersion} {history : History}
  {engine engine' : DetectionEngine}

/-- What a dispatch takes out of the engine after one run. -/
structure Detected (codec : Codec) (render : Value → String) (s : Scope)
    (rules : List DetectionRuleVersion) (history : History) (v : DetectionRuleVersion)
    (events : List SecurityEvent) (out : Outputs) : Prop where
  run : ∃ started completed,
    out.run = runOf codec render s v (sourcesOf v events) started completed
  evaluations : ∀ x ∈ out.evaluations, IsEvaluation codec render s rules history x ∧
    x.runId = out.run.runId ∧ x.scope = s
  signals : ∀ x ∈ out.signals, IsSignal codec render s rules history x ∧ x.scope = s
  listed : ∀ id ∈ out.run.signalIds, ∃ x ∈ out.signals, x.signalId = id

lemma detect_canonical (hfree : CollisionFree codec render s rules history)
    (hnamed : Named rules history) {rule : DetectionRule} {plan : DetectionPlan} {out : Outputs}
    (hc : Canonical codec render s rules history engine) (hrule : rule.active ∈ rules)
    (htype : rule.active.ruleType = .eventMatch)
    (h : detect codec render s rule plan engine = .ok (out, engine')) :
    Canonical codec render s rules history engine' ∧ engine'.events = engine.events ∧
      ∃ events, history events ∧ engine.events.events (some s) = .ok events ∧
        Detected codec render s rules history rule.active events out := by
  obtain ⟨⟨p, engine₁⟩, hregister, h⟩ := bind_eq_ok.mp h
  obtain ⟨⟨run, engine₂⟩, hrun, h⟩ := bind_eq_ok.mp h
  obtain ⟨evaluations, hevaluations, h⟩ := bind_eq_ok.mp h
  obtain ⟨signals, hsignals, h⟩ := bind_eq_ok.mp h
  obtain ⟨rfl, rfl⟩ := Prod.mk.inj (Except.ok.inj h)
  obtain ⟨hc₁, hkept₁⟩ := hc.register hregister
  obtain ⟨hc₂, hkept₂, events, hhistory, hread, hrunOf⟩ :=
    run_canonical hfree hnamed hc₁ hrule htype hrun
  rw [hkept₁] at hread
  obtain ⟨hforth, hback⟩ := mapM_eq_ok hsignals
  refine ⟨hc₂, hkept₂.trans hkept₁, events, hhistory, hread, hrunOf, ?_, ?_, ?_⟩
  · intro x hx
    obtain ⟨hx, hid⟩ := List.mem_filter.mp hx
    obtain ⟨hx, hscope⟩ := hc₂.evaluationsOf hevaluations x hx
    exact ⟨hx, of_decide_eq_true hid, hscope⟩
  · intro x hx
    obtain ⟨id, -, hget⟩ := hback x hx
    obtain ⟨hx, -, hscope⟩ := hc₂.getSignal hget
    exact ⟨hx, hscope⟩
  · intro id hid
    obtain ⟨x, hx, hget⟩ := hforth id hid
    exact ⟨x, hx, (hc₂.getSignal hget).2.1⟩

end Detect

end SecScanMonitor.Application
