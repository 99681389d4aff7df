import SecScanMonitor.ContinuousSecurity.Ingestion
import SecScanMonitor.DetectionResponse.Incremental
import SecScanMonitor.Foundations.History

/-! Events arrive and EVENT_MATCH rules are run in any order. What the engine has stored stays, a run
over the events of an earlier run is that run, and after a run the signals of the rule are those of the
events that match it. -/

namespace SecScanMonitor.DetectionResponse

open Foundations Domain ContinuousSecurity DetectionEngine

/-- An event arrives at the plane itself or through the engine's view of it; a rule is run. -/
inductive DetectionCall where
  | arrive (event : SecurityEvent)
  | ingest (event : SecurityEvent) (scope : Option Scope)
  | run (rule : DetectionRule)

inductive DetectionAnswer where
  | arrived (result : Except Raised EventIngestResult)
  | ran (result : Except Raised DetectionRun)

namespace DetectionCall

variable (codec : Codec) (render : Value → String) (s : Scope)

def exec : DetectionCall → DetectionEngine → DetectionAnswer × DetectionEngine
  | .arrive event, engine =>
    let r := engine.events.plane.ingest codec event
    (.arrived r.1, { engine with events := { engine.events with plane := r.2 } })
  | .ingest event scope, engine =>
    match engine.events.ingest codec event scope with
    | .ok (result, events) => (.arrived (.ok result), { engine with events })
    | .error e => (.arrived (.error e), engine)
  | .run rule, engine =>
    let r := perform codec render (.rule rule) (some s) none engine
    (.ran r.1, r.2)

end DetectionCall

abbrev DetectionEntry := Entry DetectionCall DetectionEngine DetectionAnswer

/-- The event lists that the engine could read in scope so far. -/
def readings (s : Scope) (es : List DetectionEntry) (engine : DetectionEngine) : History :=
  fun events => ∃ x, (x = engine ∨ ∃ e ∈ es, x = e.before) ∧ x.events.events (some s) = .ok events

/-- The events of the scope that a version's plan takes and matches. -/
def detected (render : Value → String) (s : Scope) (v : DetectionRuleVersion)
    (plane : SecurityEventPlane) : List SecurityEvent :=
  plane.events.values.filter fun e => decide (e.scope = s) &&
    decide (e.sourceFamily ∈ v.supportedSourceFamilies) && (verdict render v e).1

/-- The signals of the version in scope are the matching events, one for each. -/
def Exact (render : Value → String) (s : Scope) (v : DetectionRuleVersion)
    (engine : DetectionEngine) : Prop :=
  ((detected render s v engine.events.plane).map (·.eventId)).Nodup ∧
    ∃ signals, engine.signalsOf (some s) = .ok signals ∧
      ((signals.filter fun x => decide (x.ruleId = v.ruleId) && decide (x.ruleVersion = v.version)).map
          fun x => (x.eventIds, x.matchedPredicates, x.rawEvidenceRefs)).Perm
        ((detected render s v engine.events.plane).map
          fun e => ([e.eventId], (verdict render v e).2, [e.rawEvidenceRef]))

section Ingest

variable {codec : Codec} {i i' : BoundedSecurityEventIngestor}
  {event : SecurityEvent} {scope : Option Scope} {r : EventIngestResult}

lemma ingest_plane (h : i.ingest codec event scope = .ok (r, i')) :
    i' = { i with plane := (i.plane.ingest codec event).2 } := by
  obtain ⟨-, -, h⟩ := bind_eq_ok.mp h
  obtain ⟨-, -, h⟩ := bind_eq_ok.mp h
  cases hplane : i.plane.ingest codec event with
  | mk result plane' =>
    rw [hplane] at h
    cases result with
    | ok result =>
      obtain ⟨rfl, rfl⟩ := Prod.mk.inj (Except.ok.inj h)
      rfl
    | error e => cases h

end Ingest

section Step

variable {codec : Codec} {render : Value → String} {s : Scope} {rules : List DetectionRuleVersion}
  {history history' : History} {engine engine' : DetectionEngine} {rule : DetectionRule}
  {v : DetectionRuleVersion} {call : DetectionCall}

lemma Maintained.mono (h : Maintained codec render s rules history engine)
    (hle : ∀ a, history a → history' a) : Maintained codec render s rules history' engine :=
  ⟨h.canonical.mono hle, h.registered, h.paired, h.completed, h.keyed⟩

/-- The records are the same over another plane that reads like it. -/
lemma Maintained.arrive (h : Maintained codec render s rules history engine)
    {events : BoundedSecurityEventIngestor} {read : List SecurityEvent}
    (hread : events.events (some s) = .ok read) (hhistory : history read)
    (hkeyed : ∀ id e, events.plane.events.find? id = some e → e.eventId = id) :
    Maintained codec render s rules history { engine with events } where
  canonical := ⟨h.canonical.scope, h.canonical.version, ⟨read, hhistory, hread⟩,
    h.canonical.evaluations, h.canonical.signals, h.canonical.runs⟩
  registered := ⟨h.registered.rule, h.registered.plan⟩
  paired := h.paired
  completed := h.completed
  keyed := hkeyed

variable (codec render s engine call) in
/-- A call is a run, or it brings the plane at most one event. -/
lemma exec_events : (∃ rule, call = .run rule) ∨ (∀ rule, call ≠ .run rule) ∧ ∃ plane,
    (call.exec codec render s engine).2 = { engine with events := { engine.events with plane } } ∧
      (plane = engine.events.plane ∨ ∃ e, plane = (engine.events.plane.ingest codec e).2) := by
  cases call with
  | arrive event => exact Or.inr ⟨by simp, _, rfl, Or.inr ⟨event, rfl⟩⟩
  | ingest event scope =>
    refine Or.inr ⟨by simp, ?_⟩
    rw [DetectionCall.exec]
    cases hingest : engine.events.ingest codec event scope with
    | error e => exact ⟨engine.events.plane, rfl, Or.inl rfl⟩
    | ok r =>
      refine ⟨(engine.events.plane.ingest codec event).2, ?_, Or.inr ⟨event, rfl⟩⟩
      obtain ⟨result, i'⟩ := r
      rw [ingest_plane hingest]
  | run rule => exact Or.inl ⟨rule, rfl⟩

variable (hfree : CollisionFree codec render s rules history) (hnamed : Named rules history)

include hfree hnamed

/-- After a run every signal of the version is of a matching event, and every matching event has one. -/
lemma exact_of_signals (hm : Maintained codec render s rules history engine) (hv : v ∈ rules)
    (hgrown : ∀ a, history a → ∀ e ∈ a,
      engine.events.plane.events.find? e.eventId = some e ∧ e.scope = s)
    {events : List SecurityEvent} (hread : engine.events.events (some s) = .ok events)
    (hsignals : ∀ e ∈ sourcesOf v events, (verdict render v e).1 = true →
      (engine.signals.find? (signalIdOf codec s v e)).isSome) : Exact render s v engine := by
  have hmem : ∀ e, e ∈ detected render s v engine.events.plane ↔
      e ∈ sourcesOf v events ∧ (verdict render v e).1 = true := by
    intro e
    rw [detected, List.mem_filter, sourcesOf, List.mem_filter,
      BoundedSecurityEventIngestor.mem_events hread, Dict.mem_values_iff_find?]
    simp only [Bool.and_eq_true, decide_eq_true_eq, and_assoc]
  have hids : ((detected render s v engine.events.plane).map (·.eventId)).Nodup := by
    have hkeys : engine.events.plane.events.values.map (·.eventId) =
        engine.events.plane.events.rows.map Prod.fst := by
      rw [Dict.values, List.map_map, List.map_inj_left]
      rintro ⟨id, e⟩ he
      exact hm.keyed id e (Dict.find?_eq_some_iff.mpr he)
    have hall : (engine.events.plane.events.values.map (·.eventId)).Nodup := by
      rw [hkeys]
      exact engine.events.plane.events.nodup
    exact hall.sublist (List.filter_sublist.map _)
  have hrequire := requireScope_of hm.canonical.scope
  refine ⟨hids, _, orRaise_bind_eq_ok.mpr ⟨s, rfl, bind_eq_ok.mpr ⟨(), hrequire, rfl⟩⟩, ?_⟩
  have hsignal : ∀ x, x ∈ engine.signals.values → x.ruleId = v.ruleId → x.ruleVersion = v.version →
      ∃ e ∈ detected render s v engine.events.plane, ∃ at_, x = signalOf codec render s v e at_ := by
    intro x hx hid hversion
    obtain ⟨k, hk⟩ := Dict.mem_values_iff_find?.mp hx
    obtain ⟨-, w, sources, hinput, e, he, hmatch, at_, rfl⟩ := hm.canonical.signals k x hk
    obtain rfl := hnamed.rule w hinput.rule v hv hid hversion
    obtain ⟨read, hhistory, rfl⟩ := hinput.read
    obtain ⟨hmem_read, hfamily⟩ := List.mem_filter.mp he
    refine ⟨e, (hmem e).mpr ⟨List.mem_filter.mpr ⟨?_, hfamily⟩, hmatch⟩, at_, rfl⟩
    obtain ⟨hfind, hscope⟩ := hgrown read hhistory e hmem_read
    exact (BoundedSecurityEventIngestor.mem_events hread).mpr ⟨⟨_, hfind⟩, hscope⟩
  have hvalues : (engine.signals.values.map (·.signalId)).Nodup := by
    have hkeys : engine.signals.values.map (·.signalId) = engine.signals.rows.map Prod.fst := by
      rw [Dict.values, List.map_map, List.map_inj_left]
      rintro ⟨id, x⟩ hx
      exact (hm.canonical.signals id x (Dict.find?_eq_some_iff.mpr hx)).1
    rw [hkeys]
    exact engine.signals.nodup
  have hlisted : ∀ x, x ∈ ((engine.signals.values.filter fun x => decide (x.scope = s)).insertionSort
      fun a b => a.signalId ≤ b.signalId).filter (fun x => decide (x.ruleId = v.ruleId) &&
        decide (x.ruleVersion = v.version)) ↔
      x ∈ engine.signals.values ∧ x.scope = s ∧ x.ruleId = v.ruleId ∧ x.ruleVersion = v.version := by
    intro x
    rw [List.mem_filter, List.mem_insertionSort, List.mem_filter]
    simp only [Bool.and_eq_true, decide_eq_true_eq, and_assoc]
  refine (List.perm_ext_iff_of_nodup ?_ ?_).mpr ?_
  · refine List.Nodup.map_on ?_ ?_
    · intro x hx y hy hxy
      obtain ⟨hx, -, hxid, hxversion⟩ := (hlisted x).mp hx
      obtain ⟨hy, -, hyid, hyversion⟩ := (hlisted y).mp hy
      obtain ⟨e, he, at_, rfl⟩ := hsignal x hx hxid hxversion
      obtain ⟨e', he', at', rfl⟩ := hsignal y hy hyid hyversion
      have hevent : e.eventId = e'.eventId := (List.cons.inj (Prod.mk.inj hxy).1).1
      obtain rfl := List.inj_on_of_nodup_map hids he he' hevent
      exact List.inj_on_of_nodup_map hvalues hx hy rfl
    · have hsorted := (List.perm_insertionSort (fun a b : DetectionSignal => a.signalId ≤ b.signalId)
        (engine.signals.values.filter fun x => decide (x.scope = s))).nodup_iff.mpr
          (hvalues.of_map.filter _)
      exact hsorted.filter _
  · refine List.Nodup.map_on ?_ hids.of_map
    intro e he e' he' hee
    exact List.inj_on_of_nodup_map hids he he' (List.cons.inj (Prod.mk.inj hee).1).1
  · rintro ⟨ids, predicates, evidence⟩
    rw [List.mem_map, List.mem_map]
    constructor
    · rintro ⟨x, hx, hxeq⟩
      obtain ⟨hx, -, hxid, hxversion⟩ := (hlisted x).mp hx
      obtain ⟨e, he, at_, rfl⟩ := hsignal x hx hxid hxversion
      exact ⟨e, he, hxeq⟩
    · rintro ⟨e, he, heq⟩
      obtain ⟨hsource, hmatch⟩ := (hmem e).mp he
      obtain ⟨x, hx⟩ := Option.isSome_iff_exists.mp (hsignals e hsource hmatch)
      obtain ⟨hid, w, sources, hinput, e', he', -, at_, rfl⟩ := hm.canonical.signals _ x hx
      have hinput' : Input rules history v (sourcesOf v events) := by
        obtain ⟨read, hhistory, hread'⟩ := hm.canonical.read
        obtain rfl := Except.ok.inj (hread.symm.trans hread')
        exact ⟨hv, _, hhistory, rfl⟩
      obtain ⟨rfl, rfl⟩ := signal_identity hfree hnamed hinput hinput' he' hsource hid
      exact ⟨_, (hlisted _).mpr ⟨Dict.mem_values_iff_find?.mpr ⟨_, hx⟩, rfl, rfl, rfl⟩, heq⟩

end Step

/-- What a call does, told from the state that it finds. -/
structure DetectionStep (codec : Codec) (render : Value → String) (s : Scope) (e : DetectionEntry) :
    Prop where
  kept : Kept e.before (e.call.exec codec render s e.before).2
  returns : ∀ rule, e.call = .run rule → Admissible rule.active → ∃ r events,
    e.outcome = .ran (.ok r) ∧ e.before.events.events (some s) = .ok events ∧
      r.runId = runIdOf codec s rule.active (sourcesOf rule.active events) ∧
      (e.call.exec codec render s e.before).2.runs.find? r.runId = some r ∧
      Exact render s rule.active (e.call.exec codec render s e.before).2
  refused : ∀ rule, e.call = .run rule → ¬ Admissible rule.active → ∃ x,
    e.outcome = .ran (.error x) ∧ (e.call.exec codec render s e.before).2 = e.before

section History

variable {codec : Codec} {render : Value → String} {s : Scope} {rules : List DetectionRuleVersion}
  {start engine : DetectionEngine} {es : List DetectionEntry}

lemma readings_cons {call : DetectionCall} {a : List SecurityEvent}
    (h : readings s es engine a) : readings s
      (⟨call, engine, (call.exec codec render s engine).1⟩ :: es)
      (call.exec codec render s engine).2 a := by
  obtain ⟨x, hx, hread⟩ := h
  refine ⟨x, Or.inr ?_, hread⟩
  rcases hx with rfl | ⟨e, he, rfl⟩
  · exact ⟨_, List.mem_cons_self, rfl⟩
  · exact ⟨e, List.mem_cons_of_mem _ he, rfl⟩

/-- The events that were read are still there, so their ids tell them apart. -/
lemma readings_named
    (hrules : ∀ v ∈ rules, ∀ w ∈ rules, v.ruleId = w.ruleId → v.version = w.version → v = w)
    (hkeyed : ∀ id e, engine.events.plane.events.find? id = some e → e.eventId = id)
    (hkept : ∀ e ∈ es, Kept e.before engine) :
    (∀ a, readings s es engine a → ∀ e ∈ a,
      engine.events.plane.events.find? e.eventId = some e ∧ e.scope = s) ∧
    Named rules (readings s es engine) := by
  have hgrown : ∀ a, readings s es engine a → ∀ e ∈ a,
      engine.events.plane.events.find? e.eventId = some e ∧ e.scope = s := by
    rintro a ⟨x, hx, hread⟩ e he
    obtain ⟨⟨k, hk⟩, hscope⟩ := (BoundedSecurityEventIngestor.mem_events hread).mp he
    have hk' : engine.events.plane.events.find? k = some e := by
      rcases hx with rfl | ⟨y, hy, rfl⟩
      · exact hk
      · exact Dict.find?_of_extends (hkept y hy).events hk
    rw [hkeyed k e hk']
    exact ⟨hk', hscope⟩
  refine ⟨hgrown, hrules, ?_⟩
  intro a b ha hb e he e' he' hid
  have h := (hgrown a ha e he).1
  rw [hid, (hgrown b hb e' he').1] at h
  exact (Option.some.inj h).symm

/-- One call keeps what the engine maintains. -/
lemma exec_step {call : DetectionCall}
    (hrules : ∀ v ∈ rules, ∀ w ∈ rules, v.ruleId = w.ruleId → v.version = w.version → v = w)
    (htype : ∀ v ∈ rules, v.ruleType = .eventMatch)
    (hcall : ∀ rule, call = .run rule → rule.active ∈ rules)
    (hfree : CollisionFree codec render s rules (readings s es engine))
    (hm : Maintained codec render s rules (readings s es engine) engine)
    (hkept : ∀ e ∈ es, Kept e.before engine) :
    Maintained codec render s rules
        (readings s (⟨call, engine, (call.exec codec render s engine).1⟩ :: es)
          (call.exec codec render s engine).2) (call.exec codec render s engine).2 ∧
      DetectionStep codec render s ⟨call, engine, (call.exec codec render s engine).1⟩ := by
  obtain ⟨hgrown, hnamed⟩ := readings_named (s := s) hrules hm.keyed hkept
  obtain ⟨events, -, hread⟩ := hm.canonical.read
  rcases exec_events codec render s engine call with
    ⟨rule, rfl⟩ | ⟨hnorun, plane, hplane, hingested⟩
  · have hrule := hcall rule rfl
    by_cases ha : Admissible rule.active
    · obtain ⟨r, engine', hrun, hm', hkept', hevents', hstored, hid, hsignals⟩ :=
        run_total hfree hnamed hm hrule (htype _ hrule) ha hread
      have hexec : DetectionCall.exec codec render s (.run rule) engine = (.ran (.ok r), engine') := by
        rw [← perform_eq, succeeded_eq_ok] at hrun
        rw [DetectionCall.exec, hrun]
      have hexact : Exact render s rule.active engine' := by
        refine exact_of_signals hfree hnamed hm' hrule ?_ (by rw [hevents']; exact hread) hsignals
        rw [hevents']
        exact hgrown
      refine ⟨?_, ?_, ?_, ?_⟩
      · refine Maintained.mono ?_ fun a => readings_cons
        rw [hexec]
        exact hm'
      · rw [hexec]
        exact hkept'
      · intro rule' hrule' _
        obtain rfl := DetectionCall.run.inj hrule'
        rw [hexec]
        exact ⟨r, events, rfl, hread, hid, hstored, hexact⟩
      · intro rule' hrule' hrefused
        obtain rfl := DetectionCall.run.inj hrule'
        exact absurd ha hrefused
    · have hexec : ∃ x, DetectionCall.exec codec render s (.run rule) engine =
          (.ran (.error x), engine) := by
        rw [DetectionCall.exec, perform]
        cases hadmission : admission codec (.rule rule) (some s) none engine with
        | error x => exact ⟨x, rfl⟩
        | ok r => exact absurd (admission_admissible hadmission) ha
      obtain ⟨x, hexec⟩ := hexec
      refine ⟨?_, ?_, ?_, ?_⟩
      · refine Maintained.mono ?_ fun a => readings_cons
        rw [hexec]
        exact hm
      · rw [hexec]
        exact Kept.refl _
      · intro rule' hrule' hadmissible
        obtain rfl := DetectionCall.run.inj hrule'
        exact absurd hadmissible ha
      · intro rule' hrule' _
        obtain rfl := DetectionCall.run.inj hrule'
        rw [hexec]
        exact ⟨x, rfl, rfl⟩
  · have hextends : Table.Extends plane.events engine.events.plane.events := by
      rcases hingested with rfl | ⟨e, rfl⟩
      · exact Table.Extends.refl _
      · exact (SecurityEventPlane.ingest_ingested _ _ _).extended
    have hkeyed : ∀ id e, plane.events.find? id = some e → e.eventId = id := by
      rcases hingested with rfl | ⟨e, rfl⟩
      · exact hm.keyed
      · exact (SecurityEventPlane.ingest_ingested _ _ _).keyed hm.keyed
    obtain ⟨events', hread'⟩ := events_total { engine.events with plane := plane } hread rfl
    refine ⟨?_, ?_, ?_, ?_⟩
    · have hmono : Maintained codec render s rules (readings s
          (⟨call, engine, (call.exec codec render s engine).1⟩ :: es)
          (call.exec codec render s engine).2) engine := hm.mono fun a => readings_cons
      rw [hplane] at hmono ⊢
      exact hmono.arrive hread' ⟨_, Or.inl rfl, hread'⟩ hkeyed
    · rw [hplane]
      exact ⟨Table.Extends.refl _, Table.Extends.refl _, Table.Extends.refl _, hextends⟩
    · exact fun rule hrule => absurd hrule (hnorun rule)
    · exact fun rule hrule => absurd hrule (hnorun rule)

/-- A whole history maintains it, and every entry is a step. -/
lemma history_maintained
    (hrules : ∀ v ∈ rules, ∀ w ∈ rules, v.ruleId = w.ruleId → v.version = w.version → v = w)
    (htype : ∀ v ∈ rules, v.ruleType = .eventMatch)
    (hstart : Maintained codec render s rules (readings s [] start) start)
    (h : Foundations.History (DetectionCall.exec codec render s) start es engine)
    (hcalls : ∀ e ∈ es, ∀ rule, e.call = .run rule → rule.active ∈ rules)
    (hfree : CollisionFree codec render s rules (readings s es engine)) :
    Maintained codec render s rules (readings s es engine) engine ∧
      ∀ e ∈ es, DetectionStep codec render s e ∧
        Kept (e.call.exec codec render s e.before).2 engine := by
  induction h with
  | nil => exact ⟨hstart, by simp⟩
  | @call es engine call h ih =>
    have hfree' : CollisionFree codec render s rules (readings s es engine) :=
      hfree.mono (fun v hv => hv) fun a => readings_cons
    obtain ⟨hm, hsteps⟩ := ih (fun e he => hcalls e (List.mem_cons_of_mem _ he)) hfree'
    have hkept : ∀ e ∈ es, Kept e.before engine := fun e he =>
      (hsteps e he).1.kept.trans (hsteps e he).2
    obtain ⟨hm', hstep⟩ := exec_step hrules htype (hcalls _ List.mem_cons_self) hfree' hm hkept
    refine ⟨hm', ?_⟩
    intro e he
    rcases List.mem_cons.mp he with rfl | he
    · exact ⟨hstep, Kept.refl _⟩
    · exact ⟨(hsteps e he).1, (hsteps e he).2.trans hstep.kept⟩

end History

/-- What a history of arrivals and runs has made of the engine's records. -/
structure IncrementalRuns (codec : Codec) (render : Value → String) (s : Scope)
    (es : List DetectionEntry) (engine : DetectionEngine) : Prop where
  appendOnly : ∀ e ∈ es, Kept e.before engine
  returns : ∀ e ∈ es, ∀ rule, e.call = .run rule → Admissible rule.active →
    ∃ r, e.outcome = .ran (.ok r) ∧ engine.runs.find? r.runId = some r
  refused : ∀ e ∈ es, ∀ rule, e.call = .run rule → ¬ Admissible rule.active →
    ∃ x, e.outcome = .ran (.error x) ∧ (e.call.exec codec render s e.before).2 = e.before
  rerun : ∀ e ∈ es, ∀ e' ∈ es, ∀ rule, e.call = .run rule → e'.call = .run rule →
    e.before.events.events (some s) = e'.before.events.events (some s) →
    ∀ r, e.outcome = .ran (.ok r) → e'.outcome = .ran (.ok r)
  exact : ∀ e ∈ es, ∀ rule r, e.call = .run rule → e.outcome = .ran (.ok r) →
    Exact render s rule.active (e.call.exec codec render s e.before).2

theorem incrementalRuns {codec : Codec} {render : Value → String} {s : Scope}
    {rules : List DetectionRuleVersion} {view bound : Option Scope} {clock : ℕ → Datetime}
    {es : List DetectionEntry} {engine : DetectionEngine}
    (hview : ∀ t, view = some t → t = s) (hbound : ∀ t, bound = some t → t = s)
    (hrules : ∀ v ∈ rules, ∀ w ∈ rules, v.ruleId = w.ruleId → v.version = w.version → v = w)
    (htype : ∀ v ∈ rules, v.ruleType = .eventMatch)
    (h : Foundations.History (DetectionCall.exec codec render s)
      (DetectionEngine.init ⟨SecurityEventPlane.empty, view⟩ bound clock) es engine)
    (hcalls : ∀ e ∈ es, ∀ rule, e.call = .run rule → rule.active ∈ rules)
    (hfree : CollisionFree codec render s rules (readings s es engine)) :
    IncrementalRuns codec render s es engine := by
  have hread : (BoundedSecurityEventIngestor.mk SecurityEventPlane.empty view).events (some s) =
      .ok [] := by
    have hrequire : (BoundedSecurityEventIngestor.mk SecurityEventPlane.empty view).requireScope s =
        .ok () := by
      refine raiseIf_eq_ok.mpr ?_
      rw [Bool.not_eq_true, Option.any_eq_false]
      intro t ht
      simp [hview t ht]
    exact orRaise_bind_eq_ok.mpr ⟨s, rfl, bind_eq_ok.mpr ⟨(), hrequire, rfl⟩⟩
  have hstart : Maintained codec render s rules
      (readings s [] (DetectionEngine.init ⟨SecurityEventPlane.empty, view⟩ bound clock))
      (DetectionEngine.init ⟨SecurityEventPlane.empty, view⟩ bound clock) := by
    refine ⟨⟨?_, rfl, ⟨[], ⟨_, Or.inl rfl, hread⟩, hread⟩, ?_, ?_, ?_⟩, ⟨?_, ?_⟩, ?_, ?_, ?_⟩
    · intro t ht
      cases bound with
      | none => exact hview t ht
      | some b => exact hbound t ht
    all_goals simp [DetectionEngine.init, SecurityEventPlane.empty, Paired]
  obtain ⟨-, hsteps⟩ := history_maintained hrules htype hstart h hcalls hfree
  have hran : ∀ e ∈ es, ∀ rule r, e.call = .run rule → e.outcome = .ran (.ok r) → ∃ events,
      e.before.events.events (some s) = .ok events ∧
        r.runId = runIdOf codec s rule.active (sourcesOf rule.active events) ∧
        engine.runs.find? r.runId = some r ∧
        Exact render s rule.active (e.call.exec codec render s e.before).2 := by
    intro e he rule r hcall houtcome
    obtain ⟨hstep, hkept⟩ := hsteps e he
    by_cases ha : Admissible rule.active
    · obtain ⟨r', events, houtcome', hread', hid, hstored, hexact⟩ := hstep.returns rule hcall ha
      rw [houtcome'] at houtcome
      obtain rfl := Except.ok.inj (DetectionAnswer.ran.inj houtcome)
      exact ⟨events, hread', hid, Dict.find?_of_extends hkept.runs hstored, hexact⟩
    · obtain ⟨x, hx, -⟩ := hstep.refused rule hcall ha
      rw [hx] at houtcome
      cases houtcome
  constructor
  · intro e he
    exact (hsteps e he).1.kept.trans (hsteps e he).2
  · intro e he rule hcall ha
    obtain ⟨r, events, houtcome, -⟩ := (hsteps e he).1.returns rule hcall ha
    obtain ⟨-, -, -, hstored, -⟩ := hran e he rule r hcall houtcome
    exact ⟨r, houtcome, hstored⟩
  · exact fun e he => (hsteps e he).1.refused
  · intro e he e' he' rule hcall hcall' hsame r houtcome
    obtain ⟨events, hread₁, hid, hstored, -⟩ := hran e he rule r hcall houtcome
    by_cases ha : Admissible rule.active
    · obtain ⟨r', -, houtcome', -⟩ := (hsteps e' he').1.returns rule hcall' ha
      obtain ⟨events', hread₂, hid', hstored', -⟩ := hran e' he' rule r' hcall' houtcome'
      rw [hsame, hread₂] at hread₁
      obtain rfl := Except.ok.inj hread₁
      rw [hid, ← hid', hstored'] at hstored
      rw [houtcome', Option.some.inj hstored]
    · obtain ⟨x, hx, -⟩ := (hsteps e he).1.refused rule hcall ha
      rw [hx] at houtcome
      cases houtcome
  · intro e he rule r hcall houtcome
    obtain ⟨-, -, -, -, hexact⟩ := hran e he rule r hcall houtcome
    exact hexact

section Example

def toolScope : Scope := ⟨"CL-1", "EN-1", "TG-1", sampleNames_nonblank⟩

lemma toolEvent_ordered : (0 : Datetime) ≤ 0 := le_refl 0

lemma toolProvenance_nonblank : ["R-1", "agent", "1", "EV-1", "d1"].all (fun s => !isBlank s) = true := by decide

def toolEvent : SecurityEvent where
  eventId := "SE-2e7d656e26cd336166fa1155f0ee57d0"
  source := "agent"
  sourceType := "log"
  eventClass := .agentActivity
  occurredAt := 0
  observedAt := 0
  scope := toolScope
  actor := "svc"
  objectRef := "tool"
  action := "invoke"
  outcome := "ok"
  severity := none
  rawEvidenceRef := "EV-1"
  normalizationVersion := "1"
  provenance := ⟨"R-1", "agent", "1", "EV-1", "d1", toolProvenance_nonblank⟩
  attributes := []
  sourceFamily := "secscan"
  ocsfClass := "agent_activity"
  ocsfVersion := "1.8.0"
  ingestedAt := 0
  orderingMetadata := []
  nonblank := by decide
  ordered := toolEvent_ordered
  evidence := by decide

def toolVersion : DetectionRuleVersion where
  ruleType := .eventMatch
  contentDigest := "c1"
  eventSchema := "OCSF"
  supportedSourceFamilies := ["secscan"]
  predicates := [("action", .str "invoke")]
  correlationKeys := []
  windowSeconds := 0
  threshold := 1
  ruleId := "DR-1"
  version := 1
  title := "tool use"
  source := "secscan"
  sourceReference := "rules/1"
  owner := "SecScanMonitor"
  ocsfVersion := "1.8.0"
  severity := .high
  confidence := .high
  confidenceMetadata := []
  attackMappings := []
  atlasMappings := []
  references := []
  status := .active
  createdAt := 0
  modifiedAt := 0
  evaluationMetadata := []
  valid := by decide
  nonblank := by decide
  ocsf := rfl
  positive := by decide

def toolRule : DetectionRule where
  ruleId := "DR-1"
  name := "tool use"
  versions := [toolVersion]
  activeVersion := 1
  owner := "SecScanMonitor"
  nonblank := by decide
  activeExists := by decide
  belongs := by decide
  unique := by decide
  owned := by decide

/-- The digests of the documents that arise from the rule and the event. -/
def toolDigests : Codec where
  contentDigest
    | .arr [_, _, _, .arr [], _] =>
      "250e526c75f5a6ad532b1bd14bb2dba3bf942043c26837463bfb0103a3d98ecd"
    | .arr [_, _, _, .arr _, _] =>
      "e3107e3e83f737690a362076f9b0075f7bdf9a14702e0ac4ae4c167e88c52d28"
    | .arr [.arr _] => "2eed67270ca38f9ef81cf44e6c01e400fbd6bdbb53461722fddc402683b5b523"
    | .arr [_, _, _] => "8ebb681f1d8196ea0912a89899ea02f98b677e300bd7cc4eba48f541b60fe9dd"
    | .arr _ => "4726503e39e18ac5d1d67a4b4f1d6183ded11b725e2e17bf1b5b214da14495df"
    | .obj [_, _, _, _] => "2e7d656e26cd336166fa1155f0ee57d0f3065cb20529a77a40046b894e3a76e9"
    | .obj members =>
      if members.length = 11 then "f0ddd345a48d707ebff33213f7f3592732175af5231c54b9080493f94846f201"
      else if members.length = 20 then
        "32609f0db66e86af5caa2c9997e4146bc75b0e5a2fabb8c0b833ec063a02477e"
      else "73f4ebc99ee33fa1b2460ae6d9e70ab663861a3f10af340bd29c9c5db975feec"
    | _ => ""
  isoformat _ := "1970-01-01T00:00:00+00:00"
  dumpDatetime _ := "1970-01-01T00:00:00Z"

def toolText (_ : Value) : String := ""

def toolStart : DetectionEngine :=
  DetectionEngine.init ⟨SecurityEventPlane.empty, none⟩ (some toolScope) fun n => n

/-- The rule is run before its event arrives, and twice after. -/
def toolHistory : List DetectionEntry × DetectionEngine :=
  Foundations.History.ofCalls (DetectionCall.exec toolDigests toolText toolScope) toolStart
    [.run toolRule, .run toolRule, .ingest toolEvent (some toolScope), .run toolRule]

lemma tool_inputs {v : DetectionRuleVersion} {sources : List SecurityEvent}
    (h : Input [toolVersion] (readings toolScope toolHistory.1 toolHistory.2) v sources) :
    v = toolVersion ∧ (sources = [] ∨ sources = [toolEvent]) := by
  obtain ⟨hv, events, ⟨x, hx, hread⟩, rfl⟩ := h
  refine ⟨List.mem_singleton.mp hv, ?_⟩
  have hall : ∀ y ∈ toolHistory.2 :: toolHistory.1.map Entry.before,
      (y.events.events (some toolScope)).toOption = some [] ∨
        (y.events.events (some toolScope)).toOption = some [toolEvent] := by decide
  have hmem : x ∈ toolHistory.2 :: toolHistory.1.map Entry.before := by
    rcases hx with rfl | ⟨e, he, rfl⟩
    · exact List.mem_cons_self
    · exact List.mem_cons_of_mem _ (List.mem_map_of_mem he)
  obtain rfl := List.mem_singleton.mp hv
  have hcase := hall x hmem
  rw [hread] at hcase
  rcases hcase with h | h
  · obtain rfl := Option.some.inj h
    exact Or.inl rfl
  · obtain rfl := Option.some.inj h
    exact Or.inr (by decide)

def toolDocuments : List Value :=
  [.arr (runIdentity toolScope toolVersion []),
    .arr (runIdentity toolScope toolVersion [toolEvent]),
    .arr [evaluationKeyOf toolDigests toolText toolScope toolVersion [toolEvent] toolEvent],
    evaluationKeyOf toolDigests toolText toolScope toolVersion [toolEvent] toolEvent]

lemma tool_collisionFree : CollisionFree toolDigests toolText toolScope [toolVersion]
    (readings toolScope toolHistory.1 toolHistory.2) := by
  have hdocuments : ∀ d, Digested toolDigests toolText toolScope [toolVersion]
      (readings toolScope toolHistory.1 toolHistory.2) d → d ∈ toolDocuments := by
    intro d hd
    cases hd with
    | run h =>
      obtain ⟨rfl, rfl | rfl⟩ := tool_inputs h
      · exact List.mem_cons_self
      · exact List.mem_cons_of_mem _ List.mem_cons_self
    | evaluation h he =>
      obtain ⟨rfl, rfl | rfl⟩ := tool_inputs h
      · cases he
      · obtain rfl := List.mem_singleton.mp he
        simp [toolDocuments]
    | idempotency h he =>
      obtain ⟨rfl, rfl | rfl⟩ := tool_inputs h
      · cases he
      · obtain rfl := List.mem_singleton.mp he
        simp [toolDocuments]
    | signal h he =>
      obtain ⟨rfl, rfl | rfl⟩ := tool_inputs h
      · cases he
      · obtain rfl := List.mem_singleton.mp he
        exact List.mem_cons_of_mem _ List.mem_cons_self
  have hfree : ∀ d ∈ toolDocuments, ∀ d' ∈ toolDocuments,
      shortDigest toolDigests d = shortDigest toolDigests d' → d = d' := by decide
  exact fun d d' hd hd' => hfree d (hdocuments d hd) d' (hdocuments d' hd')

theorem tool_incrementalRuns :
    (toolHistory.2.signals.values.map (·.eventIds), toolHistory.2.runs.values.length) =
        ([[toolEvent.eventId]], 2) ∧
      IncrementalRuns toolDigests toolText toolScope toolHistory.1 toolHistory.2 := by
  refine ⟨by decide +kernel, incrementalRuns (by simp) ?_ ?_ ?_
    (Foundations.History.ofCalls_history _) ?_ tool_collisionFree⟩
  · exact fun t ht => (Option.some.inj ht).symm
  · intro v hv w hw _ _
    rw [List.mem_singleton.mp hv, List.mem_singleton.mp hw]
  · intro v hv
    rw [List.mem_singleton.mp hv]
    rfl
  · intro e he rule hcall
    have hrule := Foundations.History.ofCalls_call he
    rw [hcall] at hrule
    have hsame : rule = toolRule := by simpa using hrule
    rw [hsame]
    decide

end Example

end SecScanMonitor.DetectionResponse
