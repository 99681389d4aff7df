import SecScanMonitor.DetectionResponse.Detections
import SecScanMonitor.DetectionResponse.Perform

/-! The engine emits those forms: every operation keeps what it holds canonical, and a run of an
EVENT_MATCH rule is the run of its version over the events of the scope. -/

namespace SecScanMonitor.DetectionResponse

open Foundations Domain ContinuousSecurity DetectionEngine

structure Canonical (codec : Codec) (render : Value → String) (s : Scope)
    (rules : List DetectionRuleVersion) (history : History) (engine : DetectionEngine) : Prop where
  scope : ∀ t, engine.scope = some t → t = s
  version : engine.engineVersion = engineVersion
  read : ∃ events, history events ∧ engine.events.events (some s) = .ok events
  evaluations : ∀ k x, engine.evaluations.find? k = some x →
    x.evaluationId = k ∧ IsEvaluation codec render s rules history x
  signals : ∀ k x, engine.signals.find? k = some x →
    x.signalId = k ∧ IsSignal codec render s rules history x
  runs : ∀ k x, engine.runs.find? k = some x → x.runId = k ∧ IsRun codec render s rules history x

variable {codec : Codec} {render : Value → String} {s : Scope} {rules : List DetectionRuleVersion}
  {history history' : History} {engine engine' : DetectionEngine}

namespace Canonical

lemma mono (hc : Canonical codec render s rules history engine)
    (hle : ∀ a, history a → history' a) : Canonical codec render s rules history' engine where
  scope := hc.scope
  version := hc.version
  read := by
    obtain ⟨events, hevents, hread⟩ := hc.read
    exact ⟨events, hle events hevents, hread⟩
  evaluations k x hx := ⟨(hc.evaluations k x hx).1, (hc.evaluations k x hx).2.mono hle⟩
  signals k x hx := ⟨(hc.signals k x hx).1, (hc.signals k x hx).2.mono hle⟩
  runs k x hx := ⟨(hc.runs k x hx).1, (hc.runs k x hx).2.mono hle⟩

lemma init {i : BoundedSecurityEventIngestor} {events : List SecurityEvent} {clock : ℕ → Datetime}
    (hevents : history events) (hread : i.events (some s) = .ok events) :
    Canonical codec render s rules history (DetectionEngine.init i (some s) clock) where
  scope _ ht := (Option.some.inj ht).symm
  version := rfl
  read := ⟨events, hevents, hread⟩
  evaluations _ _ hx := nomatch hx
  signals _ _ hx := nomatch hx
  runs _ _ hx := nomatch hx

lemma tick (hc : Canonical codec render s rules history engine) :
    Canonical codec render s rules history engine.tick :=
  ⟨hc.scope, hc.version, hc.read, hc.evaluations, hc.signals, hc.runs⟩

lemma addEvaluation (hc : Canonical codec render s rules history engine) {x : DetectionEvaluation}
    (hx : IsEvaluation codec render s rules history x) :
    Canonical codec render s rules history
      { engine with evaluations := engine.evaluations.set x.evaluationId x } where
  scope := hc.scope
  version := hc.version
  read := hc.read
  evaluations k y hy := by
    rcases Dict.find?_set_eq_some hy with ⟨rfl, rfl⟩ | hold
    · exact ⟨rfl, hx⟩
    · exact hc.evaluations k y hold
  signals := hc.signals
  runs := hc.runs

lemma addSignal (hc : Canonical codec render s rules history engine) {x : DetectionSignal}
    (hx : IsSignal codec render s rules history x) :
    Canonical codec render s rules history
      { engine with signals := engine.signals.set x.signalId x } where
  scope := hc.scope
  version := hc.version
  read := hc.read
  evaluations := hc.evaluations
  signals k y hy := by
    rcases Dict.find?_set_eq_some hy with ⟨rfl, rfl⟩ | hold
    · exact ⟨rfl, hx⟩
    · exact hc.signals k y hold
  runs := hc.runs

lemma addRun (hc : Canonical codec render s rules history engine) {x : DetectionRun}
    (hx : IsRun codec render s rules history x) :
    Canonical codec render s rules history
      { engine with runs := engine.runs.set x.runId x } where
  scope := hc.scope
  version := hc.version
  read := hc.read
  evaluations := hc.evaluations
  signals := hc.signals
  runs k y hy := by
    rcases Dict.find?_set_eq_some hy with ⟨rfl, rfl⟩ | hold
    · exact ⟨rfl, hx⟩
    · exact hc.runs k y hold

end Canonical

section Register

variable {rule : DetectionRule} {plan : Option DetectionPlan} {number : Option Int}
  {p : DetectionPlan}

lemma registerRule_eq_ok (h : registerRule codec rule plan number engine = .ok (p, engine')) :
    ∃ v, (number = none → v = rule.active) ∧ (∀ n, number = some n → rule.find n = some v) ∧
      p = plan.getD (v.plan codec) ∧
      engine' = { engine with
        rules := engine.rules.set (v.ruleId, v.version) rule
        plans := engine.plans.set (v.ruleId, v.version) p
        ruleBindings := engine.ruleBindings.set (v.ruleId, v.version) (v.bindingDigest codec)
        planBindings := engine.planBindings.set (v.ruleId, v.version) (p.bindingDigest codec) } := by
  obtain ⟨v, hregistrable, rfl⟩ := registerRule_enters h
  have hv := hregistrable.requested
  refine ⟨v, ?_, ?_, hregistrable.planned, rfl⟩
  · intro hnumber
    rw [hnumber] at hv
    exact (Except.ok.inj hv).symm
  · intro n hnumber
    rw [hnumber] at hv
    exact orRaise_eq_ok.mp hv

lemma Canonical.register (hc : Canonical codec render s rules history engine)
    (h : registerRule codec rule plan number engine = .ok (p, engine')) :
    Canonical codec render s rules history engine' ∧ engine'.events = engine.events := by
  obtain ⟨v, -, -, -, rfl⟩ := registerRule_eq_ok h
  exact ⟨⟨hc.scope, hc.version, hc.read, hc.evaluations, hc.signals, hc.runs⟩, rfl⟩

end Register

section Evaluate

variable (hfree : CollisionFree codec render s rules history) (hnamed : Named rules history)

include hfree hnamed

lemma evaluate_canonical {v : DetectionRuleVersion} {sources : List SecurityEvent}
    {e : SecurityEvent} {ev : DetectionEvaluation} {sg : Option DetectionSignal}
    (hc : Canonical codec render s rules history engine) (hinput : Input rules history v sources)
    (he : e ∈ sources)
    (h : evaluate codec v (v.plan codec) s [e] (verdict render v e).2 (verdict render v e).1
      (runIdOf codec s v sources) engine = .ok ((ev, sg), engine')) :
    Canonical codec render s rules history engine' ∧ engine'.events = engine.events ∧
      ev.evaluationId = evaluationIdOf codec render s v sources e ∧
      sg.map (·.signalId) = signalIdFor codec s v [e.eventId] v.contentDigest (verdict render v e).1 := by
  simp only [evaluate] at h
  split at h
  · rename_i existing hfind
    split at h
    · cases h
    rename_i hsignalled
    obtain ⟨hout, rfl⟩ := Prod.mk.inj (Except.ok.inj h)
    obtain ⟨rfl, rfl⟩ := Prod.mk.inj hout
    obtain ⟨hid, hexisting⟩ := hc.evaluations _ _ hfind
    refine ⟨hc, rfl, hid, ?_⟩
    -- the stored evaluation has the same identity, so it is a match if this one is
    obtain ⟨w, sources', hinput', e', he', at_, rfl⟩ := hexisting
    obtain ⟨rfl, rfl, rfl⟩ := evaluation_identity hfree hnamed hinput' hinput he' he hid
    by_cases hm : (verdict render w e').1 = true
    · have hresult : (evaluationOf codec render s w sources' e' at_).result = .match := by
        change EvaluationResult.of (verdict render w e').1 = .match
        rw [hm]
        rfl
      rw [hm] at hsignalled ⊢
      cases hs : engine.signals.find? (signalIdOf codec s w e') with
      | none => exact absurd ⟨hresult, hs⟩ hsignalled
      | some signal =>
        change (engine.signals.find? (signalIdOf codec s w e')).map _ = _
        rw [hs, Option.map_some, (hc.signals _ _ hs).1]
        rfl
    · rw [Bool.not_eq_true] at hm
      rw [hm]
      rfl
  · obtain ⟨-, h⟩ := raiseIf_bind_eq_ok.mp h
    have hevaluation : IsEvaluation codec render s rules history
        (evaluationOf codec render s v sources e engine.now) :=
      ⟨v, sources, hinput, e, he, engine.now, rfl⟩
    have hc' := hc.tick.addEvaluation hevaluation
    rw [hc.version] at h
    split at h
    · rename_i hnone
      obtain ⟨hout, rfl⟩ := Prod.mk.inj (Except.ok.inj h)
      obtain ⟨rfl, rfl⟩ := Prod.mk.inj hout
      exact ⟨hc', rfl, rfl, hnone.symm⟩
    · rename_i signalId hsome
      have hmatch : (verdict render v e).1 = true ∧ signalId = signalIdOf codec s v e := by
        by_cases hm : (verdict render v e).1 = true
        · rw [hm] at hsome
          exact ⟨hm, (Option.some.inj hsome).symm⟩
        · rw [Bool.not_eq_true] at hm
          rw [hm] at hsome
          cases hsome
      obtain ⟨hm, rfl⟩ := hmatch
      split at h
      · rename_i existing hfind
        obtain ⟨hout, rfl⟩ := Prod.mk.inj (Except.ok.inj h)
        obtain ⟨rfl, rfl⟩ := Prod.mk.inj hout
        rw [hsome] at hfind
        refine ⟨hc'.tick, rfl, rfl, ?_⟩
        rw [Option.map_some, (hc.signals _ _ hfind).1]
        exact hsome.symm
      · obtain ⟨hout, rfl⟩ := Prod.mk.inj (Except.ok.inj h)
        obtain ⟨rfl, rfl⟩ := Prod.mk.inj hout
        have hsignal : IsSignal codec render s rules history
            (signalOf codec render s v e (engine.clock 1)) :=
          ⟨v, sources, hinput, e, he, hm, engine.clock 1, rfl⟩
        exact ⟨hc'.tick.addSignal hsignal, rfl, rfl, hsome.symm⟩

lemma evaluateEvents_canonical {v : DetectionRuleVersion} {sources events : List SecurityEvent}
    {emitted : Emitted} (hc : Canonical codec render s rules history engine)
    (hinput : Input rules history v sources) (hevents : ∀ e ∈ events, e ∈ sources)
    (h : evaluateEvents codec render v (v.plan codec) s (runIdOf codec s v sources) events engine =
      .ok (emitted, engine')) :
    Canonical codec render s rules history engine' ∧ engine'.events = engine.events ∧
      emitted = emittedOf codec render s v sources events := by
  induction events generalizing engine emitted with
  | nil =>
    obtain ⟨rfl, rfl⟩ := Prod.mk.inj (Except.ok.inj h)
    exact ⟨hc, rfl, rfl⟩
  | cons e events ih =>
    obtain ⟨⟨matched, predicates⟩, hmatch, h⟩ := bind_eq_ok.mp h
    obtain ⟨⟨⟨ev, sg⟩, engine₁⟩, hevaluate, h⟩ := bind_eq_ok.mp h
    obtain ⟨⟨later, engine₂⟩, hlater, h⟩ := bind_eq_ok.mp h
    obtain ⟨rfl, rfl⟩ := Prod.mk.inj (Except.ok.inj h)
    have hverdict : verdict render v e = (matched, predicates) := by
      rw [verdict, show matchesEvent render e v.predicates = _ from hmatch]
    have hmatched : (verdict render v e).1 = matched := congrArg Prod.fst hverdict
    have hpredicates : (verdict render v e).2 = predicates := congrArg Prod.snd hverdict
    rw [← hmatched, ← hpredicates] at hevaluate
    obtain ⟨hc₁, hkept₁, hid, hsignal⟩ :=
      evaluate_canonical hfree hnamed hc hinput (hevents e List.mem_cons_self) hevaluate
    obtain ⟨hc₂, hkept₂, rfl⟩ :=
      ih hc₁ (fun x hx => hevents x (List.mem_cons_of_mem e hx)) hlater
    refine ⟨hc₂, hkept₂.trans hkept₁, ?_⟩
    simp only [Emitted.add, emittedOf, hid, hsignal, List.map_cons, List.filter_cons, Prod.mk.injEq,
      true_and]
    by_cases hm : (verdict render v e).1 = true
    · rw [if_pos hm, hm]
      rfl
    · rw [if_neg hm, Bool.not_eq_true _ |>.mp hm]
      rfl

/-- A run of the rule is the run of its version over the events of the scope. -/
lemma run_canonical {rule : DetectionRule} {r : DetectionRun}
    (hc : Canonical codec render s rules history engine) (hrule : rule.active ∈ rules)
    (htype : rule.active.ruleType = .eventMatch)
    (h : DetectionEngine.run codec render (.rule rule) (some s) none engine = .ok (r, engine')) :
    Canonical codec render s rules history engine' ∧ engine'.events = engine.events ∧
      ∃ events, history events ∧ engine.events.events (some s) = .ok events ∧
        ∃ started completed,
          r = runOf codec render s rule.active (sourcesOf rule.active events) started completed := by
  obtain ⟨requested, hrequested, h⟩ := orRaise_bind_eq_ok.mp h
  obtain rfl := Option.some.inj hrequested
  obtain ⟨-, -, h⟩ := bind_eq_ok.mp h
  obtain ⟨selected, hselected, h⟩ := bind_eq_ok.mp h
  obtain rfl : rule.active = selected := Except.ok.inj hselected
  obtain ⟨engine₁, hbind, h⟩ := bind_eq_ok.mp h
  obtain ⟨⟨p, engine₀⟩, hregister, hsnd⟩ := map_eq_ok.mp hbind
  obtain rfl : engine₀ = engine₁ := hsnd
  obtain ⟨v, -, hfound, hp, hengine₀⟩ := registerRule_eq_ok hregister
  obtain rfl : rule.active = v := by
    have hv := hfound _ rfl
    rw [DetectionRule.find_activeVersion] at hv
    exact Option.some.inj hv
  obtain ⟨hc₀, hkept₀⟩ := hc.register hregister
  obtain ⟨plan, hplan, h⟩ := orRaise_bind_eq_ok.mp h
  obtain rfl : plan = rule.active.plan codec := by
    rw [hengine₀, Dict.find?_set_self] at hplan
    exact (Option.some.inj hplan).symm.trans hp
  obtain ⟨events, hevents, h⟩ := bind_eq_ok.mp h
  rw [hkept₀] at hevents
  obtain ⟨read, hhistory, hread⟩ := hc.read
  obtain rfl : read = events := Except.ok.inj (hread.symm.trans hevents)
  have hinput : Input rules history rule.active (sourcesOf rule.active read) :=
    ⟨hrule, read, hhistory, rfl⟩
  simp only at h
  split at h
  · rename_i existing hfind
    obtain ⟨rfl, rfl⟩ := Prod.mk.inj (Except.ok.inj h)
    obtain ⟨hid, w, sources, hinput', started, completed, rfl⟩ := hc₀.runs _ _ hfind
    obtain ⟨rfl, rfl⟩ := run_identity hfree hnamed hinput' hinput hid
    exact ⟨hc₀, hkept₀, read, hhistory, hread, started, completed, rfl⟩
  · obtain ⟨⟨emitted, engine₂⟩, hall, h⟩ := bind_eq_ok.mp h
    have hevaluated : evaluateEvents codec render rule.active (rule.active.plan codec) s
        (runIdOf codec s rule.active (sourcesOf rule.active read)) (sourcesOf rule.active read)
        engine₀.tick = .ok (emitted, engine₂) := by
      rw [evaluateAll, show (rule.active.plan codec).ruleType = _ from htype] at hall
      exact hall
    obtain ⟨hc₂, hkept₂, rfl⟩ :=
      evaluateEvents_canonical hfree hnamed hc₀.tick hinput (fun _ he => he) hevaluated
    obtain ⟨rfl, rfl⟩ := Prod.mk.inj (Except.ok.inj h)
    rw [hc₂.version]
    have hrun : IsRun codec render s rules history (runOf codec render s rule.active
        (sourcesOf rule.active read) engine₀.now engine₂.now) :=
      ⟨rule.active, _, hinput, _, _, rfl⟩
    exact ⟨hc₂.tick.addRun hrun, hkept₂.trans hkept₀, read, hhistory, hread, _, _, rfl⟩

end Evaluate

lemma Canonical.evaluationsOf (hc : Canonical codec render s rules history engine)
    {evaluations : List DetectionEvaluation}
    (h : engine.evaluationsOf (some s) = .ok evaluations) :
    ∀ x ∈ evaluations, IsEvaluation codec render s rules history x ∧ x.scope = s := by
  obtain ⟨requested, hrequested, h⟩ := orRaise_bind_eq_ok.mp h
  obtain rfl := Option.some.inj hrequested
  obtain ⟨-, -, h⟩ := bind_eq_ok.mp h
  intro x hx
  rw [← Except.ok.inj h, List.mem_insertionSort, List.mem_filter] at hx
  obtain ⟨k, hk⟩ := Dict.mem_values_iff_find?.mp hx.1
  exact ⟨(hc.evaluations k x hk).2, of_decide_eq_true hx.2⟩

lemma Canonical.getSignal (hc : Canonical codec render s rules history engine) {id : String}
    {x : DetectionSignal} (h : engine.getSignal id s = .ok x) :
    IsSignal codec render s rules history x ∧ x.signalId = id ∧ x.scope = s := by
  obtain ⟨-, -, h⟩ := bind_eq_ok.mp h
  obtain ⟨hfind, hscope⟩ := Option.filter_eq_some_iff.mp (orRaise_eq_ok.mp h)
  obtain ⟨hid, hsignal⟩ := hc.signals id x hfind
  exact ⟨hsignal, hid, of_decide_eq_true hscope⟩

end SecScanMonitor.DetectionResponse
