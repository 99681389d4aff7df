import SecScanMonitor.DetectionResponse.Emission

/-! A run of an EVENT_MATCH rule from an engine that keeps its records: it succeeds, what was stored
stays, and every event that matches has its signal. -/

namespace SecScanMonitor.DetectionResponse

open Foundations Domain ContinuousSecurity DetectionEngine

/-- What the engine stored before, it stores unchanged. -/
structure Kept (engine engine' : DetectionEngine) : Prop where
  evaluations : Table.Extends engine'.evaluations engine.evaluations
  signals : Table.Extends engine'.signals engine.signals
  runs : Table.Extends engine'.runs engine.runs
  events : Table.Extends engine'.events.plane.events engine.events.plane.events

namespace Kept

variable {engine engine' engine'' : DetectionEngine}

lemma refl (engine : DetectionEngine) : Kept engine engine :=
  ⟨Table.Extends.refl _, Table.Extends.refl _, Table.Extends.refl _, Table.Extends.refl _⟩

lemma trans (h : Kept engine engine') (h' : Kept engine' engine'') : Kept engine engine'' where
  evaluations := h'.evaluations.trans h.evaluations
  signals := h'.signals.trans h.signals
  runs := h'.runs.trans h.runs
  events := h'.events.trans h.events

lemma signal (h : Kept engine engine') {id : String} (hid : (engine.signals.find? id).isSome) :
    (engine'.signals.find? id).isSome := by
  obtain ⟨x, hx⟩ := Option.isSome_iff_exists.mp hid
  rw [Dict.find?_of_extends h.signals hx]
  rfl

end Kept

/-- A view of another plane reads like the view. -/
lemma events_total {i : BoundedSecurityEventIngestor} (i' : BoundedSecurityEventIngestor)
    {events : List SecurityEvent} {s : Scope}
    (h : i.events (some s) = .ok events) (hscope : i'.scope = i.scope) :
    ∃ events', i'.events (some s) = .ok events' := by
  obtain ⟨requested, hrequested, h⟩ := orRaise_bind_eq_ok.mp h
  obtain rfl := Option.some.inj hrequested
  obtain ⟨u, hrequire, -⟩ := bind_eq_ok.mp h
  have hrequire' : i'.requireScope s = .ok u := by
    rw [BoundedSecurityEventIngestor.requireScope, hscope]
    exact hrequire
  exact ⟨_, orRaise_bind_eq_ok.mpr ⟨s, rfl, bind_eq_ok.mpr ⟨u, hrequire', rfl⟩⟩⟩

/-- The rule bindings and their plans. -/
structure SameRules (engine engine' : DetectionEngine) : Prop where
  plans : engine'.plans = engine.plans
  ruleBindings : engine'.ruleBindings = engine.ruleBindings
  planBindings : engine'.planBindings = engine.planBindings

/-- Every evaluation that names a signal has it. -/
def Paired (engine : DetectionEngine) : Prop :=
  ∀ k x id, engine.evaluations.find? k = some x → x.signalId = some id →
    (engine.signals.find? id).isSome

section Evaluate

variable {codec : Codec} {render : Value → String} {s : Scope} {rules : List DetectionRuleVersion}
  {history : History} {engine engine' : DetectionEngine} {v : DetectionRuleVersion}
  {sources : List SecurityEvent} {e : SecurityEvent}
  (hfree : CollisionFree codec render s rules history) (hnamed : Named rules history)

include hfree hnamed

/-- A stored signal of the event's identity is its signal. -/
lemma not_differs (hc : Canonical codec render s rules history engine)
    (hinput : Input rules history v sources) (he : e ∈ sources) {x : DetectionSignal}
    (hx : engine.signals.find? (signalIdOf codec s v e) = some x) :
    differs x s v (v.plan codec) [e.eventId] (verdict render v e).2 (evidenceOf [e]) = false := by
  obtain ⟨hid, w, sources', hinput', e', he', -, at_, rfl⟩ := hc.signals _ _ hx
  obtain ⟨rfl, rfl⟩ := signal_identity hfree hnamed hinput' hinput he' he hid
  have hevidence : evidenceOf [e'] = [e'.rawEvidenceRef] := rfl
  simp [differs, signalOf, DetectionRuleVersion.plan, hevidence]

lemma evaluate_total (hc : Canonical codec render s rules history engine) (hp : Paired engine)
    (hinput : Input rules history v sources) (he : e ∈ sources) :
    ∃ out, evaluate codec v (v.plan codec) s [e] (verdict render v e).2 (verdict render v e).1
      (runIdOf codec s v sources) engine = .ok out := by
  cases h : evaluate codec v (v.plan codec) s [e] (verdict render v e).2 (verdict render v e).1
      (runIdOf codec s v sources) engine with
  | ok out => exact ⟨out, rfl⟩
  | error x =>
    exfalso
    simp only [evaluate] at h
    split at h
    · rename_i existing hfind
      obtain ⟨hid, w, sources', hinput', e', he', at_, rfl⟩ := hc.evaluations _ _ hfind
      obtain ⟨rfl, rfl, rfl⟩ := evaluation_identity hfree hnamed hinput' hinput he' he hid
      split at h
      · rename_i hmissing
        obtain ⟨hresult, hnone⟩ := hmissing
        have hm : (verdict render w e').1 = true := by
          by_contra hm
          rw [Bool.not_eq_true] at hm
          rw [evaluationOf, resultOf, hm] at hresult
          cases hresult
        rw [hm] at hnone
        have hstored := hp _ _ (signalIdOf codec s w e') hfind
          (by rw [evaluationOf, signalIdFor, hm]; rfl)
        rw [show engine.signals.find? (signalIdOf codec s w e') = none from hnone] at hstored
        cases hstored
      · cases h
    · have hsame : ((signalIdFor codec s v [e.eventId] v.contentDigest (verdict render v e).1).bind
          engine.signals.find?).any (fun signal => differs signal s v (v.plan codec) [e.eventId]
            (verdict render v e).2 (evidenceOf [e])) = false := by
        rw [Option.any_eq_false]
        intro x hx
        by_cases hm : (verdict render v e).1 = true
        · rw [hm] at hx
          simp [not_differs hfree hnamed hc hinput he hx]
        · rw [Bool.not_eq_true] at hm
          rw [hm] at hx
          cases hx
      rw [raiseIf, if_neg (by rw [Bool.not_eq_true]; exact hsame), ok_bind] at h
      split at h
      · cases h
      · split at h
        · cases h
        · cases h

omit hfree hnamed in
lemma evaluate_kept {predicates : List String} {matched : Bool} {runId : String}
    {events : List SecurityEvent} {plan : DetectionPlan} {out : DetectionEvaluation × Option DetectionSignal}
    (hp : Paired engine)
    (h : evaluate codec v plan s events predicates matched runId engine = .ok (out, engine')) :
    Kept engine engine' ∧ SameRules engine engine' ∧ Paired engine' ∧
      engine'.runs = engine.runs ∧ ∀ x, out.2 = some x →
        ∃ id, signalIdFor codec s v ((events.map (·.eventId)).insertionSort (· ≤ ·))
          plan.contentDigest matched = some id ∧ (engine'.signals.find? id).isSome := by
  simp only [evaluate] at h
  split at h
  · split at h
    · cases h
    obtain ⟨rfl, rfl⟩ := Prod.mk.inj (Except.ok.inj h)
    refine ⟨Kept.refl _, ⟨rfl, rfl, rfl⟩, hp, rfl, ?_⟩
    intro x hx
    obtain ⟨id, hid, hfind⟩ := Option.bind_eq_some_iff.mp hx
    exact ⟨id, hid, by rw [hfind]; rfl⟩
  · rename_i hfresh
    have hextends := Dict.extends_set hfresh
    obtain ⟨-, h⟩ := raiseIf_bind_eq_ok.mp h
    split at h
    · rename_i hnone
      obtain ⟨rfl, rfl⟩ := Prod.mk.inj (Except.ok.inj h)
      refine ⟨⟨hextends _, Table.Extends.refl _, Table.Extends.refl _, Table.Extends.refl _⟩,
        ⟨rfl, rfl, rfl⟩, ?_, rfl, fun x hx => by cases hx⟩
      intro k x id hx hid
      rcases Dict.find?_set_eq_some hx with ⟨-, rfl⟩ | hold
      · rw [hnone] at hid
        cases hid
      · exact hp k x id hold hid
    · rename_i signalId hsome
      split at h
      · rename_i existing hfind
        rw [hsome] at hfind
        have hstored : (engine.signals.find? signalId).isSome := by
          rw [show engine.signals.find? signalId = some existing from hfind]
          rfl
        obtain ⟨rfl, rfl⟩ := Prod.mk.inj (Except.ok.inj h)
        refine ⟨⟨hextends _, Table.Extends.refl _, Table.Extends.refl _, Table.Extends.refl _⟩,
          ⟨rfl, rfl, rfl⟩, ?_, rfl, fun x hx => ⟨signalId, hsome, hstored⟩⟩
        intro k x id hx hid
        rcases Dict.find?_set_eq_some hx with ⟨-, rfl⟩ | hold
        · obtain rfl := Option.some.inj (hsome.symm.trans hid)
          exact hstored
        · exact hp k x id hold hid
      · rename_i hfind
        rw [hsome] at hfind
        obtain ⟨rfl, rfl⟩ := Prod.mk.inj (Except.ok.inj h)
        refine ⟨⟨hextends _, Dict.extends_set hfind _, Table.Extends.refl _, Table.Extends.refl _⟩,
          ⟨rfl, rfl, rfl⟩, ?_, rfl, fun x hx => ⟨signalId, hsome, by simp⟩⟩
        intro k x id hx hid
        rcases Dict.find?_set_eq_some hx with ⟨-, rfl⟩ | hold
        · obtain rfl := Option.some.inj (hsome.symm.trans hid)
          simp
        · by_cases hsame : id = signalId
          · subst hsame
            simp
          · rw [Dict.find?_set_of_ne _ _ hsame]
            exact hp k x id hold hid

omit hfree hnamed in
lemma matchesEvent_eq (hvalid : validatePredicates v.predicates = .ok ()) (e : SecurityEvent) :
    matchesEvent render e v.predicates = .ok (verdict render v e) := by
  have hok : ∃ r, matchesEvent render e v.predicates = .ok r := by
    unfold matchesEvent
    rw [hvalid, ok_bind]
    split
    · exact ⟨_, rfl⟩
    · exact ⟨_, rfl⟩
  obtain ⟨r, hr⟩ := hok
  rw [verdict, hr]

lemma evaluateEvents_total {events : List SecurityEvent}
    (hvalid : validatePredicates v.predicates = .ok ())
    (hc : Canonical codec render s rules history engine) (hp : Paired engine)
    (hinput : Input rules history v sources) (hevents : ∀ e ∈ events, e ∈ sources) :
    ∃ emitted engine', evaluateEvents codec render v (v.plan codec) s (runIdOf codec s v sources)
        events engine = .ok (emitted, engine') ∧
      Kept engine engine' ∧ SameRules engine engine' ∧ Paired engine' ∧ engine'.runs = engine.runs ∧
      ∀ e ∈ events, (verdict render v e).1 = true →
        (engine'.signals.find? (signalIdOf codec s v e)).isSome := by
  induction events generalizing engine with
  | nil => exact ⟨_, engine, rfl, Kept.refl _, ⟨rfl, rfl, rfl⟩, hp, rfl, by simp⟩
  | cons e events ih =>
    have he := hevents e List.mem_cons_self
    obtain ⟨⟨⟨ev, sg⟩, engine₁⟩, hevaluate⟩ := evaluate_total hfree hnamed hc hp hinput he
    obtain ⟨hc₁, -, -, hid⟩ := evaluate_canonical hfree hnamed hc hinput he hevaluate
    obtain ⟨hkept₁, hrules₁, hp₁, hruns₁, hsignal₁⟩ := evaluate_kept hp hevaluate
    obtain ⟨later, engine₂, hlater, hkept₂, hrules₂, hp₂, hruns₂, hsignals₂⟩ :=
      ih hc₁ hp₁ fun x hx => hevents x (List.mem_cons_of_mem e hx)
    refine ⟨Emitted.add ev sg later, engine₂, ?_, hkept₁.trans hkept₂,
      ⟨hrules₂.plans.trans hrules₁.plans, hrules₂.ruleBindings.trans hrules₁.ruleBindings,
        hrules₂.planBindings.trans hrules₁.planBindings⟩, hp₂, hruns₂.trans hruns₁, ?_⟩
    · rw [evaluateEvents, show (v.plan codec).predicates = v.predicates from rfl,
        matchesEvent_eq hvalid, ok_bind]
      simp only [hevaluate, ok_bind, hlater]
      rfl
    · intro x hx hm
      rcases List.mem_cons.mp hx with rfl | hx
      · rw [hm] at hid
        obtain ⟨signal, rfl, -⟩ := Option.map_eq_some_iff.mp hid
        obtain ⟨id, hsome, hstored⟩ := hsignal₁ signal rfl
        rw [hm] at hsome
        obtain rfl : signalIdOf codec s v x = id := Option.some.inj hsome
        exact hkept₂.signal hstored
      · exact hsignals₂ x hx hm

end Evaluate

section Register

variable {codec : Codec} {rules : List DetectionRuleVersion} {engine engine' : DetectionEngine}
  {rule : DetectionRule}

/-- What registration asks of a rule version by itself. -/
structure Admissible (v : DetectionRuleVersion) : Prop where
  enabled : v.status ≠ .disabled
  current : v.status ≠ .deprecated
  predicates : validatePredicates v.predicates = .ok ()

/-- A rule version that is bound is bound to its content and to its plan. -/
structure Registered (codec : Codec) (rules : List DetectionRuleVersion) (engine : DetectionEngine) :
    Prop where
  rule : ∀ v ∈ rules, ∀ d, engine.ruleBindings.find? (v.ruleId, v.version) = some d →
    d = v.bindingDigest codec
  plan : ∀ v ∈ rules, ∀ d, engine.planBindings.find? (v.ruleId, v.version) = some d →
    d = (v.plan codec).bindingDigest codec ∧
      engine.plans.find? (v.ruleId, v.version) = some (v.plan codec)

lemma admissible_of_register {plan : DetectionPlan}
    (h : registerRule codec rule none (some rule.active.version) engine = .ok (plan, engine')) :
    Admissible rule.active := by
  obtain ⟨v, hregistrable, -⟩ := registerRule_enters h
  obtain rfl : rule.active = v := by
    have hv := hregistrable.requested
    rw [requestedVersion, DetectionRule.find_activeVersion] at hv
    exact Except.ok.inj hv
  obtain ⟨hdisabled, hdeprecated⟩ := not_or.mp hregistrable.enabled
  have hplanned : plan = rule.active.plan codec := hregistrable.planned
  have hvalid := hregistrable.validated
  rw [hplanned] at hvalid
  exact ⟨hdisabled, hdeprecated, hvalid⟩

lemma register_total (hr : Registered codec rules engine) (hrule : rule.active ∈ rules)
    (ha : Admissible rule.active) :
    ∃ engine', registerRule codec rule none (some rule.active.version) engine =
      .ok (rule.active.plan codec, engine') := by
  have hbinding : checkPlanBinding codec (rule.active.ruleId, rule.active.version)
      (rule.active.plan codec) engine = .ok () := by
    unfold checkPlanBinding
    cases hd : engine.planBindings.find? (rule.active.ruleId, rule.active.version) with
    | none => rfl
    | some d =>
      obtain ⟨rfl, hplan⟩ := hr.plan _ hrule d hd
      simp only [hplan]
      exact raiseIf_bind_eq_ok.mpr ⟨by simp, raiseIf_eq_ok.mpr (by
        simp [DetectionPlan.same, RuleContent.same_self])⟩
  have hversion : requestedVersion rule (some rule.active.version) = .ok rule.active := by
    rw [requestedVersion, DetectionRule.find_activeVersion]
    rfl
  have hrulebound : ¬ ((engine.ruleBindings.find? (rule.active.ruleId, rule.active.version)).any
      fun d => decide (d ≠ rule.active.bindingDigest codec)) = true := by
    rw [Bool.not_eq_true, Option.any_eq_false]
    intro d hd
    simp [hr.rule _ hrule d hd]
  exact registerRule_own ⟨hversion, not_or.mpr ⟨ha.enabled, ha.current⟩, rfl, hrulebound, hbinding, ha.predicates⟩

lemma Registered.register
    (hnamed : ∀ v ∈ rules, ∀ w ∈ rules, v.ruleId = w.ruleId → v.version = w.version → v = w)
    (hr : Registered codec rules engine) (hrule : rule.active ∈ rules)
    (h : registerRule codec rule none (some rule.active.version) engine =
      .ok (rule.active.plan codec, engine')) : Registered codec rules engine' := by
  obtain ⟨w, -, hfound, -, rfl⟩ := registerRule_eq_ok h
  obtain rfl : rule.active = w := by
    have hw := hfound _ rfl
    rw [DetectionRule.find_activeVersion] at hw
    exact Option.some.inj hw
  have hsame : ∀ v ∈ rules, (v.ruleId, v.version) = (rule.active.ruleId, rule.active.version) →
      v = rule.active := by
    intro v hv hkey
    obtain ⟨hid, hversion⟩ := Prod.mk.inj hkey
    exact hnamed v hv _ hrule hid hversion
  constructor
  · intro v hv d hd
    rcases Dict.find?_set_eq_some hd with ⟨hkey, rfl⟩ | hold
    · rw [hsame v hv hkey]
    · exact hr.rule v hv d hold
  · intro v hv d hd
    by_cases hkey : (v.ruleId, v.version) = (rule.active.ruleId, rule.active.version)
    · obtain rfl := hsame v hv hkey
      rw [Dict.find?_set_self] at hd
      exact ⟨(Option.some.inj hd).symm, Dict.find?_set_self _ _ _⟩
    · rw [Dict.find?_set_of_ne _ _ hkey] at hd ⊢
      exact hr.plan v hv d hd

end Register

/-- What an engine keeps true of its records while events arrive and rules are run. -/
structure Maintained (codec : Codec) (render : Value → String) (s : Scope)
    (rules : List DetectionRuleVersion) (history : History) (engine : DetectionEngine) : Prop where
  canonical : Canonical codec render s rules history engine
  registered : Registered codec rules engine
  paired : Paired engine
  completed : ∀ k r, engine.runs.find? k = some r → ∀ id ∈ r.signalIds,
    (engine.signals.find? id).isSome
  keyed : ∀ id e, engine.events.plane.events.find? id = some e → e.eventId = id

section Run

variable {codec : Codec} {render : Value → String} {s : Scope} {rules : List DetectionRuleVersion}
  {history history' : History} {engine engine' : DetectionEngine} {rule : DetectionRule}
  {events : List SecurityEvent}

lemma admission_admissible {r : (Scope × DetectionRuleVersion) × DetectionEngine}
    (h : admission codec (.rule rule) (some s) none engine = .ok r) : Admissible rule.active := by
  obtain ⟨requested, -, h⟩ := orRaise_bind_eq_ok.mp h
  obtain ⟨-, -, h⟩ := bind_eq_ok.mp h
  obtain ⟨selected, hselected, h⟩ := bind_eq_ok.mp h
  obtain rfl : rule.active = selected := Except.ok.inj hselected
  obtain ⟨engine₁, hbind, -⟩ := bind_eq_ok.mp h
  obtain ⟨⟨p, engine₀⟩, hregister, -⟩ := map_eq_ok.mp hbind
  exact admissible_of_register hregister

lemma requireScope_of (h : ∀ t, engine.scope = some t → t = s) :
    engine.requireScope s = .ok () := by
  refine raiseIf_eq_ok.mpr ?_
  rw [Bool.not_eq_true, Option.any_eq_false]
  intro t ht
  simp [h t ht]

variable (render) in
/-- After registration, a run either is stored or goes through the events. -/
lemma run_registered {engine₁ : DetectionEngine} (hscope : engine.requireScope s = .ok ())
    (h : registerRule codec rule none (some rule.active.version) engine =
      .ok (rule.active.plan codec, engine₁))
    (hread : engine₁.events.events (some s) = .ok events) :
    DetectionEngine.run codec render (.rule rule) (some s) none engine =
      match engine₁.runs.find? (runIdOf codec s rule.active (sourcesOf rule.active events)) with
      | some existing => .ok (existing, engine₁)
      | none => do
        let (emitted, engine) ← evaluateAll codec render rule.active (rule.active.plan codec) s
          (runIdOf codec s rule.active (sourcesOf rule.active events))
          (sourcesOf rule.active events) engine₁.tick
        let run : DetectionRun :=
          { runId := runIdOf codec s rule.active (sourcesOf rule.active events)
            scope := s
            ruleIds := [rule.active.ruleId]
            inputEventIds := (sourcesOf rule.active events).map (·.eventId)
            evaluationIds := emitted.1.eraseDups
            signalIds := emitted.2.eraseDups
            engineVersion := engine.engineVersion
            startedAt := engine₁.now
            completedAt := engine.now
            status := "COMPLETED" }
        return (run, { engine.tick with runs := engine.runs.set run.runId run }) := by
  obtain ⟨v, -, hfound, -, hengine₁⟩ := registerRule_eq_ok h
  obtain rfl : rule.active = v := by
    have hv := hfound _ rfl
    rw [DetectionRule.find_activeVersion] at hv
    exact Option.some.inj hv
  have hplan : engine₁.plans.find? (rule.active.ruleId, rule.active.version) =
      some (rule.active.plan codec) := by
    rw [hengine₁]
    exact Dict.find?_set_self _ _ _
  have hbind : DetectionEngine.bind codec (.rule rule) rule.active engine = .ok engine₁ := by
    rw [DetectionEngine.bind, h]
    rfl
  unfold DetectionEngine.run
  rw [show orRaise (some s <|> engine.scope) _ _ = .ok s from rfl, ok_bind, hscope, ok_bind,
    show selectVersion codec (.rule rule) none engine = .ok rule.active from rfl, ok_bind, hbind,
    ok_bind, hplan, show orRaise (some (rule.active.plan codec)) _ _ = .ok (rule.active.plan codec)
      from rfl, ok_bind, hread, ok_bind]
  rfl

variable (hfree : CollisionFree codec render s rules history) (hnamed : Named rules history)

include hfree hnamed

lemma run_total (hm : Maintained codec render s rules history engine)
    (hrule : rule.active ∈ rules) (htype : rule.active.ruleType = .eventMatch)
    (ha : Admissible rule.active) (hread : engine.events.events (some s) = .ok events) :
    ∃ r engine', DetectionEngine.run codec render (.rule rule) (some s) none engine =
        .ok (r, engine') ∧ Maintained codec render s rules history engine' ∧ Kept engine engine' ∧
      engine'.events = engine.events ∧ engine'.runs.find? r.runId = some r ∧
      r.runId = runIdOf codec s rule.active (sourcesOf rule.active events) ∧
      ∀ e ∈ sourcesOf rule.active events, (verdict render rule.active e).1 = true →
        (engine'.signals.find? (signalIdOf codec s rule.active e)).isSome := by
  obtain ⟨engine₁, hregister⟩ := register_total hm.registered hrule ha
  obtain ⟨hc₁, hevents₁⟩ := hm.canonical.register hregister
  have hr₁ := hm.registered.register hnamed.rule hrule hregister
  obtain ⟨w, -, -, -, hengine₁⟩ := registerRule_eq_ok hregister
  have hkept₁ : Kept engine engine₁ := by
    rw [hengine₁]
    exact ⟨Table.Extends.refl _, Table.Extends.refl _, Table.Extends.refl _, Table.Extends.refl _⟩
  have hm₁ : Maintained codec render s rules history engine₁ := by
    refine ⟨hc₁, hr₁, ?_, ?_, ?_⟩
    · rw [hengine₁]
      exact hm.paired
    · rw [hengine₁]
      exact hm.completed
    · rw [hevents₁]
      exact hm.keyed
  have hscope := requireScope_of hm.canonical.scope
  have hinput : Input rules history rule.active (sourcesOf rule.active events) := by
    obtain ⟨read, hhistory, hread'⟩ := hm.canonical.read
    obtain rfl := Except.ok.inj (hread.symm.trans hread')
    exact ⟨hrule, _, hhistory, rfl⟩
  have hread₁ : engine₁.events.events (some s) = .ok events := by
    rw [hevents₁]
    exact hread
  have hrun := run_registered render hscope hregister hread₁
  cases hfind : engine₁.runs.find? (runIdOf codec s rule.active (sourcesOf rule.active events)) with
  | some existing =>
    rw [hfind] at hrun
    obtain ⟨hid, hexisting⟩ := hc₁.runs _ _ hfind
    refine ⟨existing, engine₁, hrun, hm₁, hkept₁, hevents₁, hid ▸ hfind, hid, ?_⟩
    intro e he hmatch
    obtain ⟨v, sources, hinput', started, completed, rfl⟩ := hexisting
    obtain ⟨rfl, rfl⟩ := run_identity hfree hnamed hinput' hinput hid
    apply hm₁.completed _ _ hfind
    rw [runOf, List.mem_eraseDups]
    exact List.mem_map.mpr ⟨e, List.mem_filter.mpr ⟨he, hmatch⟩, rfl⟩
  | none =>
    obtain ⟨emitted, engine₂, hevaluated, hkept₂, hrules₂, hp₂, hruns₂, hsignals₂⟩ :=
      evaluateEvents_total hfree hnamed ha.predicates hc₁.tick hm₁.paired hinput fun e he => he
    obtain ⟨-, hevents₂, hemitted⟩ :=
      evaluateEvents_canonical hfree hnamed hc₁.tick hinput (fun e he => he) hevaluated
    have hall : evaluateAll codec render rule.active (rule.active.plan codec) s
        (runIdOf codec s rule.active (sourcesOf rule.active events)) (sourcesOf rule.active events)
        engine₁.tick = .ok (emitted, engine₂) := by
      rw [evaluateAll, show (rule.active.plan codec).ruleType = _ from htype]
      exact hevaluated
    rw [hfind] at hrun
    simp only [hall, ok_bind] at hrun
    obtain ⟨hc₃, -, -⟩ := run_canonical hfree hnamed hm.canonical hrule htype hrun
    have hfresh : engine₂.runs.find?
        (runIdOf codec s rule.active (sourcesOf rule.active events)) = none := by
      rw [hruns₂]
      exact hfind
    have hkept : Kept engine engine₂ := hkept₁.trans
      ⟨hkept₂.evaluations, hkept₂.signals, hkept₂.runs, hkept₂.events⟩
    refine ⟨_, _, hrun, ⟨hc₃, ?_, hp₂, ?_, ?_⟩, ?_, hevents₂.trans hevents₁, Dict.find?_set_self _ _ _,
      rfl, hsignals₂⟩
    · constructor
      · intro v hv d hd
        rw [show (DetectionEngine.tick engine₂).ruleBindings = engine₁.ruleBindings
          from hrules₂.ruleBindings] at hd
        exact hr₁.rule v hv d hd
      · intro v hv d hd
        rw [show (DetectionEngine.tick engine₂).planBindings = engine₁.planBindings
          from hrules₂.planBindings] at hd
        obtain ⟨hdigest, hplan⟩ := hr₁.plan v hv d hd
        refine ⟨hdigest, ?_⟩
        rw [show (DetectionEngine.tick engine₂).plans = engine₁.plans from hrules₂.plans]
        exact hplan
    · intro k r hr id hid
      rcases Dict.find?_set_eq_some hr with ⟨-, rfl⟩ | hold
      · rw [hemitted, List.mem_eraseDups] at hid
        obtain ⟨e, he, rfl⟩ := List.mem_map.mp hid
        obtain ⟨he, hmatch⟩ := List.mem_filter.mp he
        exact hsignals₂ e he hmatch
      · rw [hruns₂] at hold
        exact hkept₂.signal (hm₁.completed k r hold id hid)
    · rw [show (DetectionEngine.tick engine₂).events = engine₁.events from hevents₂]
      exact hm₁.keyed
    · exact ⟨hkept.evaluations, hkept.signals, (Dict.extends_set hfresh _).trans hkept.runs,
        hkept.events⟩

end Run

end SecScanMonitor.DetectionResponse
