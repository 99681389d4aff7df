import SecScanMonitor.DetectionResponse.RunHistory

/-! What one evaluation does to an engine, and that the records of an engine only grow, whatever kind of
rule is run on it. -/

namespace SecScanMonitor.DetectionResponse

open Foundations Domain ContinuousSecurity DetectionEngine

section Evaluate

variable (codec : Codec) (rule : DetectionRuleVersion) (plan : DetectionPlan) (scope : Scope)
  (events : List SecurityEvent) (predicates : List String) (matched : Bool) (runId : String)

def orderedIds : List String := (events.map (·.eventId)).insertionSort (· ≤ ·)

def evaluationIdFor : String :=
  stableId codec "EVAL-" [evaluationKey scope rule runId (orderedIds events)
    (EvaluationResult.of matched) plan.contentDigest]

def newEvaluation (engine : DetectionEngine) : DetectionEvaluation where
  evaluationId := evaluationIdFor codec rule plan scope events matched runId
  runId := runId
  scope := scope
  ruleId := rule.ruleId
  ruleVersion := rule.version
  inputEventIds := orderedIds events
  evaluatedAt := engine.now
  matchedPredicates := predicates
  result := EvaluationResult.of matched
  signalId := signalIdFor codec scope rule (orderedIds events) plan.contentDigest matched
  engineVersion := engine.engineVersion
  ruleDigest := plan.contentDigest
  idempotencyKey := codec.contentDigest (evaluationKey scope rule runId (orderedIds events)
    (EvaluationResult.of matched) plan.contentDigest)

def newSignal (signalId : String) (engine : DetectionEngine) : DetectionSignal where
  signalId := signalId
  scope := scope
  ruleId := rule.ruleId
  ruleVersion := rule.version
  eventIds := orderedIds events
  sourceSignalIds := []
  detectedAt := engine.tick.now
  severity := rule.severity
  confidence := rule.confidence
  matchedPredicates := predicates
  rawEvidenceRefs := evidenceOf events
  ruleDigest := plan.contentDigest
  status := "NEW"

/-- The engine with a new evaluation. -/
def addEvaluation (engine : DetectionEngine) : DetectionEngine :=
  { engine.tick with
    evaluations := engine.evaluations.set (evaluationIdFor codec rule plan scope events matched runId)
      (newEvaluation codec rule plan scope events predicates matched runId engine) }

variable {codec rule plan scope events predicates matched runId} {engine engine' : DetectionEngine}
  {ev : DetectionEvaluation} {sg : Option DetectionSignal}

lemma evaluate_found (h : engine.evaluations.find?
      (evaluationIdFor codec rule plan scope events matched runId) = some ev) :
    evaluate codec rule plan scope events predicates matched runId engine =
      if ev.result = .match ∧ (signalIdFor codec scope rule (orderedIds events) plan.contentDigest
          matched).bind engine.signals.find? = none then
        raise .detectionInputError "matched evaluation is missing its canonical signal"
      else .ok ((ev, (signalIdFor codec scope rule (orderedIds events) plan.contentDigest
        matched).bind engine.signals.find?), engine) := by
  simp only [evaluate]
  split
  · rename_i existing hfind
    obtain rfl := Option.some.inj (hfind.symm.trans h)
    rfl
  · rename_i hfind
    cases hfind.symm.trans h

lemma evaluate_fresh (h : engine.evaluations.find?
      (evaluationIdFor codec rule plan scope events matched runId) = none) :
    evaluate codec rule plan scope events predicates matched runId engine = (do
      raiseIf (((signalIdFor codec scope rule (orderedIds events) plan.contentDigest matched).bind
          engine.signals.find?).any fun signal =>
          differs signal scope rule plan (orderedIds events) predicates (evidenceOf events))
        .detectionInputError "signal identity was reused for different content"
      match signalIdFor codec scope rule (orderedIds events) plan.contentDigest matched with
      | none => .ok ((newEvaluation codec rule plan scope events predicates matched runId engine, none),
          addEvaluation codec rule plan scope events predicates matched runId engine)
      | some id =>
        match engine.signals.find? id with
        | some signal =>
          .ok ((newEvaluation codec rule plan scope events predicates matched runId engine,
            some signal),
            (addEvaluation codec rule plan scope events predicates matched runId engine).tick)
        | none =>
          .ok ((newEvaluation codec rule plan scope events predicates matched runId engine,
            some (newSignal rule plan scope events predicates id engine)),
            { (addEvaluation codec rule plan scope events predicates matched runId engine).tick with
              signals := engine.signals.set id
                (newSignal rule plan scope events predicates id engine) })) := by
  simp only [evaluate]
  split
  · rename_i existing hfind
    cases hfind.symm.trans h
  · cases matched with
    | false => rfl
    | true =>
      simp only [signalIdFor, if_true, Option.bind_some]
      cases hsignal : engine.signals.find? (stableId codec "SIG-"
          (identity scope rule (orderedIds events) plan.contentDigest)) with
      | none =>
        simp only [orderedIds] at hsignal
        simp only [hsignal]
        rfl
      | some signal =>
        simp only [orderedIds] at hsignal
        simp only [hsignal]
        rfl

/-- An evaluation is found, or it is added: without a signal, with a signal that is there already, or
with a new one. -/
lemma evaluate_cases
    (h : evaluate codec rule plan scope events predicates matched runId engine =
      .ok ((ev, sg), engine')) :
    (engine.evaluations.find? (evaluationIdFor codec rule plan scope events matched runId) = some ev ∧
        sg = (signalIdFor codec scope rule (orderedIds events) plan.contentDigest matched).bind
          engine.signals.find? ∧ engine' = engine) ∨
      engine.evaluations.find? (evaluationIdFor codec rule plan scope events matched runId) = none ∧
        ev = newEvaluation codec rule plan scope events predicates matched runId engine ∧
        ((ev.signalId = none ∧ sg = none ∧
            engine' = addEvaluation codec rule plan scope events predicates matched runId engine) ∨
          ∃ id, ev.signalId = some id ∧
            ((∃ x, engine.signals.find? id = some x ∧ sg = some x ∧
                differs x scope rule plan (orderedIds events) predicates (evidenceOf events) = false ∧
                engine' =
                  (addEvaluation codec rule plan scope events predicates matched runId engine).tick) ∨
              engine.signals.find? id = none ∧
                sg = some (newSignal rule plan scope events predicates id engine) ∧
                engine' =
                  { (addEvaluation codec rule plan scope events predicates matched runId engine).tick with
                    signals := engine.signals.set id
                      (newSignal rule plan scope events predicates id engine) })) := by
  simp only [evaluate] at h
  split at h
  · rename_i existing hfind
    split at h
    · cases h
    obtain ⟨hout, rfl⟩ := Prod.mk.inj (Except.ok.inj h)
    obtain ⟨rfl, rfl⟩ := Prod.mk.inj hout
    exact Or.inl ⟨hfind, rfl, rfl⟩
  · rename_i hfind
    obtain ⟨hsame, h⟩ := raiseIf_bind_eq_ok.mp h
    refine Or.inr ⟨hfind, ?_⟩
    split at h
    · rename_i hnone
      obtain ⟨hout, rfl⟩ := Prod.mk.inj (Except.ok.inj h)
      obtain ⟨rfl, rfl⟩ := Prod.mk.inj hout
      exact ⟨rfl, Or.inl ⟨hnone, rfl, rfl⟩⟩
    · rename_i id hid
      split at h
      · rename_i existing hexisting
        obtain ⟨hout, rfl⟩ := Prod.mk.inj (Except.ok.inj h)
        obtain ⟨rfl, rfl⟩ := Prod.mk.inj hout
        rw [hid, Option.bind_some] at hexisting
        rw [hid, Option.bind_some, hexisting, Option.any_some, Bool.not_eq_true] at hsame
        exact ⟨rfl, Or.inr ⟨id, hid, Or.inl ⟨existing, hexisting, rfl, hsame, rfl⟩⟩⟩
      · rename_i hexisting
        obtain ⟨hout, rfl⟩ := Prod.mk.inj (Except.ok.inj h)
        obtain ⟨rfl, rfl⟩ := Prod.mk.inj hout
        rw [hid, Option.bind_some] at hexisting
        exact ⟨rfl, Or.inr ⟨id, hid, Or.inr ⟨hexisting, rfl, rfl⟩⟩⟩

end Evaluate

/-- Events and signals stand under their ids. -/
structure Keyed (engine : DetectionEngine) : Prop where
  events : ∀ id e, engine.events.plane.events.find? id = some e → e.eventId = id
  signals : ∀ id x, engine.signals.find? id = some x → x.signalId = id

structure Grown (engine engine' : DetectionEngine) : Prop extends Kept engine engine' where
  scope : engine'.scope = engine.scope
  view : engine'.events.scope = engine.events.scope
  keyed : Keyed engine → Keyed engine'

namespace Grown

variable {engine engine' engine'' : DetectionEngine}

lemma refl (engine : DetectionEngine) : Grown engine engine :=
  ⟨Kept.refl engine, rfl, rfl, fun h => h⟩

lemma trans (h : Grown engine engine') (h' : Grown engine' engine'') : Grown engine engine'' :=
  ⟨h.toKept.trans h'.toKept, h'.scope.trans h.scope, h'.view.trans h.view,
    fun hkeyed => h'.keyed (h.keyed hkeyed)⟩

end Grown

section Run

variable {codec : Codec} {render : Value → String} {rule : DetectionRuleVersion}
  {plan : DetectionPlan} {scope : Scope} {events : List SecurityEvent} {predicates : List String}
  {matched : Bool} {runId : String} {engine engine' : DetectionEngine}

lemma evaluate_grown {ev : DetectionEvaluation} {sg : Option DetectionSignal}
    (h : evaluate codec rule plan scope events predicates matched runId engine =
      .ok ((ev, sg), engine')) : Grown engine engine' ∧ engine'.runs = engine.runs := by
  rcases evaluate_cases h with ⟨-, -, rfl⟩ | ⟨hfresh, rfl, ⟨-, -, rfl⟩ | ⟨id, -, hid⟩⟩
  · exact ⟨Grown.refl engine', rfl⟩
  · have hextends := Dict.extends_set hfresh
    exact ⟨⟨⟨hextends _, Table.Extends.refl _, Table.Extends.refl _, Table.Extends.refl _⟩, rfl, rfl,
      fun hkeyed => ⟨hkeyed.events, hkeyed.signals⟩⟩, rfl⟩
  have hextends := Dict.extends_set hfresh
  rcases hid with ⟨x, -, -, -, rfl⟩ | ⟨hnone, -, rfl⟩
  · exact ⟨⟨⟨hextends _, Table.Extends.refl _, Table.Extends.refl _, Table.Extends.refl _⟩, rfl, rfl,
      fun hkeyed => ⟨hkeyed.events, hkeyed.signals⟩⟩, rfl⟩
  · refine ⟨⟨⟨hextends _, Dict.extends_set hnone _, Table.Extends.refl _, Table.Extends.refl _⟩, rfl,
      rfl, fun hkeyed => ⟨hkeyed.events, ?_⟩⟩, rfl⟩
    intro k x hx
    rcases Dict.find?_set_eq_some hx with ⟨rfl, rfl⟩ | hold
    · rfl
    · exact hkeyed.signals k x hold

variable (codec rule plan scope runId) in
lemma evaluateItems_grown (its : List Item) (engine : DetectionEngine) :
    Grown engine (evaluateItems codec rule plan scope runId its engine).2 ∧
      (evaluateItems codec rule plan scope runId its engine).2.runs = engine.runs := by
  induction its generalizing engine with
  | nil => exact ⟨Grown.refl engine, rfl⟩
  | cons item its ih =>
    rw [evaluateItems]
    cases hevaluate : evaluate codec rule plan scope item.events item.predicates item.matched runId
        engine with
    | error e => exact ⟨Grown.refl engine, rfl⟩
    | ok r =>
      obtain ⟨⟨ev, sg⟩, engine₁⟩ := r
      obtain ⟨hgrown, hruns⟩ := evaluate_grown hevaluate
      obtain ⟨hgrown', hruns'⟩ := ih engine₁
      simp only
      cases hlater : evaluateItems codec rule plan scope runId its engine₁ with
      | mk answer engine₂ =>
        rw [hlater] at hgrown' hruns'
        cases answer with
        | error e => exact ⟨hgrown.trans hgrown', hruns'.trans hruns⟩
        | ok later => exact ⟨hgrown.trans hgrown', hruns'.trans hruns⟩

lemma bind_grown {ref : RuleRef} (h : bind codec ref rule engine = .ok engine') :
    Grown engine engine' := by
  cases ref with
  | rule r =>
    obtain ⟨⟨p, engine₁⟩, hregister, rfl⟩ := map_eq_ok.mp h
    obtain ⟨v, -, -, -, rfl⟩ := registerRule_eq_ok hregister
    exact ⟨⟨Table.Extends.refl _, Table.Extends.refl _, Table.Extends.refl _, Table.Extends.refl _⟩,
      rfl, rfl, fun hkeyed => ⟨hkeyed.events, hkeyed.signals⟩⟩
  | id ruleId =>
    obtain rfl := Except.ok.inj h
    exact Grown.refl engine

lemma conclude_grown (r : Reading) (engine : DetectionEngine) :
    Grown engine (conclude codec render r engine).2 := by
  rw [conclude]
  cases hfresh : engine.runs.find? (r.runId codec) with
  | some existing => exact Grown.refl engine
  | none =>
    have htick : Grown engine engine.tick :=
      ⟨⟨Table.Extends.refl _, Table.Extends.refl _, Table.Extends.refl _, Table.Extends.refl _⟩, rfl,
        rfl, fun hkeyed => ⟨hkeyed.events, hkeyed.signals⟩⟩
    simp only
    cases items render r.plan r.events with
    | error e => exact htick
    | ok its =>
      obtain ⟨hgrown, hruns⟩ := evaluateItems_grown codec r.rule r.plan r.scope
        (r.runId codec) its engine.tick
      simp only
      cases hevaluate : evaluateItems codec r.rule r.plan r.scope (r.runId codec) its engine.tick with
      | mk answer engine' =>
        rw [hevaluate] at hgrown hruns
        have hfrom := htick.trans hgrown
        cases answer with
        | error e => exact hfrom
        | ok emitted =>
          refine ⟨⟨hfrom.evaluations, hfrom.signals, ?_, hfrom.events⟩, hfrom.scope, hfrom.view, ?_⟩
          · have hnone : engine'.runs.find? (r.runId codec) = none := by
              rw [hruns]
              exact hfresh
            intro x hx
            refine Dict.extends_set hnone _ x ?_
            rw [hruns]
            exact hx
          · intro hkeyed
            exact ⟨(hfrom.keyed hkeyed).events, (hfrom.keyed hkeyed).signals⟩

lemma perform_grown (ref : RuleRef) (requested : Option Scope) (version : Option Int)
    (engine : DetectionEngine) :
    Grown engine (perform codec render ref requested version engine).2 := by
  rw [perform]
  cases hadmission : admission codec ref requested version engine with
  | error e => exact Grown.refl engine
  | ok r =>
    obtain ⟨⟨s, selected⟩, engine₁⟩ := r
    obtain ⟨-, -, -, hbind⟩ := admission_eq_ok hadmission
    simp only [resume]
    cases read s selected engine₁ with
    | error e => exact bind_grown hbind
    | ok r => exact (bind_grown hbind).trans (conclude_grown r engine₁)

lemma exec_grown (codec : Codec) (render : Value → String) (s : Scope) (call : DetectionCall)
    (engine : DetectionEngine) : Grown engine (call.exec codec render s engine).2 := by
  rcases exec_events codec render s engine call with
    ⟨rule, rfl⟩ | ⟨-, plane, hplane, hingested⟩
  · exact perform_grown (.rule rule) (some s) none engine
  · rw [hplane]
    rcases hingested with rfl | ⟨e, rfl⟩
    · exact Grown.refl engine
    · exact ⟨⟨Table.Extends.refl _, Table.Extends.refl _, Table.Extends.refl _, (SecurityEventPlane.ingest_ingested _ _ _).extended⟩,
        rfl, rfl, fun hkeyed => ⟨(SecurityEventPlane.ingest_ingested _ _ _).keyed hkeyed.events, hkeyed.signals⟩⟩

end Run

end SecScanMonitor.DetectionResponse
