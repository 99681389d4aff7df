import SecScanMonitor.DetectionResponse.Engine

/-! A run that may fail halfway: the rule that it has registered and what it has evaluated stay
(`register_rule`, `run` and `_evaluate` of `detection_response/engine.py`). -/

namespace SecScanMonitor.DetectionResponse

open Foundations Domain ContinuousSecurity

namespace DetectionEngine

section Register

variable (codec : Codec)

/-- The version and the plan that `register_rule` binds, once it has accepted them. -/
def registration (rule : DetectionRule) (plan : Option DetectionPlan) (versionNumber : Option Int)
    (engine : DetectionEngine) : Except Raised (DetectionRuleVersion × DetectionPlan) := do
  let version ← requestedVersion rule versionNumber
  raiseIf (version.status = .disabled ∨ version.status = .deprecated) .detectionInputError
      "disabled or deprecated rules cannot be registered for evaluation"
  let plan := plan.getD (version.plan codec)
  let key := (version.ruleId, version.version)
  raiseIf ((engine.ruleBindings.find? key).any fun d => decide (d ≠ version.bindingDigest codec))
      .detectionInputError "registered rule version content changed after binding"
  checkPlanBinding codec key plan engine
  raiseIf (plan.ruleId ≠ version.ruleId ∨ plan.ruleVersion ≠ version.version) .detectionInputError
      "detection plan is bound to a different rule version"
  raiseIf (plan.contentDigest ≠ version.contentDigest) .detectionInputError
      "detection plan digest does not match the rule version"
  raiseIf (plan.toRuleContent.same version.toRuleContent = false) .detectionInputError
      "detection plan content does not match the rule version"
  validatePredicates plan.predicates
  return (version, plan)

/-- The engine with a version and a plan bound. -/
def enter (rule : DetectionRule) (version : DetectionRuleVersion) (plan : DetectionPlan)
    (engine : DetectionEngine) : DetectionEngine :=
  { engine with
    rules := engine.rules.set (version.ruleId, version.version) rule
    plans := engine.plans.set (version.ruleId, version.version) plan
    ruleBindings := engine.ruleBindings.set (version.ruleId, version.version)
      (version.bindingDigest codec)
    planBindings := engine.planBindings.set (version.ruleId, version.version)
      (plan.bindingDigest codec) }

lemma registerRule_eq (rule : DetectionRule) (plan : Option DetectionPlan) (number : Option Int)
    (engine : DetectionEngine) : registerRule codec rule plan number engine =
      (registration codec rule plan number engine).map
        fun r => (r.2, enter codec rule r.1 r.2 engine) := by
  simp only [registration, map_bind]
  rfl

/-- What a registration has checked. -/
structure Registrable (rule : DetectionRule) (plan : Option DetectionPlan) (number : Option Int)
    (engine : DetectionEngine) (version : DetectionRuleVersion) (entered : DetectionPlan) : Prop where
  requested : requestedVersion rule number = .ok version
  enabled : ¬ (version.status = .disabled ∨ version.status = .deprecated)
  planned : entered = plan.getD (version.plan codec)
  ruleBound : ¬ ((engine.ruleBindings.find? (version.ruleId, version.version)).any
    fun d => decide (d ≠ version.bindingDigest codec)) = true
  planBound : checkPlanBinding codec (version.ruleId, version.version) entered engine = .ok ()
  validated : validatePredicates entered.predicates = .ok ()

variable {codec} {rule : DetectionRule} {plan : Option DetectionPlan} {number : Option Int}
  {engine engine' : DetectionEngine}

lemma registration_eq_ok {c : DetectionRuleVersion × DetectionPlan}
    (h : registration codec rule plan number engine = .ok c) :
    Registrable codec rule plan number engine c.1 c.2 := by
  obtain ⟨v, hrequested, h⟩ := bind_eq_ok.mp h
  obtain ⟨henabled, h⟩ := raiseIf_bind_eq_ok.mp h
  obtain ⟨hrule, h⟩ := raiseIf_bind_eq_ok.mp h
  obtain ⟨u, hplan, h⟩ := bind_eq_ok.mp h
  obtain ⟨-, h⟩ := raiseIf_bind_eq_ok.mp h
  obtain ⟨-, h⟩ := raiseIf_bind_eq_ok.mp h
  obtain ⟨-, h⟩ := raiseIf_bind_eq_ok.mp h
  obtain ⟨u', hvalidated, h⟩ := bind_eq_ok.mp h
  obtain rfl := Except.ok.inj h
  exact ⟨hrequested, henabled, rfl, hrule, hplan, hvalidated⟩

lemma RuleContent.same_self (c : RuleContent) : c.same c = true := by
  simp [RuleContent.same]

/-- A version is registered with its own plan where the bindings and the predicates allow it. -/
lemma registerRule_own {v : DetectionRuleVersion} (h : Registrable codec rule plan number engine v (v.plan codec)) :
    ∃ engine', registerRule codec rule plan number engine = .ok (v.plan codec, engine') := by
  have hplanned := h.planned
  refine ⟨_, bind_eq_ok.mpr ⟨v, h.requested, raiseIf_bind_eq_ok.mpr ⟨h.enabled, raiseIf_bind_eq_ok.mpr
    ⟨h.ruleBound, bind_eq_ok.mpr ⟨(), ?_, raiseIf_bind_eq_ok.mpr ⟨?_, raiseIf_bind_eq_ok.mpr ⟨?_,
      raiseIf_bind_eq_ok.mpr ⟨?_, bind_eq_ok.mpr ⟨(), ?_, congrArg (fun p => Except.ok (p, _)) hplanned.symm⟩⟩⟩⟩⟩⟩⟩⟩⟩
  · rw [← hplanned]
    exact h.planBound
  · rw [← hplanned]
    exact not_or.mpr ⟨not_not.mpr rfl, not_not.mpr rfl⟩
  · rw [← hplanned]
    exact not_not.mpr rfl
  · rw [← hplanned, Bool.not_eq_false]
    exact RuleContent.same_self _
  · rw [← hplanned]
    exact h.validated

lemma registerRule_enters {p : DetectionPlan}
    (h : registerRule codec rule plan number engine = .ok (p, engine')) :
    ∃ v, Registrable codec rule plan number engine v p ∧ engine' = enter codec rule v p engine := by
  rw [registerRule_eq] at h
  obtain ⟨⟨v, q⟩, hc, heq⟩ := map_eq_ok.mp h
  obtain ⟨rfl, rfl⟩ := Prod.mk.inj heq
  exact ⟨v, registration_eq_ok hc, rfl⟩

end Register

section Evaluate

/-- What an evaluation is of. -/
structure Item where
  events : List SecurityEvent
  predicates : List String
  matched : Bool

variable (codec : Codec) (render : Value → String)

/-- What a plan makes of the events. An EVENT_MATCH plan refuses its predicates at its first event or
at none. -/
def items (plan : DetectionPlan) (events : List SecurityEvent) : Except Raised (List Item) :=
  match plan.ruleType with
  | .eventMatch => events.mapM fun event => do
    let (matched, predicates) ← matchesEvent render event plan.predicates
    return ⟨[event], predicates, matched⟩
  | .countOverWindow => do
    let groups ← groupEvents render plan events []
    return (groups.flatMap fun g => windowsOf plan g.2).map fun window =>
      ⟨window, ["COUNT_OVER_WINDOW"], true⟩

def evaluateItems (rule : DetectionRuleVersion) (plan : DetectionPlan) (scope : Scope)
    (runId : String) : List Item → Effect DetectionEngine Emitted
  | [], engine => (.ok ([], []), engine)
  | item :: items, engine =>
    match evaluate codec rule plan scope item.events item.predicates item.matched runId engine with
    | .error e => (.error e, engine)
    | .ok ((evaluation, signal), engine) =>
      match evaluateItems rule plan scope runId items engine with
      | (.error e, engine) => (.error e, engine)
      | (.ok later, engine) => (.ok (Emitted.add evaluation signal later), engine)

/-- What a run is of: a scope, a rule version, its plan and the events that the plan takes. -/
structure Reading where
  scope : Scope
  rule : DetectionRuleVersion
  plan : DetectionPlan
  events : List SecurityEvent
  deriving DecidableEq

def Reading.identity (r : Reading) : List Value :=
  DetectionEngine.identity r.scope r.rule (r.events.map (·.eventId)) r.plan.contentDigest

def Reading.runId (r : Reading) : String := stableId codec "RUN-" r.identity

/-- The scope and the version of a run, and the engine with the rule of the run registered. -/
def admission (ref : RuleRef) (scope : Option Scope) (version : Option Int) (engine : DetectionEngine) :
    Except Raised ((Scope × DetectionRuleVersion) × DetectionEngine) := do
  let requested ← orRaise (scope <|> engine.scope) .detectionScopeError
      "detection runs require an explicit scope"
  engine.requireScope requested
  let selected ← selectVersion codec ref version engine
  let engine ← bind codec ref selected engine
  return ((requested, selected), engine)

def read (requested : Scope) (selected : DetectionRuleVersion) (engine : DetectionEngine) :
    Except Raised Reading := do
  let plan ← orRaise (engine.plans.find? (selected.ruleId, selected.version)) .keyError
      selected.ruleId
  let events ← engine.events.events (some requested)
  return ⟨requested, selected, plan,
    events.filter fun e => decide (e.sourceFamily ∈ plan.supportedSourceFamilies)⟩

def Reading.run (r : Reading) (emitted : Emitted) (engineVersion : String)
    (startedAt completedAt : Datetime) : DetectionRun where
  runId := r.runId codec
  scope := r.scope
  ruleIds := [r.rule.ruleId]
  inputEventIds := r.events.map (·.eventId)
  evaluationIds := emitted.1.eraseDups
  signalIds := emitted.2.eraseDups
  engineVersion := engineVersion
  startedAt := startedAt
  completedAt := completedAt
  status := "COMPLETED"

/-- The run of what was read. -/
def conclude (r : Reading) : Effect DetectionEngine DetectionRun := fun engine =>
  match engine.runs.find? (r.runId codec) with
  | some existing => (.ok existing, engine)
  | none =>
    let startedAt := engine.now
    match items render r.plan r.events with
    | .error e => (.error e, engine.tick)
    | .ok items =>
      match evaluateItems codec r.rule r.plan r.scope (r.runId codec) items engine.tick with
      | (.error e, engine) => (.error e, engine)
      | (.ok emitted, engine) =>
        let run := r.run codec emitted engine.engineVersion startedAt engine.now
        (.ok run, { engine.tick with runs := engine.runs.set (r.runId codec) run })

/-- The rest of a run that is admitted. -/
def resume (requested : Scope) (selected : DetectionRuleVersion) :
    Effect DetectionEngine DetectionRun := fun engine =>
  match read requested selected engine with
  | .error e => (.error e, engine)
  | .ok r => conclude codec render r engine

/-- `run`, with the state that it leaves behind when it raises. -/
def perform (ref : RuleRef) (scope : Option Scope) (version : Option Int) :
    Effect DetectionEngine DetectionRun := fun engine =>
  match admission codec ref scope version engine with
  | .error e => (.error e, engine)
  | .ok ((requested, selected), engine) => resume codec render requested selected engine

/-- What an effect returns, with its state when it succeeds. -/
def succeeded {σ α : Type} (r : Except Raised α × σ) : Except Raised (α × σ) :=
  r.1.map fun a => (a, r.2)

variable {codec render} {rule : DetectionRuleVersion} {plan : DetectionPlan} {scope : Scope}
  {runId : String}

lemma admission_eq_ok {ref : RuleRef} {requested : Option Scope} {version : Option Int}
    {engine engine' : DetectionEngine}
    (h : admission codec ref requested version engine = .ok ((scope, rule), engine')) :
    (requested <|> engine.scope) = some scope ∧ engine.requireScope scope = .ok () ∧
      selectVersion codec ref version engine = .ok rule ∧
      bind codec ref rule engine = .ok engine' := by
  obtain ⟨s, hs, h⟩ := orRaise_bind_eq_ok.mp h
  obtain ⟨u, hrequire, h⟩ := bind_eq_ok.mp h
  obtain ⟨v, hselect, h⟩ := bind_eq_ok.mp h
  obtain ⟨x, hbind, h⟩ := bind_eq_ok.mp h
  obtain ⟨hpair, rfl⟩ := Prod.mk.inj (Except.ok.inj h)
  obtain ⟨rfl, rfl⟩ := Prod.mk.inj hpair
  exact ⟨hs, hrequire, hselect, hbind⟩

variable (render) in
lemma matchesEvent_of_valid {predicates : List (String × Value)}
    (hvalid : validatePredicates predicates = .ok ()) (e : SecurityEvent) :
    ∃ r, matchesEvent render e predicates = .ok r := by
  rw [matchesEvent, hvalid, ok_bind]
  split
  · exact ⟨_, rfl⟩
  · exact ⟨_, rfl⟩

variable (render) in
lemma matchesEvent_of_invalid {predicates : List (String × Value)} {x : Raised}
    (hinvalid : validatePredicates predicates = .error x) (e : SecurityEvent) :
    matchesEvent render e predicates = .error x := by
  rw [matchesEvent, hinvalid]
  rfl

lemma succeeded_evaluateItems_cons (item : Item) (items : List Item) (engine : DetectionEngine) :
    succeeded (evaluateItems codec rule plan scope runId (item :: items) engine) = (do
      let ((evaluation, signal), engine) ← evaluate codec rule plan scope item.events
        item.predicates item.matched runId engine
      let (later, engine) ← succeeded (evaluateItems codec rule plan scope runId items engine)
      return (Emitted.add evaluation signal later, engine)) := by
  rw [evaluateItems]
  cases evaluate codec rule plan scope item.events item.predicates item.matched runId engine with
  | error e => rfl
  | ok r =>
    obtain ⟨⟨evaluation, signal⟩, engine⟩ := r
    rw [ok_bind]
    simp only
    cases evaluateItems codec rule plan scope runId items engine with
    | mk answer engine =>
      cases answer with
      | error e => rfl
      | ok later => rfl

lemma evaluateEvents_eq {its : List Item} (htype : plan.ruleType = .eventMatch)
    {events : List SecurityEvent} (hitems : items render plan events = .ok its)
    (engine : DetectionEngine) : evaluateEvents codec render rule plan scope runId events engine =
      succeeded (evaluateItems codec rule plan scope runId its engine) := by
  rw [items, htype] at hitems
  simp only at hitems
  induction events generalizing engine its with
  | nil =>
    obtain rfl := Except.ok.inj hitems
    rfl
  | cons event events ih =>
    rw [List.mapM_cons] at hitems
    obtain ⟨item, hitem, hitems⟩ := bind_eq_ok.mp hitems
    obtain ⟨later, hlater, hitems⟩ := bind_eq_ok.mp hitems
    obtain ⟨⟨matched, predicates⟩, hmatches, hitem⟩ := bind_eq_ok.mp hitem
    obtain rfl := Except.ok.inj hitem
    obtain rfl := Except.ok.inj hitems
    rw [evaluateEvents, hmatches, ok_bind, succeeded_evaluateItems_cons]
    simp only [ih hlater]

lemma evaluateWindows_eq (windows : List (List SecurityEvent)) (engine : DetectionEngine) :
    evaluateWindows codec rule plan scope runId windows engine =
      succeeded (evaluateItems codec rule plan scope runId
        (windows.map fun window => ⟨window, ["COUNT_OVER_WINDOW"], true⟩) engine) := by
  induction windows generalizing engine with
  | nil => rfl
  | cons window windows ih =>
    rw [List.map_cons, succeeded_evaluateItems_cons, evaluateWindows]
    simp only [ih]

/-- Evaluating while reading is evaluating what was read. -/
lemma evaluateAll_eq (events : List SecurityEvent) (engine : DetectionEngine) :
    evaluateAll codec render rule plan scope runId events engine =
      items render plan events >>= fun its =>
        succeeded (evaluateItems codec rule plan scope runId its engine) := by
  cases htype : plan.ruleType with
  | eventMatch =>
    rw [evaluateAll, htype]
    simp only
    cases hitems : items render plan events with
    | ok its => exact evaluateEvents_eq htype hitems engine
    | error x =>
      -- the predicates are refused, and already at the first event
      cases hvalid : validatePredicates plan.predicates with
      | ok u =>
        obtain ⟨its, hits⟩ : ∃ its, items render plan events = .ok its := by
          rw [items, htype]
          simp only
          clear hitems
          induction events with
          | nil => exact ⟨[], rfl⟩
          | cons event events ih =>
            obtain ⟨its, hits⟩ := ih
            obtain ⟨r, hr⟩ := matchesEvent_of_valid render hvalid event
            rw [List.mapM_cons, hr, hits]
            exact ⟨_, rfl⟩
        rw [hits] at hitems
        cases hitems
      | error y =>
        rw [items, htype] at hitems
        cases events with
        | nil => cases hitems
        | cons event events =>
          have hrefused := matchesEvent_of_invalid render hvalid event
          simp only [List.mapM_cons, hrefused] at hitems
          obtain rfl : y = x := Except.error.inj hitems
          rw [evaluateEvents, hrefused]
          rfl
  | countOverWindow =>
    rw [evaluateAll, items, htype]
    simp only
    cases groupEvents render plan events [] with
    | error x => rfl
    | ok groups => exact evaluateWindows_eq _ engine

lemma succeeded_eq_ok {σ α : Type} {r : Except Raised α × σ} {a : α} {s : σ} :
    succeeded r = .ok (a, s) ↔ r = (.ok a, s) := by
  obtain ⟨answer, s'⟩ := r
  cases answer with
  | error e => simp [succeeded, Except.map]
  | ok b => simp [succeeded, Except.map]

lemma conclude_eq (r : Reading) (engine : DetectionEngine) :
    succeeded (conclude codec render r engine) =
      match engine.runs.find? (r.runId codec) with
      | some existing => .ok (existing, engine)
      | none => do
        let (emitted, engine') ← evaluateAll codec render r.rule r.plan r.scope (r.runId codec)
          r.events engine.tick
        let run := r.run codec emitted engine'.engineVersion engine.now engine'.now
        return (run, { engine'.tick with runs := engine'.runs.set (r.runId codec) run }) := by
  rw [conclude]
  cases engine.runs.find? (r.runId codec) with
  | some existing => rfl
  | none =>
    simp only [evaluateAll_eq]
    cases items render r.plan r.events with
    | error e => rfl
    | ok its =>
      simp only [ok_bind]
      cases evaluateItems codec r.rule r.plan r.scope (r.runId codec) its engine.tick with
      | mk answer engine' =>
        cases answer with
        | error e => rfl
        | ok emitted => rfl

/-- The runs that succeed are those of `run`. -/
lemma perform_eq (ref : RuleRef) (scope : Option Scope) (version : Option Int)
    (engine : DetectionEngine) :
    succeeded (perform codec render ref scope version engine) =
      run codec render ref scope version engine := by
  rw [perform, admission, run]
  cases orRaise (scope <|> engine.scope) .detectionScopeError
      "detection runs require an explicit scope" with
  | error e => rfl
  | ok requested =>
  rw [ok_bind, ok_bind]
  cases engine.requireScope requested with
  | error e => rfl
  | ok u =>
  rw [ok_bind, ok_bind]
  cases selectVersion codec ref version engine with
  | error e => rfl
  | ok selected =>
  rw [ok_bind, ok_bind]
  cases bind codec ref selected engine with
  | error e => rfl
  | ok engine =>
  simp only [ok_bind, resume, read, pure, Except.pure]
  cases orRaise (engine.plans.find? (selected.ruleId, selected.version)) .keyError
      selected.ruleId with
  | error e => rfl
  | ok plan =>
  simp only [ok_bind]
  cases engine.events.events (some requested) with
  | error e => rfl
  | ok events => exact conclude_eq _ engine

end Evaluate

end DetectionEngine

end SecScanMonitor.DetectionResponse
