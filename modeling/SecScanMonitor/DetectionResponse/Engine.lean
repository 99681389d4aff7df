import SecScanMonitor.DetectionResponse.Matching

/-! The deterministic detection engine over a bounded view of the event plane
(`BoundedSecurityEventIngestor` and `DetectionEngine` of `detection_response/engine.py`). The engine's
clock is the stream of the instants it returns. -/

namespace SecScanMonitor.DetectionResponse

open Foundations Domain ContinuousSecurity

structure BoundedSecurityEventIngestor where
  plane : SecurityEventPlane
  scope : Option Scope

namespace BoundedSecurityEventIngestor

def requireScope (i : BoundedSecurityEventIngestor) (scope : Scope) : Except Raised Unit :=
  raiseIf (i.scope.any fun s => decide (s ≠ scope)) .detectionScopeError
    "event access crossed the bound tenant/case/target scope"

def validate (event : SecurityEvent) (scope : Option Scope) : Except Raised Unit := do
  raiseIf (event.sourceFamily ∉ supportedSourceFamilies) .detectionInputError
      ("unsupported source family: " ++ event.sourceFamily)
  raiseIf (event.ocsfVersion ≠ supportedOcsfVersion) .detectionInputError
      ("unsupported OCSF version: " ++ event.ocsfVersion)
  raiseIf (event.ocsfClass ∉ supportedOcsfClasses ∨ event.eventClass.value ∉ supportedOcsfClasses)
      .detectionInputError "unsupported OCSF event class"
  raiseIf (event.ocsfClass ≠ event.eventClass.value) .detectionInputError
      "OCSF class does not match the normalized event class"
  raiseIf (scope.any fun s => decide (event.scope ≠ s)) .detectionScopeError
      "event did not match the requested scope"

def ingest (codec : Codec) (event : SecurityEvent) (scope : Option Scope)
    (i : BoundedSecurityEventIngestor) :
    Except Raised (EventIngestResult × BoundedSecurityEventIngestor) := do
  scope.elim (.ok ()) i.requireScope
  validate event scope
  match i.plane.ingest codec event with
  | (.ok result, plane) => .ok (result, { i with plane })
  | (.error e, _) => .error e

def events (i : BoundedSecurityEventIngestor) (scope : Option Scope) :
    Except Raised (List SecurityEvent) := do
  let requested ← orRaise (scope <|> i.scope) .detectionScopeError
      "event reads require an explicit tenant/case/target scope"
  i.requireScope requested
  return (i.plane.eventsOf requested.tenantId requested.caseId).filter fun event =>
    event.scope.targetId = requested.targetId

lemma mem_events {i : BoundedSecurityEventIngestor} {s : Scope} {events : List SecurityEvent}
    (h : i.events (some s) = .ok events) {e : SecurityEvent} :
    e ∈ events ↔ (∃ k, i.plane.events.find? k = some e) ∧ e.scope = s := by
  obtain ⟨requested, hrequested, h⟩ := orRaise_bind_eq_ok.mp h
  obtain rfl := Option.some.inj hrequested
  obtain ⟨-, -, h⟩ := bind_eq_ok.mp h
  rw [← Except.ok.inj h, SecurityEventPlane.eventsOf, List.mem_filter, List.mem_insertionSort,
    List.mem_filter, Dict.mem_values_iff_find?]
  simp only [Bool.and_eq_true, decide_eq_true_eq]
  constructor
  · rintro ⟨⟨he, htenant, hcase⟩, htarget⟩
    exact ⟨he, Scope.eq_of_parts htenant hcase htarget⟩
  · rintro ⟨he, rfl⟩
    exact ⟨⟨he, rfl, rfl⟩, rfl⟩

end BoundedSecurityEventIngestor

section Content

variable (codec : Codec)

/-- The members of a rule's JSON that a plan repeats. -/
def RuleContent.members (c : RuleContent) : List (String × Value) :=
  [("rule_type", .str c.ruleType.value), ("content_digest", .str c.contentDigest),
    ("event_schema", .str c.eventSchema),
    ("supported_source_families", .arr (c.supportedSourceFamilies.map .str)),
    ("predicates", .obj c.predicates), ("correlation_keys", .arr (c.correlationKeys.map .str)),
    ("window_seconds", .int c.windowSeconds), ("threshold", .int c.threshold)]

/-- The members of a rule version's JSON, its two dates apart. -/
def DetectionRuleVersion.members (v : DetectionRuleVersion) : List (String × Value) :=
  v.toRuleContent.members ++
    [("rule_id", .str v.ruleId), ("version", .int v.version), ("title", .str v.title),
      ("source", .str v.source), ("source_reference", .str v.sourceReference),
      ("owner", .str v.owner), ("ocsf_version", .str v.ocsfVersion),
      ("severity", .str v.severity.value), ("confidence", .str v.confidence.value),
      ("confidence_metadata", .obj v.confidenceMetadata),
      ("attack_mappings", .arr (v.attackMappings.map .str)),
      ("atlas_mappings", .arr (v.atlasMappings.map .str)),
      ("references", .arr (v.references.map .str)), ("status", .str v.status.value),
      ("evaluation_metadata", .obj v.evaluationMetadata)]

def DetectionRuleVersion.bindingDigest (v : DetectionRuleVersion) : String :=
  codec.contentDigest (.obj (v.members ++
    [("created_at", .str (codec.dumpDatetime v.createdAt)),
      ("modified_at", .str (codec.dumpDatetime v.modifiedAt))]))

def DetectionPlan.bindingDigest (p : DetectionPlan) : String :=
  codec.contentDigest (.obj (p.toRuleContent.members ++
    [("plan_id", .str p.planId), ("rule_id", .str p.ruleId), ("rule_version", .int p.ruleVersion)]))

lemma isBlank_append {s : String} (h : isBlank s = false) (t : String) : isBlank (s ++ t) = false := by
  simp only [isBlank, String.toList_append, List.all_append] at h ⊢
  rw [h, Bool.false_and]

/-- The plan that repeats the content of a rule version. -/
def DetectionRuleVersion.plan (v : DetectionRuleVersion) : DetectionPlan where
  toRuleContent := v.toRuleContent
  planId := stableId codec "PLAN-" [.str v.ruleId, .int v.version, .str v.contentDigest]
  ruleId := v.ruleId
  ruleVersion := v.version
  valid := v.valid
  nonblank := by
    have hrule := List.all_eq_true.mp v.nonblank v.ruleId List.mem_cons_self
    have hplan : isBlank (stableId codec "PLAN-"
        [.str v.ruleId, .int v.version, .str v.contentDigest]) = false :=
      isBlank_append (by decide) _
    simp only [List.all_cons, List.all_nil, hplan, hrule, Bool.not_false, Bool.and_self]

def DetectionPlan.same (p q : DetectionPlan) : Bool :=
  p.planId = q.planId && p.ruleId = q.ruleId && p.ruleVersion = q.ruleVersion &&
    p.toRuleContent.same q.toRuleContent

end Content

/-- `tuple(sorted(set(items)))` -/
def normalized (items : List String) : List String := items.eraseDups.insertionSort (· ≤ ·)

lemma mem_normalized {items : List String} {x : String} : x ∈ normalized items ↔ x ∈ items := by
  rw [normalized, List.mem_insertionSort, List.mem_eraseDups]

/-- The version an engine is built with unless it is given another. -/
def engineVersion : String := "secscan-detection-engine-v1"

structure DetectionEngine where
  events : BoundedSecurityEventIngestor
  scope : Option Scope
  engineVersion : String
  clock : ℕ → Datetime
  rules : Dict (String × Int) DetectionRule
  plans : Dict (String × Int) DetectionPlan
  ruleBindings : Dict (String × Int) String
  planBindings : Dict (String × Int) String
  evaluations : Dict String DetectionEvaluation
  signals : Dict String DetectionSignal
  runs : Dict String DetectionRun

def EvaluationResult.of (matched : Bool) : EvaluationResult := if matched then .match else .noMatch

/-- A rule handed to the engine itself, or named by its id. -/
inductive RuleRef where
  | rule (rule : DetectionRule)
  | id (ruleId : String)

namespace DetectionEngine

def init (events : BoundedSecurityEventIngestor) (scope : Option Scope) (clock : ℕ → Datetime) :
    DetectionEngine where
  events := events
  scope := scope <|> events.scope
  engineVersion := DetectionResponse.engineVersion
  clock := clock
  rules := Table.empty
  plans := Table.empty
  ruleBindings := Table.empty
  planBindings := Table.empty
  evaluations := Table.empty
  signals := Table.empty
  runs := Table.empty

def now (engine : DetectionEngine) : Datetime := engine.clock 0

/-- The engine after it has read its clock. -/
def tick (engine : DetectionEngine) : DetectionEngine :=
  { engine with clock := fun n => engine.clock (n + 1) }

def requireScope (engine : DetectionEngine) (scope : Scope) : Except Raised Unit :=
  raiseIf (engine.scope.any fun s => decide (s ≠ scope)) .detectionScopeError
    "detection access crossed the bound tenant/case/target scope"

section Register

variable (codec : Codec)

def requestedVersion (rule : DetectionRule) (versionNumber : Option Int) :
    Except Raised DetectionRuleVersion :=
  match versionNumber with
  | none => .ok rule.active
  | some number =>
    orRaise (rule.find number) .detectionInputError
      "requested rule version is not present in the rule"

/-- A version that is bound already keeps its plan. -/
def checkPlanBinding (key : String × Int) (plan : DetectionPlan) (engine : DetectionEngine) :
    Except Raised Unit :=
  match engine.planBindings.find? key with
  | none => .ok ()
  | some binding => do
    raiseIf ((engine.plans.find? key).all fun existing =>
        decide (binding ≠ existing.bindingDigest codec)) .detectionInputError
        "registered detection plan content changed after binding"
    raiseIf ((engine.plans.find? key).any fun existing => !existing.same plan) .detectionInputError
        "rule version is already bound to a different detection plan"

def registerRule (rule : DetectionRule) (plan : Option DetectionPlan) (versionNumber : Option Int)
    (engine : DetectionEngine) : Except Raised (DetectionPlan × DetectionEngine) := do
  let version ← requestedVersion rule versionNumber
  raiseIf (version.status = .disabled ∨ version.status = .deprecated) .detectionInputError
      "disabled or deprecated rules cannot be registered for evaluation"
  let plan := plan.getD (version.plan codec)
  let key := (version.ruleId, version.version)
  raiseIf ((engine.ruleBindings.find? key).any fun d => decide (d ≠ version.bindingDigest codec))
      .detectionInputError "registered rule version content changed after binding"
  checkPlanBinding codec key plan engine
  raiseIf (plan.ruleId ≠ version.ruleId ∨ plan.ruleVersion ≠ version.version) .detectionInputError
      "detection plan is bound to a different rule version"
  raiseIf (plan.contentDigest ≠ version.contentDigest) .detectionInputError
      "detection plan digest does not match the rule version"
  raiseIf (plan.toRuleContent.same version.toRuleContent = false) .detectionInputError
      "detection plan content does not match the rule version"
  validatePredicates plan.predicates
  return (plan,
    { engine with
      rules := engine.rules.set key rule
      plans := engine.plans.set key plan
      ruleBindings := engine.ruleBindings.set key (version.bindingDigest codec)
      planBindings := engine.planBindings.set key (plan.bindingDigest codec) })

def assertRegisteredBinding (version : DetectionRuleVersion) (engine : DetectionEngine) :
    Except Raised Unit := do
  let key := (version.ruleId, version.version)
  raiseIf (engine.ruleBindings.find? key ≠ some (version.bindingDigest codec)) .detectionInputError
      "registered rule version content changed after binding"
  raiseIf ((engine.plans.find? key).all fun plan =>
      decide (engine.planBindings.find? key ≠ some (plan.bindingDigest codec))) .detectionInputError
      "registered detection plan content changed after binding"

/-- `_version` -/
def selectVersion (ref : RuleRef) (version : Option Int) (engine : DetectionEngine) :
    Except Raised DetectionRuleVersion :=
  match ref, version with
  | .rule rule, version => requestedVersion rule version
  | .id ruleId, none =>
    match (engine.rules.rows.filter fun e => e.1.1 = ruleId).map Prod.snd with
    | [registered] => do
      let selected := registered.active
      raiseIf (engine.plans.find? (selected.ruleId, selected.version) = none) .detectionInputError
          "active rule version is not registered"
      assertRegisteredBinding codec selected engine
      return selected
    | _ => raise .detectionInputError "rule id requires one registered version"
  | .id ruleId, some number => do
    let registered ← orRaise (engine.rules.find? (ruleId, number)) .detectionInputError
        "rule version is not registered"
    let selected ← orRaise (registered.find number) .detectionInputError
        "registered rule does not contain the requested version"
    assertRegisteredBinding codec selected engine
    return selected

end Register

section Evaluate

variable (codec : Codec)

def evaluationKey (scope : Scope) (rule : DetectionRuleVersion) (runId : String)
    (eventIds : List String) (result : EvaluationResult) (digest : String) : Value :=
  .arr [scope.key, .str rule.ruleId, .int rule.version, .str runId, .arr (eventIds.map .str),
    .str result.value, .str digest]

/-- What a signal's id is derived from; a run's id is derived from the same of its input. -/
def identity (scope : Scope) (rule : DetectionRuleVersion) (eventIds : List String)
    (digest : String) : List Value :=
  [scope.key, .str rule.ruleId, .int rule.version, .arr (eventIds.map .str), .str digest]

def evidenceOf (events : List SecurityEvent) : List String :=
  (events.map (·.rawEvidenceRef)).eraseDups.insertionSort (· ≤ ·)

def differs (signal : DetectionSignal) (scope : Scope) (rule : DetectionRuleVersion)
    (plan : DetectionPlan) (eventIds predicates evidence : List String) : Bool :=
  signal.scope ≠ scope || signal.ruleId ≠ rule.ruleId || signal.ruleVersion ≠ rule.version ||
    signal.eventIds ≠ eventIds || signal.matchedPredicates ≠ predicates ||
    signal.rawEvidenceRefs ≠ evidence || signal.ruleDigest ≠ plan.contentDigest ||
    signal.severity ≠ rule.severity || signal.confidence ≠ rule.confidence

/-- The id of the signal that a match raises. -/
def signalIdFor (scope : Scope) (rule : DetectionRuleVersion) (eventIds : List String)
    (digest : String) (matched : Bool) : Option String :=
  if matched then some (stableId codec "SIG-" (identity scope rule eventIds digest)) else none

def evaluate (rule : DetectionRuleVersion) (plan : DetectionPlan) (scope : Scope)
    (events : List SecurityEvent) (predicates : List String) (matched : Bool) (runId : String)
    (engine : DetectionEngine) :
    Except Raised ((DetectionEvaluation × Option DetectionSignal) × DetectionEngine) :=
  let eventIds := (events.map (·.eventId)).insertionSort (· ≤ ·)
  let result := EvaluationResult.of matched
  let key := evaluationKey scope rule runId eventIds result plan.contentDigest
  let evaluationId := stableId codec "EVAL-" [key]
  let signalId := signalIdFor codec scope rule eventIds plan.contentDigest matched
  let existingSignal := signalId.bind engine.signals.find?
  match engine.evaluations.find? evaluationId with
  | some existing =>
    if existing.result = .match ∧ existingSignal = none then
      raise .detectionInputError "matched evaluation is missing its canonical signal"
    else .ok ((existing, existingSignal), engine)
  | none => do
    raiseIf (existingSignal.any fun signal =>
        differs signal scope rule plan eventIds predicates (evidenceOf events)) .detectionInputError
        "signal identity was reused for different content"
    let evaluation : DetectionEvaluation :=
      { evaluationId, runId, scope
        ruleId := rule.ruleId
        ruleVersion := rule.version
        inputEventIds := eventIds
        evaluatedAt := engine.now
        matchedPredicates := predicates
        result, signalId
        engineVersion := engine.engineVersion
        ruleDigest := plan.contentDigest
        idempotencyKey := codec.contentDigest key }
    let engine := { engine.tick with evaluations := engine.evaluations.set evaluationId evaluation }
    match signalId with
    | none => return ((evaluation, none), engine)
    | some signalId =>
      let signal : DetectionSignal :=
        { signalId, scope
          ruleId := rule.ruleId
          ruleVersion := rule.version
          eventIds
          sourceSignalIds := []
          detectedAt := engine.now
          severity := rule.severity
          confidence := rule.confidence
          matchedPredicates := predicates
          rawEvidenceRefs := evidenceOf events
          ruleDigest := plan.contentDigest
          status := "NEW" }
      match existingSignal with
      | some existing => return ((evaluation, some existing), engine.tick)
      | none =>
        return ((evaluation, some signal),
          { engine.tick with signals := engine.signals.set signalId signal })

variable (render : Value → String)

/-- The ids of what was evaluated and signalled, in order. -/
abbrev Emitted := List String × List String

def Emitted.add (evaluation : DetectionEvaluation) (signal : Option DetectionSignal)
    (later : Emitted) : Emitted :=
  (evaluation.evaluationId :: later.1, (signal.map (·.signalId)).toList ++ later.2)

/-- EVENT_MATCH: every event is evaluated by itself. -/
def evaluateEvents (rule : DetectionRuleVersion) (plan : DetectionPlan) (scope : Scope)
    (runId : String) :
    List SecurityEvent → DetectionEngine → Except Raised (Emitted × DetectionEngine)
  | [], engine => .ok (([], []), engine)
  | event :: events, engine => do
    let (matched, predicates) ← matchesEvent render event plan.predicates
    let ((evaluation, signal), engine) ←
      evaluate codec rule plan scope [event] predicates matched runId engine
    let (later, engine) ← evaluateEvents rule plan scope runId events engine
    return (Emitted.add evaluation signal later, engine)

abbrev Group := List Value × List SecurityEvent

/-- `groups[key].append(event)`: a dictionary keyed by tuples, in the order of insertion. -/
def addToGroup (key : List Value) (event : SecurityEvent) : List Group → List Group
  | [] => [(key, [event])]
  | group :: groups =>
    if (Value.arr group.1).pyEq (.arr key) then (group.1, group.2 ++ [event]) :: groups
    else group :: addToGroup key event groups

def missing : Value → Bool
  | .null => true
  | .str s => isBlank s
  | _ => false

def unhashable : Value → Bool
  | .arr _ | .obj _ => true
  | _ => false

def groupEvents (plan : DetectionPlan) :
    List SecurityEvent → List Group → Except Raised (List Group)
  | [], groups => .ok groups
  | event :: events, groups => do
    let (matched, _) ← matchesEvent render event plan.predicates
    let key := plan.correlationKeys.map (fieldValue event)
    if matched = false ∨ key.any missing then groupEvents plan events groups
    else
      raiseIf (key.any unhashable) .detectionInputError
          "correlation keys must resolve to hashable values"
      groupEvents plan events (addToGroup key event groups)

def occurredBefore (a b : SecurityEvent) : Prop :=
  a.occurredAt < b.occurredAt ∨ a.occurredAt = b.occurredAt ∧ a.eventId ≤ b.eventId

instance : DecidableRel occurredBefore := fun a b => by
  unfold occurredBefore
  infer_instance

/-- The windows of a group that reach the threshold, one for each event that ends one. -/
def windowsOf (plan : DetectionPlan) (group : List SecurityEvent) : List (List SecurityEvent) :=
  ((group.insertionSort occurredBefore).inits.filterMap fun lead =>
    lead.getLast?.map fun event => lead.filter fun candidate =>
      event.occurredAt - candidate.occurredAt ≤ Datetime.addSeconds 0 plan.windowSeconds).filter
    fun window => plan.threshold ≤ window.length

def evaluateWindows (rule : DetectionRuleVersion) (plan : DetectionPlan) (scope : Scope)
    (runId : String) :
    List (List SecurityEvent) → DetectionEngine → Except Raised (Emitted × DetectionEngine)
  | [], engine => .ok (([], []), engine)
  | window :: windows, engine => do
    let ((evaluation, signal), engine) ←
      evaluate codec rule plan scope window ["COUNT_OVER_WINDOW"] true runId engine
    let (later, engine) ← evaluateWindows rule plan scope runId windows engine
    return (Emitted.add evaluation signal later, engine)

def evaluateAll (rule : DetectionRuleVersion) (plan : DetectionPlan) (scope : Scope)
    (runId : String) (events : List SecurityEvent) (engine : DetectionEngine) :
    Except Raised (Emitted × DetectionEngine) :=
  match plan.ruleType with
  | .eventMatch => evaluateEvents codec render rule plan scope runId events engine
  | .countOverWindow => do
    let groups ← groupEvents render plan events []
    evaluateWindows codec rule plan scope runId (groups.flatMap fun g => windowsOf plan g.2) engine

/-- A rule handed to the engine is registered by its run. -/
def bind (ref : RuleRef) (selected : DetectionRuleVersion) (engine : DetectionEngine) :
    Except Raised DetectionEngine :=
  match ref with
  | .rule rule => (registerRule codec rule none (some selected.version) engine).map Prod.snd
  | .id _ => .ok engine

def run (ref : RuleRef) (scope : Option Scope) (version : Option Int) (engine : DetectionEngine) :
    Except Raised (DetectionRun × DetectionEngine) := do
  let requested ← orRaise (scope <|> engine.scope) .detectionScopeError
      "detection runs require an explicit scope"
  engine.requireScope requested
  let selected ← selectVersion codec ref version engine
  let engine ← bind codec ref selected engine
  let plan ← orRaise (engine.plans.find? (selected.ruleId, selected.version)) .keyError
      selected.ruleId
  let events ← engine.events.events (some requested)
  let sourceEvents := events.filter fun e => decide (e.sourceFamily ∈ plan.supportedSourceFamilies)
  let inputEventIds := sourceEvents.map (·.eventId)
  let runId := stableId codec "RUN-" (identity requested selected inputEventIds plan.contentDigest)
  match engine.runs.find? runId with
  | some existing => return (existing, engine)
  | none =>
    let startedAt := engine.now
    let (emitted, engine) ←
      evaluateAll codec render selected plan requested runId sourceEvents engine.tick
    let run : DetectionRun :=
      { runId
        scope := requested
        ruleIds := [selected.ruleId]
        inputEventIds
        evaluationIds := emitted.1.eraseDups
        signalIds := emitted.2.eraseDups
        engineVersion := engine.engineVersion
        startedAt
        completedAt := engine.now
        status := "COMPLETED" }
    return (run, { engine.tick with runs := engine.runs.set runId run })

end Evaluate

/-- `evaluations` -/
def evaluationsOf (engine : DetectionEngine) (scope : Option Scope) :
    Except Raised (List DetectionEvaluation) := do
  let requested ← orRaise (scope <|> engine.scope) .detectionScopeError
      "evaluation reads require an explicit scope"
  engine.requireScope requested
  return ((engine.evaluations.values).filter fun e => e.scope = requested).insertionSort
    fun a b => a.evaluationId ≤ b.evaluationId

/-- `signals` -/
def signalsOf (engine : DetectionEngine) (scope : Option Scope) :
    Except Raised (List DetectionSignal) := do
  let requested ← orRaise (scope <|> engine.scope) .detectionScopeError
      "signal reads require an explicit scope"
  engine.requireScope requested
  return ((engine.signals.values).filter fun x => x.scope = requested).insertionSort
    fun a b => a.signalId ≤ b.signalId

/-- `runs` -/
def runsOf (engine : DetectionEngine) (scope : Option Scope) : Except Raised (List DetectionRun) := do
  let requested ← orRaise (scope <|> engine.scope) .detectionScopeError
      "run reads require an explicit scope"
  engine.requireScope requested
  return ((engine.runs.values).filter fun x => x.scope = requested).insertionSort
    fun a b => a.runId ≤ b.runId

def getSignal (engine : DetectionEngine) (signalId : String) (scope : Scope) :
    Except Raised DetectionSignal := do
  engine.requireScope scope
  orRaise ((engine.signals.find? signalId).filter fun s => s.scope = scope) .detectionScopeError
      "signal is absent or outside the requested scope"

end DetectionEngine

end SecScanMonitor.DetectionResponse
