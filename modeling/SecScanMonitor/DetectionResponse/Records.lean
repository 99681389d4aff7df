import SecScanMonitor.ContinuousSecurity.Events

/-! Detection rules and plans, what the engine emits for them, and hunts with their results
(`detection_response/domain.py`). -/

namespace SecScanMonitor.DetectionResponse

open Foundations Domain

def supportedSourceFamilies : List String :=
  ["secscan", "mcp_a2a_gateway", "edge_runner", "ocsf_json", "endpoint_fixture",
    "cloud_audit_fixture"]

def supportedOcsfVersion : String := "1.8.0"

def maxCorrelationWindowSeconds : Int := 86400

def supportedOcsfClasses : List String :=
  ["secscan_activity", "agent_activity", "mcp_activity", "a2a_activity", "endpoint_activity",
    "cloud_audit_activity", "ocsf_activity", "capability_decision", "scanner_activity",
    "target_change"]

inductive DetectionRuleType where
  | eventMatch
  | countOverWindow
  deriving Repr, DecidableEq

def DetectionRuleType.value : DetectionRuleType → String
  | .eventMatch => "EVENT_MATCH"
  | .countOverWindow => "COUNT_OVER_WINDOW"

inductive RuleStatus where
  | draft
  | test
  | active
  | deprecated
  | disabled
  deriving Repr, DecidableEq

def RuleStatus.value : RuleStatus → String
  | .draft => "DRAFT"
  | .test => "TEST"
  | .active => "ACTIVE"
  | .deprecated => "DEPRECATED"
  | .disabled => "DISABLED"

inductive EvaluationResult where
  | «match»
  | noMatch
  deriving Repr, DecidableEq

def EvaluationResult.value : EvaluationResult → String
  | .match => "MATCH"
  | .noMatch => "NO_MATCH"

/-- The part of a rule version that its plan repeats. -/
structure RuleContent where
  ruleType : DetectionRuleType
  contentDigest : String
  eventSchema : String
  supportedSourceFamilies : List String
  predicates : List (String × Value)
  correlationKeys : List String
  windowSeconds : Int
  threshold : Int
  deriving DecidableEq

def RuleContent.Bounded (c : RuleContent) : Prop :=
  match c.ruleType with
  | .eventMatch => c.windowSeconds = 0 ∧ c.threshold = 1
  | .countOverWindow => 0 < c.windowSeconds ∧ c.windowSeconds ≤ maxCorrelationWindowSeconds ∧
      2 ≤ c.threshold ∧ c.correlationKeys ≠ []

instance (c : RuleContent) : Decidable c.Bounded := by
  unfold RuleContent.Bounded
  split <;> infer_instance

/-- What the validators of rule versions and of plans ask of that part. -/
structure RuleContent.Valid (c : RuleContent) : Prop where
  digest : isBlank c.contentDigest = false
  schema : c.eventSchema = "OCSF"
  families : c.supportedSourceFamilies ≠ [] ∧
    ∀ f ∈ c.supportedSourceFamilies, f ∈ DetectionResponse.supportedSourceFamilies
  sorted : c.supportedSourceFamilies.Pairwise (· < ·)
  fields : (c.predicates.map Prod.fst).Nodup
  bounded : c.Bounded

instance (c : RuleContent) : Decidable c.Valid :=
  decidable_of_iff
    (isBlank c.contentDigest = false ∧ c.eventSchema = "OCSF" ∧
      (c.supportedSourceFamilies ≠ [] ∧
        ∀ f ∈ c.supportedSourceFamilies, f ∈ DetectionResponse.supportedSourceFamilies) ∧
      c.supportedSourceFamilies.Pairwise (· < ·) ∧ (c.predicates.map Prod.fst).Nodup ∧ c.Bounded)
    ⟨fun ⟨h₁, h₂, h₃, h₄, h₅, h₆⟩ => ⟨h₁, h₂, h₃, h₄, h₅, h₆⟩,
      fun ⟨h₁, h₂, h₃, h₄, h₅, h₆⟩ => ⟨h₁, h₂, h₃, h₄, h₅, h₆⟩⟩

/-- The same content, read as Python compares it: mappings regardless of the order of their keys. -/
def RuleContent.same (c d : RuleContent) : Bool :=
  c.ruleType = d.ruleType && c.contentDigest = d.contentDigest && c.eventSchema = d.eventSchema &&
    c.supportedSourceFamilies = d.supportedSourceFamilies &&
    (Value.obj c.predicates).pyEq (.obj d.predicates) && c.correlationKeys = d.correlationKeys &&
    c.windowSeconds = d.windowSeconds && c.threshold = d.threshold

@[ext]
structure DetectionRuleVersion extends RuleContent where
  ruleId : String
  version : Int
  title : String
  source : String
  sourceReference : String
  owner : String
  ocsfVersion : String
  severity : Severity
  confidence : Confidence
  confidenceMetadata : List (String × Value)
  attackMappings : List String
  atlasMappings : List String
  references : List String
  status : RuleStatus
  createdAt : Datetime
  modifiedAt : Datetime
  evaluationMetadata : List (String × Value)
  valid : toRuleContent.Valid
  nonblank : [ruleId, title, source, sourceReference, owner].all (fun s => !isBlank s)
  ocsf : ocsfVersion = supportedOcsfVersion
  positive : 1 ≤ version

instance : DecidableEq DetectionRuleVersion := fun _ _ => decidable_of_iff _ DetectionRuleVersion.ext_iff.symm

structure DetectionRule where
  ruleId : String
  name : String
  versions : List DetectionRuleVersion
  activeVersion : Int
  owner : String
  nonblank : [ruleId, name, owner].all (fun s => !isBlank s)
  activeExists : ∃ v ∈ versions, v.version = activeVersion
  belongs : ∀ v ∈ versions, v.ruleId = ruleId
  unique : (versions.map DetectionRuleVersion.version).Nodup
  owned : ∀ v ∈ versions, v.owner = owner
  deriving DecidableEq

def DetectionRule.find (r : DetectionRule) (number : Int) : Option DetectionRuleVersion :=
  r.versions.find? fun v => decide (v.version = number)

lemma DetectionRule.find_active (r : DetectionRule) : (r.find r.activeVersion).isSome := by
  rw [find, List.find?_isSome]
  obtain ⟨v, hv, he⟩ := r.activeExists
  exact ⟨v, hv, by simpa using he⟩

def DetectionRule.active (r : DetectionRule) : DetectionRuleVersion :=
  (r.find r.activeVersion).get r.find_active

lemma DetectionRule.active_mem (r : DetectionRule) : r.active ∈ r.versions :=
  List.mem_of_find?_eq_some (Option.some_get r.find_active).symm

lemma DetectionRule.find_activeVersion (r : DetectionRule) :
    r.find r.active.version = some r.active := by
  have hactive : r.find r.activeVersion = some r.active := (Option.some_get r.find_active).symm
  have hversion := List.find?_some hactive
  rw [of_decide_eq_true hversion]
  exact hactive

lemma DetectionRule.active_ruleId (r : DetectionRule) : r.active.ruleId = r.ruleId :=
  r.belongs _ r.active_mem

structure DetectionPlan extends RuleContent where
  planId : String
  ruleId : String
  ruleVersion : Int
  valid : toRuleContent.Valid
  nonblank : [planId, ruleId].all (fun s => !isBlank s)
  deriving DecidableEq

structure DetectionEvaluation where
  evaluationId : String
  runId : String
  scope : Scope
  ruleId : String
  ruleVersion : Int
  inputEventIds : List String
  evaluatedAt : Datetime
  matchedPredicates : List String
  result : EvaluationResult
  signalId : Option String
  engineVersion : String
  ruleDigest : String
  idempotencyKey : String
  deriving DecidableEq

structure DetectionSignal where
  signalId : String
  scope : Scope
  ruleId : String
  ruleVersion : Int
  eventIds : List String
  sourceSignalIds : List String
  detectedAt : Datetime
  severity : Severity
  confidence : Confidence
  matchedPredicates : List String
  rawEvidenceRefs : List String
  ruleDigest : String
  status : String
  deriving DecidableEq

structure DetectionRun where
  runId : String
  scope : Scope
  ruleIds : List String
  inputEventIds : List String
  evaluationIds : List String
  signalIds : List String
  engineVersion : String
  startedAt : Datetime
  completedAt : Datetime
  status : String
  deriving DecidableEq

structure HuntHypothesis where
  hypothesisId : String
  scope : Scope
  question : String
  entityKeys : List String
  supportingSignalIds : List String
  requiredEvidenceRefs : List String
  createdAt : Datetime
  nonblank : isBlank hypothesisId = false ∧ isBlank question = false
  deriving DecidableEq

@[ext]
structure HuntPlan where
  planId : String
  hypothesisId : String
  scope : Scope
  windowStart : Datetime
  windowEnd : Datetime
  query : List (String × Value)
  exitCriteria : String
  maxEvents : ℕ
  nonblank : [planId, hypothesisId, exitCriteria].all (fun s => !isBlank s)
  window : windowStart ≤ windowEnd
  bounded : 1 ≤ maxEvents ∧ maxEvents ≤ 5000

instance : DecidableEq HuntPlan := fun _ _ => decidable_of_iff _ HuntPlan.ext_iff.symm

inductive HuntDisposition where
  | supports
  | refutes
  | inconclusive
  deriving Repr, DecidableEq

structure HuntExecution where
  executionId : String
  planId : String
  scope : Scope
  queryDigest : String
  inputEventIds : List String
  inputSignalIds : List String
  startedAt : Datetime
  completedAt : Datetime
  resultId : String
  deriving DecidableEq

structure HuntResult where
  resultId : String
  executionId : String
  hypothesisId : String
  scope : Scope
  disposition : HuntDisposition
  eventIds : List String
  signalIds : List String
  supportingEvidenceRefs : List String
  refutingEvidenceRefs : List String
  resultDigest : String
  deriving DecidableEq

end SecScanMonitor.DetectionResponse
