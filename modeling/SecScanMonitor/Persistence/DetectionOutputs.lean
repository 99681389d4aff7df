import SecScanMonitor.DetectionResponse.Emission
import SecScanMonitor.Persistence.WorkQueue

/-! Registered rules, the events a dispatch loads and the transaction that stores what an engine emitted
(`persistence/detection_response.py` and `persistence/live_control_plane.py`). -/

namespace SecScanMonitor.Persistence

open Foundations Domain DetectionResponse ContinuousSecurity

section Save

variable (codec : Codec)

/-- The digest of a rule's fields, its dates left out. -/
def canonicalRuleDigest (v : DetectionRuleVersion) : String :=
  codec.contentDigest (.obj v.members)

namespace DetectionRuleVersionRow

def of (v : DetectionRuleVersion) : DetectionRuleVersionRow := ⟨v, canonicalRuleDigest codec v⟩

/-- Equal in every column but `created_at` and `modified_at`. -/
def same (a b : DetectionRuleVersionRow) : Bool :=
  a.rule.ruleId = b.rule.ruleId && a.rule.version = b.rule.version && a.rule.title = b.rule.title &&
    a.rule.toRuleContent.same b.rule.toRuleContent && a.rule.source = b.rule.source &&
    a.rule.sourceReference = b.rule.sourceReference && a.rule.owner = b.rule.owner &&
    a.rule.ocsfVersion = b.rule.ocsfVersion && a.rule.severity = b.rule.severity &&
    a.rule.confidence = b.rule.confidence &&
    (Value.obj a.rule.confidenceMetadata).pyEq (.obj b.rule.confidenceMetadata) &&
    a.rule.attackMappings = b.rule.attackMappings && a.rule.atlasMappings = b.rule.atlasMappings &&
    a.rule.references = b.rule.references && a.rule.status = b.rule.status &&
    (Value.obj a.rule.evaluationMetadata).pyEq (.obj b.rule.evaluationMetadata) &&
    a.canonicalDigest = b.canonicalDigest

end DetectionRuleVersionRow

abbrev Versions := Table fun r : DetectionRuleVersionRow => (r.rule.ruleId, r.rule.version)

def saveRuleVersion (v : DetectionRuleVersion) : Versions → Except Raised Versions :=
  insertOrReplay "detection_rule_versions" DetectionRuleVersionRow.same (fun _ _ => false)
    (DetectionRuleVersionRow.of codec v)

def savePlan : DetectionPlan → Table DetectionPlan.planId →
    Except Raised (Table DetectionPlan.planId) :=
  insertOrReplay "detection_plans" DetectionPlan.same (fun _ _ => false)

def sameRun (a b : DetectionRun) : Bool :=
  a = { b with startedAt := a.startedAt, completedAt := a.completedAt }

def saveRun : DetectionRun → Table DetectionRun.runId → Except Raised (Table DetectionRun.runId) :=
  insertOrReplay "detection_runs" sameRun (fun _ _ => false)

def sameEvaluation (a b : DetectionEvaluation) : Bool := a = { b with evaluatedAt := a.evaluatedAt }

def saveEvaluation : DetectionEvaluation → Table DetectionEvaluation.evaluationId →
    Except Raised (Table DetectionEvaluation.evaluationId) :=
  insertOrReplay "detection_evaluations" sameEvaluation fun a b => a.idempotencyKey = b.idempotencyKey

def sameSignal (a b : DetectionSignal) : Bool := a = { b with detectedAt := a.detectedAt }

/-- The idempotency key of a signal is its id. -/
def saveSignal : DetectionSignal → Table DetectionSignal.signalId →
    Except Raised (Table DetectionSignal.signalId) :=
  insertOrReplay "detection_signals" sameSignal fun a b => a.signalId = b.signalId

def persistDetectionOutputs (rule : DetectionRule) (plan : DetectionPlan) (run : DetectionRun)
    (evaluations : List DetectionEvaluation) (signals : List DetectionSignal) : Transaction Unit :=
  fun db => do
    raiseIf (rule.owner ≠ "SecScanMonitor" ∨ rule.active.owner ≠ "SecScanMonitor" ∨
        rule.active.status ≠ .active) .detectionInputError
        "live outputs require a SecScanMonitor-owned ACTIVE rule"
    raiseIf (plan.same (rule.active.plan codec) = false) .detectionInputError
        "detection output plan does not bind to the active rule content"
    raiseIf (evaluations.any fun e => e.runId ≠ run.runId || e.scope ≠ run.scope)
        .detectionInputError "detection evaluation crossed its canonical run scope"
    raiseIf (signals.any fun e => e.scope ≠ run.scope) .detectionInputError
        "detection signal crossed its canonical run scope"
    validateEngagementScope db run.scope
    let versions ← saveRuleVersion codec rule.active db.detectionRuleVersions
    let plans ← savePlan plan db.detectionPlans
    let runs ← saveRun run db.detectionRuns
    let evaluations ← saveEach saveEvaluation evaluations db.detectionEvaluations
    let signals ← saveEach saveSignal signals db.detectionSignals
    return ((),
      { db with
        detectionRuleVersions := versions
        detectionPlans := plans
        detectionRuns := runs
        detectionEvaluations := evaluations
        detectionSignals := signals })

end Save

section Rules

variable (codec : Codec)

def registerRule (rule : DetectionRule) (plan : Option DetectionPlan) : Transaction DetectionPlan :=
  fun db => do
    raiseIf (rule.active.status ≠ .active ∨ rule.owner ≠ "SecScanMonitor" ∨
        rule.active.owner ≠ "SecScanMonitor") .detectionInputError
        "live rules must be SecScanMonitor-owned ACTIVE rules"
    let plan := plan.getD (rule.active.plan codec)
    raiseIf (plan.same (rule.active.plan codec) = false) .detectionInputError
        "registered plan does not bind to the active rule content"
    let versions ← saveRuleVersion codec rule.active db.detectionRuleVersions
    let plans ← savePlan plan db.detectionPlans
    return (plan, { db with detectionRuleVersions := versions, detectionPlans := plans })

/-- The rule of which `v` is the one live version. -/
def liveRule (v : DetectionRuleVersion) (h : v.owner = "SecScanMonitor") : DetectionRule where
  ruleId := v.ruleId
  name := v.title
  versions := [v]
  activeVersion := v.version
  owner := "SecScanMonitor"
  nonblank := by
    have hv := List.all_eq_true.mp v.nonblank
    have hrule := hv v.ruleId (by simp)
    have htitle := hv v.title (by simp)
    have howner := hv v.owner (by simp)
    rw [h] at howner
    simp only [List.all_cons, List.all_nil, hrule, htitle, howner, Bool.and_self]
  activeExists := ⟨v, List.mem_singleton_self v, rfl⟩
  belongs w hw := by rw [List.mem_singleton.mp hw]
  unique := List.nodup_singleton v.version
  owned w hw := by rw [List.mem_singleton.mp hw, h]

lemma liveRule_active (v : DetectionRuleVersion) (h : v.owner = "SecScanMonitor") :
    (liveRule v h).active = v :=
  List.mem_singleton.mp (liveRule v h).active_mem

def checkRow (row : DetectionRuleVersionRow) : Except Raised (DetectionRule × DetectionPlan) :=
  if h : row.rule.owner = "SecScanMonitor" then
    if row.canonicalDigest = "" ∨ canonicalRuleDigest codec row.rule ≠ row.canonicalDigest then
      raise .detectionInputError "active rule failed its canonical digest binding"
    else .ok (liveRule row.rule h, row.rule.plan codec)
  else raise .detectionInputError "active rule is not SecScanMonitor-owned"

def versionBefore (a b : DetectionRuleVersionRow) : Prop :=
  a.rule.ruleId < b.rule.ruleId ∨ a.rule.ruleId = b.rule.ruleId ∧ a.rule.version ≤ b.rule.version

instance : DecidableRel versionBefore := fun a b => by
  unfold versionBefore
  infer_instance

def activeRules (db : Database) : Except Raised (List (DetectionRule × DetectionPlan)) := do
  let rows := (db.detectionRuleVersions.select fun r => r.rule.status = .active).insertionSort
    versionBefore
  let rules ← rows.mapM (checkRow codec)
  raiseIf (¬ (rules.map fun r => r.1.ruleId).Nodup) .detectionInputError
      "each live rule must have exactly one ACTIVE version"
  return rules

end Rules

/-- The stored events of a scope, in the order in which they are loaded. -/
def eventsIn (scope : Scope) (rows : List SecurityEvent) : List SecurityEvent :=
  (rows.filter fun e => e.scope = scope).insertionSort DetectionEngine.occurredBefore

def loadEvents (scope : Scope) (db : Database) : List SecurityEvent :=
  eventsIn scope db.securityEvents.rows

end SecScanMonitor.Persistence
