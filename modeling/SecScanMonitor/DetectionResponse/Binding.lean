import SecScanMonitor.DetectionResponse.Isolation

/-! Rule versions and plans under what they were first bound to. Rules and plans are shared with the caller, who
may change them in place between the calls (`register_rule` and `run` of `detection_response/engine.py`). -/

namespace SecScanMonitor.DetectionResponse

open Foundations Domain ContinuousSecurity DetectionEngine

abbrev Contents := DetectionRuleVersion × DetectionPlan

section Contents

variable (codec : Codec)

abbrev DetectionRuleVersion.key (v : DetectionRuleVersion) : String × Int := (v.ruleId, v.version)

/-- The JSON that a version's binding is the digest of. -/
def DetectionRuleVersion.document (v : DetectionRuleVersion) : Value :=
  .obj (v.members ++ [("created_at", .str (codec.dumpDatetime v.createdAt)),
    ("modified_at", .str (codec.dumpDatetime v.modifiedAt))])

def DetectionPlan.document (p : DetectionPlan) : Value :=
  .obj (p.toRuleContent.members ++
    [("plan_id", .str p.planId), ("rule_id", .str p.ruleId), ("rule_version", .int p.ruleVersion)])

/-- The same JSON, whatever the order of the members of its objects. -/
structure SameContents (a b : Contents) : Prop where
  rule : (a.1.document codec).sorted = (b.1.document codec).sorted
  plan : a.2.document.sorted = b.2.document.sorted

instance (a b : Contents) : Decidable (SameContents codec a b) :=
  decidable_of_iff ((a.1.document codec).sorted = (b.1.document codec).sorted ∧
    a.2.document.sorted = b.2.document.sorted) ⟨fun h => ⟨h.1, h.2⟩, fun h => ⟨h.rule, h.plan⟩⟩

end Contents

/-- A call on the engine, or a change that the caller makes to the rules and the plans it shares with it. -/
inductive SharedCall where
  | engine (call : EngineCall)
  | mutate (rules : Dict (String × Int) DetectionRule) (plans : Dict (String × Int) DetectionPlan)

namespace SharedCall

variable (codec : Codec) (render : Value → String)

def exec : SharedCall → DetectionEngine → Option EngineAnswer × DetectionEngine
  | .engine call, x => (some (call.exec codec render x).1, (call.exec codec render x).2)
  | .mutate rules plans, x => (none, { x with rules, plans })

end SharedCall

abbrev SharedEntry := Entry SharedCall DetectionEngine (Option EngineAnswer)

section Presented

variable (codec : Codec)

/-- The version that a rule's id stands for in the engine, as it is now. -/
def heldVersion (ruleId : String) (number : Option Int) (x : DetectionEngine) :
    Option DetectionRuleVersion :=
  match number with
  | none =>
    match (x.rules.rows.filter fun e => e.1.1 = ruleId).map Prod.snd with
    | [registered] => some registered.active
    | _ => none
  | some n => (x.rules.find? (ruleId, n)).bind (·.find n)

/-- The version and the plan that a call presents. -/
def presented (call : EngineCall) (x : DetectionEngine) : Option Contents :=
  match call with
  | .register rule plan number =>
    (requestedVersion rule number).toOption.map fun v => (v, plan.getD (v.plan codec))
  | .run (.rule rule) _ number =>
    (requestedVersion rule number).toOption.map fun v => (v, v.plan codec)
  | .run (.id ruleId) _ number =>
    (heldVersion ruleId number x).bind fun v => (x.plans.find? v.key).map fun p => (v, p)
  | _ => none

/-- The version and the plan that a call binds. -/
def binding (call : EngineCall) (x : DetectionEngine) : Option Contents :=
  match call with
  | .register rule plan number => (registration codec rule plan number x).toOption
  | .run (.rule rule) scope number =>
    match admission codec (.rule rule) scope number x with
    | .ok ((_, v), _) => (registration codec rule none (some v.version) x).toOption
    | .error _ => none
  | _ => none

/-- What was first bound to a version. -/
def firstBound : List SharedEntry → String × Int → Option Contents
  | [], _ => none
  | e :: es, key =>
    (firstBound es key).or <|
      match e.call with
      | .engine call => (binding codec call e.before).filter fun b => b.1.key = key
      | .mutate _ _ => none

/-- The documents of what the calls present and of the plans that the engine holds. -/
def SharedCall.documents (call : SharedCall) (x : DetectionEngine) : List Value :=
  (match call with
    | .engine call => (presented codec call x).toList.flatMap fun c => [c.1.document codec, c.2.document]
    | .mutate _ _ => []) ++ x.plans.values.map DetectionPlan.document

def bindingDocuments (es : List SharedEntry) : List Value :=
  es.flatMap fun e => e.call.documents codec e.before

/-- A plan that compares equal to the one held for the version is the same JSON. -/
def Distinct (e : SharedEntry) : Prop :=
  ∀ call, e.call = .engine call → ∀ c, presented codec call e.before = some c →
    ∀ held, e.before.plans.find? c.1.key = some held → held.same c.2 = true →
      held.document.sorted = c.2.document.sorted

instance (e : SharedEntry) : Decidable (Distinct codec e) :=
  match hcall : e.call with
  | .engine call =>
    decidable_of_iff (∀ c ∈ presented codec call e.before, ∀ held ∈ e.before.plans.find? c.1.key,
      held.same c.2 = true → held.document.sorted = c.2.document.sorted)
      ⟨fun h call' hcall' => by
        obtain rfl := SharedCall.engine.inj (hcall.symm.trans hcall')
        exact h, fun h => h call hcall⟩
  | .mutate _ _ => isTrue fun _ hcall' => nomatch hcall.symm.trans hcall'

/-- What a run of the history read. -/
def ReadBy (es : List SharedEntry) (r : Reading) : Prop :=
  ∃ e ∈ es, ∃ ref scope number, e.call = .engine (.run ref scope number) ∧
    reading codec ref scope number e.before = .ok r

/-- The evaluation comes from a run over the contents that its version was first bound to. -/
def Faithful (render : Value → String) (es : List SharedEntry) (ev : DetectionEvaluation) : Prop :=
  ∃ b, firstBound codec es (ev.ruleId, ev.ruleVersion) = some b ∧
    ∃ r, ReadBy codec es r ∧ SameContents codec (r.rule, r.plan) b ∧
      ∃ its x, items render r.plan r.events = .ok its ∧ ∃ item ∈ its,
        ev = newEvaluation codec r.rule r.plan r.scope item.events item.predicates item.matched
          (r.runId codec) x

def EngineAnswer.raised : EngineAnswer → Bool
  | .arrived (.error _) | .registered (.error _) | .ran (.error _) => true
  | _ => false

/-- Where a call presents other contents than the version was first bound to, it raises and changes nothing. -/
def Refuses (render : Value → String) (es : List SharedEntry) (call : EngineCall)
    (x : DetectionEngine) : Prop :=
  ∀ c b, presented codec call x = some c → firstBound codec es c.1.key = some b →
    ¬ SameContents codec c b → (call.exec codec render x).1.raised = true ∧
      (call.exec codec render x).2 = x

/-- Every version keeps the contents that it was first bound to. -/
structure BindingKept (render : Value → String) (es : List SharedEntry) (x : DetectionEngine) :
    Prop where
  evaluations : ∀ k ev, x.evaluations.find? k = some ev → Faithful codec render es ev
  refused : ∀ e earlier, (e :: earlier) <:+ es → ∀ call, e.call = .engine call →
    Refuses codec render earlier call e.before

end Presented

end SecScanMonitor.DetectionResponse
