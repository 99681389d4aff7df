import SecScanMonitor.DetectionResponse.Binding

/-! What was first bound to a version stays bound to it over any history of calls and changes by the caller in which
equal plans are the same JSON. -/

namespace SecScanMonitor.DetectionResponse

open Foundations Domain ContinuousSecurity DetectionEngine

section Tables

variable {codec : Codec} {render : Value → String} {x y z : DetectionEngine}

/-- The rules, the plans and what they are bound to are the same. -/
structure SameTables (x y : DetectionEngine) : Prop where
  rules : y.rules = x.rules
  plans : y.plans = x.plans
  ruleBindings : y.ruleBindings = x.ruleBindings
  planBindings : y.planBindings = x.planBindings

lemma SameTables.refl (x : DetectionEngine) : SameTables x x := ⟨rfl, rfl, rfl, rfl⟩

lemma SameTables.trans (h : SameTables x y) (h' : SameTables y z) : SameTables x z :=
  ⟨h'.rules.trans h.rules, h'.plans.trans h.plans, h'.ruleBindings.trans h.ruleBindings,
    h'.planBindings.trans h.planBindings⟩

/-- Every evaluation is an old one or one of an item of the reading. -/
def EvaluatedFrom (codec : Codec) (r : Reading) (its : List Item) (x y : DetectionEngine) : Prop :=
  ∀ k ev, y.evaluations.find? k = some ev → x.evaluations.find? k = some ev ∨
    ∃ z, ∃ item ∈ its, ev = newEvaluation codec r.rule r.plan r.scope item.events item.predicates
      item.matched (r.runId codec) z

variable {r : Reading} {item : Item} {its : List Item}

lemma evaluate_from {ev : DetectionEvaluation} {sg : Option DetectionSignal}
    (h : evaluateItem codec r item x = .ok ((ev, sg), y)) :
    SameTables x y ∧ EvaluatedFrom codec r [item] x y := by
  have hadded : ∀ k e, (x.evaluations.set (evaluationIdFor codec r.rule r.plan r.scope item.events
      item.matched (r.runId codec)) (newEvaluation codec r.rule r.plan r.scope item.events
      item.predicates item.matched (r.runId codec) x)).find? k = some e →
      x.evaluations.find? k = some e ∨ ∃ z, ∃ i ∈ [item], e = newEvaluation codec r.rule r.plan
        r.scope i.events i.predicates i.matched (r.runId codec) z := by
    intro k e he
    rcases Dict.find?_set_eq_some he with ⟨rfl, rfl⟩ | hold
    · exact Or.inr ⟨x, item, List.mem_singleton_self item, rfl⟩
    · exact Or.inl hold
  rcases evaluate_cases h with ⟨-, -, rfl⟩ | ⟨-, -, ⟨-, -, rfl⟩ | ⟨id, -, ⟨sg', -, -, -, rfl⟩ | ⟨-, -, rfl⟩⟩⟩
  · exact ⟨SameTables.refl _, fun k ev hk => Or.inl hk⟩
  · exact ⟨⟨rfl, rfl, rfl, rfl⟩, hadded⟩
  · exact ⟨⟨rfl, rfl, rfl, rfl⟩, hadded⟩
  · exact ⟨⟨rfl, rfl, rfl, rfl⟩, hadded⟩

variable (codec r) in
lemma evaluateItems_from (its : List Item) (x : DetectionEngine) :
    SameTables x (evaluateItems codec r.rule r.plan r.scope (r.runId codec) its x).2 ∧
      EvaluatedFrom codec r its x (evaluateItems codec r.rule r.plan r.scope (r.runId codec) its x).2 := by
  induction its generalizing x with
  | nil => exact ⟨SameTables.refl x, fun k ev hk => Or.inl hk⟩
  | cons item its ih =>
    rw [evaluateItems]
    cases hevaluate : evaluate codec r.rule r.plan r.scope item.events item.predicates item.matched
        (r.runId codec) x with
    | error e => exact ⟨SameTables.refl x, fun k ev hk => Or.inl hk⟩
    | ok a =>
      obtain ⟨⟨ev, sg⟩, y⟩ := a
      obtain ⟨htables, hfrom⟩ := evaluate_from hevaluate
      obtain ⟨htables', hfrom'⟩ := ih y
      have hboth : EvaluatedFrom codec r (item :: its) x
          (evaluateItems codec r.rule r.plan r.scope (r.runId codec) its y).2 := by
        intro k e hk
        rcases hfrom' k e hk with hk | ⟨z, i, hi, rfl⟩
        · rcases hfrom k e hk with hk | ⟨z, i, hi, rfl⟩
          · exact Or.inl hk
          · obtain rfl := List.mem_singleton.mp hi
            exact Or.inr ⟨z, i, List.mem_cons_self, rfl⟩
        · exact Or.inr ⟨z, i, List.mem_cons_of_mem item hi, rfl⟩
      simp only
      cases hlater : evaluateItems codec r.rule r.plan r.scope (r.runId codec) its y with
      | mk answer z =>
        rw [hlater] at htables' hboth
        cases answer with
        | error e => exact ⟨htables.trans htables', hboth⟩
        | ok later => exact ⟨htables.trans htables', hboth⟩

/-- A run that has read its input leaves the tables alone, and it evaluates that input. -/
lemma conclude_from (r : Reading) (x : DetectionEngine) :
    SameTables x (conclude codec render r x).2 ∧
      ∀ k ev, (conclude codec render r x).2.evaluations.find? k = some ev →
        x.evaluations.find? k = some ev ∨ ∃ its z, items render r.plan r.events = .ok its ∧
          ∃ item ∈ its, ev = newEvaluation codec r.rule r.plan r.scope item.events item.predicates
            item.matched (r.runId codec) z := by
  rw [conclude]
  cases x.runs.find? (r.runId codec) with
  | some existing => exact ⟨SameTables.refl x, fun k ev hk => Or.inl hk⟩
  | none =>
    simp only
    cases hitems : items render r.plan r.events with
    | error e => exact ⟨⟨rfl, rfl, rfl, rfl⟩, fun k ev hk => Or.inl hk⟩
    | ok its =>
      obtain ⟨htables, hfrom⟩ := evaluateItems_from codec r its x.tick
      have htables' : SameTables x (evaluateItems codec r.rule r.plan r.scope (r.runId codec) its
          x.tick).2 := ⟨htables.rules, htables.plans, htables.ruleBindings, htables.planBindings⟩
      have hfrom' : ∀ k ev, (evaluateItems codec r.rule r.plan r.scope (r.runId codec) its
          x.tick).2.evaluations.find? k = some ev → x.evaluations.find? k = some ev ∨
            ∃ its' z, (Except.ok its : Except Raised (List Item)) = .ok its' ∧ ∃ item ∈ its',
              ev = newEvaluation codec r.rule r.plan r.scope item.events item.predicates item.matched
                (r.runId codec) z := by
        intro k ev hk
        rcases hfrom k ev hk with hk | ⟨z, item, hitem, hev⟩
        · exact Or.inl hk
        · exact Or.inr ⟨its, z, rfl, item, hitem, hev⟩
      simp only
      cases hevaluated : evaluateItems codec r.rule r.plan r.scope (r.runId codec) its x.tick with
      | mk answer y =>
        rw [hevaluated] at htables' hfrom'
        cases answer with
        | error e => exact ⟨htables', hfrom'⟩
        | ok emitted =>
          exact ⟨⟨htables'.rules, htables'.plans, htables'.ruleBindings, htables'.planBindings⟩, hfrom'⟩

end Tables

section Accepted

variable {codec : Codec} {render : Value → String} {x y : DetectionEngine} {c : Contents}

/-- The contents that a registration has accepted. -/
structure Accepted (codec : Codec) (x : DetectionEngine) (c : Contents) : Prop where
  rule : ∀ d, x.ruleBindings.find? c.1.key = some d → d = c.1.bindingDigest codec
  plan : ∀ d, x.planBindings.find? c.1.key = some d → ∃ held, x.plans.find? c.1.key = some held ∧
    d = held.bindingDigest codec ∧ held.same c.2 = true

lemma registration_accepted {rule : DetectionRule} {plan : Option DetectionPlan} {number : Option Int}
    (h : registration codec rule plan number x = .ok c) :
    requestedVersion rule number = .ok c.1 ∧ c.2 = plan.getD (c.1.plan codec) ∧ Accepted codec x c := by
  obtain ⟨hv, -, hplanned, hrule, hplan, -⟩ := registration_eq_ok h
  refine ⟨hv, hplanned, ?_, ?_⟩
  · intro d hd
    rw [Bool.not_eq_true, Option.any_eq_false] at hrule
    simpa using hrule d hd
  · intro d hd
    have hd' : x.planBindings.find? (c.1.ruleId, c.1.version) = some d := hd
    rw [checkPlanBinding, hd'] at hplan
    obtain ⟨hall, hplan⟩ := raiseIf_bind_eq_ok.mp hplan
    have hany := raiseIf_eq_ok.mp hplan
    rw [Option.all_eq_true] at hall
    cases hheld : x.plans.find? (c.1.ruleId, c.1.version) with
    | none => simp [hheld] at hall
    | some held =>
      rw [hheld] at hall hany
      exact ⟨held, rfl, by simpa using hall, by simpa using hany⟩

lemma requestedVersion_self {rule : DetectionRule} {number : Option Int} {v : DetectionRuleVersion}
    (h : requestedVersion rule number = .ok v) : requestedVersion rule (some v.version) = .ok v := by
  cases number with
  | none =>
    obtain rfl := Except.ok.inj h
    exact orRaise_eq_ok.mpr rule.find_activeVersion
  | some n =>
    have hfind : rule.find n = some v := orRaise_eq_ok.mp h
    have hversion := List.find?_some hfind
    rw [of_decide_eq_true hversion]
    exact h

/-- A version that a rule's id selects is held with the contents of its bindings. -/
lemma selectVersion_id {ruleId : String} {number : Option Int} {v : DetectionRuleVersion}
    (h : selectVersion codec (.id ruleId) number x = .ok v) : heldVersion ruleId number x = some v ∧
      x.ruleBindings.find? v.key = some (v.bindingDigest codec) ∧
      ∃ p, x.plans.find? v.key = some p ∧ x.planBindings.find? v.key = some (p.bindingDigest codec) := by
  have hbound : ∀ w, assertRegisteredBinding codec w x = .ok () →
      x.ruleBindings.find? w.key = some (w.bindingDigest codec) ∧
        ∃ p, x.plans.find? w.key = some p ∧ x.planBindings.find? w.key = some (p.bindingDigest codec) := by
    intro w hw
    obtain ⟨hrule, hw⟩ := raiseIf_bind_eq_ok.mp hw
    have hplan := raiseIf_eq_ok.mp hw
    refine ⟨by simpa using hrule, ?_⟩
    cases hheld : x.plans.find? (w.ruleId, w.version) with
    | none => simp [hheld] at hplan
    | some p =>
      rw [hheld] at hplan
      exact ⟨p, rfl, by simpa using hplan⟩
  cases number with
  | none =>
    rw [selectVersion] at h
    rw [heldVersion]
    split at h
    · rename_i registered hregistered
      obtain ⟨-, h⟩ := raiseIf_bind_eq_ok.mp h
      obtain ⟨u, hassert, h⟩ := bind_eq_ok.mp h
      obtain rfl := Except.ok.inj h
      refine ⟨?_, hbound _ hassert⟩
      simp only [hregistered]
    · cases h
  | some n =>
    obtain ⟨registered, hregistered, h⟩ := orRaise_bind_eq_ok.mp h
    obtain ⟨w, hw, h⟩ := orRaise_bind_eq_ok.mp h
    obtain ⟨u, hassert, h⟩ := bind_eq_ok.mp h
    obtain rfl := Except.ok.inj h
    refine ⟨?_, hbound _ hassert⟩
    rw [heldVersion, hregistered, Option.bind_some, hw]

/-- A run by a rule itself registers the rule. -/
lemma admission_rule {rule : DetectionRule} {requested : Option Scope} {number : Option Int}
    {t : Scope} {v : DetectionRuleVersion}
    (h : admission codec (.rule rule) requested number x = .ok ((t, v), y)) :
    requestedVersion rule number = .ok v ∧
      registration codec rule none (some v.version) x = .ok (v, v.plan codec) ∧
      y = enter codec rule v (v.plan codec) x := by
  obtain ⟨-, -, hselect, hbind⟩ := admission_eq_ok h
  have hbind' : (registerRule codec rule none (some v.version) x).map Prod.snd = .ok y := hbind
  rw [registerRule_eq] at hbind'
  obtain ⟨⟨p, z⟩, hregistered, rfl⟩ := map_eq_ok.mp hbind'
  obtain ⟨⟨w, q⟩, hregistration, heq⟩ := map_eq_ok.mp hregistered
  obtain ⟨rfl, rfl⟩ := Prod.mk.inj heq
  obtain ⟨hw, hq, -⟩ := registration_accepted hregistration
  obtain rfl := Except.ok.inj ((requestedVersion_self hselect).symm.trans hw)
  obtain rfl : q = v.plan codec := hq
  exact ⟨hselect, hregistration, rfl⟩

lemma admission_id {ruleId : String} {requested : Option Scope} {number : Option Int} {t : Scope}
    {v : DetectionRuleVersion} (h : admission codec (.id ruleId) requested number x = .ok ((t, v), y)) :
    y = x ∧ selectVersion codec (.id ruleId) number x = .ok v := by
  obtain ⟨-, -, hselect, hbind⟩ := admission_eq_ok h
  exact ⟨(Except.ok.inj hbind).symm, hselect⟩

end Accepted

section Calls

variable {codec : Codec} {render : Value → String} {x : DetectionEngine} {call : EngineCall}
  {c : Contents}

/-- What a call binds is what it presents, accepted. -/
lemma binding_presented (h : binding codec call x = some c) :
    presented codec call x = some c ∧ Accepted codec x c := by
  cases call with
  | arrive event => cases h
  | ingest event scope => cases h
  | register rule plan number =>
    have hregistration : registration codec rule plan number x = .ok c := by
      cases hr : registration codec rule plan number x with
      | error e => simp [binding, hr, Except.toOption] at h
      | ok a => simpa [binding, hr, Except.toOption] using h
    obtain ⟨hv, hp, haccepted⟩ := registration_accepted hregistration
    refine ⟨?_, haccepted⟩
    simp [presented, hv, Except.toOption, ← hp]
  | run ref scope number =>
    cases ref with
    | id ruleId => cases h
    | rule rule =>
      cases hadmission : admission codec (.rule rule) scope number x with
      | error e => simp [binding, hadmission] at h
      | ok a =>
        obtain ⟨⟨t, v⟩, y⟩ := a
        obtain ⟨hv, hregistration, -⟩ := admission_rule hadmission
        obtain rfl : (v, v.plan codec) = c := by
          simpa [binding, hadmission, hregistration, Except.toOption] using h
        refine ⟨?_, (registration_accepted hregistration).2.2⟩
        simp [presented, hv, Except.toOption]

variable (render) in
/-- The tables after a call: they are as before, or they have what the call binds. -/
lemma call_tables (call : EngineCall) (x : DetectionEngine) :
    binding codec call x = none ∧ SameTables x (call.exec codec render x).2 ∨
      ∃ c rule, binding codec call x = some c ∧
        SameTables (enter codec rule c.1 c.2 x) (call.exec codec render x).2 := by
  cases call with
  | arrive event => exact Or.inl ⟨rfl, rfl, rfl, rfl, rfl⟩
  | ingest event scope =>
    refine Or.inl ⟨rfl, ?_⟩
    rw [EngineCall.exec]
    cases x.events.ingest codec event scope with
    | error e => exact SameTables.refl x
    | ok r => exact ⟨rfl, rfl, rfl, rfl⟩
  | register rule plan number =>
    rw [EngineCall.exec, registerRule_eq, binding]
    cases registration codec rule plan number x with
    | error e => exact Or.inl ⟨rfl, SameTables.refl x⟩
    | ok c => exact Or.inr ⟨c, rule, rfl, SameTables.refl _⟩
  | run ref scope number =>
    rw [EngineCall.exec, perform]
    cases hadmission : admission codec ref scope number x with
    | error e =>
      refine Or.inl ⟨?_, SameTables.refl x⟩
      cases ref with
      | id ruleId => rfl
      | rule rule => simp [binding, hadmission]
    | ok a =>
      obtain ⟨⟨t, v⟩, y⟩ := a
      have hresume : SameTables y (resume codec render t v y).2 := by
        rw [resume]
        cases DetectionEngine.read t v y with
        | error e => exact SameTables.refl y
        | ok r => exact (conclude_from r y).1
      cases ref with
      | id ruleId =>
        obtain ⟨rfl, -⟩ := admission_id hadmission
        exact Or.inl ⟨rfl, hresume⟩
      | rule rule =>
        obtain ⟨-, hregistration, rfl⟩ := admission_rule hadmission
        refine Or.inr ⟨(v, v.plan codec), rule, ?_, hresume⟩
        simp [binding, hadmission, hregistration, Except.toOption]

/-- The evaluations after a call: the old ones, and those of the run that the call is. -/
lemma call_evaluations (call : EngineCall) (x : DetectionEngine) {k : String}
    {ev : DetectionEvaluation} (h : (call.exec codec render x).2.evaluations.find? k = some ev) :
    x.evaluations.find? k = some ev ∨ ∃ ref scope number r, call = .run ref scope number ∧
      reading codec ref scope number x = .ok r ∧ ∃ its z, items render r.plan r.events = .ok its ∧
        ∃ item ∈ its, ev = newEvaluation codec r.rule r.plan r.scope item.events item.predicates
          item.matched (r.runId codec) z := by
  cases call with
  | arrive event => exact Or.inl h
  | ingest event scope =>
    rw [EngineCall.exec] at h
    cases hingest : x.events.ingest codec event scope with
    | error e =>
      rw [hingest] at h
      exact Or.inl h
    | ok r =>
      rw [hingest] at h
      exact Or.inl h
  | register rule plan number =>
    rw [EngineCall.exec, registerRule_eq] at h
    cases hregistration : registration codec rule plan number x with
    | error e =>
      rw [hregistration] at h
      exact Or.inl h
    | ok c =>
      rw [hregistration] at h
      exact Or.inl h
  | run ref scope number =>
    rw [EngineCall.exec, perform] at h
    cases hadmission : admission codec ref scope number x with
    | error e =>
      rw [hadmission] at h
      exact Or.inl h
    | ok a =>
      obtain ⟨⟨t, v⟩, y⟩ := a
      have hsame : y.evaluations = x.evaluations := by
        cases ref with
        | id ruleId =>
          obtain ⟨rfl, -⟩ := admission_id hadmission
          rfl
        | rule rule =>
          obtain ⟨-, -, rfl⟩ := admission_rule hadmission
          rfl
      rw [hadmission] at h
      simp only [resume] at h
      cases hread : DetectionEngine.read t v y with
      | error e =>
        rw [hread] at h
        exact Or.inl (hsame ▸ h)
      | ok r =>
        rw [hread] at h
        have hreading : reading codec ref scope number x = .ok r := by
          rw [reading, hadmission]
          exact hread
        rcases (conclude_from r y).2 k ev h with hold | hnew
        · exact Or.inl (hsame ▸ hold)
        · exact Or.inr ⟨ref, scope, number, r, rfl, hreading, hnew⟩

end Calls

section Bound

variable {codec : Codec} {render : Value → String} {es : List SharedEntry} {x y : DetectionEngine}
  {call : EngineCall} {b c : Contents} {known : Value → Prop}

lemma SameContents.refl (c : Contents) : SameContents codec c c := ⟨rfl, rfl⟩

lemma SameContents.trans {d : Contents} (h : SameContents codec b c) (h' : SameContents codec c d) :
    SameContents codec b d := ⟨h.rule.trans h'.rule, h.plan.trans h'.plan⟩

/-- The digest does not collide on the documents that are known. -/
def BindingApart (codec : Codec) (known : Value → Prop) : Prop :=
  ∀ d d', known d → known d' → codec.contentDigest d = codec.contentDigest d' → d.sorted = d'.sorted

/-- The bindings are the digests of contents like those that were first bound. -/
structure Bound (codec : Codec) (known : Value → Prop) (es : List SharedEntry) (x : DetectionEngine) :
    Prop where
  unbound : ∀ key, firstBound codec es key = none →
    x.ruleBindings.find? key = none ∧ x.planBindings.find? key = none
  bound : ∀ key b, firstBound codec es key = some b → ∃ c, SameContents codec c b ∧
    known (c.1.document codec) ∧ known c.2.document ∧
    x.ruleBindings.find? key = some (c.1.bindingDigest codec) ∧
    x.planBindings.find? key = some (c.2.bindingDigest codec)

variable (hapart : BindingApart codec known) (hbound : Bound codec known es x)
  (hknown : ∀ d ∈ (SharedCall.engine call).documents codec x, known d)

lemma documents_presented (hc : presented codec call x = some c) :
    c.1.document codec ∈ (SharedCall.engine call).documents codec x ∧
      c.2.document ∈ (SharedCall.engine call).documents codec x := by
  constructor
  · refine List.mem_append_left _ ?_
    simp [hc]
  · refine List.mem_append_left _ ?_
    simp [hc]

lemma documents_held {key : String × Int} {held : DetectionPlan} (h : x.plans.find? key = some held) :
    held.document ∈ (SharedCall.engine call).documents codec x :=
  List.mem_append_right _ (List.mem_map_of_mem (Dict.mem_values_iff_find?.mpr ⟨key, h⟩))

include hapart hbound hknown

/-- Contents that the bindings of their version are the digests of. -/
lemma same_of_digests (hc : presented codec call x = some c)
    (hrule : x.ruleBindings.find? c.1.key = some (c.1.bindingDigest codec))
    (hplan : x.planBindings.find? c.1.key = some (c.2.bindingDigest codec)) :
    ∃ b, firstBound codec es c.1.key = some b ∧ SameContents codec c b := by
  cases hfirst : firstBound codec es c.1.key with
  | none =>
    obtain ⟨hnone, -⟩ := hbound.unbound _ hfirst
    cases hnone.symm.trans hrule
  | some b =>
    obtain ⟨a, hsame, hka, hkp, ha, hp⟩ := hbound.bound _ b hfirst
    obtain ⟨hdrule, hdplan⟩ := documents_presented hc
    have hrules := hapart _ _ (hknown _ hdrule) hka (Option.some.inj (hrule.symm.trans ha))
    have hplans := hapart _ _ (hknown _ hdplan) hkp (Option.some.inj (hplan.symm.trans hp))
    exact ⟨b, rfl, SameContents.trans ⟨hrules, hplans⟩ hsame⟩

/-- Contents that are accepted are those that were first bound, if equal plans are the same JSON. -/
lemma Accepted.same (haccepted : Accepted codec x c) (hc : presented codec call x = some c)
    (hdistinct : ∀ held, x.plans.find? c.1.key = some held → held.same c.2 = true →
      held.document.sorted = c.2.document.sorted)
    (hb : firstBound codec es c.1.key = some b) : SameContents codec c b := by
  obtain ⟨a, hsame, hka, hkp, ha, hp⟩ := hbound.bound _ b hb
  obtain ⟨hdrule, -⟩ := documents_presented hc
  obtain ⟨held, hheld, hdigest, heq⟩ := haccepted.plan _ hp
  have hrules := hapart _ _ (hknown _ hdrule) hka (haccepted.rule _ ha).symm
  have hplans := hapart _ _ hkp (hknown _ (documents_held hheld)) hdigest
  refine SameContents.trans ⟨hrules, ?_⟩ hsame
  exact (hdistinct held hheld heq).symm.trans hplans.symm

/-- A run that is admitted is admitted with the contents that are bound after it. -/
lemma admission_same (hdistinct : ∀ c held, presented codec call x = some c →
      x.plans.find? c.1.key = some held → held.same c.2 = true →
      held.document.sorted = c.2.document.sorted) {ref : RuleRef} {scope : Option Scope}
    {number : Option Int} (hcall : call = .run ref scope number) {t : Scope} {v : DetectionRuleVersion}
    (hadmission : admission codec ref scope number x = .ok ((t, v), y)) :
    ∃ p, y.plans.find? v.key = some p ∧ presented codec call x = some (v, p) ∧
      ∃ b, (firstBound codec es v.key).or ((binding codec call x).filter fun b => b.1.key = v.key) =
        some b ∧ SameContents codec (v, p) b := by
  subst hcall
  cases ref with
  | id ruleId =>
    obtain ⟨rfl, hselect⟩ := admission_id hadmission
    obtain ⟨hheld, hrule, p, hp, hplan⟩ := selectVersion_id hselect
    have hpresented : presented codec (.run (.id ruleId) scope number) y = some (v, p) := by
      simp [presented, hheld, hp]
    refine ⟨p, hp, hpresented, ?_⟩
    obtain ⟨b, hb, hsame⟩ := same_of_digests hapart hbound hknown hpresented hrule hplan
    simp only at hb
    exact ⟨b, by rw [hb, Option.some_or], hsame⟩
  | rule rule =>
    obtain ⟨-, hregistration, rfl⟩ := admission_rule hadmission
    have hbinding : binding codec (.run (.rule rule) scope number) x = some (v, v.plan codec) := by
      simp [binding, hadmission, hregistration, Except.toOption]
    obtain ⟨hpresented, haccepted⟩ := binding_presented hbinding
    refine ⟨v.plan codec, Dict.find?_set_self _ _ _, hpresented, ?_⟩
    cases hfirst : firstBound codec es v.key with
    | none =>
      refine ⟨(v, v.plan codec), ?_, SameContents.refl _⟩
      simp [hbinding, Option.filter_some]
    | some b =>
      refine ⟨b, by rw [Option.some_or], ?_⟩
      exact haccepted.same hapart hbound hknown hpresented (fun held => hdistinct _ held hpresented) hfirst

variable (hdistinct : ∀ c held, presented codec call x = some c →
  x.plans.find? c.1.key = some held → held.same c.2 = true →
  held.document.sorted = c.2.document.sorted)

include hdistinct

lemma refuses : Refuses codec render es call x := by
  intro c b hc hb hne
  cases call with
  | arrive event => cases hc
  | ingest event scope => cases hc
  | register rule plan number =>
    cases hregistration : registration codec rule plan number x with
    | error e =>
      rw [EngineCall.exec, registerRule_eq, hregistration]
      exact ⟨rfl, rfl⟩
    | ok a =>
      have hbinding : binding codec (.register rule plan number) x = some a := by
        simp [binding, hregistration, Except.toOption]
      obtain ⟨hpresented, haccepted⟩ := binding_presented hbinding
      obtain rfl := Option.some.inj (hc.symm.trans hpresented)
      exact absurd (haccepted.same hapart hbound hknown hpresented
        (fun held => hdistinct _ held hpresented) hb) hne
  | run ref scope number =>
    cases hadmission : admission codec ref scope number x with
    | error e =>
      rw [EngineCall.exec, perform, hadmission]
      exact ⟨rfl, rfl⟩
    | ok a =>
      obtain ⟨⟨t, v⟩, y⟩ := a
      obtain ⟨p, -, hpresented, b', hb', hsame⟩ :=
        admission_same hapart hbound hknown hdistinct rfl hadmission
      obtain rfl := Option.some.inj (hc.symm.trans hpresented)
      simp only at hb
      rw [hb, Option.some_or] at hb'
      obtain rfl := Option.some.inj hb'
      exact absurd hsame hne

lemma bound_call (a : Option EngineAnswer) :
    Bound codec known (⟨.engine call, x, a⟩ :: es) (call.exec codec render x).2 := by
  have hcons : ∀ key, firstBound codec (⟨.engine call, x, a⟩ :: es) key =
      (firstBound codec es key).or ((binding codec call x).filter fun b => b.1.key = key) :=
    fun _ => rfl
  rcases call_tables render call x with ⟨hnone, htables⟩ | ⟨c, rule, hbinding, htables⟩
  · have hsame : ∀ key, firstBound codec (⟨.engine call, x, a⟩ :: es) key = firstBound codec es key := by
      intro key
      rw [hcons, hnone, Option.filter_none, Option.or_none]
    constructor
    · intro key hkey
      rw [hsame] at hkey
      rw [htables.ruleBindings, htables.planBindings]
      exact hbound.unbound key hkey
    · intro key b hb
      rw [hsame] at hb
      rw [htables.ruleBindings, htables.planBindings]
      exact hbound.bound key b hb
  · obtain ⟨hpresented, haccepted⟩ := binding_presented hbinding
    obtain ⟨hdrule, hdplan⟩ := documents_presented hpresented
    have hother : ∀ key, c.1.key ≠ key →
        firstBound codec (⟨.engine call, x, a⟩ :: es) key = firstBound codec es key ∧
          (enter codec rule c.1 c.2 x).ruleBindings.find? key = x.ruleBindings.find? key ∧
          (enter codec rule c.1 c.2 x).planBindings.find? key = x.planBindings.find? key := by
      intro key hkey
      refine ⟨?_, Dict.find?_set_of_ne _ _ hkey.symm, Dict.find?_set_of_ne _ _ hkey.symm⟩
      rw [hcons, hbinding]
      simp [Option.filter_some, hkey]
    constructor
    · intro key hkey
      rw [htables.ruleBindings, htables.planBindings]
      by_cases hself : c.1.key = key
      · rw [hcons, hbinding, Option.or_eq_none_iff] at hkey
        simp [Option.filter_some, hself] at hkey
      · obtain ⟨hfirst, hrule, hplan⟩ := hother key hself
        rw [hrule, hplan]
        exact hbound.unbound key (hfirst ▸ hkey)
    · intro key b hb
      rw [htables.ruleBindings, htables.planBindings]
      by_cases hself : c.1.key = key
      · subst hself
        refine ⟨c, ?_, hknown _ hdrule, hknown _ hdplan, Dict.find?_set_self _ _ _,
          Dict.find?_set_self _ _ _⟩
        rw [hcons, hbinding] at hb
        cases hfirst : firstBound codec es c.1.key with
        | none =>
          rw [hfirst, Option.none_or] at hb
          obtain ⟨hb, -⟩ := Option.filter_eq_some_iff.mp hb
          obtain rfl := Option.some.inj hb
          exact SameContents.refl c
        | some b' =>
          rw [hfirst, Option.some_or] at hb
          obtain rfl := Option.some.inj hb
          exact haccepted.same hapart hbound hknown hpresented
            (fun held => hdistinct _ held hpresented) hfirst
      · obtain ⟨hfirst, hrule, hplan⟩ := hother key hself
        rw [hrule, hplan]
        exact hbound.bound key b (hfirst ▸ hb)

end Bound

section History

variable {codec : Codec} {render : Value → String} {view scope : Option Scope} {clock : ℕ → Datetime}
  {es es' : List SharedEntry} {x : DetectionEngine} {known : Value → Prop}

lemma firstBound_later {e : SharedEntry} {key : String × Int} {b : Contents}
    (h : firstBound codec es key = some b) : firstBound codec (e :: es) key = some b := by
  rw [firstBound, h, Option.some_or]

lemma Faithful.later {e : SharedEntry} {ev : DetectionEvaluation} (h : Faithful codec render es ev) :
    Faithful codec render (e :: es) ev := by
  obtain ⟨b, hb, r, ⟨e', he', hr⟩, hrest⟩ := h
  exact ⟨b, firstBound_later hb, r, ⟨e', List.mem_cons_of_mem e he', hr⟩, hrest⟩

/-- What holds after every call and every change. -/
structure BindingInvariant (codec : Codec) (render : Value → String) (known : Value → Prop)
    (es : List SharedEntry) (x : DetectionEngine) : Prop extends BindingKept codec render es x where
  bound : Bound codec known es x

lemma binding_invariant (hapart : BindingApart codec known)
    (h : Foundations.History (SharedCall.exec codec render) (newEngine view scope clock) es x)
    (hknown : ∀ d ∈ bindingDocuments codec es, known d) (hdistinct : ∀ e ∈ es, Distinct codec e) :
    BindingInvariant codec render known es x := by
  induction h with
  | nil =>
    refine ⟨⟨?_, ?_⟩, ?_, ?_⟩
    · intro k ev hk
      cases hk
    · intro e earlier hsuffix
      cases List.suffix_nil.mp hsuffix
    · intro key _
      exact ⟨rfl, rfl⟩
    · intro key b hb
      cases hb
  | @call es x call h ih =>
    have hknown' : ∀ d ∈ bindingDocuments codec es, known d := by
      intro d hd
      exact hknown d (List.mem_append_right _ hd)
    have hold := ih hknown' fun e he => hdistinct e (List.mem_cons_of_mem _ he)
    have hcall : ∀ d ∈ call.documents codec x, known d := by
      intro d hd
      exact hknown d (List.mem_append_left _ hd)
    have hearlier : ∀ {e' earlier}, (e' :: earlier) <:+ es → ∀ call, e'.call = .engine call →
        Refuses codec render earlier call e'.before := fun hsuffix => hold.refused _ _ hsuffix
    cases call with
    | mutate rules plans =>
      refine ⟨⟨?_, ?_⟩, ?_, ?_⟩
      · intro k ev hk
        exact (hold.evaluations k ev hk).later
      · intro e earlier hsuffix call hcall
        rcases List.suffix_cons_iff.mp hsuffix with heq | hsuffix
        · obtain ⟨rfl, rfl⟩ := List.cons.inj heq
          cases hcall
        · exact hearlier hsuffix call hcall
      · intro key hkey
        exact hold.bound.unbound key (Option.or_eq_none_iff.mp hkey).1
      · intro key b hb
        refine hold.bound.bound key b ?_
        rw [← hb]
        exact (Option.or_none).symm
    | engine call =>
      have hdistinct' : ∀ c held, presented codec call x = some c → x.plans.find? c.1.key = some held →
          held.same c.2 = true → held.document.sorted = c.2.document.sorted := by
        intro c held hc hheld hequal
        exact hdistinct _ List.mem_cons_self call rfl c hc held hheld hequal
      refine ⟨⟨?_, ?_⟩, bound_call hapart hold.bound hcall hdistinct' _⟩
      · intro k ev hk
        rcases call_evaluations call x hk with hold' | ⟨ref, scope, number, r, hrun, hreading, hnew⟩
        · exact (hold.evaluations k ev hold').later
        · obtain ⟨⟨⟨t, v⟩, y⟩, hadmission, hread⟩ := bind_eq_ok.mp hreading
          obtain ⟨p, hp, -, b, hb, hsame⟩ :=
            admission_same hapart hold.bound hcall hdistinct' hrun hadmission
          obtain ⟨p', hp', hread⟩ := orRaise_bind_eq_ok.mp hread
          obtain rfl := Option.some.inj (hp.symm.trans hp')
          obtain ⟨events, -, hread⟩ := bind_eq_ok.mp hread
          obtain rfl := Except.ok.inj hread
          obtain ⟨its, z, hits, item, hitem, rfl⟩ := hnew
          refine ⟨b, hb, _, ⟨_, List.mem_cons_self, ref, scope, number, congrArg _ hrun, hreading⟩, hsame,
            its, z, hits, item, hitem, rfl⟩
      · intro e earlier hsuffix call' hcall'
        rcases List.suffix_cons_iff.mp hsuffix with heq | hsuffix
        · obtain ⟨rfl, rfl⟩ := List.cons.inj heq
          obtain rfl := SharedCall.engine.inj hcall'
          exact refuses hapart hold.bound hcall hdistinct'
        · exact hearlier hsuffix call' hcall'

/-- Every evaluation of a version comes from what was first bound to it, and a call that presents anything else
raises and changes nothing, wherever plans that compare equal are the same JSON. -/
theorem binding_kept
    (h : Foundations.History (SharedCall.exec codec render) (newEngine view scope clock) es x)
    (hapart : BindingApart codec fun d => d ∈ bindingDocuments codec es)
    (hdistinct : ∀ e ∈ es, Distinct codec e) : BindingKept codec render es x :=
  (binding_invariant hapart h (fun _ hd => hd) hdistinct).toBindingKept

end History

section Example

def countVersion : DetectionRuleVersion :=
  { toolVersion with predicates := [("event_id|contains", .int 1)], valid := by decide }

def countRule : DetectionRule :=
  { toolRule with
    versions := [countVersion]
    activeExists := by decide
    belongs := by decide
    unique := by decide
    owned := by decide }

def countPlan : DetectionPlan where
  toRuleContent := countVersion.toRuleContent
  planId := "PLAN-8ebb681f1d8196ea0912a89899ea02f9"
  ruleId := "DR-1"
  ruleVersion := 1
  valid := by decide
  nonblank := by decide

/-- The plan with the number one replaced by the truth value that equals it. -/
def truthPlan : DetectionPlan :=
  { countPlan with predicates := [("event_id|contains", .bool true)], valid := by decide }

/-- The documents of the version and of the two plans with their digests. -/
def countDigests : Codec :=
  { toolDigests with
    contentDigest v :=
      if v = countVersion.document toolDigests then
        "6923a7cbdef16234a33485ee9c6f97e29c35bbda38c2d001ae464791f4ff6424"
      else if v = countPlan.document then
        "241087fde4b7bc22d88ba1d4843c6fbf2d5484dbfd513794a9a65a298e75fa94"
      else if v = truthPlan.document then
        "931ccf78a6b21f98aa78dab7d21cc734746468ad268613ccebc981f3ad217540"
      else if v = .arr [evaluationKey toolScope countVersion "RUN-e3107e3e83f737690a362076f9b0075f"
          [toolEvent.eventId] .noMatch "c1"] then
        "36c437e01285ecd54158541f8e523d68b019a224850acf4e8f48c391b2d8ac26"
      else if v = evaluationKey toolScope countVersion "RUN-e3107e3e83f737690a362076f9b0075f"
          [toolEvent.eventId] .noMatch "c1" then
        "8cd3c3ad3bb8b375b125a9b779f55d3940b40dd1559c9cf7fe015eb35ef771f3"
      else toolDigests.contentDigest v }

/-- The rule is registered, the other plan is registered for it, and the rule is run. -/
def substitution : List SharedEntry × DetectionEngine :=
  Foundations.History.ofCalls (SharedCall.exec countDigests toolText) (newEngine none none fun n => n)
    [.engine (.run (.id "DR-1") (some toolScope) none), .engine (.arrive toolEvent),
      .engine (.register countRule (some truthPlan) none), .engine (.register countRule none none)]

def readingOf (codec : Codec) (e : SharedEntry) : Option Reading :=
  match e.call with
  | .engine (.run ref scope number) => (reading codec ref scope number e.before).toOption
  | _ => none

/-- The evaluation that is stored comes from the other plan. -/
theorem plan_substituted :
    Foundations.History (SharedCall.exec countDigests toolText) (newEngine none none fun n => n)
        substitution.1 substitution.2 ∧
      (substitution.2.evaluations.values.map fun ev => (ev.ruleId, ev.ruleVersion, ev.result)) =
        [("DR-1", 1, .noMatch)] ∧
      ¬ BindingKept countDigests toolText substitution.1 substitution.2 := by
  refine ⟨Foundations.History.ofCalls_history _, by decide +kernel, ?_⟩
  intro h
  have hcheck : ∀ ev ∈ substitution.2.evaluations.values,
      firstBound countDigests substitution.1 (ev.ruleId, ev.ruleVersion) =
        some (countVersion, countPlan) := by decide +kernel
  have hread : ∀ e ∈ substitution.1, ∀ r ∈ readingOf countDigests e, r.plan = truthPlan := by
    decide +kernel
  have hapart : ¬ countPlan.document.sorted = truthPlan.document.sorted := by decide +kernel
  obtain ⟨ev, hev⟩ := List.exists_mem_of_ne_nil substitution.2.evaluations.values (by decide +kernel)
  obtain ⟨k, hk⟩ := Dict.mem_values_iff_find?.mp hev
  obtain ⟨b, hb, r, ⟨e, he, ref, scope, number, hcall, hr⟩, hsame, -⟩ := h.evaluations k ev hk
  obtain rfl := Option.some.inj ((hcheck ev hev).symm.trans hb)
  have hplan := hread e he r (by simp [readingOf, hcall, hr, Except.toOption])
  have hdocuments := hsame.plan
  simp only [hplan] at hdocuments
  exact hapart hdocuments.symm

/-- The rule is registered and run, and once its plan has been changed in place it does not run. -/
def alteration : List SharedEntry × DetectionEngine :=
  Foundations.History.ofCalls (SharedCall.exec countDigests toolText) (newEngine none none fun n => n)
    [.engine (.run (.id "DR-1") (some toolScope) none),
      .mutate (Dict.set Table.empty ("DR-1", 1) countRule) (Dict.set Table.empty ("DR-1", 1) truthPlan),
      .engine (.arrive toolEvent), .engine (.run (.rule countRule) (some toolScope) none)]

theorem plan_altered : BindingKept countDigests toolText alteration.1 alteration.2 := by
  refine binding_kept (Foundations.History.ofCalls_history _) ?_ (by decide +kernel)
  have hdocuments : ∀ d ∈ bindingDocuments countDigests alteration.1,
      ∀ d' ∈ bindingDocuments countDigests alteration.1,
        countDigests.contentDigest d = countDigests.contentDigest d' → d.sorted = d'.sorted := by
    decide +kernel
  exact fun d d' hd => hdocuments d hd d'

end Example

end SecScanMonitor.DetectionResponse
