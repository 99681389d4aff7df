import SecScanMonitor.DetectionResponse.Binding
import SecScanMonitor.DetectionResponse.SigmaEngine
import SecScanMonitor.Foundations.Agreement
import SecScanMonitor.Foundations.Members
import SecScanMonitor.Persistence.DetectionOutputs

/-! Registrations of rules with an engine and with the store beside it. The engine's digest of a version has its
dates, the store's row is compared without them. -/

namespace SecScanMonitor.Persistence

open Foundations Domain DetectionResponse DetectionResponse.Sigma ContinuousSecurity DetectionEngine

section Compared

/-! What Python compares of a record, as one value: the comparisons of records are equalities of it. -/

def contentCompared (c : RuleContent) :=
  (c.ruleType, c.contentDigest, c.eventSchema, c.supportedSourceFamilies,
    (Value.obj c.predicates).normal true, c.correlationKeys, c.windowSeconds, c.threshold)

def planCompared (p : DetectionPlan) :=
  (p.planId, p.ruleId, p.ruleVersion, contentCompared p.toRuleContent)

/-- The columns of a row without its dates. -/
def rowCompared (r : DetectionRuleVersionRow) :=
  ((r.rule.ruleId, r.rule.version, r.rule.title, contentCompared r.rule.toRuleContent),
    (r.rule.source, r.rule.sourceReference, r.rule.owner, r.rule.ocsfVersion, r.rule.severity,
      r.rule.confidence, (Value.obj r.rule.confidenceMetadata).normal true),
    (r.rule.attackMappings, r.rule.atlasMappings, r.rule.references, r.rule.status,
      (Value.obj r.rule.evaluationMetadata).normal true, r.canonicalDigest))

variable {c d : RuleContent} {p q : DetectionPlan} {v w : DetectionRuleVersionRow}

lemma sameContent_iff : c.same d = true ↔ contentCompared c = contentCompared d := by
  simp only [RuleContent.same, contentCompared, Value.pyEq, Bool.and_eq_true, decide_eq_true_eq, and_assoc,
    Prod.mk.injEq]

lemma samePlan_iff : p.same q = true ↔ planCompared p = planCompared q := by
  simp only [DetectionPlan.same, planCompared, sameContent_iff, Bool.and_eq_true, decide_eq_true_eq, and_assoc,
    Prod.mk.injEq]

lemma sameRow_iff : v.same w = true ↔ rowCompared v = rowCompared w := by
  simp only [DetectionRuleVersionRow.same, rowCompared, sameContent_iff, Value.pyEq, Bool.and_eq_true,
    decide_eq_true_eq, and_assoc, Prod.mk.injEq]

/-- Plans that compare equal have predicates on the same fields. -/
lemma planCompared_fields (h : planCompared p = planCompared q) (k : String) :
    k ∈ p.predicates.map Prod.fst ↔ k ∈ q.predicates.map Prod.fst := by
  have hcontent := (Prod.mk.inj (Prod.mk.inj (Prod.mk.inj h).2).2).2
  have hpredicates : (Value.obj p.predicates).normal true = (Value.obj q.predicates).normal true := by
    simp only [contentCompared, Prod.mk.injEq] at hcontent
    exact hcontent.2.2.2.2.1
  have hlookup := congrArg (List.lookup k) (Value.obj.inj hpredicates)
  rw [Value.lookup_normalMembers, Value.lookup_normalMembers] at hlookup
  rw [← not_iff_not, ← Value.lookup_eq_none_iff, ← Value.lookup_eq_none_iff, ← Option.map_eq_none_iff,
    hlookup, Option.map_eq_none_iff]

end Compared

/-- A call of `register_rule`. -/
structure Registration where
  rule : DetectionRule
  plan : Option DetectionPlan
  number : Option Int

/-- An engine and the table of rule versions. -/
structure RulePlaces where
  engine : DetectionEngine
  versions : Versions

section Register

variable (codec : Codec)

/-- What the engine and the store answer. -/
abbrev Answers := Except Raised DetectionPlan × Except Raised Unit

def saveRequested (call : Registration) (versions : Versions) : Except Raised Versions := do
  let version ← requestedVersion call.rule call.number
  saveRuleVersion codec version versions

/-- Register a rule with both; one that refuses stays as it is. -/
def Registration.exec (call : Registration) (r : RulePlaces) : Answers × RulePlaces :=
  let engine := DetectionEngine.registerRule codec call.rule call.plan call.number r.engine
  let versions := saveRequested codec call r.versions
  ((engine.map Prod.fst, versions.map fun _ => ()),
    { engine := engine.toOption.elim r.engine Prod.snd
      versions := versions.toOption.getD r.versions })

abbrev RuleEntry := Entry Registration RulePlaces Answers

/-- The engine has the version already and takes it again. -/
def EngineReplays (r : RulePlaces) (imported : ImportResult) : Prop :=
  (r.engine.ruleBindings.find? imported.rule.active.key).isSome ∧
    (DetectionEngine.registerRule codec imported.rule (some imported.plan) none r.engine).isOk

/-- The store has the version already and takes it again. -/
def StoreReplays (r : RulePlaces) (imported : ImportResult) : Prop :=
  (r.versions.get? imported.rule.active.key).isSome ∧
    (saveRuleVersion codec imported.rule.active r.versions).isOk

def Agrees (r : RulePlaces) (imported : ImportResult) : Prop :=
  EngineReplays codec r imported ↔ StoreReplays codec r imported

/-- The engine has taken the JSON of the version with its dates, and a plan equal to the imported one. -/
def EngineTook (es : List RuleEntry) (imported : ImportResult) : Prop :=
  ∃ e ∈ es, ∃ version plan, requestedVersion e.call.rule e.call.number = .ok version ∧
    e.outcome.1 = .ok plan ∧ version.key = imported.rule.active.key ∧
    version.bindingDigest codec = imported.rule.active.bindingDigest codec ∧ plan.same imported.plan = true

/-- The store has taken a version that is equal in every column but the dates. -/
def StoreTook (es : List RuleEntry) (imported : ImportResult) : Prop :=
  ∃ e ∈ es, ∃ version, requestedVersion e.call.rule e.call.number = .ok version ∧
    e.outcome.2 = .ok () ∧
    (DetectionRuleVersionRow.of codec version).same (.of codec imported.rule.active) = true

end Register

section Record

variable {codec : Codec} {es : List RuleEntry} {start r : RulePlaces} {call : Registration}
  {version : DetectionRuleVersion} {plan : DetectionPlan}

/-- The version and the plan stand in the engine under what it has taken. -/
structure StandsInEngine (codec : Codec) (engine : DetectionEngine) (version : DetectionRuleVersion)
    (plan : DetectionPlan) : Prop where
  rule : engine.ruleBindings.find? version.key = some (version.bindingDigest codec)
  held : ∃ held, engine.plans.find? version.key = some held ∧
    engine.planBindings.find? version.key = some (held.bindingDigest codec) ∧
    planCompared plan = planCompared held
  valid : validatePredicates plan.predicates = .ok ()

/-- The invariant: what stands in the engine and in the table is what they have taken. -/
structure EntriesRecorded (codec : Codec) (es : List RuleEntry) (r : RulePlaces) : Prop where
  bound : ∀ key d, r.engine.ruleBindings.find? key = some d → ∃ e ∈ es, ∃ version plan,
    requestedVersion e.call.rule e.call.number = .ok version ∧ e.outcome.1 = .ok plan ∧ version.key = key
  taken : ∀ e ∈ es, ∀ version plan, requestedVersion e.call.rule e.call.number = .ok version →
    e.outcome.1 = .ok plan → StandsInEngine codec r.engine version plan
  stored : ∀ row ∈ r.versions, ∃ e ∈ es, ∃ version,
    requestedVersion e.call.rule e.call.number = .ok version ∧ e.outcome.2 = .ok () ∧ row = .of codec version
  saved : ∀ e ∈ es, ∀ version, requestedVersion e.call.rule e.call.number = .ok version →
    e.outcome.2 = .ok () → ∃ row, r.versions.get? version.key = some row ∧
      rowCompared row = rowCompared (.of codec version)

/-- A registration that the engine takes leaves what stood in it under other keys, and what compares equal under
its own. -/
lemma registerRule_stands {engine engine' : DetectionEngine} {rule : DetectionRule}
    {given : Option DetectionPlan} {number : Option Int}
    (h : DetectionEngine.registerRule codec rule given number engine = .ok (plan, engine')) :
    ∃ version, requestedVersion rule number = .ok version ∧ StandsInEngine codec engine' version plan ∧
      (∀ key d, engine'.ruleBindings.find? key = some d →
        key = version.key ∨ engine.ruleBindings.find? key = some d) ∧
      ∀ w q, StandsInEngine codec engine w q → StandsInEngine codec engine' w q := by
  obtain ⟨version, hregistrable, rfl⟩ := registerRule_enters h
  refine ⟨version, hregistrable.requested, ?_, ?_, ?_⟩
  · exact ⟨Dict.find?_set_self _ _ _, ⟨plan, Dict.find?_set_self _ _ _, Dict.find?_set_self _ _ _, rfl⟩,
      hregistrable.validated⟩
  · intro key d hd
    exact (Dict.find?_set_eq_some hd).imp_left fun hset => hset.1
  · intro w q hw
    by_cases hkey : w.key = version.key
    · have hdigest : w.bindingDigest codec = version.bindingDigest codec := by
        have hbound := hregistrable.ruleBound
        rw [Bool.not_eq_true, Option.any_eq_false] at hbound
        have hstands := hw.rule
        rw [hkey] at hstands
        simpa using hbound _ hstands
      obtain ⟨held, hheld, hbinding, hsame⟩ := hw.held
      rw [hkey] at hheld hbinding
      have hplan := hregistrable.planBound
      rw [checkPlanBinding, hbinding] at hplan
      obtain ⟨-, hplan⟩ := raiseIf_bind_eq_ok.mp hplan
      have hcompared := raiseIf_eq_ok.mp hplan
      rw [hheld] at hcompared
      have hequal : planCompared held = planCompared plan := samePlan_iff.mp (by simpa using hcompared)
      refine ⟨?_, ⟨plan, ?_, ?_, hsame.trans hequal⟩, hw.valid⟩
      · rw [hkey, hdigest]
        exact Dict.find?_set_self _ _ _
      · rw [hkey]
        exact Dict.find?_set_self _ _ _
      · rw [hkey]
        exact Dict.find?_set_self _ _ _
    · obtain ⟨held, hheld, hbinding, hsame⟩ := hw.held
      exact ⟨(Dict.find?_set_of_ne _ _ hkey).trans hw.rule, ⟨held, (Dict.find?_set_of_ne _ _ hkey).trans hheld,
        (Dict.find?_set_of_ne _ _ hkey).trans hbinding, hsame⟩, hw.valid⟩

/-- What the store does with a version: it has one that compares equal, or it adds it. -/
lemma saveRuleVersion_saved {versions versions' : Versions}
    (h : saveRuleVersion codec version versions = .ok versions') :
    (∃ row, versions'.get? version.key = some row ∧ rowCompared row = rowCompared (.of codec version)) ∧
      (∀ row ∈ versions', row ∈ versions ∨ row = .of codec version) ∧ versions'.Extends versions := by
  have hextends := insertOrReplay_extends h
  rcases insertOrReplay_eq_ok h with ⟨row, hrow, hkey, hsame, rfl⟩ | ⟨-, hrows, -⟩
  · exact ⟨⟨row, Table.get?_eq_some_iff.mpr ⟨hrow, hkey⟩, sameRow_iff.mp hsame⟩, fun _ => Or.inl, hextends⟩
  · have hmem : ∀ row, row ∈ versions' ↔ row = .of codec version ∨ row ∈ versions := by
      intro row
      rw [Table.mem_def, hrows, List.mem_cons, Table.mem_def]
    refine ⟨⟨.of codec version, Table.get?_eq_some_iff.mpr ⟨(hmem _).mpr (Or.inl rfl), rfl⟩, rfl⟩, ?_, hextends⟩
    exact fun row hrow => ((hmem row).mp hrow).symm

lemma exec_engine {outcome : Answers × RulePlaces} (houtcome : call.exec codec r = outcome) :
    (∃ x, outcome.1.1 = .error x ∧ outcome.2.engine = r.engine) ∨
      ∃ plan, outcome.1.1 = .ok plan ∧ DetectionEngine.registerRule codec call.rule call.plan call.number
        r.engine = .ok (plan, outcome.2.engine) := by
  subst houtcome
  simp only [Registration.exec]
  cases DetectionEngine.registerRule codec call.rule call.plan call.number r.engine with
  | error x => exact Or.inl ⟨x, rfl, rfl⟩
  | ok a => exact Or.inr ⟨a.1, rfl, rfl⟩

lemma exec_versions {outcome : Answers × RulePlaces} (houtcome : call.exec codec r = outcome) :
    (∃ x, outcome.1.2 = .error x ∧ outcome.2.versions = r.versions) ∨
      outcome.1.2 = .ok () ∧ saveRequested codec call r.versions = .ok outcome.2.versions := by
  subst houtcome
  simp only [Registration.exec]
  cases saveRequested codec call r.versions with
  | error x => exact Or.inl ⟨x, rfl, rfl⟩
  | ok versions => exact Or.inr ⟨rfl, rfl⟩

/-- The step lemma: a registration keeps the record. -/
lemma EntriesRecorded.step (h : EntriesRecorded codec es r) (call : Registration) :
    EntriesRecorded codec (⟨call, r, (call.exec codec r).1⟩ :: es) (call.exec codec r).2 := by
  have hengine := exec_engine (rfl : call.exec codec r = _)
  have hversions := exec_versions (rfl : call.exec codec r = _)
  refine ⟨?_, ?_, ?_, ?_⟩
  · intro key d hd
    have hold : r.engine.ruleBindings.find? key = some d → ∃ e ∈ (⟨call, r, (call.exec codec r).1⟩ :: es :
        List RuleEntry), ∃ version plan, requestedVersion e.call.rule e.call.number = .ok version ∧
          e.outcome.1 = .ok plan ∧ version.key = key := by
      intro hd
      obtain ⟨e, he, htaken⟩ := h.bound key d hd
      exact ⟨e, List.mem_cons_of_mem _ he, htaken⟩
    rcases hengine with ⟨x, -, hsame⟩ | ⟨plan, hanswer, hregister⟩
    · rw [hsame] at hd
      exact hold hd
    · obtain ⟨version, hrequested, -, hkeys, -⟩ := registerRule_stands hregister
      rcases hkeys key d hd with rfl | hd
      · exact ⟨_, List.mem_cons_self, version, plan, hrequested, hanswer, rfl⟩
      · exact hold hd
  · intro e he version plan hrequested hanswer
    rcases hengine with ⟨x, hrefused, hsame⟩ | ⟨taken, htaken, hregister⟩
    · rcases List.mem_cons.mp he with rfl | he
      · rw [hrefused] at hanswer
        cases hanswer
      · rw [hsame]
        exact h.taken e he version plan hrequested hanswer
    · obtain ⟨version', hrequested', hstands, -, hkept⟩ := registerRule_stands hregister
      rcases List.mem_cons.mp he with rfl | he
      · obtain rfl := Except.ok.inj (hrequested'.symm.trans hrequested)
        obtain rfl := Except.ok.inj (htaken.symm.trans hanswer)
        exact hstands
      · exact hkept version plan (h.taken e he version plan hrequested hanswer)
  · intro row hrow
    have hold : row ∈ r.versions → ∃ e ∈ (⟨call, r, (call.exec codec r).1⟩ :: es : List RuleEntry), ∃ version,
        requestedVersion e.call.rule e.call.number = .ok version ∧ e.outcome.2 = .ok () ∧
          row = .of codec version := by
      intro hrow
      obtain ⟨e, he, hstored⟩ := h.stored row hrow
      exact ⟨e, List.mem_cons_of_mem _ he, hstored⟩
    rcases hversions with ⟨x, -, hsame⟩ | ⟨hanswer, hsave⟩
    · rw [hsame] at hrow
      exact hold hrow
    · obtain ⟨version, hrequested, hsaved⟩ := bind_eq_ok.mp hsave
      obtain ⟨-, hrows, -⟩ := saveRuleVersion_saved hsaved
      rcases hrows row hrow with hrow | rfl
      · exact hold hrow
      · exact ⟨_, List.mem_cons_self, version, hrequested, hanswer, rfl⟩
  · intro e he version hrequested hanswer
    rcases hversions with ⟨x, hrefused, hsame⟩ | ⟨htaken, hsave⟩
    · rcases List.mem_cons.mp he with rfl | he
      · rw [hrefused] at hanswer
        cases hanswer
      · rw [hsame]
        exact h.saved e he version hrequested hanswer
    · obtain ⟨version', hrequested', hsaved⟩ := bind_eq_ok.mp hsave
      obtain ⟨hrow, -, hextends⟩ := saveRuleVersion_saved hsaved
      rcases List.mem_cons.mp he with rfl | he
      · obtain rfl := Except.ok.inj (hrequested'.symm.trans hrequested)
        exact hrow
      · obtain ⟨row, hfound, hcompared⟩ := h.saved e he version hrequested hanswer
        exact ⟨row, hextends.get? hfound, hcompared⟩

/-- The run lemma, from an engine and a table that have no rules. -/
lemma history_recorded (hbindings : start.engine.ruleBindings = Table.empty)
    (hversions : start.versions = Table.empty) (h : History (Registration.exec codec) start es r) :
    EntriesRecorded codec es r := by
  induction h with
  | nil =>
    refine ⟨?_, List.forall_mem_nil _, ?_, List.forall_mem_nil _⟩
    · intro key d hd
      rw [hbindings] at hd
      cases hd
    · intro row hrow
      rw [hversions] at hrow
      cases hrow
  | call c h ih => exact ih.step c

end Record

section Replay

variable {codec : Codec} {tooling : SigmaTooling} {document : Document} {root : YamlMap}
  {sourceReference : String} {createdAt modifiedAt : Datetime} {imported : ImportResult}
  {es : List RuleEntry} {r : RulePlaces}

/-- What a registration asks of a rule holds of an imported one, but for the names of its fields. -/
structure Registerable (codec : Codec) (imported : ImportResult) : Prop where
  plan : imported.plan = imported.rule.active.plan codec
  enabled : ¬ (imported.rule.active.status = .disabled ∨ imported.rule.active.status = .deprecated)
  fields : (∀ k ∈ imported.plan.predicates.map Prod.fst, NamedField k) →
    validatePredicates imported.plan.predicates = .ok ()

lemma importRule_registerable
    (h : importRule tooling codec document sourceReference createdAt modifiedAt = .ok imported) :
    Registerable codec imported := by
  obtain ⟨root, parts, -, hparts, hvalid, rfl⟩ := importRule_eq_ok h
  obtain ⟨hstatus, hchecked, -⟩ := partsOf_spec hparts
  refine ⟨?_, ?_, (validatePredicates_checked hchecked).mpr⟩
  · rw [active_rule hvalid]
    rfl
  · rw [active_rule hvalid]
    exact not_or.mpr hstatus

/-- A plan of valid predicates names its fields. -/
lemma named_of_valid {predicates : List (String × Value)} (h : validatePredicates predicates = .ok ()) :
    ∀ k ∈ predicates.map Prod.fst, NamedField k := by
  intro k hk hbar
  obtain ⟨p, hp, rfl⟩ := List.mem_map.mp hk
  exact ((validatePredicate_eq_ok.mp (validatePredicates_eq_ok.mp h p hp)).2.1 hbar).1

lemma isOk_iff {α : Type} {x : Except Raised α} : x.isOk = true ↔ ∃ a, x = .ok a := by
  cases x with
  | error e => exact iff_of_false Bool.false_ne_true nofun
  | ok a => exact iff_of_true rfl ⟨a, rfl⟩

/-- A rule that stands in the engine under its digest and with its plan is registered again. -/
lemma register_again {engine : DetectionEngine} {version : DetectionRuleVersion} {plan : DetectionPlan}
    (himported : Registerable codec imported) (hkey : version.key = imported.rule.active.key)
    (hstands : StandsInEngine codec engine version plan)
    (hdigest : version.bindingDigest codec = imported.rule.active.bindingDigest codec)
    (hplan : planCompared plan = planCompared imported.plan) :
    ∃ x, DetectionEngine.registerRule codec imported.rule (some imported.plan) none engine = .ok x := by
  obtain ⟨held, hheld, hbinding, hsame⟩ := hstands.held
  have hrule := hstands.rule
  rw [hkey] at hrule hheld hbinding
  have hbound : checkPlanBinding codec imported.rule.active.key imported.plan engine = .ok () := by
    rw [checkPlanBinding, hbinding]
    refine raiseIf_bind_eq_ok.mpr ⟨by simp [hheld], raiseIf_eq_ok.mpr ?_⟩
    simp [hheld, samePlan_iff.mpr (hsame.symm.trans hplan)]
  have hvalid : validatePredicates imported.plan.predicates = .ok () := by
    refine himported.fields fun k hk => ?_
    exact named_of_valid hstands.valid k ((planCompared_fields hplan k).mpr hk)
  have hrulebound : ¬ ((engine.ruleBindings.find? imported.rule.active.key).any
      fun d => decide (d ≠ imported.rule.active.bindingDigest codec)) = true := by
    rw [Bool.not_eq_true, Option.any_eq_false]
    intro d hd
    obtain rfl := Option.some.inj (hrule.symm.trans hd)
    simp [hdigest]
  have hown := himported.plan
  rw [hown] at hbound hvalid
  have hregistrable : DetectionEngine.Registrable codec imported.rule (some imported.plan) none engine
      imported.rule.active (imported.rule.active.plan codec) :=
    ⟨rfl, himported.enabled, hown.symm, hrulebound, hbound, hvalid⟩
  obtain ⟨engine', hregistered⟩ := DetectionEngine.registerRule_own hregistrable
  exact ⟨_, hregistered⟩

/-- The engine replays an imported rule exactly if it has taken its JSON, with the dates, and its plan. -/
lemma engineReplays_iff (h : EntriesRecorded codec es r) (himported : Registerable codec imported) :
    EngineReplays codec r imported ↔ EngineTook codec es imported := by
  rw [EngineReplays, isOk_iff, Option.isSome_iff_exists]
  constructor
  · rintro ⟨⟨d, hd⟩, ⟨plan', engine'⟩, hregister⟩
    obtain ⟨e, he, version, plan, hrequested, hanswer, hkey⟩ := h.bound _ d hd
    have hstands := h.taken e he version plan hrequested hanswer
    obtain ⟨held, hheld, hbinding, hsame⟩ := hstands.held
    have hrule := hstands.rule
    obtain ⟨active, hregistrable, -⟩ := registerRule_enters hregister
    obtain rfl : imported.rule.active = active := Except.ok.inj hregistrable.requested
    rw [hkey] at hrule hheld hbinding
    refine ⟨e, he, version, plan, hrequested, hanswer, hkey, ?_, samePlan_iff.mpr (hsame.trans ?_)⟩
    · have hbound := hregistrable.ruleBound
      rw [Bool.not_eq_true, Option.any_eq_false] at hbound
      simpa using hbound _ hrule
    · have hplan := hregistrable.planBound
      rw [hregistrable.planned, Option.getD_some, checkPlanBinding, hbinding] at hplan
      obtain ⟨-, hplan⟩ := raiseIf_bind_eq_ok.mp hplan
      have hcompared := raiseIf_eq_ok.mp hplan
      rw [hheld] at hcompared
      exact samePlan_iff.mp (by simpa using hcompared)
  · rintro ⟨e, he, version, plan, hrequested, hanswer, hkey, hdigest, hplan⟩
    have hstands := h.taken e he version plan hrequested hanswer
    refine ⟨⟨_, hkey ▸ hstands.rule⟩, ?_⟩
    exact register_again himported hkey hstands hdigest (samePlan_iff.mp hplan)

lemma rowCompared_key {v w : DetectionRuleVersion}
    (h : rowCompared (.of codec v) = rowCompared (.of codec w)) : v.key = w.key := by
  have hfirst := (Prod.mk.inj h).1
  exact Prod.ext (Prod.mk.inj hfirst).1 (Prod.mk.inj (Prod.mk.inj hfirst).2).1

/-- The store replays a version exactly if it has taken one that is equal but for the dates. -/
lemma storeReplays_iff (h : EntriesRecorded codec es r) : StoreReplays codec r imported ↔ StoreTook codec es imported := by
  rw [StoreReplays, isOk_iff, Option.isSome_iff_exists]
  constructor
  · rintro ⟨⟨row, hrow⟩, versions', hsave⟩
    obtain ⟨hmem, hkey⟩ := Table.get?_eq_some_iff.mp hrow
    obtain ⟨e, he, version, hrequested, hanswer, rfl⟩ := h.stored row hmem
    refine ⟨e, he, version, hrequested, hanswer, ?_⟩
    rcases insertOrReplay_eq_ok hsave with ⟨x, hx, hxkey, hsame, -⟩ | ⟨hnone, -, -⟩
    · rwa [← Table.eq_of_key_eq hx hmem (hxkey.trans hkey.symm)]
    · have hnone' : r.versions.get? imported.rule.active.key = none := hnone
      rw [hrow] at hnone'
      cases hnone'
  · rintro ⟨e, he, version, hrequested, hanswer, hsame⟩
    obtain ⟨row, hrow, hcompared⟩ := h.saved e he version hrequested hanswer
    have hequal := sameRow_iff.mp hsame
    rw [rowCompared_key hequal] at hrow
    have hget : r.versions.get? ((DetectionRuleVersionRow.of codec imported.rule.active).rule.ruleId,
      (DetectionRuleVersionRow.of codec imported.rule.active).rule.version) = some row := hrow
    refine ⟨⟨row, hrow⟩, r.versions, ?_⟩
    rw [saveRuleVersion, insertOrReplay, hget]
    exact if_pos (sameRow_iff.mpr (hcompared.trans hequal))

end Replay

section Twice

variable {codec : Codec} {tooling : SigmaTooling} {document : Document}
  {reference reference' : String} {createdAt modifiedAt createdAt' modifiedAt' : Datetime}
  {first again : ImportResult} {es : List RuleEntry} {start r : RulePlaces}

/-- The parts of the same document at another import. -/
def reimportedParts (parts : Parts) (reference : String) (createdAt modifiedAt : Datetime) : Parts :=
  { parts with sourceReference := reference, createdAt, modifiedAt }

variable (reference createdAt modifiedAt) in
lemma partsOf_again (root : YamlMap) :
    partsOf tooling codec root reference' createdAt' modifiedAt' =
      (partsOf tooling codec root reference createdAt modifiedAt).map fun parts =>
        reimportedParts parts reference' createdAt' modifiedAt' := by
  simp only [partsOf, map_bind]
  rfl

lemma partsOf_told {root : YamlMap} {parts : Parts}
    (h : partsOf tooling codec root reference createdAt modifiedAt = .ok parts) :
    parts.sourceReference = reference ∧ parts.createdAt = createdAt ∧ parts.modifiedAt = modifiedAt := by
  rw [partsOf_again reference createdAt modifiedAt] at h
  obtain ⟨parts', -, rfl⟩ := map_eq_ok.mp h
  exact ⟨rfl, rfl, rfl⟩

variable {parts : Parts}

variable (codec) in
lemma rowCompared_again (h : parts.Valid)
    (h' : (reimportedParts parts reference' createdAt' modifiedAt').Valid) :
    rowCompared (.of codec (Parts.ruleVersion h)) = rowCompared (.of codec (Parts.ruleVersion h')) ↔
      reference' = parts.sourceReference := by
  constructor
  · intro hsame
    exact (congrArg (fun row => row.2.1.2.1) hsame).symm
  · rintro rfl
    rfl

lemma document_again (h : parts.Valid)
    (h' : (reimportedParts parts reference' createdAt' modifiedAt').Valid)
    (hreference : reference' = parts.sourceReference)
    (hcreated : codec.dumpDatetime createdAt' = codec.dumpDatetime parts.createdAt)
    (hmodified : codec.dumpDatetime modifiedAt' = codec.dumpDatetime parts.modifiedAt) :
    (Parts.ruleVersion h).document codec = (Parts.ruleVersion h').document codec := by
  subst hreference
  have hmembers : (Parts.ruleVersion h').members = (Parts.ruleVersion h).members := rfl
  rw [DetectionRuleVersion.document, DetectionRuleVersion.document, hmembers]
  simp only [Parts.ruleVersion, reimportedParts, hcreated, hmodified]

lemma documents_again (h : parts.Valid)
    (h' : (reimportedParts parts reference' createdAt' modifiedAt').Valid) :
    ((Parts.ruleVersion h).document codec).sorted = ((Parts.ruleVersion h').document codec).sorted ↔
      reference' = parts.sourceReference ∧
        codec.dumpDatetime createdAt' = codec.dumpDatetime parts.createdAt ∧
        codec.dumpDatetime modifiedAt' = codec.dumpDatetime parts.modifiedAt := by
  constructor
  · intro hsame
    have hvalues := Value.values_of_sorted hsame rfl (by
      simp [DetectionRuleVersion.members, RuleContent.members])
    simp only [DetectionRuleVersion.members, RuleContent.members, Parts.ruleVersion, Parts.content,
      reimportedParts, List.cons_append, List.nil_append, List.map_cons, Value.sorted, List.map_nil, List.cons.injEq,
      Value.str.injEq, true_and, and_true] at hvalues
    exact ⟨hvalues.1.symm, hvalues.2.1.symm, hvalues.2.2.symm⟩
  · rintro ⟨hreference, hcreated, hmodified⟩
    exact congrArg Value.sorted (document_again h h' hreference hcreated hmodified)

/-- What the places have taken of the second import, where both have taken the first. -/
lemma took_again (h : EntriesRecorded codec es r)
    (hfirst : importRule tooling codec document reference createdAt modifiedAt = .ok first)
    (hagain : importRule tooling codec document reference' createdAt' modifiedAt' = .ok again)
    (hdigest : first.rule.active.bindingDigest codec = again.rule.active.bindingDigest codec →
      (first.rule.active.document codec).sorted = (again.rule.active.document codec).sorted)
    (hengine : EngineTook codec es first) (hstore : StoreTook codec es first) :
    (EngineTook codec es again ↔ reference' = reference ∧
      codec.dumpDatetime createdAt' = codec.dumpDatetime createdAt ∧
      codec.dumpDatetime modifiedAt' = codec.dumpDatetime modifiedAt) ∧
      (StoreTook codec es again ↔ reference' = reference) := by
  obtain ⟨root, parts, hpayload, hparts, hvalid, rfl⟩ := importRule_eq_ok hfirst
  obtain ⟨root', parts', hpayload', hparts', hvalid', rfl⟩ := importRule_eq_ok hagain
  obtain rfl := Yaml.map.inj (Except.ok.inj (hpayload.symm.trans hpayload'))
  rw [partsOf_again reference createdAt modifiedAt, hparts] at hparts'
  obtain rfl := Except.ok.inj hparts'
  obtain ⟨rfl, rfl, rfl⟩ := partsOf_told hparts
  simp only [active_rule] at hdigest
  rw [EngineTook, active_rule] at hengine
  rw [StoreTook, active_rule] at hstore
  rw [EngineTook, StoreTook, active_rule]
  constructor
  · rw [← documents_again hvalid hvalid']
    obtain ⟨e, he, version, plan, hrequested, hanswer, hkey, hbinding, hplan⟩ := hengine
    constructor
    · rintro ⟨e', he', version', plan', hrequested', hanswer', hkey', hbinding', -⟩
      have hrule := (h.taken e he version plan hrequested hanswer).rule
      have hrule' := (h.taken e' he' version' plan' hrequested' hanswer').rule
      rw [hkey', hbinding'] at hrule'
      rw [hkey, hbinding] at hrule
      exact hdigest (Option.some.inj (hrule.symm.trans hrule'))
    · intro hsame
      obtain ⟨hreference, hcreated, hmodified⟩ := (documents_again hvalid hvalid').mp hsame
      refine ⟨e, he, version, plan, hrequested, hanswer, hkey, hbinding.trans ?_, hplan⟩
      exact congrArg codec.contentDigest (document_again hvalid hvalid' hreference hcreated hmodified)
  · rw [← rowCompared_again codec hvalid hvalid']
    obtain ⟨e, he, version, hrequested, hanswer, hsame⟩ := hstore
    constructor
    · rintro ⟨e', he', version', hrequested', hanswer', hsame'⟩
      obtain ⟨row, hrow, hcompared⟩ := h.saved e he version hrequested hanswer
      obtain ⟨row', hrow', hcompared'⟩ := h.saved e' he' version' hrequested' hanswer'
      have hequal := sameRow_iff.mp hsame
      have hequal' := sameRow_iff.mp hsame'
      rw [rowCompared_key hequal] at hrow
      rw [rowCompared_key hequal'] at hrow'
      have hrows : row = row' := Option.some.inj (hrow.symm.trans hrow')
      rw [← hequal, ← hcompared, hrows, hcompared', hequal']
    · intro hsame'
      exact ⟨e, he, version, hrequested, hanswer, sameRow_iff.mpr ((sameRow_iff.mp hsame).trans hsame')⟩

/-- The engine and the store agree on a re-imported rule exactly if both have taken it before, or neither: the
engine with its dates, the store without. Where both have taken the first import, that is if the second one has
another source or the same dates. -/
theorem reimport_agrees_iff (hbindings : start.engine.ruleBindings = Table.empty)
    (hversions : start.versions = Table.empty) (h : History (Registration.exec codec) start es r)
    (hfirst : importRule tooling codec document reference createdAt modifiedAt = .ok first)
    (hagain : importRule tooling codec document reference' createdAt' modifiedAt' = .ok again)
    (hdigest : first.rule.active.bindingDigest codec = again.rule.active.bindingDigest codec →
      (first.rule.active.document codec).sorted = (again.rule.active.document codec).sorted) :
    (Agrees codec r again ↔ (EngineTook codec es again ↔ StoreTook codec es again)) ∧
      (EngineTook codec es first → StoreTook codec es first →
        (Agrees codec r again ↔ reference' ≠ reference ∨
          codec.dumpDatetime createdAt' = codec.dumpDatetime createdAt ∧
            codec.dumpDatetime modifiedAt' = codec.dumpDatetime modifiedAt)) := by
  have hrecorded := history_recorded hbindings hversions h
  have hagrees : Agrees codec r again ↔ (EngineTook codec es again ↔ StoreTook codec es again) := by
    rw [Agrees, engineReplays_iff hrecorded (importRule_registerable hagain), storeReplays_iff hrecorded]
  refine ⟨hagrees, fun hengine hstore => ?_⟩
  obtain ⟨htook, hsaved⟩ := took_again hrecorded hfirst hagain hdigest hengine hstore
  rw [hagrees, htook, hsaved]
  constructor
  · intro hiff
    by_cases hreference : reference' = reference
    · exact Or.inr (hiff.mpr hreference).2
    · exact Or.inl hreference
  · rintro (hreference | hdates)
    · exact iff_of_false (fun hboth => hreference hboth.1) hreference
    · exact and_iff_left hdates

end Twice

section Example

/-- The digests of one rule at two instants. -/
def datedDigests : Codec where
  contentDigest
    | .arr parts => sigmaDigests.contentDigest (.arr parts)
    | v =>
      if (v.member? "plan_id").isSome then "0e509a6a02c6a1c396b2b6c974ac1511eabd25eac15bf54205a348f8bdd2e407"
      else if v.member? "created_at" = some (.str "1970-01-01T00:00:00Z") then
        "2f456f8c118a765824194b28d2598fb0bc21bf57c3c4fc385518d4eef38cec1f"
      else if (v.member? "created_at").isSome then
        "cef218510f1159cce262ed2f8cbd51b682f7526a21d7d4244bbc3f005e6f8179"
      else "c2e9d56554ed2f12307d45b5a2aa47011b1c972c36e05b7a4457d713ca30dd4f"
  isoformat t := if t = 0 then "1970-01-01T00:00:00+00:00" else "1970-01-01T00:00:01+00:00"
  dumpDatetime t := if t = 0 then "1970-01-01T00:00:00Z" else "1970-01-01T00:00:01Z"

def importedAt (t : Datetime) : Except Raised ImportResult :=
  importRule sigmaTooling datedDigests (sigmaDocument "action") "sigma:inline" t t

lemma eq_ok_get {α : Type} {x : Except Raised α} (h : x.toOption.isSome = true) :
    x = .ok (x.toOption.get h) := by
  cases x with
  | ok a => rfl
  | error e => cases h

def firstImport : ImportResult := (importedAt 0).toOption.get (by decide +kernel)

/-- The same document, imported a second later. -/
def laterImport : ImportResult := (importedAt 1000000).toOption.get (by decide +kernel)

def noRules : RulePlaces := ⟨DetectionEngine.init ⟨SecurityEventPlane.empty, none⟩ none fun n => n, Table.empty⟩

def onceRegistered : List RuleEntry × RulePlaces :=
  History.ofCalls (Registration.exec datedDigests) noRules [⟨firstImport.rule, some firstImport.plan, none⟩]

instance (codec : Codec) (r : RulePlaces) (imported : ImportResult) : Decidable (Agrees codec r imported) :=
  decidable_of_iff ((_ ∧ _) ↔ (_ ∧ _)) Iff.rfl

theorem same_dates_agree : Agrees datedDigests onceRegistered.2 firstImport := by
  have himport : importedAt 0 = .ok firstImport := eq_ok_get _
  have hhistory : History (Registration.exec datedDigests) noRules onceRegistered.1 onceRegistered.2 :=
    History.ofCalls_history _
  have hiff := reimport_agrees_iff rfl rfl hhistory himport himport fun _ => rfl
  refine (hiff.2 ?_ ?_).mpr (Or.inr ⟨rfl, rfl⟩)
  · exact ⟨_, List.mem_cons_self, firstImport.rule.active, firstImport.plan, rfl, by decide +kernel, rfl, rfl,
      by decide +kernel⟩
  · exact ⟨_, List.mem_cons_self, firstImport.rule.active, rfl, by decide +kernel, by decide +kernel⟩

theorem later_import_disagrees : importedAt 0 = .ok firstImport ∧ importedAt 1000000 = .ok laterImport ∧
    History (Registration.exec datedDigests) noRules onceRegistered.1 onceRegistered.2 ∧
      ¬ Agrees datedDigests onceRegistered.2 laterImport :=
  ⟨eq_ok_get _, eq_ok_get _, History.ofCalls_history _, by decide +kernel⟩

end Example

end SecScanMonitor.Persistence
