import SecScanMonitor.Foundations.Runs
import SecScanMonitor.Persistence.DetectionOutputs
import SecScanMonitor.Persistence.WorkLease

/-! Registered rules stay bound to their digests and plans, and a store that holds only what engines
emit accepts whatever an engine emits. -/

namespace SecScanMonitor.Persistence

open Foundations Domain DetectionResponse ContinuousSecurity

section Same

lemma same_contents (c : RuleContent) : c.same c = true := by
  simp [RuleContent.same]

lemma same_contents_trans {a b c : RuleContent} (hab : a.same b = true) (hbc : b.same c = true) :
    a.same c = true := by
  simp only [RuleContent.same, Value.pyEq, Bool.and_eq_true, decide_eq_true_eq] at hab hbc ⊢
  obtain ⟨⟨⟨⟨⟨⟨⟨h₁, h₂⟩, h₃⟩, h₄⟩, h₅⟩, h₆⟩, h₇⟩, h₈⟩ := hab
  obtain ⟨⟨⟨⟨⟨⟨⟨k₁, k₂⟩, k₃⟩, k₄⟩, k₅⟩, k₆⟩, k₇⟩, k₈⟩ := hbc
  exact ⟨⟨⟨⟨⟨⟨⟨h₁.trans k₁, h₂.trans k₂⟩, h₃.trans k₃⟩, h₄.trans k₄⟩, h₅.trans k₅⟩, h₆.trans k₆⟩,
    h₇.trans k₇⟩, h₈.trans k₈⟩

lemma same_plans (p : DetectionPlan) : p.same p = true := by
  simp [DetectionPlan.same, same_contents]

lemma same_plans_trans {p q r : DetectionPlan} (hpq : p.same q = true) (hqr : q.same r = true) :
    p.same r = true := by
  simp only [DetectionPlan.same, Bool.and_eq_true, decide_eq_true_eq] at hpq hqr ⊢
  obtain ⟨⟨⟨h₁, h₂⟩, h₃⟩, h₄⟩ := hpq
  obtain ⟨⟨⟨k₁, k₂⟩, k₃⟩, k₄⟩ := hqr
  exact ⟨⟨⟨h₁.trans k₁, h₂.trans k₂⟩, h₃.trans k₃⟩, same_contents_trans h₄ k₄⟩

lemma same_plans_id {p q : DetectionPlan} (h : p.same q = true) : p.planId = q.planId := by
  simp only [DetectionPlan.same, Bool.and_eq_true, decide_eq_true_eq] at h
  exact h.1.1.1

lemma same_rows (r : DetectionRuleVersionRow) : r.same r = true := by
  simp [DetectionRuleVersionRow.same, same_contents]

end Same

variable {codec : Codec} {render : Value → String} {s : Scope} {db db' : Database}

/-- The row of a live rule: its digest is its own, and the plan of its version is stored. -/
structure Bound (codec : Codec) (plans : Table DetectionPlan.planId) (row : DetectionRuleVersionRow) :
    Prop where
  active : row.rule.status = .active
  matching : row.rule.ruleType = .eventMatch
  digest : row.canonicalDigest = canonicalRuleDigest codec row.rule
  planned : ∃ p ∈ plans, p.planId = (row.rule.plan codec).planId ∧
    p.same (row.rule.plan codec) = true

section Register

def Blank (db : Database) : Prop :=
  db.securityEvents.rows = [] ∧ db.detectionWorkItems.rows = [] ∧ db.detectionRuns.rows = [] ∧
    db.detectionEvaluations.rows = [] ∧ db.detectionSignals.rows = []

def Unregistered (db : Database) : Prop :=
  Blank db ∧ db.detectionRuleVersions.rows = [] ∧ db.detectionPlans.rows = []

/-- An EVENT_MATCH rule is registered. -/
def RegisterStep (codec : Codec) (db db' : Database) : Prop :=
  ∃ rule plan p, rule.active.ruleType = .eventMatch ∧ registerRule codec rule plan db = .ok (p, db')

/-- The database of a deployment whose rules are registered and which has seen no event yet. -/
def Registered (codec : Codec) (db : Database) : Prop :=
  Reachable Unregistered (RegisterStep codec) db

lemma Bound.mono {plans plans' : Table DetectionPlan.planId} {row : DetectionRuleVersionRow}
    (h : Bound codec plans row) (hext : plans'.Extends plans) : Bound codec plans' row := by
  obtain ⟨p, hp, hid, hsame⟩ := h.planned
  exact ⟨h.active, h.matching, h.digest, p, hext p hp, hid, hsame⟩

lemma savePlan_mem {plan : DetectionPlan} {plans plans' : Table DetectionPlan.planId}
    (h : savePlan plan plans = .ok plans') :
    ∃ p ∈ plans', p.planId = plan.planId ∧ p.same plan = true := by
  rcases insertOrReplay_eq_ok h with ⟨x, hx, hid, hsame, rfl⟩ | ⟨-, hrows, -⟩
  · exact ⟨x, hx, hid, hsame⟩
  · refine ⟨plan, ?_, rfl, same_plans plan⟩
    rw [Table.mem_def, hrows]
    exact List.mem_cons_self

lemma registerRule_bound {rule : DetectionRule} {plan : Option DetectionPlan} {p : DetectionPlan}
    (htype : rule.active.ruleType = .eventMatch) (h : registerRule codec rule plan db = .ok (p, db'))
    (hdb : ∀ row ∈ db.detectionRuleVersions, Bound codec db.detectionPlans row) :
    ∀ row ∈ db'.detectionRuleVersions, Bound codec db'.detectionPlans row := by
  obtain ⟨howned, h⟩ := raiseIf_bind_eq_ok.mp h
  obtain ⟨hplan, h⟩ := raiseIf_bind_eq_ok.mp h
  obtain ⟨versions, hversions, h⟩ := bind_eq_ok.mp h
  obtain ⟨plans, hplans, h⟩ := bind_eq_ok.mp h
  obtain ⟨-, rfl⟩ := Prod.mk.inj (Except.ok.inj h)
  simp only [not_or, not_not] at howned
  rw [Bool.not_eq_false] at hplan
  have hext : plans.Extends db.detectionPlans := insertOrReplay_extends hplans
  intro row hrow
  rcases insertOrReplay_eq_ok hversions with ⟨-, -, -, -, rfl⟩ | ⟨-, hrows, -⟩
  · exact (hdb row hrow).mono hext
  · simp only [Table.mem_def, hrows, List.mem_cons] at hrow
    rcases hrow with rfl | hrow
    · obtain ⟨x, hx, hid, hsame⟩ := savePlan_mem hplans
      exact ⟨howned.1, htype, rfl, x, hx, hid.trans (same_plans_id hplan),
        same_plans_trans hsame hplan⟩
    · exact (hdb row hrow).mono hext

lemma registerRule_blank {rule : DetectionRule} {plan : Option DetectionPlan} {p : DetectionPlan}
    (h : registerRule codec rule plan db = .ok (p, db')) (hdb : Blank db) : Blank db' := by
  obtain ⟨-, h⟩ := raiseIf_bind_eq_ok.mp h
  obtain ⟨-, h⟩ := raiseIf_bind_eq_ok.mp h
  obtain ⟨versions, -, h⟩ := bind_eq_ok.mp h
  obtain ⟨plans, -, h⟩ := bind_eq_ok.mp h
  obtain ⟨-, rfl⟩ := Prod.mk.inj (Except.ok.inj h)
  exact hdb

lemma registered_inductive : Inductive Unregistered (RegisterStep codec) fun db =>
    Blank db ∧ ∀ row ∈ db.detectionRuleVersions, Bound codec db.detectionPlans row where
  start db h := by
    refine ⟨h.1, fun row hrow => ?_⟩
    rw [Table.mem_def, h.2.1] at hrow
    cases hrow
  next db db' hdb := by
    rintro ⟨rule, plan, p, htype, h⟩
    exact ⟨registerRule_blank h hdb.1, registerRule_bound htype h hdb.2⟩

end Register

section Active

lemma checkRow_eq_ok {row : DetectionRuleVersionRow} {r : DetectionRule × DetectionPlan}
    (h : checkRow codec row = .ok r) : ∃ howner, r = (liveRule row.rule howner, row.rule.plan codec) := by
  unfold checkRow at h
  split at h
  · rename_i howner
    split at h
    · cases h
    · exact ⟨howner, (Except.ok.inj h).symm⟩
  · cases h

lemma checkRow_ids {row : DetectionRuleVersionRow} {r : DetectionRule × DetectionPlan}
    (h : checkRow codec row = .ok r) : r.1.ruleId = row.rule.ruleId := by
  obtain ⟨howner, rfl⟩ := checkRow_eq_ok h
  rfl

/-- The rows that are checked are the active ones. -/
lemma mem_activeRows {row : DetectionRuleVersionRow} :
    row ∈ (db.detectionRuleVersions.select fun r => r.rule.status = .active).insertionSort versionBefore ↔
      row ∈ db.detectionRuleVersions ∧ row.rule.status = .active := by
  rw [List.mem_insertionSort, Table.mem_select, decide_eq_true_eq]

lemma activeRules_eq_ok {all : List (DetectionRule × DetectionPlan)}
    (h : activeRules codec db = .ok all) :
    (∀ r ∈ all, ∃ row ∈ db.detectionRuleVersions, ∃ howner, r = (liveRule row.rule howner,
      row.rule.plan codec)) ∧
    ∀ row ∈ db.detectionRuleVersions, row.rule.status = .active →
      ∃ r ∈ all, r.1.active = row.rule := by
  obtain ⟨rules, hrules, h⟩ := bind_eq_ok.mp h
  obtain ⟨-, h⟩ := raiseIf_bind_eq_ok.mp h
  obtain rfl := Except.ok.inj h
  obtain ⟨hforth, hback⟩ := mapM_eq_ok hrules
  constructor
  · intro r hr
    obtain ⟨row, hrow, hcheck⟩ := hback r hr
    exact ⟨row, (mem_activeRows.mp hrow).1, checkRow_eq_ok hcheck⟩
  · intro row hrow hactive
    obtain ⟨r, hr, hcheck⟩ := hforth row (mem_activeRows.mpr ⟨hrow, hactive⟩)
    obtain ⟨howner, rfl⟩ := checkRow_eq_ok hcheck
    exact ⟨_, hr, liveRule_active row.rule howner⟩

lemma activeRules_single {all : List (DetectionRule × DetectionPlan)}
    (h : activeRules codec db = .ok all) {a b : DetectionRuleVersionRow}
    (ha : a ∈ db.detectionRuleVersions) (hb : b ∈ db.detectionRuleVersions)
    (hactive : a.rule.status = .active) (hactive' : b.rule.status = .active)
    (hid : a.rule.ruleId = b.rule.ruleId) : a = b := by
  obtain ⟨rules, hrules, h⟩ := bind_eq_ok.mp h
  obtain ⟨hnodup, -⟩ := raiseIf_bind_eq_ok.mp h
  have hids := mapM_map_eq (g := fun r => r.1.ruleId) (k := fun row => row.rule.ruleId) hrules
    fun _ _ => checkRow_ids
  rw [not_not, hids] at hnodup
  exact List.inj_on_of_nodup_map hnodup (mem_activeRows.mpr ⟨ha, hactive⟩)
    (mem_activeRows.mpr ⟨hb, hactive'⟩) hid

end Active

def rulesOf (db : Database) : List DetectionRuleVersion := db.detectionRuleVersions.rows.map (·.rule)

lemma mem_rulesOf {row : DetectionRuleVersionRow} (h : row ∈ db.detectionRuleVersions) :
    row.rule ∈ rulesOf db := List.mem_map_of_mem h

variable {rules : List DetectionRuleVersion} {history history' : History}

/-- What is stored of the engines' outputs has the form of an engine's output. -/
structure Stored (codec : Codec) (render : Value → String) (s : Scope)
    (rules : List DetectionRuleVersion) (history : History) (db : Database) : Prop where
  runs : ∀ x ∈ db.detectionRuns, IsRun codec render s rules history x
  evaluations : ∀ x ∈ db.detectionEvaluations, IsEvaluation codec render s rules history x
  signals : ∀ x ∈ db.detectionSignals, IsSignal codec render s rules history x

lemma Stored.mono (h : Stored codec render s rules history db)
    (hle : ∀ a, history a → history' a) : Stored codec render s rules history' db :=
  ⟨fun x hx => (h.runs x hx).mono hle, fun x hx => (h.evaluations x hx).mono hle,
    fun x hx => (h.signals x hx).mono hle⟩

section Persist

variable (hfree : CollisionFree codec render s rules history) (hnamed : Named rules history)

include hfree hnamed

lemma coherent_runs :
    Coherent DetectionRun.runId sameRun (fun _ _ => false) (IsRun codec render s rules history) where
  same _ _ hx hy h := decide_eq_true (hx.unique hfree hnamed hy h)
  clash _ _ _ _ h := by cases h

lemma coherent_evaluations :
    Coherent DetectionEvaluation.evaluationId sameEvaluation
      (fun a b => a.idempotencyKey = b.idempotencyKey)
      (IsEvaluation codec render s rules history) where
  same _ _ hx hy h := decide_eq_true (hx.unique hfree hnamed hy h)
  clash _ _ hx hy h := hx.idempotency hfree hnamed hy (of_decide_eq_true h)

lemma coherent_signals :
    Coherent DetectionSignal.signalId sameSignal (fun a b => a.signalId = b.signalId)
      (IsSignal codec render s rules history) where
  same _ _ hx hy h := decide_eq_true (hx.unique hfree hnamed hy h)
  clash _ _ _ _ h := of_decide_eq_true h

/-- The outputs of an engine are accepted, and they change nothing but the tables of outputs. -/
lemma persist_accepts (hstored : Stored codec render s rules history db)
    {row : DetectionRuleVersionRow} (hrow : row ∈ db.detectionRuleVersions)
    (hbound : Bound codec db.detectionPlans row) (howner : row.rule.owner = "SecScanMonitor")
    (hscope : validateEngagementScope db s = .ok ()) {run : DetectionRun}
    (hrun : IsRun codec render s rules history run) (hin : run.scope = s)
    {evaluations : List DetectionEvaluation}
    (hevaluations : ∀ x ∈ evaluations, IsEvaluation codec render s rules history x ∧
      x.runId = run.runId ∧ x.scope = s)
    {signals : List DetectionSignal}
    (hsignals : ∀ x ∈ signals, IsSignal codec render s rules history x ∧ x.scope = s) :
    ∃ runs rows sent, persistDetectionOutputs codec (liveRule row.rule howner)
        (row.rule.plan codec) run evaluations signals db = .ok ((),
          { db with detectionRuns := runs, detectionEvaluations := rows, detectionSignals := sent }) ∧
      (∀ x ∈ runs, IsRun codec render s rules history x) ∧
      (∀ x ∈ rows, IsEvaluation codec render s rules history x) ∧
      (∀ x ∈ sent, IsSignal codec render s rules history x) ∧
      ∀ x ∈ signals, ∃ y ∈ sent, y.signalId = x.signalId := by
  obtain ⟨runs, hruns, hallRuns, -⟩ : ∃ t, saveRun run db.detectionRuns = .ok t ∧
      (∀ x ∈ t, IsRun codec render s rules history x) ∧ ∃ x ∈ t, x.runId = run.runId :=
    insertOrReplay_coherent (coherent_runs hfree hnamed) hstored.runs hrun
  obtain ⟨rows, hrows, hallRows, -⟩ : ∃ t,
      saveEach saveEvaluation evaluations db.detectionEvaluations = .ok t ∧
      (∀ x ∈ t, IsEvaluation codec render s rules history x) ∧
      ∀ e ∈ evaluations, ∃ x ∈ t, x.evaluationId = e.evaluationId :=
    saveEach_coherent (coherent_evaluations hfree hnamed) hstored.evaluations
      fun x hx => (hevaluations x hx).1
  obtain ⟨sent, hsent, hallSent, hlisted⟩ : ∃ t,
      saveEach saveSignal signals db.detectionSignals = .ok t ∧
      (∀ x ∈ t, IsSignal codec render s rules history x) ∧
      ∀ e ∈ signals, ∃ x ∈ t, x.signalId = e.signalId :=
    saveEach_coherent (coherent_signals hfree hnamed) hstored.signals fun x hx => (hsignals x hx).1
  refine ⟨runs, rows, sent, ?_, hallRuns, hallRows, hallSent, hlisted⟩
  -- the rule and its plan are stored already, so their saves are replays
  have hversion : saveRuleVersion codec (liveRule row.rule howner).active db.detectionRuleVersions =
      .ok db.detectionRuleVersions := by
    have hof : DetectionRuleVersionRow.of codec row.rule = row := by
      rw [DetectionRuleVersionRow.of, ← hbound.digest]
    rw [liveRule_active, saveRuleVersion, hof, insertOrReplay, Table.get?_of_mem hrow]
    exact if_pos (same_rows row)
  have hplan : savePlan (row.rule.plan codec) db.detectionPlans = .ok db.detectionPlans := by
    obtain ⟨p, hp, hid, hsame⟩ := hbound.planned
    rw [savePlan, insertOrReplay, ← hid, Table.get?_of_mem hp]
    exact if_pos hsame
  refine raiseIf_bind_eq_ok.mpr ⟨?_, raiseIf_bind_eq_ok.mpr ⟨?_, raiseIf_bind_eq_ok.mpr ⟨?_,
    raiseIf_bind_eq_ok.mpr ⟨?_, ?_⟩⟩⟩⟩
  · rw [liveRule_active]
    simp only [liveRule, howner, hbound.active, ne_eq, not_true_eq_false, or_self, not_false_eq_true]
  · rw [liveRule_active, same_plans]
    exact fun h => by cases h
  · simp only [List.any_eq_true, not_exists, not_and]
    intro x hx hdiffers
    obtain ⟨-, hid, hscope⟩ := hevaluations x hx
    simp [hid, hscope, hin] at hdiffers
  · simp only [List.any_eq_true, not_exists, not_and]
    intro x hx hdiffers
    simp [(hsignals x hx).2, hin] at hdiffers
  · rw [hin, hscope, hversion, hplan, hruns, hrows, hsent]
    rfl

end Persist

/-- What a transaction may do to the tables of events, rules and outputs: rows are added to them. -/
structure Appends (db db' : Database) : Prop where
  events : db.securityEvents.rows <:+ db'.securityEvents.rows
  versions : db'.detectionRuleVersions.Extends db.detectionRuleVersions
  runs : db'.detectionRuns.Extends db.detectionRuns
  evaluations : db'.detectionEvaluations.Extends db.detectionEvaluations
  signals : db'.detectionSignals.Extends db.detectionSignals

lemma Appends.refl (db : Database) : Appends db db :=
  ⟨List.suffix_refl _, .refl _, .refl _, .refl _, .refl _⟩

lemma Appends.trans {db₁ db₂ db₃ : Database} (h : Appends db₁ db₂) (h' : Appends db₂ db₃) :
    Appends db₁ db₃ :=
  ⟨h.events.trans h'.events, h'.versions.trans h.versions, h'.runs.trans h.runs,
    h'.evaluations.trans h.evaluations, h'.signals.trans h.signals⟩

lemma persist_appends {rule : DetectionRule} {plan : DetectionPlan} {run : DetectionRun}
    {evaluations : List DetectionEvaluation} {signals : List DetectionSignal}
    (h : persistDetectionOutputs codec rule plan run evaluations signals db = .ok ((), db')) :
    Appends db db' := by
  obtain ⟨-, h⟩ := raiseIf_bind_eq_ok.mp h
  obtain ⟨-, h⟩ := raiseIf_bind_eq_ok.mp h
  obtain ⟨-, h⟩ := raiseIf_bind_eq_ok.mp h
  obtain ⟨-, h⟩ := raiseIf_bind_eq_ok.mp h
  obtain ⟨-, -, h⟩ := bind_eq_ok.mp h
  obtain ⟨versions, hversions, h⟩ := bind_eq_ok.mp h
  obtain ⟨plans, -, h⟩ := bind_eq_ok.mp h
  obtain ⟨runs, hruns, h⟩ := bind_eq_ok.mp h
  obtain ⟨rows, hrows, h⟩ := bind_eq_ok.mp h
  obtain ⟨sent, hsent, h⟩ := bind_eq_ok.mp h
  obtain ⟨-, rfl⟩ := Prod.mk.inj (Except.ok.inj h)
  refine ⟨List.suffix_refl _, insertOrReplay_extends hversions, insertOrReplay_extends hruns, ?_, ?_⟩
  · exact saveEach_extends (fun _ _ _ => insertOrReplay_extends) hrows
  · exact saveEach_extends (fun _ _ _ => insertOrReplay_extends) hsent

lemma exec_appends {call : WorkCall} {rows : List DetectionWorkItemRow}
    (h : call.exec codec db = .ok (rows, db')) : Appends db db' := by
  have hsuffix := (exec_transition h).events
  obtain ⟨⟨events, work, rfl⟩, -⟩ := exec_frame h
  exact ⟨hsuffix, .refl _, .refl _, .refl _, .refl _⟩

end SecScanMonitor.Persistence
