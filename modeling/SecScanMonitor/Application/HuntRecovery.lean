import SecScanMonitor.Application.DispatchBatch
import SecScanMonitor.Persistence.HuntProtocol
import SecScanMonitor.Persistence.RuleRegistry
import SecScanMonitor.Persistence.SignalRead

/-! Hunts that no worker holds any more are claimed and executed again (`recover_pending_hunts` and
`_execute_claimed_hunt` of `application/live_incident_control_plane.py`). -/

namespace SecScanMonitor.Application

open Foundations Domain DetectionResponse ContinuousSecurity Persistence

/-- `bind_signal` -/
def bindSignal (signal : DetectionSignal) (engine : DetectionEngine) :
    Except Raised DetectionEngine := do
  engine.requireScope signal.scope
  raiseIf ((engine.signals.find? signal.signalId).any fun s => decide (s ≠ signal))
    .detectionInputError "canonical signal identity was reused for different content"
  return { engine with signals := engine.signals.set signal.signalId signal }

def bindSignals (known : List String) :
    List DetectionSignal → DetectionEngine → Except Raised DetectionEngine
  | [], engine => .ok engine
  | signal :: signals, engine => do
    raiseIf (¬ signal.eventIds ⊆ known) .permissionError
      "canonical signal references an unknown event"
    let engine ← bindSignal signal engine
    bindSignals known signals engine

/-- The instants that are read while one plan is claimed, hunted and saved. -/
structure HuntInstants where
  claimed : Datetime
  engine : ℕ → Datetime
  started : Datetime
  completed : Datetime
  saved : Datetime

/-- `load_hunt_request`; the hypothesis is read in the scope of its plan. -/
def loadHuntRequest (planId : String) (db : Database) :
    Except Raised (Option (HuntHypothesis × HuntPlan)) :=
  match db.huntPlans.get? planId with
  | none => .ok none
  | some row => do
    let hypothesis ← orRaise (db.huntHypotheses.get? row.plan.hypothesisId) .detectionInputError
      "hunt plan is missing its canonical hypothesis"
    return some ({ hypothesis with scope := row.plan.scope }, row.plan)

def HuntPlanRow.recoverable (now : Datetime) (row : HuntPlanRow) : Bool :=
  row.status = .pending ||
    (row.status = .claimed && row.leaseUntil.all fun t => decide (t ≤ now))

def plannedBefore (a b : HuntPlanRow) : Prop :=
  a.createdAt < b.createdAt ∨ a.createdAt = b.createdAt ∧ a.plan.planId ≤ b.plan.planId

instance : DecidableRel plannedBefore := fun a b => by
  unfold plannedBefore
  infer_instance

/-- `pending_hunt_plans` -/
def pendingHuntPlans (now : Datetime) (db : Database) : List String :=
  ((db.huntPlans.select (HuntPlanRow.recoverable now)).insertionSort plannedBefore).map
    (·.plan.planId)

section Recover

variable (codec : Codec) (render : Value → String) (dump : SecurityEvent → Value)
  (decode : Value → Option SecurityEvent)

/-- `_engine` -/
def canonicalEngine (scope : Scope) (clock : ℕ → Datetime) (db : Database) :
    Except Raised DetectionEngine := do
  let events := loadEvents scope db
  let engine ← rebuild codec scope events clock
  let signals ← loadSignals codec decode scope (db.detectionTables codec dump) []
  bindSignals (events.map (·.eventId)) signals engine

def huntPlanned (t : HuntInstants) (planId : String) (db : Database) :
    Except Raised (HuntExecution × HuntResult) := do
  let request ← loadHuntRequest planId db
  let (hypothesis, plan) ← orRaise request .keyError "hunt plan not found"
  let detector ← canonicalEngine codec dump decode plan.scope t.engine db
  (ThreatHuntEngine.hunt codec render hypothesis plan t.started t.completed
    (ThreatHuntEngine.init detector)).1

variable (t : HuntInstants) (workerId planId : String)

/-- `_execute_claimed_hunt` -/
def executeClaimedHunt : Effect Database HuntResult := fun db =>
  match huntPlanned codec render dump decode t planId db with
  | .error e => (.error e, db)
  | .ok (execution, result) =>
    match saveHunt t.saved execution result (some workerId) db with
    | .error e => (.error e, db)
    | .ok ((), db) => (.ok result, db)

/-- One round of the loop, without a result where another worker holds the plan. -/
def recoverPlan : Effect Database (Option HuntResult) := fun db =>
  match claimHunt t.claimed planId workerId 120 db with
  | .error e => (.error e, db)
  | .ok (false, db) => (.ok none, db)
  | .ok (true, db) =>
    match executeClaimedHunt codec render dump decode t workerId planId db with
    | (.error e, db) => (.error e, db)
    | (.ok result, db) => (.ok (some result), db)

/-- `recover_pending_hunts` -/
def recoverPendingHunts (now : Datetime) (t : String → HuntInstants) (workerId : String) :
    Effect Database (List HuntResult) := fun db =>
  match Batch.runEach (fun planId => recoverPlan codec render dump decode (t planId) workerId planId)
      (pendingHuntPlans now db) db with
  | (.error e, db) => (.error e, db)
  | (.ok results, db) => (.ok (results.filterMap id), db)

end Recover

section Plans

/-- The plan is not completed. -/
def Open (planId : String) (db : Database) : Prop :=
  ∃ row ∈ db.huntPlans, row.plan.planId = planId ∧ row.status ≠ .completed

/-- The plan is completed and an execution of it is stored. -/
def Saved (planId : String) (db : Database) : Prop :=
  (∃ row ∈ db.huntPlans, row.plan.planId = planId ∧ row.status = .completed) ∧
    ∃ x ∈ db.huntExecutions, x.execution.planId = planId

/-- The other plans are the same, and every execution is kept. -/
structure SamePlans (planId : String) (db db' : Database) : Prop where
  plans : ∀ row, row.plan.planId ≠ planId → (row ∈ db'.huntPlans ↔ row ∈ db.huntPlans)
  executions : db'.huntExecutions.Extends db.huntExecutions

variable {planId other : String} {db db' : Database}

lemma Saved.not_open (h : Saved planId db) : ¬ Open planId db := by
  obtain ⟨⟨row, hrow, hid, hdone⟩, -⟩ := h
  rintro ⟨row', hrow', hid', hopen⟩
  obtain rfl := Table.eq_of_key_eq hrow hrow' (hid.trans hid'.symm)
  exact hopen hdone

lemma SamePlans.refl : SamePlans planId db db := ⟨fun _ _ => Iff.rfl, .refl _⟩

lemma SamePlans.trans {db'' : Database} (h : SamePlans planId db db') (h' : SamePlans planId db' db'') :
    SamePlans planId db db'' :=
  ⟨fun row hne => (h'.plans row hne).trans (h.plans row hne), h'.executions.trans h.executions⟩

lemma SamePlans.get? (h : SamePlans planId db db') (hne : other ≠ planId) :
    db'.huntPlans.get? other = db.huntPlans.get? other := by
  apply Option.ext
  intro row
  rw [Table.get?_eq_some_iff, Table.get?_eq_some_iff]
  constructor
  · rintro ⟨hrow, rfl⟩
    exact ⟨(h.plans row hne).mp hrow, rfl⟩
  · rintro ⟨hrow, rfl⟩
    exact ⟨(h.plans row hne).mpr hrow, rfl⟩

lemma Open.others (hopen : Open other db) (h : SamePlans planId db db') (hne : other ≠ planId) :
    Open other db' := by
  obtain ⟨row, hrow, rfl, hstatus⟩ := hopen
  exact ⟨row, (h.plans row hne).mpr hrow, rfl, hstatus⟩

lemma Saved.others (hsaved : Saved other db) (h : SamePlans planId db db') (hne : other ≠ planId) :
    Saved other db' := by
  obtain ⟨⟨row, hrow, rfl, hstatus⟩, x, hx, hplan⟩ := hsaved
  exact ⟨⟨row, (h.plans row hne).mpr hrow, rfl, hstatus⟩, x, h.executions x hx, hplan⟩

lemma pendingHuntPlans_nodup (now : Datetime) : (pendingHuntPlans now db).Nodup := by
  have hids : ((db.huntPlans.select (HuntPlanRow.recoverable now)).map (·.plan.planId)).Nodup :=
    db.huntPlans.nodup.sublist (List.filter_sublist.map _)
  exact ((List.perm_insertionSort plannedBefore _).map (·.plan.planId)).nodup_iff.mpr hids

lemma pending_open {now : Datetime} (h : planId ∈ pendingHuntPlans now db) : Open planId db := by
  obtain ⟨row, hrow, rfl⟩ := List.mem_map.mp h
  obtain ⟨hmem, hpending⟩ := Table.mem_select.mp ((List.mem_insertionSort plannedBefore).mp hrow)
  refine ⟨row, hmem, rfl, fun hdone => ?_⟩
  simp [HuntPlanRow.recoverable, hdone] at hpending

end Plans

section Calls

variable {db db' : Database} {now : Datetime} {planId workerId : String} {seconds : Int}

lemma claimHunt_frame {claimed : Bool}
    (h : claimHunt now planId workerId seconds db = .ok (claimed, db')) :
    SamePlans planId db db' ∧ (Open planId db → Open planId db') := by
  rw [claimHunt] at h
  split at h
  · cases h
  cases hrow : db.huntPlans.get? planId with
  | none =>
    rw [hrow] at h
    cases h
  | some row =>
    obtain ⟨hmem, hid⟩ := Table.get?_eq_some_iff.mp hrow
    simp only [hrow] at h
    split at h
    · obtain ⟨-, rfl⟩ := Prod.mk.inj (Except.ok.inj h)
      exact ⟨.refl, id⟩
    split at h
    · obtain ⟨-, rfl⟩ := Prod.mk.inj (Except.ok.inj h)
      exact ⟨.refl, id⟩
    · obtain ⟨-, rfl⟩ := Prod.mk.inj (Except.ok.inj h)
      have hkept := HuntPlanRow.planId_claim now workerId seconds
      subst hid
      refine ⟨⟨fun _ hne => Table.mem_modify_of_ne hkept hne, .refl _⟩, fun _ => ?_⟩
      refine ⟨row.claim now workerId seconds, Table.modified_mem hkept hmem, rfl, fun hcompleted => ?_⟩
      cases hcompleted

/-- Whether a plan can be claimed is up to its row. -/
lemma claimHunt_answer (h : db'.huntPlans.get? planId = db.huntPlans.get? planId) :
    (claimHunt now planId workerId seconds db').map Prod.fst =
      (claimHunt now planId workerId seconds db).map Prod.fst := by
  rw [claimHunt, claimHunt, h]
  split
  · rfl
  cases db.huntPlans.get? planId with
  | none => rfl
  | some row =>
    simp only
    split
    · rfl
    split
    · rfl
    · rfl

lemma saveHuntExecution_mem {execution : HuntExecution} {result : HuntResult}
    {executions executions' : HuntExecutions}
    (h : saveHuntExecution execution result executions = .ok executions') :
    ∃ x ∈ executions', x.execution.planId = execution.planId := by
  obtain ⟨-, h⟩ := raiseIf_bind_eq_ok.mp h
  obtain ⟨-, h⟩ := raiseIf_bind_eq_ok.mp h
  cases hstored : executions.get? execution.executionId with
  | none =>
    rw [hstored] at h
    exact ⟨_, (Table.mem_insert (unique_eq_ok.mp h)).mpr (Or.inl rfl), rfl⟩
  | some x =>
    rw [hstored] at h
    obtain ⟨-, h⟩ := raiseIf_bind_eq_ok.mp h
    obtain ⟨hsame, h⟩ := raiseIf_bind_eq_ok.mp h
    obtain rfl := Except.ok.inj h
    simp only [not_or, not_not] at hsame
    exact ⟨x, (Table.get?_eq_some_iff.mp hstored).1, hsame.1⟩

lemma saveHunt_saves {execution : HuntExecution} {result : HuntResult} {worker : Option String}
    (h : saveHunt now execution result worker db = .ok ((), db')) :
    SamePlans execution.planId db db' ∧ Saved execution.planId db' := by
  obtain ⟨row, hadmission, h⟩ := bind_eq_ok.mp h
  obtain ⟨executions, hsave, h⟩ := bind_eq_ok.mp h
  obtain ⟨-, rfl⟩ := Prod.mk.inj (Except.ok.inj h)
  obtain ⟨hmem, hid, -, -⟩ := admitHunt_eq_ok hadmission
  have hkept := HuntPlanRow.planId_complete now
  have hcomplete : row.complete now ∈
      db.huntPlans.modify execution.planId (fun r => r.complete now) hkept := by
    rw [← hid]
    exact Table.modified_mem hkept hmem
  refine ⟨⟨fun _ hne => Table.mem_modify_of_ne hkept hne, ?_⟩,
    ⟨row.complete now, hcomplete, hid, rfl⟩, saveHuntExecution_mem hsave⟩
  rcases saveHuntExecution_eq_ok hsave with rfl | ⟨hrows, -⟩
  · exact Table.Extends.refl _
  · intro x hx
    rw [Table.mem_def, hrows]
    exact List.mem_cons_of_mem _ hx

end Calls

section Hunt

open ThreatHuntEngine

variable {codec : Codec} {render : Value → String} {h : HuntHypothesis} {p : HuntPlan}
  {engine : ThreatHuntEngine} {started completed : Datetime}

lemma bindHypothesis_executions : (bindHypothesis codec h engine).2.executions = engine.executions := by
  rw [bindHypothesis]
  split
  · rfl
  · rfl

lemma bindPlan_executions : (bindPlan codec p engine).2.executions = engine.executions := by
  simp only [bindPlan]
  split
  · rfl
  · rfl

lemma begin_executions : (begin codec h p engine).2.executions = engine.executions := by
  have hbind := @bindHypothesis_executions codec h engine
  rw [begin]
  cases engine.checkScope h p with
  | error e => rfl
  | ok u =>
    simp only
    rcases hbound : bindHypothesis codec h engine with ⟨e | u, engine'⟩
    · rw [hbound] at hbind
      exact hbind
    · rw [hbound] at hbind
      exact bindPlan_executions.trans hbind

/-- Every execution of the engine is of the plan. -/
def HuntsOnly (p : HuntPlan) (engine : ThreatHuntEngine) : Prop :=
  ∀ id x, engine.executions.find? id = some x → x.planId = p.planId

lemma record_huntsOnly {f : HuntFindings} (hengine : HuntsOnly p engine) :
    HuntsOnly p (record codec h p f started completed engine).2 := by
  simp only [record]
  split
  · split
    · exact hengine
    · exact hengine
  · intro id x hx
    simp only [Dict.find?_set] at hx
    split at hx
    · rw [← Option.some.inj hx]
      rfl
    · exact hengine id x hx
  · exact hengine

lemma run_huntsOnly (hengine : HuntsOnly p engine) :
    HuntsOnly p (run codec render h p started completed engine).2 := by
  have hbegin : HuntsOnly p (begin codec h p engine).2 := by
    rw [HuntsOnly, begin_executions]
    exact hengine
  rw [run]
  rcases hbegun : begin codec h p engine with ⟨e | u, engine'⟩
  · rw [hbegun] at hbegin
    exact hbegin
  · rw [hbegun] at hbegin
    simp only
    cases search render h p engine'.detections with
    | error e => exact hbegin
    | ok f => exact record_huntsOnly hbegin

/-- What a new engine hunts is an execution of the plan. -/
lemma hunt_planId {detections : DetectionEngine} {execution : HuntExecution} {result : HuntResult}
    (hhunt : (hunt codec render h p started completed (init detections)).1 = .ok (execution, result)) :
    execution.planId = p.planId := by
  have honly := @run_huntsOnly codec render h p (init detections) started completed
    fun _ _ hx => by cases hx
  rw [hunt] at hhunt
  rcases hrun : run codec render h p started completed (init detections) with ⟨e | r, engine⟩
  · rw [hrun] at hhunt
    cases hhunt
  · rw [hrun] at hhunt honly
    simp only at hhunt honly
    cases hexecution : engine.execution r.resultId p.scope with
    | error e =>
      rw [hexecution] at hhunt
      cases hhunt
    | ok x =>
      rw [hexecution] at hhunt
      obtain ⟨rfl, rfl⟩ := Prod.mk.inj (Except.ok.inj hhunt)
      obtain ⟨-, hfound⟩ := raiseIf_bind_eq_ok.mp hexecution
      obtain ⟨r', -, hfound⟩ := orRaise_bind_eq_ok.mp hfound
      exact honly _ _ (orRaise_eq_ok.mp hfound)

end Hunt

section Round

variable {codec : Codec} {render : Value → String} {dump : SecurityEvent → Value}
  {decode : Value → Option SecurityEvent} {t : HuntInstants} {workerId planId : String}
  {db db' : Database}

lemma huntPlanned_planId {execution : HuntExecution} {result : HuntResult}
    (h : huntPlanned codec render dump decode t planId db = .ok (execution, result)) :
    execution.planId = planId := by
  obtain ⟨request, hrequest, h⟩ := bind_eq_ok.mp h
  obtain ⟨⟨hypothesis, plan⟩, hsome, h⟩ := orRaise_bind_eq_ok.mp h
  obtain ⟨detector, -, h⟩ := bind_eq_ok.mp h
  rw [hunt_planId h]
  rw [loadHuntRequest] at hrequest
  cases hrow : db.huntPlans.get? planId with
  | none =>
    rw [hrow] at hrequest
    rw [← Except.ok.inj hrequest] at hsome
    cases hsome
  | some row =>
    rw [hrow] at hrequest
    obtain ⟨hypothesis', -, hloaded⟩ := orRaise_bind_eq_ok.mp hrequest
    rw [← Except.ok.inj hloaded] at hsome
    obtain ⟨-, rfl⟩ := Prod.mk.inj (Option.some.inj hsome)
    exact (Table.get?_eq_some_iff.mp hrow).2

/-- An execution raises and changes nothing, or it is saved. -/
lemma executeClaimedHunt_cases :
    (∃ e, executeClaimedHunt codec render dump decode t workerId planId db = (.error e, db)) ∨
    ∃ result db', executeClaimedHunt codec render dump decode t workerId planId db =
        (.ok result, db') ∧ SamePlans planId db db' ∧ Saved planId db' := by
  rw [executeClaimedHunt]
  cases hfound : huntPlanned codec render dump decode t planId db with
  | error e => exact Or.inl ⟨e, rfl⟩
  | ok found =>
    obtain ⟨execution, result⟩ := found
    simp only
    cases hsave : saveHunt t.saved execution result (some workerId) db with
    | error e => exact Or.inl ⟨e, rfl⟩
    | ok saved =>
      obtain ⟨⟨⟩, db'⟩ := saved
      obtain ⟨hsame, hsaved⟩ := saveHunt_saves hsave
      rw [huntPlanned_planId hfound] at hsame hsaved
      exact Or.inr ⟨result, db', rfl, hsame, hsaved⟩

/-- What one round can do: it raises and leaves the plan open, it passes the plan over, or the plan is saved. -/
lemma recoverPlan_cases :
    (∃ e db', recoverPlan codec render dump decode t workerId planId db = (.error e, db') ∧
      SamePlans planId db db' ∧ (Open planId db → Open planId db')) ∨
    (∃ db', recoverPlan codec render dump decode t workerId planId db = (.ok none, db') ∧
      (claimHunt t.claimed planId workerId 120 db).map Prod.fst = .ok false ∧
      SamePlans planId db db') ∨
    ∃ result db', recoverPlan codec render dump decode t workerId planId db = (.ok (some result), db') ∧
      (claimHunt t.claimed planId workerId 120 db).map Prod.fst = .ok true ∧
      SamePlans planId db db' ∧ Saved planId db' := by
  rw [recoverPlan]
  cases hclaim : claimHunt t.claimed planId workerId 120 db with
  | error e => exact Or.inl ⟨e, db, rfl, .refl, id⟩
  | ok claimed =>
    obtain ⟨claimed, db₁⟩ := claimed
    obtain ⟨hsame, hopen⟩ := claimHunt_frame hclaim
    cases claimed with
    | false => exact Or.inr (Or.inl ⟨db₁, rfl, rfl, hsame⟩)
    | true =>
      rcases @executeClaimedHunt_cases codec render dump decode t workerId planId db₁ with
        ⟨e, he⟩ | ⟨result, db₂, hresult, hsame', hsaved⟩
      · simp only [he]
        exact Or.inl ⟨e, db₁, rfl, hsame, hopen⟩
      · simp only [hresult]
        exact Or.inr (Or.inr ⟨result, db₂, rfl, rfl, hsame.trans hsame', hsaved⟩)

lemma recoverPlan_same :
    SamePlans planId db (recoverPlan codec render dump decode t workerId planId db).2 := by
  rcases @recoverPlan_cases codec render dump decode t workerId planId db with
    ⟨e, db', hround, hsame, -⟩ | ⟨db', hround, -, hsame⟩ | ⟨result, db', hround, -, hsame, -⟩
  all_goals
    rw [hround]
    exact hsame

lemma recoverPlan_open {e : Raised} (hopen : Open planId db)
    (he : (recoverPlan codec render dump decode t workerId planId db).1 = .error e) :
    Open planId (recoverPlan codec render dump decode t workerId planId db).2 := by
  rcases @recoverPlan_cases codec render dump decode t workerId planId db with
    ⟨e', db', hround, -, hkept⟩ | ⟨db', hround, -⟩ | ⟨result, db', hround, -⟩
  · rw [hround]
    exact hkept hopen
  · rw [hround] at he
    cases he
  · rw [hround] at he
    cases he

/-- A plan that has a result is saved wherever its row is the same and its round does not raise. -/
lemma recoverPlan_saves {result : HuntResult} {answer : Option HuntResult}
    (halone : (recoverPlan codec render dump decode t workerId planId db).1 = .ok (some result))
    (hrow : db'.huntPlans.get? planId = db.huntPlans.get? planId)
    (hanswer : (recoverPlan codec render dump decode t workerId planId db').1 = .ok answer) :
    Saved planId (recoverPlan codec render dump decode t workerId planId db').2 := by
  have hsame := @claimHunt_answer _ _ t.claimed planId workerId 120 hrow
  rcases @recoverPlan_cases codec render dump decode t workerId planId db with
    ⟨e, db₁, hround, -⟩ | ⟨db₁, hround, -⟩ | ⟨result', db₁, hround, hclaimed, -⟩
  · rw [hround] at halone
    cases halone
  · rw [hround] at halone
    cases halone
  rcases @recoverPlan_cases codec render dump decode t workerId planId db' with
    ⟨e, db₂, hround', -⟩ | ⟨db₂, hround', hpassed, -⟩ | ⟨result'', db₂, hround', -, -, hsaved⟩
  · rw [hround'] at hanswer
    cases hanswer
  · rw [hpassed, hclaimed] at hsame
    cases hsame
  · rw [hround']
    exact hsaved

end Round

section Recovery

variable (codec : Codec) (render : Value → String) (dump : SecurityEvent → Value)
  (decode : Value → Option SecurityEvent) (t : String → HuntInstants) (workerId : String)

/-- Processed on its own, the plan has a result. -/
def SucceedsAlone (planId : String) (db : Database) : Prop :=
  ∃ result, (recoverPlan codec render dump decode (t planId) workerId planId db).1 = .ok (some result)

/-- Every plan that succeeds alone is saved exactly where none of them is the first plan that raises, or comes
after it. -/
theorem recovery_saves (now : Datetime) (db : Database) :
    (∀ planId ∈ pendingHuntPlans now db, SucceedsAlone codec render dump decode t workerId planId db →
      Saved planId (recoverPendingHunts codec render dump decode now t workerId db).2) ↔
    ∀ before bad rest, Batch.FailsAt
      (fun planId => recoverPlan codec render dump decode (t planId) workerId planId)
      (pendingHuntPlans now db) db before bad rest →
      ∀ planId ∈ bad :: rest, ¬ SucceedsAlone codec render dump decode t workerId planId db := by
  let step := fun planId => recoverPlan codec render dump decode (t planId) workerId planId
  have hstate : (recoverPendingHunts codec render dump decode now t workerId db).2 =
      (Batch.runEach step (pendingHuntPlans now db) db).2 := by
    rw [recoverPendingHunts]
    rcases Batch.runEach step (pendingHuntPlans now db) db with ⟨e | results, db'⟩
    · rfl
    · rfl
  have hids : ((pendingHuntPlans now db).map id).Nodup := by
    rw [List.map_id]
    exact pendingHuntPlans_nodup now
  rw [hstate]
  constructor
  · intro hall before bad rest hfails planId hmem halone
    have hmember : planId ∈ pendingHuntPlans now db :=
      hfails.split ▸ List.mem_append_right before hmem
    refine (hall planId hmember halone).not_open ?_
    rcases List.mem_cons.mp hmem with rfl | hrest
    · -- the plan that raises stays open
      have hne := Batch.apart hids hfails.split
      obtain ⟨e, he⟩ := hfails.fails
      rw [hfails.state]
      refine recoverPlan_open ?_ he
      exact Batch.runEach_preserves (fun b hb _ hs => hs.others recoverPlan_same (hne b (Or.inl hb)))
        (pending_open hmember)
    · have hne := hfails.apart hids hrest
      exact hfails.kept (pending_open hmember) fun b hb _ hs => hs.others recoverPlan_same (hne b hb)
  · intro hcondition planId hmem halone
    rcases Batch.reached_or_missed step db hmem with
      ⟨before, rest, hsplit, hran⟩ | ⟨before, bad, rest, hfails, hmissed⟩
    · have hne := Batch.apart hids hsplit
      have hrow : (Batch.runEach step before db).2.huntPlans.get? planId = db.huntPlans.get? planId :=
        Batch.runEach_preserves (p := fun other : Database => other.huntPlans.get? planId = db.huntPlans.get? planId)
          (fun b hb _ hs => (recoverPlan_same.get? (hne b (Or.inl hb))).trans hs) rfl
      refine Batch.settled hsplit hran ?_ fun b hb _ hs =>
        hs.others recoverPlan_same (hne b (Or.inr hb))
      cases hround : (step planId (Batch.runEach step before db).2).1 with
      | error e =>
        exact absurd halone
          (hcondition before planId rest ⟨hsplit, hran, e, hround⟩ planId List.mem_cons_self)
      | ok answer =>
        obtain ⟨result, hresult⟩ := halone
        exact recoverPlan_saves hresult hrow hround
    · exact absurd halone (hcondition before bad rest hfails planId (List.mem_cons_of_mem _ hmissed))

/-- Both workers isolate the failures of single items exactly where no exception cuts the batch short of an item that
still counts: of any claimed item, and of any plan that would have had a result. -/
theorem failures_isolated (db : Database) :
    (∀ (now : Datetime) (instants : String → DispatchInstants) (args : ClaimArgs)
      (claimed : List DetectionWorkItemRow) (db' : Database),
      claimWork now args db = .ok (claimed, db') →
      (∀ workId, (instants workId).failed < now.addSeconds args.leaseSeconds) →
      ((∀ work ∈ claimed,
          Settled work.workId (dispatchPending codec render now instants args db).2) ↔
        ∀ before bad rest, Batch.FailsAt
          (fun work => processClaimed codec render (instants work.workId) work) claimed db'
          before bad rest → rest = [])) ∧
    ∀ now : Datetime,
      (∀ planId ∈ pendingHuntPlans now db, SucceedsAlone codec render dump decode t workerId planId db →
        Saved planId (recoverPendingHunts codec render dump decode now t workerId db).2) ↔
      ∀ before bad rest, Batch.FailsAt
        (fun planId => recoverPlan codec render dump decode (t planId) workerId planId)
        (pendingHuntPlans now db) db before bad rest →
        ∀ planId ∈ bad :: rest, ¬ SucceedsAlone codec render dump decode t workerId planId db :=
  ⟨fun _ _ _ _ _ hclaim hlease => dispatch_settles hclaim hlease,
    fun now => recovery_saves codec render dump decode t workerId now db⟩

end Recovery

section Example

def pendingItem (workId eventId : String) : DetectionWorkItemRow where
  workId
  eventId
  scope := toolScope
  eventFingerprint := "f1"
  status := .pending
  attempts := 0
  leaseUntil := none
  workerId := none
  runIds := []
  signalIds := []
  lastError := none
  createdAt := 0
  updatedAt := 0
  completedAt := none

/-- Two items wait while a rule has two active versions. -/
def ambiguous : Database :=
  { registering [firstVersion, secondVersion] with
    detectionWorkItems := ⟨[pendingItem "DWI-1" "SE-1", pendingItem "DWI-2" "SE-2"], by decide⟩ }

/-- The event part of its query is no mapping, so that every hunt of it raises. -/
def brokenPlan : HuntPlan :=
  { huntPlan with planId := "HP-0", query := [("event", .str "invoke")], nonblank := by decide }

/-- A plan that cannot be hunted waits before one that can. -/
def obstructed : Database :=
  { huntDatabase with
    huntHypotheses := ⟨[huntHypothesis], by decide⟩
    huntPlans := ⟨[HuntPlanRow.of huntPlan 0, HuntPlanRow.of brokenPlan 0], by decide⟩ }

def atOnce (_ : String) : HuntInstants := ⟨0, fun n => n, 0, 0, 0⟩

def workedAtOnce (_ : String) : DispatchInstants := ⟨fun n => n, 0, 0⟩

def undecoded (_ : Value) : Option SecurityEvent := none

theorem batches_cut_short :
    (∃ claimed db', claimWork 0 { workerId := "worker-a" } ambiguous = .ok (claimed, db') ∧
      ¬ ∀ work ∈ claimed, Settled work.workId
        (dispatchPending ruleDigests toolText 0 workedAtOnce { workerId := "worker-a" } ambiguous).2) ∧
    ¬ ∀ planId ∈ pendingHuntPlans 0 obstructed,
      SucceedsAlone huntDigests toolText (fun _ => .null) undecoded atOnce "worker-a" planId obstructed →
        Saved planId (recoverPendingHunts huntDigests toolText (fun _ => .null) undecoded 0 atOnce
          "worker-a" obstructed).2 := by
  constructor
  · have hclaims : (claimWork 0 { workerId := "worker-a" } ambiguous).isOk = true := by
      decide +kernel
    obtain ⟨claimed, hclaim⟩ := exists_eq_ok ambiguous _ hclaims
    refine ⟨claimed, _, hclaim, fun hall => ?_⟩
    have hids : claimed.map (·.workId) = ["DWI-1", "DWI-2"] := by
      have hmapped : ((claimWork 0 { workerId := "worker-a" } ambiguous).map fun r =>
          r.1.map (·.workId)) = .ok ["DWI-1", "DWI-2"] := by
        decide +kernel
      rw [hclaim] at hmapped
      exact Except.ok.inj hmapped
    have hsecond : "DWI-2" ∈ claimed.map (·.workId) := by
      rw [hids]
      decide
    obtain ⟨work, hwork, hid⟩ := List.mem_map.mp hsecond
    have hleft : ∀ w ∈ (dispatchPending ruleDigests toolText 0 workedAtOnce { workerId := "worker-a" }
        ambiguous).2.detectionWorkItems.rows, w.workId = "DWI-2" → w.status = .claimed := by
      decide +kernel
    obtain ⟨w, hw, hworkId, hstatus⟩ := hall work hwork
    rw [hleft w hw (hworkId.trans hid)] at hstatus
    rcases hstatus with hstatus | hstatus
    · cases hstatus
    · cases hstatus
  · intro hall
    have halone : SucceedsAlone huntDigests toolText (fun _ => .null) undecoded atOnce "worker-a" "HP-1"
        obstructed := by
      have hresult : ((recoverPlan huntDigests toolText (fun _ => .null) undecoded (atOnce "HP-1")
          "worker-a" "HP-1" obstructed).1.map Option.isSome) = .ok true := by
        decide +kernel
      cases hround : (recoverPlan huntDigests toolText (fun _ => .null) undecoded (atOnce "HP-1")
          "worker-a" "HP-1" obstructed).1 with
      | error e =>
        rw [hround] at hresult
        cases hresult
      | ok answer =>
        rw [hround] at hresult
        obtain ⟨result, rfl⟩ := Option.isSome_iff_exists.mp (Except.ok.inj hresult)
        exact ⟨result, hround⟩
    have hopen : Open "HP-1" (recoverPendingHunts huntDigests toolText (fun _ => .null) undecoded 0 atOnce
        "worker-a" obstructed).2 :=
      ⟨HuntPlanRow.of huntPlan 0, by rw [Table.mem_def]; decide +kernel, rfl, nofun⟩
    exact (hall "HP-1" (by decide +kernel) halone).not_open hopen

theorem ambiguous_isolated :
    ∃ claimed db', claimWork 0 { workerId := "worker-a" } ambiguous = .ok (claimed, db') ∧
      ((∀ work ∈ claimed, Settled work.workId
          (dispatchPending ruleDigests toolText 0 workedAtOnce { workerId := "worker-a" } ambiguous).2) ↔
        ∀ before bad rest, Batch.FailsAt
          (fun work => processClaimed ruleDigests toolText (workedAtOnce work.workId) work) claimed db'
          before bad rest → rest = []) := by
  have hclaims : (claimWork 0 { workerId := "worker-a" } ambiguous).isOk = true := by
    decide +kernel
  obtain ⟨claimed, hclaim⟩ := exists_eq_ok ambiguous _ hclaims
  have hlease : ∀ workId, (workedAtOnce workId).failed < Datetime.addSeconds 0 120 :=
    fun _ => show (0 : Datetime) < Datetime.addSeconds 0 120 by decide
  exact ⟨claimed, _, hclaim, (failures_isolated ruleDigests toolText (fun _ => .null) undecoded atOnce
    "worker-a" ambiguous).1 0 workedAtOnce _ claimed _ hclaim hlease⟩

end Example

end SecScanMonitor.Application
