import SecScanMonitor.Foundations.History
import SecScanMonitor.Persistence.Hunts
import SecScanMonitor.Persistence.WorkLease
import SecScanMonitor.Persistence.DetectionOutputs
import SecScanMonitor.DetectionResponse.RunHistory

/-! What holds of hunt plans and hunt executions over whole runs: who writes an execution, and what a
completed plan keeps. A completed plan can be claimed again and its hunt saved again. -/

namespace SecScanMonitor.Persistence

open Foundations Domain DetectionResponse ContinuousSecurity

namespace HuntPlanRow

def lease (row : HuntPlanRow) : Lease String Datetime Unit :=
  match row.status with
  | .pending => .free
  | .claimed =>
    match row.workerId, row.leaseUntil with
    | some worker, some expiry => .held worker expiry
    | _, _ => .free
  | .completed => .done ()

lemma planId_claim (now : Datetime) (workerId : String) (leaseSeconds : Int) (row : HuntPlanRow) :
    (row.claim now workerId leaseSeconds).plan.planId = row.plan.planId := rfl

lemma planId_complete (now : Datetime) (row : HuntPlanRow) :
    (row.complete now).plan.planId = row.plan.planId := rfl

variable {row : HuntPlanRow} {now : Datetime} {workerId : Option String}

/-- Who may complete a plan: its worker under an unexpired lease, no worker in particular when nobody
claimed it, and anyone when it is completed. -/
lemma licence_of_checkHuntLease (h : checkHuntLease now row workerId = .ok ()) :
    (∃ worker, workerId = some worker ∧ row.lease.HeldBy now worker) ∨
      (row.status = .pending ∧ workerId = none) ∨ row.status = .completed := by
  rw [checkHuntLease] at h
  cases hstatus : row.status with
  | pending =>
    rw [hstatus] at h
    exact Or.inr (Or.inl ⟨rfl, not_not.mp (raiseIf_eq_ok.mp h)⟩)
  | claimed =>
    rw [hstatus] at h
    have hheld := raiseIf_eq_ok.mp h
    simp only [not_or, not_not, Bool.not_eq_false] at hheld
    obtain ⟨hsome, hworker, hleased⟩ := hheld
    obtain ⟨worker, rfl⟩ := Option.ne_none_iff_exists'.mp hsome
    obtain ⟨expiry, hexpiry, hlt⟩ := (Option.any_eq_true ..).mp hleased
    refine Or.inl ⟨worker, rfl, expiry, ?_, of_decide_eq_true hlt⟩
    simp [lease, hstatus, hworker, hexpiry]
  | completed => exact Or.inr (Or.inr rfl)

end HuntPlanRow

variable {codec : Codec} {secretLike : Value → Bool} {db db' : Database} {now : Datetime}

inductive PlanChange (now : Datetime) (call : HuntCall) (row : HuntPlanRow) : HuntPlanRow → Prop
  | kept : PlanChange now call row row
  | claimed {workerId : String} {leaseSeconds : Int} :
      call = .claim row.plan.planId workerId leaseSeconds → row.status ≠ .completed →
      PlanChange now call row (row.claim now workerId leaseSeconds)
  | completed {execution : HuntExecution} {result : HuntResult} {workerId : Option String} :
      call = .save execution result workerId → execution.planId = row.plan.planId →
      PlanChange now call row (row.complete now)

lemma PlanChange.plan {call : HuntCall} {row row' : HuntPlanRow} (h : PlanChange now call row row') :
    row'.plan = row.plan := by
  cases h <;> rfl

lemma PlanChange.final {call : HuntCall} {row row' : HuntPlanRow} (h : PlanChange now call row row')
    (hrow : row.status = .completed) : row'.status = .completed := by
  cases h with
  | kept => exact hrow
  | claimed _ hopen => exact absurd hrow hopen
  | completed => rfl

/-- The row that a call wrote, and the plan that it completed. -/
structure HuntWritten (now : Datetime) (call : HuntCall) (db db' : Database) (x : HuntExecutionRow)
    (row : HuntPlanRow) (workerId : Option String) : Prop where
  call : call = .save x.execution x.result workerId
  hypothesis : x.hypothesisId = x.result.hypothesisId
  plan : row ∈ db.huntPlans ∧ row.plan.planId = x.execution.planId ∧
    row.plan.scope = x.execution.scope
  lease : checkHuntLease now row workerId = .ok ()
  completed : row.complete now ∈ db'.huntPlans
  fresh : ∀ y ∈ db.huntExecutions, y.execution.executionId ≠ x.execution.executionId ∧
    y.execution.resultId ≠ x.execution.resultId

/-- Everything a call can do to plans and executions. -/
structure HuntStep (now : Datetime) (call : HuntCall) (db db' : Database) : Prop where
  plans : ∀ row ∈ db.huntPlans, ∃ row' ∈ db'.huntPlans, PlanChange now call row row'
  executions : db'.huntExecutions.Extends db.huntExecutions
  written : ∀ x ∈ db'.huntExecutions, x ∈ db.huntExecutions ∨
    ∃ row workerId, HuntWritten now call db db' x row workerId

lemma HuntStep.refl {call : HuntCall} : HuntStep now call db db where
  plans row hrow := ⟨row, hrow, .kept⟩
  executions := Table.Extends.refl _
  written _ hx := Or.inl hx

section Calls

lemma ingest_huntStep {event : SecurityEvent} {r : DetectionWorkItemRow × Bool × Bool}
    (h : ingestEvent codec now event db = .ok (r, db')) : HuntStep now (.ingest event) db db' := by
  obtain ⟨-, -, h⟩ := bind_eq_ok.mp h
  obtain ⟨⟨events, fresh⟩, -, h⟩ := bind_eq_ok.mp h
  obtain ⟨⟨work, item, created⟩, -, h⟩ := bind_eq_ok.mp h
  obtain ⟨-, rfl⟩ := Prod.mk.inj (Except.ok.inj h)
  exact ⟨fun row hrow => ⟨row, hrow, .kept⟩, Table.Extends.refl _, fun _ hx => Or.inl hx⟩

lemma saveHuntRequest_huntStep {hypothesis : HuntHypothesis} {plan : HuntPlan}
    (h : saveHuntRequest codec secretLike hypothesis plan db = .ok ((), db')) :
    HuntStep now (.request hypothesis plan) db db' := by
  obtain ⟨-, h⟩ := raiseIf_bind_eq_ok.mp h
  obtain ⟨-, h⟩ := raiseIf_bind_eq_ok.mp h
  obtain ⟨-, -, h⟩ := bind_eq_ok.mp h
  obtain ⟨hypotheses, -, h⟩ := bind_eq_ok.mp h
  obtain ⟨plans, hplans, h⟩ := bind_eq_ok.mp h
  obtain ⟨-, rfl⟩ := Prod.mk.inj (Except.ok.inj h)
  exact ⟨fun row hrow => ⟨row, insertOrReplay_extends hplans row hrow, .kept⟩,
    Table.Extends.refl _, fun _ hx => Or.inl hx⟩

lemma claimHunt_huntStep {planId workerId : String} {leaseSeconds : Int} {claimed : Bool}
    (h : claimHunt now planId workerId leaseSeconds db = .ok (claimed, db')) :
    HuntStep now (.claim planId workerId leaseSeconds) db db' := by
  rw [claimHunt] at h
  split at h
  · cases h
  split at h
  · cases h
  rename_i row hrow
  obtain ⟨hmem, rfl⟩ := Table.get?_eq_some_iff.mp hrow
  split at h
  · obtain ⟨-, rfl⟩ := Prod.mk.inj (Except.ok.inj h)
    exact .refl
  rename_i hopen
  split at h
  · obtain ⟨-, rfl⟩ := Prod.mk.inj (Except.ok.inj h)
    exact .refl
  obtain ⟨-, rfl⟩ := Prod.mk.inj (Except.ok.inj h)
  refine ⟨?_, Table.Extends.refl _, fun _ hx => Or.inl hx⟩
  intro row' hrow'
  by_cases hid : row'.plan.planId = row.plan.planId
  · obtain rfl := Table.eq_of_key_eq hrow' hmem hid
    exact ⟨_, Table.modified_mem (HuntPlanRow.planId_claim now workerId leaseSeconds) hrow',
      .claimed rfl hopen⟩
  · exact ⟨row', Table.kept_mem (HuntPlanRow.planId_claim now workerId leaseSeconds) hrow' hid, .kept⟩

lemma saveHuntExecution_eq_ok {execution : HuntExecution} {result : HuntResult}
    {executions executions' : HuntExecutions}
    (h : saveHuntExecution execution result executions = .ok executions') :
    executions' = executions ∨
      executions'.rows = ⟨execution, result.hypothesisId, result⟩ :: executions.rows ∧
        ∀ y ∈ executions, y.execution.executionId ≠ execution.executionId ∧
          y.execution.resultId ≠ execution.resultId := by
  obtain ⟨-, h⟩ := raiseIf_bind_eq_ok.mp h
  obtain ⟨-, h⟩ := raiseIf_bind_eq_ok.mp h
  split at h
  · obtain ⟨-, h⟩ := raiseIf_bind_eq_ok.mp h
    obtain ⟨-, h⟩ := raiseIf_bind_eq_ok.mp h
    exact Or.inl (Except.ok.inj h).symm
  · obtain ⟨hrows, hnone, hclash⟩ := Table.insert?_eq_some (unique_eq_ok.mp h)
    refine Or.inr ⟨hrows, fun y hy => ⟨Table.get?_eq_none_iff.mp hnone y hy, ?_⟩⟩
    exact of_decide_eq_false (hclash y hy)

lemma admitHunt_eq_ok {execution : HuntExecution} {workerId : Option String} {row : HuntPlanRow}
    (h : admitHunt now execution workerId db = .ok row) :
    row ∈ db.huntPlans ∧ row.plan.planId = execution.planId ∧ row.plan.scope = execution.scope ∧
      checkHuntLease now row workerId = .ok () := by
  obtain ⟨row', hrow, h⟩ := orRaise_bind_eq_ok.mp h
  obtain ⟨hscope, h⟩ := raiseIf_bind_eq_ok.mp h
  obtain ⟨u, hlease, h⟩ := bind_eq_ok.mp h
  obtain rfl := Except.ok.inj h
  obtain ⟨hmem, hid⟩ := Table.get?_eq_some_iff.mp hrow
  exact ⟨hmem, hid, not_not.mp hscope, hlease⟩

lemma saveHunt_huntStep {execution : HuntExecution} {result : HuntResult} {workerId : Option String}
    (h : saveHunt now execution result workerId db = .ok ((), db')) :
    HuntStep now (.save execution result workerId) db db' := by
  obtain ⟨row, hadmission, h⟩ := bind_eq_ok.mp h
  obtain ⟨executions, hsave, h⟩ := bind_eq_ok.mp h
  obtain ⟨-, rfl⟩ := Prod.mk.inj (Except.ok.inj h)
  obtain ⟨hmem, hid, hscope, hlease⟩ := admitHunt_eq_ok hadmission
  have hcomplete : row.complete now ∈
      db.huntPlans.modify execution.planId (fun r => r.complete now) (fun _ => rfl) := by
    rw [← hid]
    exact Table.modified_mem (HuntPlanRow.planId_complete now) hmem
  refine ⟨?_, ?_, ?_⟩
  · intro row' hrow'
    by_cases hid' : row'.plan.planId = execution.planId
    · obtain rfl := Table.eq_of_key_eq hrow' hmem (hid'.trans hid.symm)
      exact ⟨_, hcomplete, .completed rfl hid'.symm⟩
    · exact ⟨row', Table.kept_mem (HuntPlanRow.planId_complete now) hrow' hid', .kept⟩
  · rcases saveHuntExecution_eq_ok hsave with rfl | ⟨hrows, -⟩
    · exact Table.Extends.refl _
    · intro x hx
      rw [Table.mem_def, hrows]
      exact List.mem_cons_of_mem _ hx
  · intro x hx
    rcases saveHuntExecution_eq_ok hsave with rfl | ⟨hrows, hfresh⟩
    · exact Or.inl hx
    rw [Table.mem_def, hrows] at hx
    rcases List.mem_cons.mp hx with rfl | hold
    · exact Or.inr ⟨row, workerId, rfl, rfl, ⟨hmem, hid, hscope⟩, hlease, hcomplete, hfresh⟩
    · exact Or.inl hold

lemma committed_huntStep {α : Type} {call : HuntCall} {r : Except Raised (α × Database)}
    (h : ∀ a db', r = .ok (a, db') → HuntStep now call db db') :
    HuntStep now call db (committed db r) := by
  cases r with
  | error e => exact .refl
  | ok r => exact h r.1 r.2 rfl

lemma exec_huntStep (codec : Codec) (secretLike : Value → Bool) (c : Datetime × HuntCall)
    (db : Database) : HuntStep c.1 c.2 db (HuntCall.exec codec secretLike c db).2 := by
  obtain ⟨now, call⟩ := c
  cases call with
  | ingest event => exact committed_huntStep fun _ _ => ingest_huntStep
  | request hypothesis plan => exact committed_huntStep fun _ _ => saveHuntRequest_huntStep
  | claim planId workerId leaseSeconds => exact committed_huntStep fun _ _ => claimHunt_huntStep
  | save execution result workerId => exact committed_huntStep fun _ _ => saveHunt_huntStep

end Calls

/-- Every stored execution is of a plan that is completed. -/
def HuntsCompleted (db : Database) : Prop :=
  ∀ x ∈ db.huntExecutions, ∃ row ∈ db.huntPlans,
    row.plan.planId = x.execution.planId ∧ row.status = .completed

lemma HuntsCompleted.step {call : HuntCall} (hdb : HuntsCompleted db)
    (h : HuntStep now call db db') : HuntsCompleted db' := by
  intro x hx
  rcases h.written x hx with hold | ⟨row, workerId, hwritten⟩
  · obtain ⟨row, hrow, hid, hdone⟩ := hdb x hold
    obtain ⟨row', hrow', hchange⟩ := h.plans row hrow
    refine ⟨row', hrow', ?_, hchange.final hdone⟩
    rw [hchange.plan, hid]
  · exact ⟨row.complete now, hwritten.completed, hwritten.plan.2.1, rfl⟩

abbrev HuntEntry := Entry (Datetime × HuntCall) Database (Except Raised Bool)

/-- What a run has made of the plans and of the executions. -/
structure HuntLedger (codec : Codec) (secretLike : Value → Bool) (es : List HuntEntry)
    (db : Database) : Prop where
  written : ∀ e ∈ es, ∀ x ∈ (HuntCall.exec codec secretLike e.call e.before).2.huntExecutions,
    x ∉ e.before.huntExecutions → ∃ row workerId,
      e.call.2 = .save x.execution x.result workerId ∧
      row ∈ e.before.huntPlans ∧ row.plan.planId = x.execution.planId ∧
      ((∃ worker, workerId = some worker ∧ row.lease.HeldBy e.call.1 worker) ∨
        (row.status = .pending ∧ workerId = none) ∨ row.status = .completed) ∧
      (row.status ≠ .completed → ∀ y ∈ e.before.huntExecutions,
        y.execution.planId ≠ x.execution.planId)
  completed : HuntsCompleted db
  final : ∀ e ∈ es, ∀ row ∈ e.before.huntPlans, row.status = .completed →
    ∃ row' ∈ db.huntPlans, row'.plan = row.plan ∧ row'.status = .completed
  kept : ∀ e ∈ es, db.huntExecutions.Extends e.before.huntExecutions

section Runs

variable {start : Database} {es : List HuntEntry}

lemma history_completed (hstart : start.huntExecutions = Table.empty)
    (h : History (HuntCall.exec codec secretLike) start es db) : HuntsCompleted db := by
  apply h.invariant (p := HuntsCompleted)
  · intro call s hs
    exact hs.step (exec_huntStep codec secretLike call s)
  · intro x hx
    rw [hstart] at hx
    cases hx

lemma history_final (h : History (HuntCall.exec codec secretLike) start es db) {row : HuntPlanRow}
    (hrow : row ∈ start.huntPlans) (hdone : row.status = .completed) :
    ∃ row' ∈ db.huntPlans, row'.plan = row.plan ∧ row'.status = .completed := by
  apply h.invariant (p := fun s => ∃ row' ∈ s.huntPlans, row'.plan = row.plan ∧
    row'.status = .completed)
  · rintro call s ⟨row₁, hrow₁, hplan, hdone₁⟩
    obtain ⟨row₂, hrow₂, hchange⟩ := (exec_huntStep codec secretLike call s).plans row₁ hrow₁
    exact ⟨row₂, hrow₂, hchange.plan.trans hplan, hchange.final hdone₁⟩
  · exact ⟨row, hrow, rfl, hdone⟩

lemma history_kept (h : History (HuntCall.exec codec secretLike) start es db) :
    db.huntExecutions.Extends start.huntExecutions := by
  apply h.invariant (p := fun s => s.huntExecutions.Extends start.huntExecutions)
  · intro call s hs
    exact (exec_huntStep codec secretLike call s).executions.trans hs
  · exact Table.Extends.refl _

theorem huntLedger (hstart : start.huntExecutions = Table.empty)
    (h : History (HuntCall.exec codec secretLike) start es db) :
    HuntLedger codec secretLike es db := by
  refine ⟨?_, history_completed hstart h, ?_, ?_⟩
  · intro e he x hx hnew
    obtain ⟨earlier, hearlier, -⟩ := h.split he
    rcases (exec_huntStep codec secretLike e.call e.before).written x hx with hold | ⟨row, workerId, hwritten⟩
    · exact absurd hold hnew
    obtain ⟨hrow, hid, -⟩ := hwritten.plan
    refine ⟨row, workerId, hwritten.call, hrow, hid,
      HuntPlanRow.licence_of_checkHuntLease hwritten.lease, ?_⟩
    intro hopen y hy hsame
    obtain ⟨row', hrow', hid', hdone⟩ := history_completed hstart hearlier y hy
    obtain rfl := Table.eq_of_key_eq hrow' hrow ((hid'.trans hsame).trans hid.symm)
    exact hopen hdone
  · intro e he row hrow hdone
    obtain ⟨-, -, later, hlater⟩ := h.split he
    obtain ⟨row', hrow', hchange⟩ :=
      (exec_huntStep codec secretLike e.call e.before).plans row hrow
    obtain ⟨row₂, hrow₂, hplan, hdone₂⟩ := history_final hlater hrow' (hchange.final hdone)
    exact ⟨row₂, hrow₂, hplan.trans hchange.plan, hdone₂⟩
  · intro e he
    obtain ⟨-, -, later, hlater⟩ := h.split he
    exact (history_kept hlater).trans (exec_huntStep codec secretLike e.call e.before).executions

end Runs

section Example

lemma huntHypothesis_nonblank : isBlank "HH-1" = false ∧ isBlank "was a tool invoked?" = false := by decide

def huntHypothesis : HuntHypothesis where
  hypothesisId := "HH-1"
  scope := toolScope
  question := "was a tool invoked?"
  entityKeys := ["svc"]
  supportingSignalIds := []
  requiredEvidenceRefs := []
  createdAt := 0
  nonblank := huntHypothesis_nonblank

lemma huntPlan_nonblank : ["HP-1", "HH-1", "one match"].all (fun s => !isBlank s) = true := by decide

lemma huntPlan_bounded : 1 ≤ 500 ∧ 500 ≤ 5000 := by decide

def huntPlan : HuntPlan where
  planId := "HP-1"
  hypothesisId := "HH-1"
  scope := toolScope
  windowStart := 0
  windowEnd := 0
  query := [("action", .str "invoke")]
  exitCriteria := "one match"
  maxEvents := 500
  nonblank := huntPlan_nonblank
  window := toolEvent.ordered
  bounded := huntPlan_bounded

/-- The digests of the documents that arise from the plan and the event. -/
def huntDigests : Codec where
  contentDigest
    | .arr [.str id] =>
      if id = "HUNT-EXEC-947ef84bfb735ee9a07c450a55e4ac06" then
        "4bdc3b5e60dc22f5a3ff3f7bd4435969d6e3556e0eb139d31a0aa8c539da1c30"
      else "d55b42a3e340a4bb3f62eec98e45e09aa0c90c55c2833ec02cfb6f6421335c0a"
    | .arr [_, _, _] => "1534be8a039f940cdf6c36b09d8cbd051f39415eeb20bd66d8a040f791964461"
    | .arr [_, _, _, .arr [], _] =>
      "1414b4efef5ea1a259932e817282d64eebd5d8725778bfb494dca614696073bc"
    | .arr [_, _, _, .arr _, _] =>
      "6e61c0810e8748dd19741c7db6e306703d3c4d4523346288734d318b70d0e4af"
    | .arr [_, _, _, _, .arr [], _] =>
      "947ef84bfb735ee9a07c450a55e4ac06516e8fc47893c87fea5cb6736f9e1dd0"
    | .arr _ => "a7c2998b8996493c57c548a60d6405777bb673464eb03e111d4b64fe33ee7086"
    | .obj [_] => "dcedc80898be7a2a9bbc8f26cbf64511876b137495c795e42c24418718e24fce"
    | .obj [_, _, _, _] => "2e7d656e26cd336166fa1155f0ee57d0f3065cb20529a77a40046b894e3a76e9"
    | .obj [_, _, _, _, _, _] => "d4d37c81da43c97f13782591dc2bfc0bc504613ba1afab5a4787190568d03ea1"
    | .obj members =>
      if members.length = 20 then "32609f0db66e86af5caa2c9997e4146bc75b0e5a2fabb8c0b833ec063a02477e"
      else "6c11d47852da5f81a8d5f31f6d19e8a39addf1bd53b58de3590ac4b42d55ec11"
    | _ => ""
  isoformat _ := "1970-01-01T00:00:00+00:00"
  dumpDatetime _ := "1970-01-01T00:00:00Z"

def huntDatabase : Database :=
  { Database.empty with
    engagements := Table.single ⟨"EN-1", "CL-1"⟩
    engagementTargets := Table.single ⟨"EN-1", "TG-1", true⟩ }

/-- A new hunt engine over the stored events. -/
def huntEngine (codec : Codec) (db : Database) : ThreatHuntEngine :=
  let plane := (loadEvents toolScope db).foldl (fun plane event => (plane.ingest codec event).2)
    SecurityEventPlane.empty
  ThreatHuntEngine.init (DetectionEngine.init ⟨plane, some toolScope⟩ none fun n => n)

def foundNothing : HuntFindings := ⟨[], [], []⟩

def foundEvent : HuntFindings := ⟨[toolEvent], [toolEvent], []⟩

def HuntFindings.save (f : HuntFindings) (now : Datetime) (workerId : Option String) : HuntCall :=
  .save (f.execution huntDigests huntHypothesis huntPlan now now)
    (f.result huntDigests huntHypothesis huntPlan) workerId

/-- A hunt is completed, an event arrives, and another worker claims the completed plan and hunts. -/
def secondHunt : List HuntEntry × Database :=
  Foundations.History.ofCalls (HuntCall.exec huntDigests fun _ => false) huntDatabase
    [(5, HuntFindings.save foundEvent 5 (some "worker-b")), (4, .claim "HP-1" "worker-b" 120),
      (3, .ingest toolEvent), (2, HuntFindings.save foundNothing 2 (some "worker-a")),
      (1, .claim "HP-1" "worker-a" 120), (0, .request huntHypothesis huntPlan)]

/-- A hunt is saved that nobody claimed. -/
def unclaimedHunt : List HuntEntry × Database :=
  Foundations.History.ofCalls (HuntCall.exec huntDigests fun _ => false) huntDatabase
    [(1, HuntFindings.save foundNothing 1 none), (0, .request huntHypothesis huntPlan)]

/-- What a save stores is what a hunt over the stored events finds. -/
def hunted (e : HuntEntry) : Bool :=
  match e.call.2 with
  | .save execution result _ =>
    (ThreatHuntEngine.hunt huntDigests toolText huntHypothesis huntPlan e.call.1 e.call.1
      (huntEngine huntDigests e.before)).1.toOption = some (execution, result)
  | _ => true

def unheld (e : HuntEntry) : Bool := e.before.huntPlans.rows.all fun row => row.workerId = none

/-- The plans of the executions that are stored before an entry and after it. -/
def storedPlans (e : HuntEntry) : List String × List String :=
  (e.before.huntExecutions.rows.map fun x => x.execution.planId,
    (HuntCall.exec huntDigests (fun _ => false) e.call e.before).2.huntExecutions.rows.map
      fun x => x.execution.planId)

theorem hunted_twice :
    History (HuntCall.exec huntDigests fun _ => false) huntDatabase secondHunt.1 secondHunt.2 ∧
      (secondHunt.1.map fun e => (e.call.1, e.outcome.toOption)) =
        [(5, some true), (4, some true), (3, some true), (2, some true), (1, some true),
          (0, some true)] ∧
      (secondHunt.1 ++ unclaimedHunt.1).all hunted = true ∧
      (∃ e ∈ secondHunt.1, unheld e = true ∧ storedPlans e = (["HP-1"], ["HP-1", "HP-1"])) ∧
      ∃ e ∈ unclaimedHunt.1, unheld e = true ∧ storedPlans e = ([], ["HP-1"]) := by
  refine ⟨Foundations.History.ofCalls_history _, by decide +kernel, by decide +kernel,
    ⟨secondHunt.1[0], List.getElem_mem _, by decide +kernel⟩,
    unclaimedHunt.1[0], List.getElem_mem _, by decide +kernel⟩

theorem second_huntLedger :
    secondHunt.2.huntExecutions.rows.length = 2 ∧
      HuntLedger huntDigests (fun _ => false) secondHunt.1 secondHunt.2 :=
  ⟨by decide +kernel, huntLedger rfl (Foundations.History.ofCalls_history _)⟩

end Example

end SecScanMonitor.Persistence
