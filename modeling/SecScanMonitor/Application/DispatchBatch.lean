import SecScanMonitor.Application.Dispatch
import SecScanMonitor.Foundations.Batch
import SecScanMonitor.Persistence.DetectionLedger

/-! A dispatch of a whole batch (`dispatch_pending` and `_process_claimed` of
`application/detection_response_orchestration.py`): every item is claimed before the first is processed, and an
exception of one item ends the dispatch. -/

namespace SecScanMonitor.Application

open Foundations Domain DetectionResponse ContinuousSecurity Persistence

structure DetectionDispatchReceipt where
  workId : String
  status : DetectionWorkStatus
  attempts : ℕ
  runIds : List String
  signalIds : List String

/-- `_receipt` -/
def receipt (work : DetectionWorkItemRow) : DetectionDispatchReceipt where
  workId := work.workId
  status := work.status
  attempts := work.attempts
  runIds := work.runIds
  signalIds := work.signalIds

/-- The instants that a worker reads for one item: its engine's, and those of the item's completion and failure. -/
structure DispatchInstants where
  engine : ℕ → Datetime
  completed : Datetime
  failed : Datetime

section Process

variable (codec : Codec) (render : Value → String)

/-- Run the rules one after the other; what a rule emitted is stored before the next one runs. -/
def runRules (scope : Scope) : List (DetectionRule × DetectionPlan) → DetectionEngine →
    List String → List String → Effect Database (List String × List String)
  | [], _, runIds, signalIds => fun db => (.ok (runIds, signalIds), db)
  | (rule, plan) :: rules, engine, runIds, signalIds => fun db =>
    match detect codec render scope rule plan engine with
    | .error e => (.error e, db)
    | .ok (out, engine) =>
      match persistDetectionOutputs codec rule plan out.run out.evaluations out.signals db with
      | .error e => (.error e, db)
      | .ok ((), db) =>
        runRules scope rules engine (runIds ++ [out.run.runId]) (signalIds ++ out.run.signalIds) db

/-- What `_process_claimed` tries. -/
def attempt (t : DispatchInstants) (work : DetectionWorkItemRow) :
    Effect Database DetectionWorkItemRow := fun db =>
  match rebuild codec work.scope (loadEvents work.scope db) t.engine with
  | .error e => (.error e, db)
  | .ok engine =>
    match activeRules codec db with
    | .error e => (.error e, db)
    | .ok rules =>
      match runRules codec render work.scope rules engine [] [] db with
      | (.error e, db) => (.error e, db)
      | (.ok (runIds, signalIds), db) =>
        match completeWork t.completed work.workId (work.workerId.getD "") runIds signalIds.eraseDups db with
        | .error e => (.error e, db)
        | .ok (row, db) => (.ok row, db)

/-- `_process_claimed` -/
def processClaimed (t : DispatchInstants) (work : DetectionWorkItemRow) :
    Effect Database DetectionDispatchReceipt := fun db =>
  match attempt codec render t work db with
  | (.ok row, db) => (.ok (receipt row), db)
  | (.error e, db) =>
    -- the exception is raised again, unless marking the item raises one of its own
    match failWork t.failed work.workId (work.workerId.getD "") e.kind.name db with
    | .error e' => (.error e', db)
    | .ok (_, db) => (.error e, db)

/-- `dispatch_pending` -/
def dispatchPending (now : Datetime) (t : String → DispatchInstants) (args : ClaimArgs) :
    Effect Database (List DetectionDispatchReceipt) := fun db =>
  match claimWork now args db with
  | .error e => (.error e, db)
  | .ok (claimed, db) =>
    Batch.runEach (fun work => processClaimed codec render (t work.workId) work) claimed db

end Process

variable {codec : Codec} {render : Value → String} {db db' : Database} {t : DispatchInstants}
  {work : DetectionWorkItemRow} {worker : String} {expiry : Datetime}

/-- The item is claimed by the worker under a lease. -/
def Leased (worker : String) (expiry : Datetime) (workId : String) (db : Database) : Prop :=
  ∃ w ∈ db.detectionWorkItems, w.workId = workId ∧ w.status = .claimed ∧ w.workerId = some worker ∧
    w.leaseUntil = some expiry

def Settled (workId : String) (db : Database) : Prop :=
  ∃ w ∈ db.detectionWorkItems, w.workId = workId ∧ (w.status = .completed ∨ w.status = .failed)

lemma Leased.not_settled {workId : String} (h : Leased worker expiry workId db) :
    ¬ Settled workId db := by
  obtain ⟨w, hw, hid, hstatus, -⟩ := h
  rintro ⟨w', hw', hid', hsettled⟩
  rw [Table.eq_of_key_eq hw' hw (hid'.trans hid.symm), hstatus] at hsettled
  rcases hsettled with h | h
  · cases h
  · cases h

section Step

lemma persist_items {rule : DetectionRule} {plan : DetectionPlan} {run : DetectionRun}
    {evaluations : List DetectionEvaluation} {signals : List DetectionSignal}
    (h : persistDetectionOutputs codec rule plan run evaluations signals db = .ok ((), db')) :
    db'.detectionWorkItems = db.detectionWorkItems := by
  obtain ⟨-, h⟩ := raiseIf_bind_eq_ok.mp h
  obtain ⟨-, h⟩ := raiseIf_bind_eq_ok.mp h
  obtain ⟨-, h⟩ := raiseIf_bind_eq_ok.mp h
  obtain ⟨-, h⟩ := raiseIf_bind_eq_ok.mp h
  obtain ⟨-, -, h⟩ := bind_eq_ok.mp h
  obtain ⟨versions, -, h⟩ := bind_eq_ok.mp h
  obtain ⟨plans, -, h⟩ := bind_eq_ok.mp h
  obtain ⟨runs, -, h⟩ := bind_eq_ok.mp h
  obtain ⟨rows, -, h⟩ := bind_eq_ok.mp h
  obtain ⟨sent, -, h⟩ := bind_eq_ok.mp h
  obtain ⟨-, rfl⟩ := Prod.mk.inj (Except.ok.inj h)
  rfl

lemma runRules_items {scope : Scope} {rules : List (DetectionRule × DetectionPlan)}
    {engine : DetectionEngine} {runIds signalIds : List String} :
    (runRules codec render scope rules engine runIds signalIds db).2.detectionWorkItems =
      db.detectionWorkItems := by
  induction rules generalizing engine runIds signalIds db with
  | nil => rfl
  | cons r rules ih =>
    rw [runRules]
    cases detect codec render scope r.1 r.2 engine with
    | error e => rfl
    | ok found =>
      obtain ⟨out, engine'⟩ := found
      simp only
      cases hpersist : persistDetectionOutputs codec r.1 r.2 out.run out.evaluations out.signals db with
      | error e => rfl
      | ok stored =>
        obtain ⟨⟨⟩, db'⟩ := stored
        simp only
        rw [ih, persist_items hpersist]

/-- The attempt leaves the items alone, or it completes its own. -/
lemma attempt_items :
    (∃ e, (attempt codec render t work db).1 = .error e ∧
      (attempt codec render t work db).2.detectionWorkItems = db.detectionWorkItems) ∨
    ∃ row db₁ runIds signalIds, db₁.detectionWorkItems = db.detectionWorkItems ∧
      completeWork t.completed work.workId (work.workerId.getD "") runIds signalIds db₁ =
        .ok (row, (attempt codec render t work db).2) ∧
      (attempt codec render t work db).1 = .ok row := by
  rw [attempt]
  cases rebuild codec work.scope (loadEvents work.scope db) t.engine with
  | error e => exact Or.inl ⟨e, rfl, rfl⟩
  | ok engine =>
    cases activeRules codec db with
    | error e => exact Or.inl ⟨e, rfl, rfl⟩
    | ok rules =>
      have hitems := @runRules_items codec render db work.scope rules engine [] []
      simp only
      rcases hrun : runRules codec render work.scope rules engine [] [] db with ⟨e | ⟨runIds, signalIds⟩, db₁⟩
      · rw [hrun] at hitems
        exact Or.inl ⟨e, rfl, hitems⟩
      · rw [hrun] at hitems
        simp only
        cases hcomplete : completeWork t.completed work.workId (work.workerId.getD "") runIds
            signalIds.eraseDups db₁ with
        | error e => exact Or.inl ⟨e, rfl, hitems⟩
        | ok done => exact Or.inr ⟨done.1, db₁, runIds, signalIds.eraseDups, hitems, hcomplete, rfl⟩

/-- The items of other ids are the same. -/
def SameOthers (workId : String) (db db' : Database) : Prop :=
  ∀ w, w.workId ≠ workId → (w ∈ db'.detectionWorkItems ↔ w ∈ db.detectionWorkItems)

lemma Leased.others {workId other : String} (h : Leased worker expiry workId db)
    (hsame : SameOthers other db db') (hne : workId ≠ other) : Leased worker expiry workId db' := by
  obtain ⟨w, hw, rfl, hclaim⟩ := h
  exact ⟨w, (hsame w hne).mpr hw, rfl, hclaim⟩

lemma Settled.others {workId other : String} (h : Settled workId db) (hsame : SameOthers other db db')
    (hne : workId ≠ other) : Settled workId db' := by
  obtain ⟨w, hw, rfl, hstatus⟩ := h
  exact ⟨w, (hsame w hne).mpr hw, rfl, hstatus⟩

lemma workId_complete (now : Datetime) (runIds signalIds : List String) (w : DetectionWorkItemRow) :
    (w.complete now runIds signalIds).workId = w.workId := rfl

lemma workId_fail (now : Datetime) (error : String) (w : DetectionWorkItemRow) :
    (w.fail now error).workId = w.workId := rfl

lemma completeWork_settles {now : Datetime} {workId : String} {runIds signalIds : List String}
    {row : DetectionWorkItemRow} (h : completeWork now workId worker runIds signalIds db = .ok (row, db')) :
    Settled workId db' ∧ SameOthers workId db db' := by
  rw [completeWork] at h
  cases hrow : db.detectionWorkItems.get? workId with
  | none =>
    rw [hrow] at h
    cases h
  | some w =>
    obtain ⟨hw, hid⟩ := Table.get?_eq_some_iff.mp hrow
    simp only [hrow] at h
    split at h
    · rename_i hdone
      obtain ⟨-, rfl⟩ := Prod.mk.inj (Except.ok.inj h)
      exact ⟨⟨w, hw, hid, Or.inl hdone⟩, fun _ _ => Iff.rfl⟩
    split at h
    · obtain ⟨-, rfl⟩ := Prod.mk.inj (Except.ok.inj h)
      subst hid
      have hkept := workId_complete now runIds signalIds
      exact ⟨⟨w.complete now runIds signalIds, Table.modified_mem hkept hw, rfl, Or.inl rfl⟩,
        fun _ hne => Table.mem_modify_of_ne hkept hne⟩
    · cases h

lemma failWork_others {now : Datetime} {workId errorType : String} {row : DetectionWorkItemRow}
    (h : failWork now workId worker errorType db = .ok (row, db')) : SameOthers workId db db' := by
  rw [failWork] at h
  cases hrow : db.detectionWorkItems.get? workId with
  | none =>
    rw [hrow] at h
    cases h
  | some w =>
    simp only [hrow] at h
    split at h
    · obtain ⟨-, rfl⟩ := Prod.mk.inj (Except.ok.inj h)
      exact fun _ _ => Iff.rfl
    split at h
    · obtain ⟨-, rfl⟩ := Prod.mk.inj (Except.ok.inj h)
      exact fun _ hne => Table.mem_modify_of_ne (workId_fail now (safeError errorType)) hne
    · cases h

/-- While the lease runs, an item can be marked as failed. -/
lemma failWork_settles {now : Datetime} {workId errorType : String}
    (h : Leased worker expiry workId db) (hnow : now < expiry) :
    ∃ row db', failWork now workId worker errorType db = .ok (row, db') ∧ Settled workId db' := by
  obtain ⟨w, hw, rfl, hstatus, hworker, hlease⟩ := h
  have hactive : activeLease now worker w = true := by
    simp [activeLease, hstatus, hworker, hlease, hnow]
  have hopen : w.status ≠ .completed := by
    rw [hstatus]
    decide
  rw [failWork, Table.get?_of_mem hw]
  simp only [if_neg hopen, if_pos hactive]
  exact ⟨_, _, rfl, w.fail now (safeError errorType), Table.modified_mem (workId_fail _ _) hw, rfl,
    Or.inr rfl⟩

lemma processClaimed_others :
    SameOthers work.workId db (processClaimed codec render t work db).2 := by
  rw [processClaimed]
  rcases @attempt_items codec render db t work with
    ⟨e, he, hitems⟩ | ⟨row, db₁, runIds, signalIds, hitems, hcomplete, hrow⟩
  · rcases hattempt : attempt codec render t work db with ⟨r, db₁⟩
    rw [hattempt] at he hitems
    obtain rfl : r = .error e := he
    have hsame : SameOthers work.workId db db₁ := by
      intro w _
      rw [show db₁.detectionWorkItems = db.detectionWorkItems from hitems]
    simp only
    cases hfail : failWork t.failed work.workId (work.workerId.getD "") e.kind.name db₁ with
    | error e' => exact hsame
    | ok failed => exact fun w hne => (failWork_others hfail w hne).trans (hsame w hne)
  · rcases hattempt : attempt codec render t work db with ⟨r, db₂⟩
    rw [hattempt] at hcomplete hrow
    obtain rfl : r = .ok row := hrow
    intro w hne
    rw [(completeWork_settles hcomplete).2 w hne, hitems]

/-- Whatever comes of its attempt, an item is settled while its lease runs. -/
lemma processClaimed_settles (hworker : work.workerId = some worker)
    (hleased : Leased worker expiry work.workId db) (hfailed : t.failed < expiry) :
    Settled work.workId (processClaimed codec render t work db).2 := by
  rw [processClaimed]
  rcases @attempt_items codec render db t work with
    ⟨e, he, hitems⟩ | ⟨row, db₁, runIds, signalIds, hitems, hcomplete, hrow⟩
  · rcases hattempt : attempt codec render t work db with ⟨r, db₁⟩
    rw [hattempt] at he hitems
    obtain rfl : r = .error e := he
    have hleased₁ : Leased worker expiry work.workId db₁ := by
      rw [Leased, show db₁.detectionWorkItems = db.detectionWorkItems from hitems]
      exact hleased
    obtain ⟨row, db₂, hfail, hsettled⟩ := @failWork_settles _ _ _ _ _ e.kind.name hleased₁ hfailed
    simp only [hworker, Option.getD_some, hfail]
    exact hsettled
  · rcases hattempt : attempt codec render t work db with ⟨r, db₂⟩
    rw [hattempt] at hcomplete hrow
    obtain rfl : r = .ok row := hrow
    exact (completeWork_settles hcomplete).1

end Step

section Claim

variable {now : Datetime} {args : ClaimArgs} {claimed : List DetectionWorkItemRow}

/-- What a worker claims: items of different ids, each under its lease. -/
lemma claimWork_leases (h : claimWork now args db = .ok (claimed, db')) :
    (claimed.map (·.workId)).Nodup ∧ ∀ work ∈ claimed, work.workerId = some args.workerId ∧
      Leased args.workerId (now.addSeconds args.leaseSeconds) work.workId db' := by
  obtain ⟨rfl, hheld⟩ := claimWork_rows h
  constructor
  · rw [List.map_map]
    have hids : ((db.detectionWorkItems.select (args.selects now)).map (·.workId)).Nodup :=
      db.detectionWorkItems.nodup.sublist (List.filter_sublist.map _)
    have hsorted := ((List.perm_insertionSort createdBefore _).map (·.workId)).nodup_iff.mpr hids
    exact hsorted.sublist ((List.take_sublist _ _).map _)
  · intro work hwork
    obtain ⟨w, hw, rfl⟩ := List.mem_map.mp hwork
    exact ⟨rfl, _, hheld w hw, rfl, rfl, rfl, rfl⟩

variable {t : String → DispatchInstants}

/-- Of the items of a dispatch exactly those before the first exception and the one that raised it are settled. -/
theorem dispatch_settles (hclaim : claimWork now args db = .ok (claimed, db'))
    (hlease : ∀ workId, (t workId).failed < now.addSeconds args.leaseSeconds) :
    (∀ work ∈ claimed, Settled work.workId (dispatchPending codec render now t args db).2) ↔
      ∀ before bad rest, Batch.FailsAt (fun work => processClaimed codec render (t work.workId) work)
        claimed db' before bad rest → rest = [] := by
  let step := fun work : DetectionWorkItemRow => processClaimed codec render (t work.workId) work
  have hstate : (dispatchPending codec render now t args db).2 = (Batch.runEach step claimed db').2 := by
    rw [dispatchPending, hclaim]
  rw [hstate]
  obtain ⟨hids, hheld⟩ := claimWork_leases hclaim
  have hopen : ∀ work ∈ claimed, ∀ bs : List DetectionWorkItemRow, (∀ b ∈ bs, work.workId ≠ b.workId) →
      Leased args.workerId (now.addSeconds args.leaseSeconds) work.workId (Batch.runEach step bs db').2 :=
    fun work hwork bs hne =>
      Batch.runEach_preserves (fun b hb _ hs => hs.others processClaimed_others (hne b hb)) (hheld work hwork).2
  constructor
  · intro hall before bad rest hfails
    cases rest with
    | nil => rfl
    | cons next rest =>
      -- the next item was never reached
      have hnext : next ∈ claimed :=
        hfails.split ▸ List.mem_append_right _ (List.mem_cons_of_mem _ List.mem_cons_self)
      have hne := hfails.apart hids List.mem_cons_self
      have hleased : Leased args.workerId (now.addSeconds args.leaseSeconds) next.workId
          (Batch.runEach step claimed db').2 :=
        hfails.kept (hheld next hnext).2 fun b hb _ hs => hs.others processClaimed_others (hne b hb)
      exact absurd (hall next hnext) hleased.not_settled
  · intro hlast work hwork
    rcases Batch.reached_or_missed step db' hwork with
      ⟨before, rest, hsplit, hran⟩ | ⟨before, bad, rest, hfails, hmissed⟩
    · have hne := Batch.apart hids hsplit
      refine Batch.settled hsplit hran ?_ fun b hb _ hs =>
        hs.others processClaimed_others (hne b (Or.inr hb))
      exact processClaimed_settles (hheld work hwork).1
        (hopen work hwork before fun b hb => hne b (Or.inl hb)) (hlease work.workId)
    · rw [hlast before bad rest hfails] at hmissed
      cases hmissed

end Claim

end SecScanMonitor.Application
