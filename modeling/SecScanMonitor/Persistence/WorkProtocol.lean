import SecScanMonitor.DetectionResponse.RunHistory
import SecScanMonitor.Persistence.WorkLease

/-! What holds of the work queue over whole runs: every event has its one work item, a lease excludes
the other workers, only its holder settles an item, and a completed item is final. -/

namespace SecScanMonitor.Persistence

open Foundations Domain DetectionResponse ContinuousSecurity

section Refinement

open DetectionWorkItemRow

abbrev WorkOutcome := List String × List String × Option Datetime

namespace DetectionWorkItemRow

/-- The item as an abstract lease. -/
def lease (w : DetectionWorkItemRow) : Lease String Datetime WorkOutcome :=
  match w.status with
  | .pending | .failed => .free
  | .claimed =>
    match w.workerId, w.leaseUntil with
    | some worker, some expiry => .held worker expiry
    | _, _ => .free
  | .completed => .done (w.runIds, w.signalIds, w.completedAt)

/-- A claimed item names its worker and its deadline. -/
def Leased (w : DetectionWorkItemRow) : Prop :=
  w.status = .claimed → ∃ worker expiry, w.workerId = some worker ∧ w.leaseUntil = some expiry

variable {w w' : DetectionWorkItemRow} {call : WorkCall} {now : Datetime} {workerId : String}

lemma lease_of_failed (h : w.status = .failed) : w.lease = .free := by
  simp [lease, h]

lemma lease_of_completed (h : w.status = .completed) :
    w.lease = .done (w.runIds, w.signalIds, w.completedAt) := by
  simp [lease, h]

lemma lease_of_claimed {expiry : Datetime} (h : w.status = .claimed)
    (hworker : w.workerId = some workerId) (hexpiry : w.leaseUntil = some expiry) :
    w.lease = .held workerId expiry := by
  simp [lease, h, hworker, hexpiry]

lemma status_of_done {outcome : WorkOutcome} (h : w.lease = .done outcome) :
    w.status = .completed ∧ outcome = (w.runIds, w.signalIds, w.completedAt) := by
  unfold lease at h
  split at h
  · cases h
  · cases h
  · split at h <;> cases h
  · rename_i hstatus
    exact ⟨hstatus, (Lease.done.inj h).symm⟩

lemma held_of_activeLease (h : activeLease now workerId w = true) :
    ∃ expiry, w.lease = .held workerId expiry ∧ now < expiry := by
  simp only [activeLease, Bool.and_eq_true, decide_eq_true_eq, Option.any_eq_true] at h
  obtain ⟨⟨hstatus, hworker⟩, expiry, hexpiry, hlt⟩ := h
  exact ⟨expiry, lease_of_claimed hstatus hworker hexpiry, hlt⟩

/-- A worker takes an item that is free, or whose lease has run out. -/
lemma acquire_of_claimable (hw : w.Leased) (h : claimable now w = true) (args : ClaimArgs) :
    Lease.Step now w.lease (.acquire args.workerId (now.addSeconds args.leaseSeconds))
      (args.claim now w).lease := by
  have hheld : (args.claim now w).lease = .held args.workerId (now.addSeconds args.leaseSeconds) :=
    lease_of_claimed rfl rfl rfl
  rw [hheld]
  cases hs : w.status with
  | pending =>
    have hfree : w.lease = .free := by simp [lease, hs]
    rw [hfree]
    exact .acquire
  | failed =>
    rw [lease_of_failed hs]
    exact .acquire
  | claimed =>
    obtain ⟨worker, expiry, hworker, hexpiry⟩ := hw hs
    rw [lease_of_claimed hs hworker hexpiry]
    refine .retake ?_
    simpa [claimable, hs, hexpiry] using h
  | completed => simp [claimable, hs] at h

end DetectionWorkItemRow

variable {w w' : DetectionWorkItemRow} {call : WorkCall}

/-- Every change of an item is a step of its lease. -/
lemma ItemChange.moves (h : ItemChange call w w') (hw : w.Leased) : Lease.Moves w.lease w'.lease := by
  cases h with
  | kept => exact Or.inl rfl
  | reopened _ hfailed =>
    left
    rw [lease_of_failed hfailed]
    rfl
  | @claimed now args _ hclaimable => exact Or.inr ⟨now, _, acquire_of_claimable hw hclaimable args⟩
  | @completed now workerId runIds signalIds _ hlease =>
    obtain ⟨expiry, hheld, hlt⟩ := held_of_activeLease hlease
    right
    refine ⟨now, .finish workerId (runIds.eraseDups, signalIds.eraseDups, some now), ?_⟩
    rw [hheld, lease_of_completed rfl]
    exact .finish hlt
  | @failed now workerId error _ hlease =>
    obtain ⟨expiry, hheld, hlt⟩ := held_of_activeLease hlease
    right
    refine ⟨now, .release workerId, ?_⟩
    rw [hheld, lease_of_failed rfl]
    exact .release hlt

lemma ItemChange.leased (h : ItemChange call w w') (hw : w.Leased) : w'.Leased := by
  cases h with
  | kept => exact hw
  | reopened => exact nofun
  | claimed => exact fun _ => ⟨_, _, rfl, rfl⟩
  | completed => exact nofun
  | failed => exact nofun

lemma ItemChange.settled (h : ItemChange call w w')
    (hs : w'.status = .completed ∨ w'.status = .failed) :
    w.status = w'.status ∨
      ∃ worker now, call.settles = some (w.workId, worker, now) ∧ w.lease.HeldBy now worker := by
  cases h with
  | kept => exact Or.inl rfl
  | reopened => rcases hs with h | h <;> cases h
  | claimed => rcases hs with h | h <;> cases h
  | completed hcall hlease =>
    refine Or.inr ⟨_, _, ?_, held_of_activeLease hlease⟩
    rw [hcall]
    rfl
  | failed hcall hlease => exact Or.inr ⟨_, _, hcall, held_of_activeLease hlease⟩

end Refinement

open DetectionWorkItemRow

variable {codec : Codec} {db db' : Database}

/-- One of the five calls, by any worker at any instant. A call that raises changes nothing. -/
def WorkStep (codec : Codec) (db db' : Database) : Prop :=
  ∃ call rows, WorkCall.exec codec call db = .ok (rows, db')

def Unused (db : Database) : Prop :=
  db.securityEvents.rows = [] ∧ db.detectionWorkItems.rows = []

/-- The invariant of the queue. -/
structure Tracked (codec : Codec) (db : Database) : Prop where
  events : ∀ e ∈ db.securityEvents, ∃ w ∈ db.detectionWorkItems, Tracks codec w e
  items : ∀ w ∈ db.detectionWorkItems, ∃ e ∈ db.securityEvents, Tracks codec w e
  single : ∀ w ∈ db.detectionWorkItems, ∀ w' ∈ db.detectionWorkItems, w.eventId = w'.eventId → w = w'
  leased : ∀ w ∈ db.detectionWorkItems, w.Leased

lemma Tracked.start (h : Unused db) : Tracked codec db := by
  obtain ⟨hevents, hwork⟩ := h
  constructor <;> intro x hx <;> simp [Table.mem_def, hevents, hwork] at hx

lemma Tracked.transition {call : WorkCall} (hdb : Tracked codec db)
    (h : Transition codec call db db') : Tracked codec db' := by
  have hitems : ∀ w' ∈ db'.detectionWorkItems, ∃ e ∈ db'.securityEvents, Tracks codec w' e := by
    intro w' hw'
    rcases h.newItem w' hw' with ⟨w, hw, hchange⟩ | ⟨-, -, -, -, he, -⟩
    · obtain ⟨e, he, ht⟩ := hdb.items w hw
      exact ⟨e, h.extends e he, hchange.tracks.mpr ht⟩
    · exact he
  refine ⟨fun e he => ?_, hitems, fun w₁ hw₁ w₂ hw₂ hid => ?_, fun w' hw' => ?_⟩
  · rcases h.newEvent e he with he | hnew
    · obtain ⟨w, hw, ht⟩ := hdb.events e he
      obtain ⟨w', hw', hchange⟩ := h.items w hw
      exact ⟨w', hw', hchange.tracks.mpr ht⟩
    · exact hnew
  · -- an old item has an event already, so the event of a new item is not the one of an old item
    have hfresh : ∀ w ∈ db.detectionWorkItems, ∀ event : SecurityEvent,
        (∀ w ∈ db.detectionWorkItems, ∀ e ∈ db.securityEvents, Tracks codec w e →
          w.eventId ≠ event.eventId) → w.eventId ≠ event.eventId := by
      intro w hw event hne
      obtain ⟨e, he, ht⟩ := hdb.items w hw
      exact hne w hw e he ht
    rcases h.newItem w₁ hw₁ with ⟨x, hx, hc₁⟩ | ⟨now, event, hcall, rfl, -, hne⟩ <;>
      rcases h.newItem w₂ hw₂ with ⟨y, hy, hc₂⟩ | ⟨now', event', hcall', rfl, -, hne'⟩
    · have hxy : x = y := hdb.single x hx y hy (by rw [← hc₁.eventId, hid, hc₂.eventId])
      exact Table.eq_of_key_eq hw₁ hw₂ (by rw [hc₁.workId, hc₂.workId, hxy])
    · exact absurd (hc₁.eventId.symm.trans hid) (hfresh x hx event' hne')
    · exact absurd (hc₂.eventId.symm.trans hid.symm) (hfresh y hy event hne)
    · obtain ⟨rfl, rfl⟩ := WorkCall.ingestEvent.inj (hcall.symm.trans hcall')
      rfl
  · rcases h.newItem w' hw' with ⟨w, hw, hchange⟩ | ⟨-, -, -, rfl, -, -⟩
    · exact hchange.leased (hdb.leased w hw)
    · exact nofun

lemma tracked_inductive : Inductive Unused (WorkStep codec) (Tracked codec) where
  start _ h := Tracked.start h
  next _ _ hdb := fun ⟨_, _, h⟩ => hdb.transition (exec_transition h)

/-- A claim hands out items it now holds and no other worker held, or it answers with an item that is
completed already. -/
lemma exec_hands_out {call : WorkCall} {rows : List DetectionWorkItemRow} {worker : String}
    {now : Datetime} (hdb : Tracked codec db) (h : call.exec codec db = .ok (rows, db'))
    (hcall : call.claimant = some (worker, now)) {w : DetectionWorkItemRow} (hw : w ∈ rows) :
    (db' = db ∧ w ∈ db.detectionWorkItems ∧ w.status = .completed) ∨
      (w ∈ db'.detectionWorkItems ∧ (∃ expiry, w.lease = .held worker expiry) ∧
        ∃ w₀ ∈ db.detectionWorkItems, w₀.workId = w.workId ∧
          ∀ other, w₀.lease.HeldBy now other → other = worker) := by
  -- both claims end in `claim_work`, at the instant and for the worker of the call
  have hclaim : (db' = db ∧ w ∈ db.detectionWorkItems ∧ w.status = .completed) ∨
      ∃ args : ClaimArgs, args.workerId = worker ∧ ∃ rows,
        claimWork now args db = .ok (rows, db') ∧ w ∈ rows := by
    cases call with
    | ingestEvent | completeWork | failWork => cases hcall
    | claimWork now' args =>
      obtain ⟨rfl, rfl⟩ := Prod.mk.inj (Option.some.inj hcall)
      exact Or.inr ⟨args, rfl, rows, h, hw⟩
    | claimOne now' later workId workerId leaseSeconds =>
      obtain ⟨rfl, rfl⟩ := Prod.mk.inj (Option.some.inj hcall)
      obtain ⟨⟨r, db''⟩, hr, he⟩ := map_eq_ok.mp h
      obtain ⟨rfl, rfl⟩ := Prod.mk.inj he
      have hw' : r = some w := Option.mem_toList.mp hw
      rcases claimOne_eq_ok hr with ⟨hsame, hdone⟩ | ⟨args, hworker, rows, hclaim, hrows⟩
      · exact Or.inl ⟨hsame, hdone w hw'⟩
      · exact Or.inr ⟨args, hworker, rows, hclaim, hrows w hw'⟩
  rcases hclaim with hdone | ⟨args, rfl, rows, hclaim, hw⟩
  · exact Or.inl hdone
  obtain ⟨rfl, hdb'⟩ := claimWork_rows hclaim
  obtain ⟨w₀, hw₀, rfl⟩ := List.mem_map.mp hw
  obtain ⟨hmem, hselects⟩ := mem_batch hw₀
  have hacquire := acquire_of_claimable (hdb.leased w₀ hmem) (claimable_of_selects hselects) args
  right
  refine ⟨hdb' w₀ hw₀, ⟨_, lease_of_claimed rfl rfl rfl⟩, w₀, hmem, rfl, fun other hother => ?_⟩
  exact hacquire.acquire_excludes hother

lemma exec_settles {call : WorkCall} {rows : List DetectionWorkItemRow}
    (h : call.exec codec db = .ok (rows, db')) {w' : DetectionWorkItemRow}
    (hw' : w' ∈ db'.detectionWorkItems) (hs : w'.status = .completed ∨ w'.status = .failed) :
    ∃ w ∈ db.detectionWorkItems, w.workId = w'.workId ∧ (w.status = w'.status ∨
      ∃ worker now, call.settles = some (w.workId, worker, now) ∧ w.lease.HeldBy now worker) := by
  rcases (exec_transition h).newItem w' hw' with ⟨w, hw, hchange⟩ | ⟨now, event, -, rfl, -⟩
  · exact ⟨w, hw, hchange.workId.symm, hchange.settled hs⟩
  · rcases hs with h | h <;> cases h

/-- Along every run an item stays, and its lease runs. -/
lemma run_moves (hdb : Tracked codec db) (h : Run (WorkStep codec) db db') {w : DetectionWorkItemRow}
    (hw : w ∈ db.detectionWorkItems) :
    ∃ w' ∈ db'.detectionWorkItems, w'.workId = w.workId ∧ Run Lease.Moves w.lease w'.lease := by
  induction h with
  | refl => exact ⟨w, hw, rfl, .refl⟩
  | @tail db₁ db₂ hrun hstep ih =>
    obtain ⟨w₁, hw₁, hid₁, hmoves⟩ := ih
    have hdb₁ : Tracked codec db₁ := run_stable tracked_inductive.next hrun hdb
    obtain ⟨call, rows, hexec⟩ := hstep
    obtain ⟨w₂, hw₂, hchange⟩ := (exec_transition hexec).items w₁ hw₁
    refine ⟨w₂, hw₂, hchange.workId.trans hid₁, hmoves.tail ?_⟩
    exact hchange.moves (hdb₁.leased w₁ hw₁)

lemma run_completed (hdb : Tracked codec db) (h : Run (WorkStep codec) db db')
    {w : DetectionWorkItemRow} (hw : w ∈ db.detectionWorkItems) (hdone : w.status = .completed) :
    ∃ w' ∈ db'.detectionWorkItems, w'.workId = w.workId ∧ w'.status = .completed ∧
      w'.runIds = w.runIds ∧ w'.signalIds = w.signalIds ∧ w'.completedAt = w.completedAt := by
  obtain ⟨w', hw', hid, hmoves⟩ := run_moves hdb h hw
  have hfinal := Lease.run_done hmoves (lease_of_completed hdone)
  obtain ⟨hstatus, houtcome⟩ := status_of_done hfinal
  obtain ⟨hruns, hrest⟩ := Prod.mk.inj houtcome
  obtain ⟨hsignals, hat⟩ := Prod.mk.inj hrest
  exact ⟨w', hw', hid, hstatus, hruns.symm, hsignals.symm, hat.symm⟩

/-- The guarantees of the queue in one state: of its rows, of every call made in it, and of every run
that starts in it. -/
structure WorkProtocol (codec : Codec) (db : Database) : Prop where
  tracked : ∀ e ∈ db.securityEvents, ∃ w ∈ db.detectionWorkItems, Tracks codec w e ∧
    ∀ w' ∈ db.detectionWorkItems, w'.eventId = e.eventId → w' = w
  exclusive : ∀ call rows db', WorkCall.exec codec call db = .ok (rows, db') →
    ∀ worker now, call.claimant = some (worker, now) → ∀ w ∈ rows,
      (db' = db ∧ w ∈ db.detectionWorkItems ∧ w.status = .completed) ∨
        (w ∈ db'.detectionWorkItems ∧ (∃ expiry, w.lease = .held worker expiry) ∧
          ∃ w₀ ∈ db.detectionWorkItems, w₀.workId = w.workId ∧
            ∀ other, w₀.lease.HeldBy now other → other = worker)
  settled : ∀ call rows db', WorkCall.exec codec call db = .ok (rows, db') →
    ∀ w' ∈ db'.detectionWorkItems, w'.status = .completed ∨ w'.status = .failed →
      ∃ w ∈ db.detectionWorkItems, w.workId = w'.workId ∧ (w.status = w'.status ∨
        ∃ worker now, call.settles = some (w.workId, worker, now) ∧ w.lease.HeldBy now worker)
  final : ∀ db', Run (WorkStep codec) db db' →
    ∀ w ∈ db.detectionWorkItems, w.status = .completed →
      ∃ w' ∈ db'.detectionWorkItems, w'.workId = w.workId ∧ w'.status = .completed ∧
        w'.runIds = w.runIds ∧ w'.signalIds = w.signalIds ∧ w'.completedAt = w.completedAt

theorem workProtocol (h : Reachable Unused (WorkStep codec) db) : WorkProtocol codec db := by
  have hdb := tracked_inductive.reachable h
  refine ⟨fun e he => ?_, fun _ _ _ hexec _ _ hcall _ hw => exec_hands_out hdb hexec hcall hw,
    fun _ _ _ hexec _ hw' hs => exec_settles hexec hw' hs,
    fun _ hrun _ hw hdone => run_completed hdb hrun hw hdone⟩
  obtain ⟨w, hw, ht⟩ := hdb.events e he
  exact ⟨w, hw, ht, fun w' hw' hid => hdb.single w' hw' w hw (hid.trans ht.event.symm)⟩

section Example

/-- Make the calls one after the other; one that raises changes nothing. -/
def afterCalls (codec : Codec) (db : Database) (calls : List WorkCall) : Database :=
  calls.foldl (fun db call => ((call.exec codec db).map (·.2)).toOption.getD db) db

lemma afterCalls_run (calls : List WorkCall) :
    Run (WorkStep codec) db (afterCalls codec db calls) := by
  induction calls generalizing db with
  | nil => exact .refl
  | cons call calls ih =>
    simp only [afterCalls, List.foldl_cons]
    cases h : call.exec codec db with
    | error e => exact ih
    | ok r => exact Relation.ReflTransGen.head ⟨call, r.1, h⟩ ih

def sampleScope : Scope := ⟨"CL-1", "EN-1", "TG-1", sampleNames_nonblank⟩

def sampleEvent : SecurityEvent where
  eventId := "SE-2e7d656e26cd336166fa1155f0ee57d0"
  source := "agent"
  sourceType := "log"
  eventClass := .agentActivity
  occurredAt := 0
  observedAt := 0
  scope := sampleScope
  actor := "svc"
  objectRef := "tool"
  action := "invoke"
  outcome := "ok"
  severity := none
  rawEvidenceRef := "EV-1"
  normalizationVersion := "1"
  provenance := ⟨"R-1", "agent", "1", "EV-1", "d1", toolProvenance_nonblank⟩
  attributes := []
  sourceFamily := "secscan"
  ocsfClass := "agent_activity"
  ocsfVersion := "1.8.0"
  ingestedAt := 0
  orderingMetadata := []
  nonblank := toolEvent.nonblank
  ordered := toolEvent.ordered
  evidence := toolEvent.evidence

/-- The digests of the sample event and of its work item's identity. -/
def sampleCodec : Codec where
  contentDigest
    | .arr _ => "1534be8a039f940cdf6c36b09d8cbd051f39415eeb20bd66d8a040f791964461"
    | _ => "32609f0db66e86af5caa2c9997e4146bc75b0e5a2fabb8c0b833ec063a02477e"
  isoformat _ := "1970-01-01T00:00:00+00:00"
  dumpDatetime _ := "1970-01-01T00:00:00Z"

def seeded : Database :=
  { Database.empty with
    engagements := Table.single ⟨"EN-1", "CL-1"⟩
    engagementTargets := Table.single ⟨"EN-1", "TG-1", true⟩ }

/-- The first lease runs out, the second worker takes the item over and completes it. -/
def sampleCalls : List WorkCall :=
  let workId := (candidate sampleCodec 0 sampleEvent).workId
  [.ingestEvent 0 sampleEvent, .claimWork 1 ⟨"w1", 20, none, none, 1⟩,
    .claimOne 1000001 1000001 workId "w2" 60, .completeWork 1000002 workId "w1" [] [],
    .completeWork 1000003 workId "w2" ["RUN-1"] ["SIG-1"], .ingestEvent 1000004 sampleEvent]

theorem sample_workProtocol :
    (afterCalls sampleCodec seeded sampleCalls).detectionWorkItems.rows.map
        (fun w => (w.status, w.signalIds)) = [(.completed, ["SIG-1"])] ∧
      WorkProtocol sampleCodec (afterCalls sampleCodec seeded sampleCalls) :=
  ⟨by decide, workProtocol ⟨seeded, ⟨rfl, rfl⟩, afterCalls_run sampleCalls⟩⟩

end Example

section Progress

variable {now later : Datetime} {workerId : String} {leaseSeconds : Int} {row : DetectionWorkItemRow}

/-- The arguments with which `claim_one` claims an item. -/
def claimOneArgs (workerId : String) (leaseSeconds : Int) (row : DetectionWorkItemRow) : ClaimArgs where
  workerId
  limit := 1
  scope := some row.scope
  workId := some row.workId
  leaseSeconds

lemma mem_batch_claimOneArgs {w : DetectionWorkItemRow} (hrow : row ∈ db.detectionWorkItems)
    (hw : w ∈ (claimOneArgs workerId leaseSeconds row).batch later db.detectionWorkItems) :
    w = row ∧ claimable later row = true := by
  obtain ⟨hmem, hselects⟩ := mem_batch hw
  simp only [ClaimArgs.selects, claimOneArgs, Option.all_some, Bool.and_eq_true, decide_eq_true_eq]
    at hselects
  obtain ⟨⟨hclaimable, hid⟩, -⟩ := hselects
  obtain rfl := Table.eq_of_key_eq hmem hrow hid
  exact ⟨rfl, hclaimable⟩

lemma batch_claimOneArgs (hrow : row ∈ db.detectionWorkItems) (h : claimable later row = true) :
    (claimOneArgs workerId leaseSeconds row).batch later db.detectionWorkItems ≠ [] := by
  have hselected : row ∈ db.detectionWorkItems.select
      ((claimOneArgs workerId leaseSeconds row).selects later) := by
    refine Table.mem_select.mpr ⟨hrow, ?_⟩
    simp only [ClaimArgs.selects, claimOneArgs, h, Option.all_some, decide_true, Bool.and_self]
  intro hnil
  rw [ClaimArgs.batch, List.take_eq_nil_iff] at hnil
  rcases hnil with hlimit | hnil
  · cases hlimit
  · have hsorted := (List.mem_insertionSort createdBefore).mpr hselected
    rw [hnil] at hsorted
    cases hsorted

/-- The bounds that every claim checks. -/
def InBounds (workerId : String) (leaseSeconds : Int) : Prop :=
  isBlank workerId = false ∧ 1 ≤ leaseSeconds ∧ leaseSeconds ≤ 3600

lemma claimOne_none_iff (hrow : row ∈ db.detectionWorkItems) (hopen : row.status ≠ .completed) :
    (∃ db', claimOne now later row.workId workerId leaseSeconds db = .ok (none, db')) ↔
      (row.status = .claimed ∧ row.leaseUntil.any (fun t => decide (now < t)) = true ∧
        row.workerId ≠ some workerId) ∨
      InBounds workerId leaseSeconds ∧ claimable later row = false := by
  rw [claimOne, Table.get?_of_mem hrow]
  simp only [if_neg hopen]
  split
  · rename_i hother
    exact ⟨fun _ => Or.inl hother, fun _ => ⟨db, rfl⟩⟩
  rename_i hfree
  have hargs : (⟨workerId, 1, some row.scope, some row.workId, leaseSeconds⟩ : ClaimArgs) =
      claimOneArgs workerId leaseSeconds row := rfl
  rw [hargs]
  by_cases hbounds : InBounds workerId leaseSeconds
  · have hclaim : ∃ db₁, claimWork later (claimOneArgs workerId leaseSeconds row) db =
        .ok (((claimOneArgs workerId leaseSeconds row).batch later db.detectionWorkItems).map
          ((claimOneArgs workerId leaseSeconds row).claim later), db₁) :=
      ⟨_, if_neg (by simp [claimOneArgs, hbounds.1, hbounds.2.1, hbounds.2.2])⟩
    obtain ⟨db₁, hclaim⟩ := hclaim
    rw [hclaim]
    cases hbatch : (claimOneArgs workerId leaseSeconds row).batch later db.detectionWorkItems with
    | nil =>
      have hnot : claimable later row = false :=
        Bool.eq_false_iff.mpr fun h => batch_claimOneArgs hrow h hbatch
      exact ⟨fun _ => Or.inr ⟨hbounds, hnot⟩, fun _ => ⟨_, rfl⟩⟩
    | cons w rest =>
      obtain ⟨rfl, hclaimable⟩ := mem_batch_claimOneArgs hrow (hbatch ▸ List.mem_cons_self)
      constructor
      · rintro ⟨db', h⟩
        have hnone := congrArg Prod.fst (Except.ok.inj h)
        simp [ClaimArgs.claim] at hnone
      · rintro (h | ⟨-, hnot⟩)
        · exact absurd h hfree
        · rw [hclaimable] at hnot
          cases hnot
  · have hraise : claimWork later (claimOneArgs workerId leaseSeconds row) db =
        raise .valueError "work claim bounds are invalid" := by
      refine if_pos ?_
      by_contra hall
      simp only [claimOneArgs, not_or, not_not] at hall
      exact hbounds ⟨Bool.eq_false_iff.mpr hall.1, hall.2.2⟩
    rw [hraise]
    constructor
    · rintro ⟨db', h⟩
      cases h
    · rintro (h | ⟨h, -⟩)
      · exact absurd h hfree
      · exact absurd h hbounds

/-- Another worker holds the item under a lease that has not run out. -/
def HeldByOther (now : Datetime) (workerId : String) (row : DetectionWorkItemRow) : Prop :=
  ∃ other, other ≠ workerId ∧ row.lease.HeldBy now other

lemma heldByOther_iff (hleased : row.Leased) : HeldByOther now workerId row ↔
    row.status = .claimed ∧ row.leaseUntil.any (fun t => decide (now < t)) = true ∧
      row.workerId ≠ some workerId := by
  constructor
  · rintro ⟨other, hne, expiry, hheld, hlt⟩
    rw [lease] at hheld
    split at hheld
    · cases hheld
    · cases hheld
    · rename_i hstatus
      split at hheld
      · rename_i worker deadline hworker hdeadline
        cases hheld
        rw [hworker, hdeadline]
        exact ⟨hstatus, decide_eq_true hlt, fun h => hne (Option.some.inj h)⟩
      · cases hheld
    · cases hheld
  · rintro ⟨hstatus, hlease, hworker⟩
    obtain ⟨worker, expiry, hw, he⟩ := hleased hstatus
    rw [he] at hlease
    rw [hw] at hworker
    exact ⟨worker, fun h => hworker (congrArg some h), expiry, lease_of_claimed hstatus hw he,
      of_decide_eq_true hlease⟩

/-- An item that is not completed is refused to a worker only where another worker holds it, exactly if the worker
does not itself hold it still when the claim is made. -/
theorem claimOne_progress_iff (h : Reachable Unused (WorkStep codec) db)
    (hrow : row ∈ db.detectionWorkItems) (hopen : row.status ≠ .completed) (hclock : now ≤ later) :
    ((∃ db', claimOne now later row.workId workerId leaseSeconds db = .ok (none, db')) →
        HeldByOther now workerId row) ↔
      ¬ InBounds workerId leaseSeconds ∨ activeLease later workerId row = false := by
  have hleased := (tracked_inductive.reachable h).leased row hrow
  rw [claimOne_none_iff hrow hopen, heldByOther_iff hleased]
  constructor
  · intro hrefused
    by_cases hbounds : InBounds workerId leaseSeconds
    · right
      rw [Bool.eq_false_iff]
      intro hown
      simp only [activeLease, Bool.and_eq_true, decide_eq_true_eq, Option.any_eq_true] at hown
      obtain ⟨⟨hstatus, hworker⟩, expiry, hexpiry, hlt⟩ := hown
      have hunclaimable : claimable later row = false := by
        simp [claimable, hstatus, hexpiry, hlt]
      exact (hrefused (Or.inr ⟨hbounds, hunclaimable⟩)).2.2 hworker
    · exact Or.inl hbounds
  · rintro hfree (hother | ⟨hbounds, hunclaimable⟩)
    · exact hother
    · have hown := hfree.resolve_left (not_not.mpr hbounds)
      cases hstatus : row.status with
      | pending => simp [claimable, hstatus] at hunclaimable
      | failed => simp [claimable, hstatus] at hunclaimable
      | completed => exact absurd hstatus hopen
      | claimed =>
        obtain ⟨worker, expiry, hworker, hexpiry⟩ := hleased hstatus
        have hlt : later < expiry := by simpa [claimable, hstatus, hexpiry] using hunclaimable
        have hne : worker ≠ workerId := by
          rintro rfl
          simp [activeLease, hstatus, hworker, hexpiry, hlt] at hown
        refine ⟨rfl, ?_, ?_⟩
        · rw [hexpiry]
          exact decide_eq_true (lt_of_le_of_lt hclock hlt)
        · rw [hworker]
          exact fun heq => hne (Option.some.inj heq)

/-- The database in which the first worker has just claimed the item of the sample event. -/
def claimedSample : Database :=
  afterCalls sampleCodec seeded
    [.ingestEvent 0 sampleEvent, .claimOne 1 1 (candidate sampleCodec 0 sampleEvent).workId "w1" 120]

lemma claimedSample_reachable : Reachable Unused (WorkStep sampleCodec) claimedSample :=
  ⟨seeded, ⟨rfl, rfl⟩, afterCalls_run _⟩

def sampleItem : DetectionWorkItemRow :=
  (claimOneArgs "w1" 120 (candidate sampleCodec 0 sampleEvent)).claim 1 (candidate sampleCodec 0 sampleEvent)

lemma sampleItem_mem : sampleItem ∈ claimedSample.detectionWorkItems :=
  (Table.get?_eq_some_iff.mp (by decide : claimedSample.detectionWorkItems.get? sampleItem.workId =
    some sampleItem)).1

theorem second_worker_progress :
    ((∃ db', claimOne 2 2 sampleItem.workId "w2" 120 claimedSample = .ok (none, db')) →
        HeldByOther 2 "w2" sampleItem) ↔
      ¬ InBounds "w2" 120 ∨ activeLease 2 "w2" sampleItem = false :=
  claimOne_progress_iff claimedSample_reachable sampleItem_mem (by decide) (by decide)

/-- A worker is refused the item that it holds itself. -/
theorem own_lease_refused :
    (claimOne 2 2 sampleItem.workId "w1" 120 claimedSample).map (·.1) = .ok none ∧
      sampleItem ∈ claimedSample.detectionWorkItems ∧ sampleItem.status = .claimed ∧
        sampleItem.workerId = some "w1" ∧ ¬ HeldByOther 2 "w1" sampleItem := by
  refine ⟨by decide, sampleItem_mem, rfl, rfl, ?_⟩
  rintro ⟨other, hne, expiry, hheld, -⟩
  cases hheld
  exact hne rfl

end Progress

end SecScanMonitor.Persistence
