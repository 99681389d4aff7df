import SecScanMonitor.Foundations.History
import SecScanMonitor.Hosted.Commands

/-! Which of the runs that `start_inspection` returns the workflow starter has been started for, with the
target and the snapshot of the call, over any history of calls and of other transactions between them. -/

namespace SecScanMonitor.Hosted

open Foundations Domain

namespace StartInspection

variable {cmd : StartInspection} {starter : Option HostedWorkflowStarter} {now : Datetime} {s : Service}
  {request : HostedWorkflowRequest} {workflow : WorkflowRunRow}

/-- The starter has been started for the run with the target and the snapshot of the call. -/
def StartedIn (cmd : StartInspection) (started : List HostedWorkflowRequest) (workflow : WorkflowRunRow) : Prop :=
  ∃ request ∈ started, request.workflowRunId = workflow.workflowRunId ∧ request.targetId = cmd.targetId ∧
    request.targetSnapshotId = cmd.targetSnapshotId

/-- The stored run of the case that the call names, as its caller sees it. -/
def storedRun (cmd : StartInspection) (db : Database) : Option WorkflowRunRow :=
  ((db.seenBy cmd.humanPrincipalId).workflowRuns.get? (workflowRunId cmd.engagementId)).filter fun workflow =>
    decide (workflow.engagementId = cmd.engagementId)

lemma checked_eq_ok {session : Database} (h : cmd.checked session = .ok request) :
    request.workflowRunId = workflowRunId cmd.engagementId ∧ request.targetId = cmd.targetId ∧
      request.targetSnapshotId = cmd.targetSnapshotId := by
  obtain ⟨-, h⟩ := raiseIf_bind_eq_ok.mp h
  obtain ⟨engagement, -, h⟩ := orRaise_bind_eq_ok.mp h
  obtain ⟨-, h⟩ := raiseIf_bind_eq_ok.mp h
  obtain ⟨-, h⟩ := raiseIf_bind_eq_ok.mp h
  obtain ⟨target, -, h⟩ := orRaise_bind_eq_ok.mp h
  obtain ⟨-, h⟩ := raiseIf_bind_eq_ok.mp h
  obtain ⟨-, h⟩ := raiseIf_bind_eq_ok.mp h
  obtain rfl := Except.ok.inj h
  exact ⟨rfl, rfl, rfl⟩

/-- The run that a call works on is the stored one, and nothing is written, or it is new and pending. -/
lemma claimRun_eq_ok {db db' : Database} (h : claimRun cmd now db = .ok (workflow, db')) :
    workflow.workflowRunId = workflowRunId cmd.engagementId ∧
      (cmd.storedRun db = some workflow ∧ db' = db ∨ workflow = newRun cmd now) := by
  rw [claimRun] at h
  rw [storedRun]
  split at h
  · rename_i stored hstored
    obtain ⟨hsame, h⟩ := raiseIf_bind_eq_ok.mp h
    obtain ⟨rfl, rfl⟩ := Prod.mk.inj (Except.ok.inj h)
    refine ⟨(Table.get?_eq_some_iff.mp hstored).2, Or.inl ⟨?_, rfl⟩⟩
    rw [hstored, Option.filter_some, if_pos (decide_eq_true (not_not.mp hsame))]
  · obtain ⟨_, -, h⟩ := bind_eq_ok.mp h
    obtain ⟨rfl, -⟩ := Prod.mk.inj (Except.ok.inj h)
    exact ⟨rfl, Or.inr rfl⟩

lemma claimed_of_storedRun {db : Database} (hchecked : cmd.checked (db.seenBy cmd.humanPrincipalId) = .ok request)
    (hstored : cmd.storedRun db = some workflow) : cmd.claimed now db = .ok (request, workflow, db) := by
  rw [storedRun, Option.filter_eq_some_iff, decide_eq_true_eq] at hstored
  have hrun : claimRun cmd now db = .ok (workflow, db) := by
    rw [claimRun, hstored.1]
    exact raiseIf_bind_eq_ok.mpr ⟨not_not.mpr hstored.2, rfl⟩
  rw [claimed, hchecked, ok_bind, hrun]
  rfl

lemma claimed_eq_ok {db db' : Database} (h : cmd.claimed now db = .ok (request, workflow, db')) :
    cmd.checked (db.seenBy cmd.humanPrincipalId) = .ok request ∧ claimRun cmd now db = .ok (workflow, db') := by
  obtain ⟨request', hchecked, h⟩ := bind_eq_ok.mp h
  obtain ⟨claim, hrun, h⟩ := bind_eq_ok.mp h
  obtain ⟨rfl, hclaim⟩ := Prod.mk.inj (Except.ok.inj h)
  exact ⟨hchecked, hrun.trans (congrArg _ hclaim)⟩

/-- A call returns the stored run if that is underway, or a run that it has just started. -/
lemma startInspection_ok {s' : Service} (h : startInspection starter now cmd s = (.ok workflow, s')) :
    (s' = s ∧ (cmd.checked (s.db.seenBy cmd.humanPrincipalId)).isOk = true ∧
      cmd.storedRun s.db = some workflow ∧ underway workflow = true) ∨ cmd.StartedIn s'.started workflow := by
  cases starter with
  | none => cases h
  | some start =>
    rw [startInspection] at h
    split at h
    · cases h
    · rename_i request claimed db hclaimed
      obtain ⟨hchecked, hrun⟩ := claimed_eq_ok hclaimed
      obtain ⟨hid, hstored⟩ := claimRun_eq_ok hrun
      split at h
      · rename_i hunderway
        obtain ⟨hworkflow, rfl⟩ := Prod.mk.inj h
        obtain rfl := Except.ok.inj hworkflow
        obtain ⟨hstored, -⟩ | rfl := hstored
        · exact Or.inl ⟨rfl, by rw [hchecked]; rfl, hstored, hunderway⟩
        · cases hunderway
      · split at h
        · cases h
        · simp only at h
          split at h
          · cases h
          · obtain ⟨hworkflow, rfl⟩ := Prod.mk.inj h
            obtain rfl := Except.ok.inj hworkflow
            obtain ⟨hrequest, htarget, hsnapshot⟩ := checked_eq_ok hchecked
            refine Or.inr ⟨request, List.mem_append_right _ List.mem_cons_self, ?_, htarget, hsnapshot⟩
            exact hrequest.trans hid.symm

/-- A call that passes its checks while its run is underway returns that run and starts nothing. -/
lemma startInspection_underway {start : HostedWorkflowStarter}
    (hchecked : cmd.checked (s.db.seenBy cmd.humanPrincipalId) = .ok request)
    (hstored : cmd.storedRun s.db = some workflow) (hunderway : underway workflow = true) :
    startInspection (some start) now cmd s = (.ok workflow, s) := by
  rw [startInspection]
  simp only [claimed_of_storedRun hchecked hstored, hunderway, if_true]

end StartInspection

/-- A call of `start_inspection`, with the starter that it has and the instant of it, or another transaction. -/
inductive Move where
  | call (starter : Option HostedWorkflowStarter) (now : Datetime) (cmd : StartInspection)
  | elsewhere (change : Database → Database)

def Move.exec : Move → Service → Option (Except Raised WorkflowRunRow) × Service
  | .call starter now cmd, s => ((startInspection starter now cmd s).1, (startInspection starter now cmd s).2)
  | .elsewhere change, s => (none, { s with db := change s.db })

abbrev InspectionEntry := Entry Move Service (Option (Except Raised WorkflowRunRow))

/-- If the call returned a run, the starter has been started for it with what the call named. -/
def Honest (e : InspectionEntry) : Prop :=
  match e.call with
  | .call _ _ cmd => ∀ workflow, e.outcome = some (.ok workflow) →
      cmd.StartedIn (e.call.exec e.before).2.started workflow
  | .elsewhere _ => True

/-- The call is turned down by its checks, or the case has no run underway, or one that was started with the
target and the snapshot of the call. -/
def Covered (e : InspectionEntry) : Prop :=
  match e.call with
  | .call (some _) _ cmd => (cmd.checked (e.before.db.seenBy cmd.humanPrincipalId)).isOk = true →
      ∀ workflow, cmd.storedRun e.before.db = some workflow → underway workflow = true →
        cmd.StartedIn e.before.started workflow
  | _ => True

section Histories

variable {start s : Service} {es : List InspectionEntry}

lemma honest_iff_covered {e : InspectionEntry} (he : e.outcome = (e.call.exec e.before).1) :
    Honest e ↔ Covered e := by
  obtain ⟨call, before, outcome⟩ := e
  obtain rfl : outcome = (call.exec before).1 := he
  cases call with
  | elsewhere change => exact Iff.rfl
  | call starter now cmd =>
    cases starter with
    | none => exact ⟨fun _ => trivial, fun _ workflow h => by cases h⟩
    | some starter =>
      constructor
      · intro hhonest hchecks workflow hstored hunderway
        cases hchecked : cmd.checked (before.db.seenBy cmd.humanPrincipalId) with
        | error e =>
          rw [hchecked] at hchecks
          cases hchecks
        | ok request =>
          have hcall : startInspection (some starter) now cmd before = (.ok workflow, before) :=
            StartInspection.startInspection_underway hchecked hstored hunderway
          have hstarted := hhonest workflow (by simp only [Move.exec, hcall])
          simpa only [Move.exec, hcall] using hstarted
      · intro hcovered workflow hreturned
        have hcall : startInspection (some starter) now cmd before =
            (.ok workflow, (startInspection (some starter) now cmd before).2) :=
          Prod.ext (Option.some.inj hreturned) rfl
        obtain ⟨hsame, hchecked, hstored, hunderway⟩ | hstarted := StartInspection.startInspection_ok hcall
        · simp only [Move.exec, hsame]
          exact hcovered hchecked workflow hstored hunderway
        · exact hstarted

/-- Every run that a history returns has been started with what its call named, if and only if no call that
passes its checks meets a run underway that was started with something else. -/
theorem history_honest_iff (h : History Move.exec start es s) :
    (∀ e ∈ es, Honest e) ↔ ∀ e ∈ es, Covered e :=
  forall₂_congr fun _ he => honest_iff_covered (h.outcome_eq he)

/-- Every run underway is one that the starter has been started for. -/
def RunsStarted (s : Service) : Prop :=
  ∀ workflow ∈ s.db.workflowRuns, underway workflow = true →
    ∃ request ∈ s.started, request.workflowRunId = workflow.workflowRunId

/-- The transaction puts no run underway that was not. -/
def StartsNothing (change : Database → Database) : Prop :=
  ∀ db, ∀ workflow ∈ (change db).workflowRuns, underway workflow = true →
    ∃ stored ∈ db.workflowRuns, underway stored = true ∧ stored.workflowRunId = workflow.workflowRunId

lemma claimRun_rows {cmd : StartInspection} {now : Datetime} {db db' : Database} {workflow row : WorkflowRunRow}
    (h : claimRun cmd now db = .ok (workflow, db')) (hrow : row ∈ db'.workflowRuns) (hunderway : underway row = true) :
    row ∈ db.workflowRuns := by
  rw [claimRun] at h
  split at h
  · obtain ⟨-, h⟩ := raiseIf_bind_eq_ok.mp h
    obtain ⟨-, rfl⟩ := Prod.mk.inj (Except.ok.inj h)
    exact hrow
  · obtain ⟨runs, hruns, h⟩ := bind_eq_ok.mp h
    obtain ⟨-, rfl⟩ := Prod.mk.inj (Except.ok.inj h)
    rw [insertRow, raiseIf_bind_eq_ok, orRaise_eq_ok] at hruns
    rcases (Table.mem_insert hruns.2).mp hrow with rfl | hrow
    · cases hunderway
    · exact hrow

lemma appendAudit_runs {human : String} {event : AuditEventRow} {db db' : Database}
    (h : appendAudit human event db = .ok db') : db'.workflowRuns = db.workflowRuns := by
  rw [appendAudit] at h
  split at h
  · obtain rfl := Except.ok.inj h
    rfl
  · obtain ⟨_, -, h⟩ := bind_eq_ok.mp h
    obtain rfl := Except.ok.inj h
    rfl

/-- A call leaves runs underway that it started or that were underway before it. -/
lemma startInspection_runsStarted {starter : Option HostedWorkflowStarter} {now : Datetime} {cmd : StartInspection}
    (hs : RunsStarted s) : RunsStarted (startInspection starter now cmd s).2 := by
  cases starter with
  | none => exact hs
  | some starter =>
    rw [startInspection]
    split
    · exact hs
    · rename_i request claimed db hclaimed
      obtain ⟨hchecked, hrun⟩ := StartInspection.claimed_eq_ok hclaimed
      have hkept : ∀ row ∈ db.workflowRuns, underway row = true →
          ∃ r ∈ s.started, r.workflowRunId = row.workflowRunId := fun row hrow hunderway =>
        hs row (claimRun_rows hrun hrow hunderway) hunderway
      split
      · exact hs
      · split
        · intro row hrow hunderway
          rcases Table.mem_write.mp hrow with rfl | ⟨hrow, -⟩
          · cases hunderway
          · exact hkept row hrow hunderway
        · have hid : request.workflowRunId = claimed.workflowRunId :=
            (StartInspection.checked_eq_ok hchecked).1.trans (StartInspection.claimRun_eq_ok hrun).1.symm
          simp only
          split
          · intro row hrow hunderway
            obtain ⟨r, hr, hsame⟩ := hs row hrow hunderway
            exact ⟨r, List.mem_append_left _ hr, hsame⟩
          · rename_i db' haudit
            intro row hrow hunderway
            rw [appendAudit_runs haudit] at hrow
            rcases Table.mem_write.mp hrow with rfl | ⟨hrow, -⟩
            · exact ⟨request, List.mem_append_right _ List.mem_cons_self, hid⟩
            · obtain ⟨r, hr, hsame⟩ := hkept row hrow hunderway
              exact ⟨r, List.mem_append_left _ hr, hsame⟩

/-- A run that is returned has been started, if not always with the target of the call. -/
theorem returned_run_started (h : History Move.exec start es s) (hstart : RunsStarted start)
    (hothers : ∀ e ∈ es, ∀ change, e.call = .elsewhere change → StartsNothing change) :
    RunsStarted s ∧ ∀ e ∈ es, ∀ workflow, e.outcome = some (.ok workflow) →
      ∃ request ∈ (e.call.exec e.before).2.started, request.workflowRunId = workflow.workflowRunId := by
  induction h with
  | nil => exact ⟨hstart, fun _ he => absurd he List.not_mem_nil⟩
  | @call es s call h ih =>
    obtain ⟨hruns, hreturned⟩ := ih fun e he => hothers e (List.mem_cons_of_mem _ he)
    cases call with
    | elsewhere change =>
      refine ⟨fun workflow hworkflow hunderway => ?_, ?_⟩
      · obtain ⟨stored, hstored, hwas, hid⟩ :=
          hothers _ List.mem_cons_self change rfl s.db workflow hworkflow hunderway
        obtain ⟨request, hrequest, hsame⟩ := hruns stored hstored hwas
        exact ⟨request, hrequest, hsame.trans hid⟩
      · intro e he workflow houtcome
        rcases List.mem_cons.mp he with rfl | he
        · cases houtcome
        · exact hreturned e he workflow houtcome
    | call starter now cmd =>
      refine ⟨startInspection_runsStarted hruns, ?_⟩
      intro e he workflow houtcome
      rcases List.mem_cons.mp he with rfl | he
      · have hcall : startInspection starter now cmd s =
            (.ok workflow, (startInspection starter now cmd s).2) :=
          Prod.ext (Option.some.inj houtcome) rfl
        simp only [Move.exec]
        obtain ⟨hsame, -, hstored, hunderway⟩ | ⟨request, hrequest, hid, -⟩ :=
          StartInspection.startInspection_ok hcall
        · rw [hsame]
          rw [StartInspection.storedRun, Option.filter_eq_some_iff] at hstored
          have hmem := (Table.get?_eq_some_iff.mp hstored.1).1
          exact hruns workflow (Table.mem_restrict.mp hmem).1 hunderway
        · exact ⟨request, hrequest, hid⟩
      · exact hreturned e he workflow houtcome

end Histories

section Example

def twoTargets : Database :=
  { Database.empty with
    clientMemberships := [⟨"H", "C", "CLIENT_OWNER", "active"⟩]
    targets := ⟨[⟨"T", some "C", some "S", some "d1", some "git"⟩,
      ⟨"U", some "C", some "R", some "d2", some "git"⟩], by decide⟩
    engagements := ⟨[
      { engagementId := "E", clientId := "C", requesterPrincipalId := "H", scope := "repository"
        passType := .posture, authorityLevel := .inspectionOnly, constraints := [], status := .authorized
        statusHistory := [], refusalReason := none, suspendedFrom := none
        createdAt := "2026-01-01", updatedAt := "2026-01-01" }], by decide⟩
    engagementTargets := ⟨[⟨"ET-E-U", "E", "U", true⟩, ⟨"ET-E-T", "E", "T", true⟩],
      by decide⟩ }

def startOf (targetId snapshotId : String) : Move :=
  .call (some fun request => .ok request.workflowRunId) 0 ⟨"H", "E", targetId, snapshotId⟩

def runningRun : WorkflowRunRow where
  workflowRunId := "WR-E"
  engagementId := "E"
  startedByPrincipalId := "H"
  status := "running"
  currentPhase := "queued"
  startedAt := some 0
  finishedAt := none
  createdAt := 0
  updatedAt := 0

/-- The service after the start for the first target. -/
def firstStarted : Service where
  db := { twoTargets with
    workflowRuns := ⟨[runningRun], List.nodup_singleton _⟩
    auditEvents := ⟨[startEvent ⟨"H", "E", "T", "S"⟩], List.nodup_singleton _⟩ }
  started := [⟨"E", "WR-E", "C", "T", "H", "S", "d1", "git"⟩]

lemma first_start : (startOf "T" "S").exec ⟨twoTargets, []⟩ = (some (.ok runningRun), firstStarted) := rfl

lemma second_start : (startOf "U" "R").exec firstStarted = (some (.ok runningRun), firstStarted) := rfl

/-- A start for one target and then for the other. -/
def twoStarts : List InspectionEntry :=
  [⟨startOf "U" "R", firstStarted, some (.ok runningRun)⟩,
    ⟨startOf "T" "S", ⟨twoTargets, []⟩, some (.ok runningRun)⟩]

lemma twoStarts_history : History Move.exec ⟨twoTargets, []⟩ twoStarts firstStarted := by
  have hnone : History Move.exec ⟨twoTargets, []⟩ [] ⟨twoTargets, []⟩ := .nil
  have hfirst := hnone.call (startOf "T" "S")
  rw [first_start] at hfirst
  have hsecond := hfirst.call (startOf "U" "R")
  rw [second_start] at hsecond
  exact hsecond

theorem twoStarts_honest_iff : (∀ e ∈ twoStarts, Honest e) ↔ ∀ e ∈ twoStarts, Covered e :=
  history_honest_iff twoStarts_history

/-- The second call returns the run of the first, and only the first target has been started. -/
theorem other_target_returned : ¬ ∀ es s, History Move.exec ⟨twoTargets, []⟩ es s → ∀ e ∈ es, Honest e := by
  intro hhonest
  have hlast := hhonest twoStarts firstStarted twoStarts_history _ List.mem_cons_self
  obtain ⟨request, hrequest, -, htarget, -⟩ := hlast runningRun rfl
  rw [second_start] at hrequest
  obtain rfl := List.mem_singleton.mp hrequest
  exact absurd htarget (by decide)

end Example

end SecScanMonitor.Hosted
