import SecScanMonitor.ContinuousSecurity.Runner
import SecScanMonitor.Foundations.History

/-! A job is run at most once under its identity: a stored receipt stays, and it answers every later
submission of the same content. -/

namespace SecScanMonitor.ContinuousSecurity.ReferenceEdgeRunner

open Foundations Domain DetectionResponse

structure RunnerCall where
  ports : RunnerPorts
  now : Datetime
  job : CanonicalJob

variable (tooling : Tooling)

def exec (call : RunnerCall) : Effect ReferenceEdgeRunner ResultReceipt :=
  submit tooling call.ports call.now call.job

abbrev RunnerEntry := Entry RunnerCall ReferenceEdgeRunner (Except Raised ResultReceipt)

/-- Everything that is asked of a job before it is run. -/
structure Cleared (ports : RunnerPorts) (job : CanonicalJob) (runner : ReferenceEdgeRunner) : Prop where
  authority : job.authorityDecision = .allow
  network : job.networkPolicy = "none"
  verified : ports.verify (job.unsignedBytes tooling) job.signature job.signingKeyId = .ok true
  bound : ∃ capability identity, runner.capabilities.find? job.capabilityId = some capability ∧
    job.toolIdentity = capability.manifest.toolIdentity ∧ job.targetId = capability.targetId ∧
    job.timeoutSeconds ≤ capability.manifest.timeoutSeconds ∧
    (textMembers job.resourcePolicy).pyEq (textMembers capability.resourcePolicy) = true ∧
    ports.resolve job = .ok identity ∧ identity.workloadId = capability.workloadId ∧
    identity.tenantId = job.tenantId ∧ identity.caseId = job.caseId

/-- What a submission can do. -/
inductive Submission (ports : RunnerPorts) (job : CanonicalJob) (runner : ReferenceEdgeRunner) :
    Except Raised ResultReceipt × ReferenceEdgeRunner → Prop
  | refused (e : Raised) : Submission ports job runner (.error e, runner)
  | replayed (r : ResultReceipt) : runner.receipts.find? job.key = some r →
      r.jobDigest = job.jobDigest tooling → Submission ports job runner (.ok r, runner)
  | failed (e : Raised) (runner' : ReferenceEdgeRunner) : Cleared tooling ports job runner →
      runner.receipts.find? job.key = none → runner'.receipts = runner.receipts →
      runner'.executions = runner.executions ++ [job] → Submission ports job runner (.error e, runner')
  | stored (r : ResultReceipt) (outcome : Except Raised ResultReceipt) (runner' : ReferenceEdgeRunner) :
      Cleared tooling ports job runner → runner.receipts.find? job.key = none →
      r.jobDigest = job.jobDigest tooling → runner'.receipts = runner.receipts.set job.key r →
      runner'.executions = runner.executions ++ [job] → (∀ r', outcome = .ok r' → r' = r) →
      Submission ports job runner (outcome, runner')

variable {tooling : Tooling} {ports : RunnerPorts} {now : Datetime} {job : CanonicalJob}
  {runner : ReferenceEdgeRunner}

section Cases

lemma cleared_of_checks (hauthenticate : authenticate tooling ports job = .ok ())
    {bound : RunnerCapability × WorkloadIdentity} (hbind : bind ports job runner = .ok bound) :
    Cleared tooling ports job runner := by
  obtain ⟨hauthority, hauthenticate⟩ := raiseIf_bind_eq_ok.mp hauthenticate
  obtain ⟨hnetwork, hauthenticate⟩ := raiseIf_bind_eq_ok.mp hauthenticate
  obtain ⟨verified, hverify, hauthenticate⟩ := bind_eq_ok.mp hauthenticate
  have hverified := raiseIf_eq_ok.mp hauthenticate
  obtain ⟨capability, hcapability, hbind⟩ := orRaise_bind_eq_ok.mp hbind
  obtain ⟨htool, hbind⟩ := raiseIf_bind_eq_ok.mp hbind
  obtain ⟨htarget, hbind⟩ := raiseIf_bind_eq_ok.mp hbind
  obtain ⟨htimeout, hbind⟩ := raiseIf_bind_eq_ok.mp hbind
  obtain ⟨hresources, hbind⟩ := raiseIf_bind_eq_ok.mp hbind
  obtain ⟨identity, hidentity, hbind⟩ := bind_eq_ok.mp hbind
  obtain ⟨hscope, -⟩ := raiseIf_bind_eq_ok.mp hbind
  rw [not_not] at hauthority hnetwork htool htarget
  rw [Bool.not_eq_false] at hverified hresources
  subst hverified
  simp only [not_or, not_not] at hscope
  exact ⟨hauthority, hnetwork, hverify, capability, identity, hcapability, htool, htarget,
    not_lt.mp htimeout, hresources, hidentity, hscope.1, hscope.2.1, hscope.2.2⟩

variable (tooling now) in
lemma report_frame (raw : Raw) (runner : ReferenceEdgeRunner) :
    (report tooling now raw runner).2.receipts = runner.receipts ∧
      (report tooling now raw runner).2.executions = runner.executions := by
  unfold report
  split
  · exact ⟨rfl, rfl⟩
  · exact ⟨rfl, rfl⟩

/-- The step lemma: a submission is refused, replayed, or run, and then it fails or stores a receipt. -/
theorem submit_cases : Submission tooling ports job runner (submit tooling ports now job runner) := by
  unfold submit
  cases hauthenticate : authenticate tooling ports job with
  | error e => exact .refused e
  | ok u =>
    simp only
    cases hprevious : runner.receipts.find? job.key with
    | some previous =>
      by_cases hdigest : previous.jobDigest = job.jobDigest tooling
      · simp only [hdigest, ne_eq, not_true_eq_false, if_false]
        exact .replayed previous hprevious hdigest
      · simp only [hdigest, ne_eq, not_false_eq_true, if_true]
        exact .refused _
    | none =>
      simp only
      cases hbind : bind ports job runner with
      | error e => exact .refused e
      | ok bound =>
        obtain ⟨capability, identity⟩ := bound
        have hcleared := cleared_of_checks hauthenticate hbind
        simp only [runJob]
        split
        · exact .failed _ _ hcleared hprevious rfl rfl
        · unfold conclude
          simp only
          split
          · exact .failed _ _ hcleared hprevious rfl rfl
          · refine .stored _ _ _ hcleared hprevious rfl (report_frame tooling now _ _).1
              (report_frame tooling now _ _).2 ?_
            intro r' hr'
            obtain ⟨-, -, rfl⟩ := map_eq_ok.mp hr'
            rfl

end Cases

section History

variable {start runner' : ReferenceEdgeRunner} {es : List RunnerEntry}
  {k : String × String × String} {r : ResultReceipt}
  {x : Except Raised ResultReceipt × ReferenceEdgeRunner}

/-- The executions that were started for a job identity. -/
def executionsOf (k : String × String × String) (runner : ReferenceEdgeRunner) : List CanonicalJob :=
  runner.executions.filter fun j => j.key = k

lemma executionsOf_append (hne : job.key ≠ k) (h : runner'.executions = runner.executions ++ [job]) :
    executionsOf k runner' = executionsOf k runner := by
  simp [executionsOf, h, hne]

/-- A stored receipt stays, and nothing is executed for its job again. -/
lemma Submission.kept (h : Submission tooling ports job runner x)
    (hr : runner.receipts.find? k = some r) :
    x.2.receipts.find? k = some r ∧ executionsOf k x.2 = executionsOf k runner := by
  have hne : runner.receipts.find? job.key = none → job.key ≠ k := by
    rintro hnone rfl
    rw [hnone] at hr
    cases hr
  cases h with
  | refused e => exact ⟨hr, rfl⟩
  | replayed r' hprevious hdigest => exact ⟨hr, rfl⟩
  | failed e runner' hcleared hnone hreceipts hexecutions =>
    exact ⟨(congrArg (fun d => Dict.find? d k) hreceipts).trans hr,
      executionsOf_append (hne hnone) hexecutions⟩
  | stored r' outcome runner' hcleared hnone hdigest hreceipts hexecutions hreturned =>
    refine ⟨?_, executionsOf_append (hne hnone) hexecutions⟩
    rw [hreceipts, Dict.find?_set_of_ne _ _ (hne hnone).symm]
    exact hr

/-- A returned receipt carries the digest of the job, and it is the stored one. -/
lemma Submission.returned (h : Submission tooling ports job runner x) (hx : x.1 = .ok r) :
    r.jobDigest = job.jobDigest tooling ∧ x.2.receipts.find? job.key = some r := by
  cases h with
  | refused e => cases hx
  | replayed r' hprevious hdigest =>
    obtain rfl := Except.ok.inj hx
    exact ⟨hdigest, hprevious⟩
  | failed e runner' hcleared hnone hreceipts hexecutions => cases hx
  | stored r' outcome runner' hcleared hnone hdigest hreceipts hexecutions hreturned =>
    obtain rfl := hreturned r hx
    refine ⟨hdigest, ?_⟩
    rw [hreceipts]
    exact Dict.find?_set_self _ _ _

/-- A submission executes nothing, or its cleared job once. -/
lemma Submission.started (h : Submission tooling ports job runner x) :
    x.2.executions = runner.executions ∨
      Cleared tooling ports job runner ∧ x.2.executions = runner.executions ++ [job] := by
  cases h with
  | refused e => exact Or.inl rfl
  | replayed r' hprevious hdigest => exact Or.inl rfl
  | failed e runner' hcleared hnone hreceipts hexecutions => exact Or.inr ⟨hcleared, hexecutions⟩
  | stored r' outcome runner' hcleared hnone hdigest hreceipts hexecutions hreturned =>
    exact Or.inr ⟨hcleared, hexecutions⟩

lemma Submission.refuses (h : Submission tooling ports job runner x)
    (hr : runner.receipts.find? job.key = some r) (hdigest : r.jobDigest ≠ job.jobDigest tooling) :
    ∃ e, x = (.error e, runner) := by
  cases h with
  | refused e => exact ⟨e, rfl⟩
  | replayed r' hprevious hdigest' =>
    obtain rfl := Option.some.inj (hr.symm.trans hprevious)
    exact absurd hdigest' hdigest
  | failed e runner' hcleared hnone hreceipts hexecutions =>
    rw [hnone] at hr
    cases hr
  | stored r' outcome runner' hcleared hnone hdigest' hreceipts hexecutions hreturned =>
    rw [hnone] at hr
    cases hr

lemma Submission.fresh (h : Submission tooling ports job runner x)
    (hnone : runner.receipts.find? k = none) (hr : x.2.receipts.find? k = some r) :
    job.key = k ∧ r.jobDigest = job.jobDigest tooling := by
  cases h with
  | refused e => exact absurd hr (hnone ▸ nofun)
  | replayed r' hprevious hdigest => exact absurd hr (hnone ▸ nofun)
  | failed e runner' hcleared hfree hreceipts hexecutions =>
    rw [hreceipts, hnone] at hr
    cases hr
  | stored r' outcome runner' hcleared hfree hdigest hreceipts hexecutions hreturned =>
    rw [hreceipts] at hr
    rcases Dict.find?_set_eq_some hr with ⟨rfl, rfl⟩ | hold
    · exact ⟨rfl, hdigest⟩
    · rw [hnone] at hold
      cases hold

variable (tooling) in
lemma exec_cases (c : RunnerCall) (runner : ReferenceEdgeRunner) :
    Submission tooling c.ports c.job runner (exec tooling c runner) := submit_cases

/-- The entry that stored a receipt. -/
def Stored (tooling : Tooling) (k : String × String × String) (r : ResultReceipt)
    (e : RunnerEntry) : Prop :=
  e.call.job.key = k ∧ r.jobDigest = e.call.job.jobDigest tooling ∧
    e.before.receipts.find? k = none ∧ (exec tooling e.call e.before).2.receipts.find? k = some r

lemma receipt_stored (hstart : start.receipts = Table.empty)
    (h : History (exec tooling) start es runner) (hr : runner.receipts.find? k = some r) :
    ∃ e ∈ es, Stored tooling k r e := by
  induction h with
  | nil =>
    rw [hstart] at hr
    cases hr
  | @call es runner c h ih =>
    cases hold : runner.receipts.find? k with
    | some r' =>
      have hkept := ((exec_cases tooling c runner).kept hold).1
      obtain rfl := Option.some.inj (hkept.symm.trans hr)
      obtain ⟨e, he, hstored⟩ := ih hold
      exact ⟨e, List.mem_cons_of_mem _ he, hstored⟩
    | none =>
      obtain ⟨hkey, hdigest⟩ := (exec_cases tooling c runner).fresh hold hr
      exact ⟨_, List.mem_cons_self, hkey, hdigest, hold, hr⟩

/-- What holds in every state of a history. The last part is about known jobs. -/
structure RunnerProtocol (tooling : Tooling) (known : CanonicalJob → Prop) (es : List RunnerEntry)
    (runner : ReferenceEdgeRunner) : Prop where
  unique : ∀ k r r', (k, r) ∈ runner.receipts → (k, r') ∈ runner.receipts → r = r'
  kept : ∀ k r, runner.receipts.find? k = some r →
    ∀ later runner', History (exec tooling) runner later runner' →
      runner'.receipts.find? k = some r ∧ executionsOf k runner' = executionsOf k runner
  returned : ∀ ports now job receipt, (submit tooling ports now job runner).1 = .ok receipt →
    receipt.jobDigest = job.jobDigest tooling ∧
      (submit tooling ports now job runner).2.receipts.find? job.key = some receipt
  started : ∀ ports now job,
    (submit tooling ports now job runner).2.executions ≠ runner.executions →
      Cleared tooling ports job runner ∧
        (submit tooling ports now job runner).2.executions = runner.executions ++ [job]
  substituted : ∀ job r, known job → runner.receipts.find? job.key = some r →
    ∃ e ∈ es, Stored tooling job.key r e ∧
      ((job.unsigned tooling).sorted ≠ (e.call.job.unsigned tooling).sorted → ∀ ports now,
        ∃ x, submit tooling ports now job runner = (.error x, runner))

theorem runnerProtocol {known : CanonicalJob → Prop}
    (hdigest : ∀ a b, known a → known b → a.jobDigest tooling = b.jobDigest tooling →
      (a.unsigned tooling).sorted = (b.unsigned tooling).sorted)
    (hstart : start.receipts = Table.empty) (h : History (exec tooling) start es runner)
    (hknown : ∀ e ∈ es, known e.call.job) : RunnerProtocol tooling known es runner where
  unique k r r' hr hr' := by
    have hfind := Dict.find?_eq_some_iff.mpr hr
    rw [Dict.find?_eq_some_iff.mpr hr'] at hfind
    exact (Option.some.inj hfind).symm
  kept k r hr later runner' hlater := by
    refine hlater.invariant (p := fun s =>
      s.receipts.find? k = some r ∧ executionsOf k s = executionsOf k runner) ?_ ⟨hr, rfl⟩
    rintro c s ⟨hs, hexecutions⟩
    obtain ⟨hs', hsame⟩ := (exec_cases tooling c s).kept hs
    exact ⟨hs', hsame.trans hexecutions⟩
  returned ports now job receipt hok := submit_cases.returned hok
  started ports now job hne := (submit_cases.started.resolve_left hne)
  substituted job r hjob hr := by
    obtain ⟨e, he, hstored⟩ := receipt_stored hstart h hr
    refine ⟨e, he, hstored, fun hcontent ports now => ?_⟩
    refine submit_cases.refuses hr fun hsame => hcontent ?_
    exact hdigest job e.call.job hjob (hknown e he) (hsame.symm.trans hstored.2.1)

end History

section Example

def sampleJob : CanonicalJob where
  jobId := "JB-1"
  tenantId := "CL-1"
  caseId := "EN-1"
  targetId := "TG-1"
  snapshotId := "SN-1"
  capabilityId := "CAP-1"
  authorityDecision := .allow
  inputDigest := "id"
  toolIdentity := "semgrep"
  timeoutSeconds := 30
  networkPolicy := "none"
  resourcePolicy := []
  signingKeyId := "K-1"
  signedAt := (true, 0)
  signature := "sg"

def sampleText (snapshotId : String) : String :=
  "\x7b\"authority_decision\":\"allow\",\"capability_id\":\"CAP-1\"" ++
    ",\"case_id\":\"EN-1\",\"input_digest\":\"id\",\"job_id\":\"JB-1\"" ++
    ",\"network_policy\":\"none\",\"resource_policy\":\x7b\x7d" ++
    ",\"signed_at\":\"1970-01-01T00:00:00Z\",\"signing_key_id\":\"K-1\"" ++
    ",\"snapshot_id\":\"" ++ snapshotId ++
    "\",\"target_id\":\"TG-1\",\"tenant_id\":\"CL-1\",\"timeout_seconds\":30" ++
    ",\"tool_identity\":\"semgrep\"\x7d"

/-- The texts and digests that the sample jobs need. -/
def sampleTooling : Tooling where
  codec := ⟨fun _ => "", fun _ => "1970-01-01T00:00:00+00:00", fun _ => "1970-01-01T00:00:00Z"⟩
  reader := ⟨fun _ => "", fun _ _ => "", fun _ => none⟩
  dumpNaive _ := "1970-01-01T00:00:00"
  stableJson v := sampleText (if v.member? "snapshot_id" = some (.str "SN-1") then "SN-1" else "SN-2")
  sha256 s :=
    if s = sampleText "SN-1" then "c83cb60b1aebd004d864489c7563481f299a555600d1ff183ec7bde71fb3b56b"
    else if s = sampleText "SN-2" then
      "a00b3a08f65c1c975dc7f53287f78160ea28b3134abd575e92df0696a17671e1"
    else "4cb748c4ce6039f4e9d808b89c0d8b69028090869422cba0ff3e6a9903c3f73e"
  sanitizeToolOutput _ := ("", false)
  sanitizeOutput _ _ := "\x7b\"stderr\": \"\", \"stdout\": \"\"\x7d"

def samplePorts : RunnerPorts where
  verify _ _ _ := .ok true
  resolve _ := .ok ⟨"WL-1", "CL-1", "EN-1"⟩
  execute _ _ _ _ := .ok ⟨"SB-1", 0, "", "", false, "default"⟩
  put content _ := .ok (sampleTooling.sha256 content)

def sampleCapability : RunnerCapability where
  capabilityId := "CAP-1"
  manifest := ⟨⟨"CAP-1", "1.0.0", .medium, "inspect", false⟩, "semgrep", 60, ["semgrep"]⟩
  command := ["semgrep", "scan"]
  workloadId := "WL-1"
  targetId := "TG-1"
  resourcePolicy := []
  runnable := by decide
  named := rfl
  allowed := by decide

/-- The job is run, replayed, and refused with another snapshot. -/
def sampleCalls : List RunnerCall :=
  [⟨samplePorts, 3, { sampleJob with snapshotId := "SN-2" }⟩, ⟨samplePorts, 2, sampleJob⟩,
    ⟨samplePorts, 1, sampleJob⟩]

def sampleHistory : List RunnerEntry × ReferenceEdgeRunner :=
  History.ofCalls (exec sampleTooling)
    ⟨⟨[("CAP-1", sampleCapability)], by decide⟩, Table.empty, none, [], []⟩ sampleCalls

theorem sample_runnerProtocol :
    (sampleHistory.1.map (fun e => e.outcome.isOk), sampleHistory.2.executions) =
        ([false, true, true], [sampleJob]) ∧
      RunnerProtocol sampleTooling (· ∈ sampleCalls.map RunnerCall.job) sampleHistory.1
        sampleHistory.2 := by
  have hdigest : ∀ a ∈ sampleCalls.map RunnerCall.job, ∀ b ∈ sampleCalls.map RunnerCall.job,
      a.jobDigest sampleTooling = b.jobDigest sampleTooling →
        a.unsigned sampleTooling = b.unsigned sampleTooling := by decide +kernel
  have hcalls : sampleHistory.1.map (fun e => e.call.job) = sampleCalls.map RunnerCall.job := by
    decide
  refine ⟨by decide +kernel, runnerProtocol ?_ rfl (History.ofCalls_history sampleCalls) ?_⟩
  · exact fun a b ha hb h => congrArg Value.sorted (hdigest a ha b hb h)
  · intro e he
    rw [← hcalls]
    exact List.mem_map_of_mem he

end Example

end SecScanMonitor.ContinuousSecurity.ReferenceEdgeRunner
