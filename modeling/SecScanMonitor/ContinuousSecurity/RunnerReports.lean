import SecScanMonitor.ContinuousSecurity.EventPlane
import SecScanMonitor.ContinuousSecurity.RunnerProtocol

/-! Receipts and their events. A receipt is stored before its event is ingested, and the plane may refuse
the event. -/

namespace SecScanMonitor.ContinuousSecurity

open Foundations Domain DetectionResponse

namespace ReferenceEdgeRunner

section Reports

variable {tooling : Tooling} {now : Datetime} {job : CanonicalJob}
  {workloadId status evidenceRef outputDigest : String} {e : SecurityEvent}

/-- The event is that of the receipt. -/
structure Reports (r : ResultReceipt) (e : SecurityEvent) : Prop where
  source : e.source = "secscan-edge-runner"
  record : e.provenance.sourceRecordId = r.jobId
  scope : (e.scope.tenantId, e.scope.caseId, e.scope.targetId) = (r.tenantId, r.caseId, r.targetId)
  output : r.outputDigest = some e.provenance.sourceDigest
  evidence : r.evidenceRef = some e.rawEvidenceRef
  outcome : e.outcome = r.status
  attributes : (Value.obj e.attributes).sorted =
    (Value.obj [("job_digest", .str r.jobDigest), ("network_policy", .str r.networkPolicy)]).sorted

/-- What the validators of an event ask of the record of a receipt. -/
structure Recordable (job : CanonicalJob) (workloadId evidenceRef outputDigest : String) : Prop where
  aware : job.signedAt.1 = true
  nonblank : ∀ s ∈ [job.jobId, job.tenantId, job.caseId, job.targetId, job.toolIdentity, workloadId,
    evidenceRef, outputDigest], isBlank s = false

/-- The event of a receipt, with its instant and its provenance read. -/
def reportArguments (tooling : Tooling) (now : Datetime) (job : CanonicalJob)
    (workloadId status evidenceRef outputDigest : String) (provenance : EventProvenance) : EventArguments :=
  SecurityEventPlane.argumentsOf tooling.reader
    (rawEvent tooling job workloadId status evidenceRef outputDigest)
    (SecurityEventPlane.deriveEventId tooling.codec "secscan-edge-runner" job.jobId job.signedAt.2 outputDigest)
    .scannerActivity job.signedAt.2 job.signedAt.2 provenance
    [(.str "job_digest", .str (job.jobDigest tooling)), (.str "network_policy", .str job.networkPolicy)]
    now []

lemma normalize_rawEvent_iff : SecurityEventPlane.normalize tooling.codec tooling.reader now
      (rawEvent tooling job workloadId status evidenceRef outputDigest) = .ok e ↔
    job.signedAt.1 = true ∧ ∃ provenance, EventProvenance.of job.jobId "secscan-edge-runner" "edge-runner-v1"
        evidenceRef outputDigest = .ok provenance ∧
      (reportArguments tooling now job workloadId status evidenceRef outputDigest provenance).event = .ok e := by
  have htime : parseTimestamp tooling.reader
      ((rawEvent tooling job workloadId status evidenceRef outputDigest).lookup "occurred_at") =
        awareOnly job.signedAt := rfl
  have htime' : parseTimestamp tooling.reader
      ((rawEvent tooling job workloadId status evidenceRef outputDigest).lookup "observed_at") =
        awareOnly job.signedAt := rfl
  have haware : ∀ {t}, awareOnly job.signedAt = .ok t ↔ job.signedAt.1 = true ∧ t = job.signedAt.2 := by
    intro t
    rw [awareOnly]
    split
    · rename_i h
      simp [h, eq_comm]
    · rename_i h
      exact iff_of_false nofun fun ht => h ht.1
  constructor
  · intro h
    obtain ⟨occurredAt, hoccurred, h⟩ := bind_eq_ok.mp h
    obtain ⟨observedAt, hobserved, h⟩ := bind_eq_ok.mp h
    obtain ⟨-, h⟩ := raiseIf_bind_eq_ok.mp h
    obtain ⟨eventClass, hclass, h⟩ := orRaise_bind_eq_ok.mp h
    obtain ⟨provenance, hprovenance, h⟩ := bind_eq_ok.mp h
    obtain ⟨hsigned, rfl⟩ := haware.mp (htime ▸ hoccurred)
    obtain ⟨-, rfl⟩ := haware.mp (htime' ▸ hobserved)
    have hscanner : eventClass = .scannerActivity :=
      (Option.some.inj hclass).symm
    subst hscanner
    exact ⟨hsigned, provenance, hprovenance, SecurityEventPlane.asTimestampError_eq_ok.mp h⟩
  · rintro ⟨hsigned, provenance, hprovenance, h⟩
    refine bind_eq_ok.mpr ⟨job.signedAt.2, htime.trans (haware.mpr ⟨hsigned, rfl⟩), ?_⟩
    refine bind_eq_ok.mpr ⟨job.signedAt.2, htime'.trans (haware.mpr ⟨hsigned, rfl⟩), ?_⟩
    refine raiseIf_bind_eq_ok.mpr ⟨Bool.false_ne_true, ?_⟩
    refine orRaise_bind_eq_ok.mpr ⟨.scannerActivity, rfl, ?_⟩
    exact bind_eq_ok.mpr ⟨provenance, hprovenance, SecurityEventPlane.asTimestampError_eq_ok.mpr h⟩

lemma provenance_eq_ok {a b c d f : String} {provenance : EventProvenance} :
    EventProvenance.of a b c d f = .ok provenance ↔
      (∀ s ∈ [a, b, c, d, f], isBlank s = false) ∧ provenance.sourceRecordId = a ∧
        provenance.sourceSystem = b ∧ provenance.collectorVersion = c ∧ provenance.rawEvidenceRef = d ∧
        provenance.sourceDigest = f := by
  rw [EventProvenance.of]
  split
  · rename_i hnonblank
    rw [List.all_eq_true] at hnonblank
    simp only [Bool.not_eq_true'] at hnonblank
    constructor
    · intro h
      obtain rfl := Except.ok.inj h
      exact ⟨hnonblank, rfl, rfl, rfl, rfl, rfl⟩
    · rintro ⟨-, rfl, rfl, rfl, rfl, rfl⟩
      rfl
  · rename_i hblank
    constructor
    · intro h
      cases h
    · rintro ⟨hnonblank, -⟩
      refine absurd ?_ hblank
      rw [List.all_eq_true]
      exact fun s hs => by rw [hnonblank s hs]; rfl

lemma provenance_isOk {a b c d f : String} (h : ∀ s ∈ [a, b, c, d, f], isBlank s = false) :
    ∃ provenance, EventProvenance.of a b c d f = .ok provenance := by
  have hnonblank : ([a, b, c, d, f].all fun s => !isBlank s) = true := by
    rw [List.all_eq_true]
    exact fun s hs => by rw [h s hs]; rfl
  exact ⟨_, dif_pos hnonblank⟩

variable {result : SandboxExecutionResult} {provenance : EventProvenance}

lemma statusOf_nonblank : isBlank (statusOf result) = false := by
  rw [statusOf]
  split
  · decide
  · split
    · decide
    · decide

/-- The event of a receipt says what the receipt says. -/
lemma reportArguments_reports (hprovenance : EventProvenance.of job.jobId "secscan-edge-runner"
      "edge-runner-v1" evidenceRef outputDigest = .ok provenance)
    (h : (reportArguments tooling now job workloadId (statusOf result) evidenceRef outputDigest
      provenance).event = .ok e) :
    Reports (receiptOf tooling job result evidenceRef outputDigest) e := by
  obtain ⟨-, hrecord, -, -, -, hdigest⟩ := provenance_eq_ok.mp hprovenance
  unfold EventArguments.event at h
  split at h
  · split at h
    · split at h
      · rename_i attributes _ hattributes _
        split at h
        · split at h
          · obtain rfl := Except.ok.inj h
            have hpairs : attributes = [("job_digest", .str (job.jobDigest tooling)),
                ("network_policy", .str job.networkPolicy)] := (Option.some.inj hattributes).symm
            refine ⟨rfl, hrecord, rfl, ?_, rfl, rfl, ?_⟩
            · exact congrArg some hdigest.symm
            · rw [hpairs]
              rfl
          · cases h
        · cases h
      · cases h
    · cases h
  · cases h

/-- An event whose other arguments fit is accepted where its scope and its texts are not blank. -/
lemma event_isOk {a : EventArguments} {attributes orderingMetadata : List (String × Value)}
    (hattributes : Documents.stringKeys a.attributes = some attributes)
    (hordering : Documents.stringKeys a.orderingMetadata = some orderingMetadata)
    (hordered : a.occurredAt ≤ a.observedAt) (hevidence : a.rawEvidenceRef = a.provenance.rawEvidenceRef) :
    (∃ e, a.event = .ok e) ↔ (isBlank a.tenant = false ∧ isBlank a.case_ = false ∧ isBlank a.target = false) ∧
      ∀ s ∈ a.texts, isBlank s = false := by
  have htexts : (a.texts.all fun s => !isBlank s) = true ↔ ∀ s ∈ a.texts, isBlank s = false := by
    rw [List.all_eq_true]
    simp only [Bool.not_eq_true']
  rw [← htexts]
  have hrefused : ∀ x : Raised, ¬ ∃ e : SecurityEvent, (.error x : Except Raised SecurityEvent) = .ok e := by
    rintro x ⟨e, h⟩
    cases h
  unfold EventArguments.event
  split
  · rename_i hscope
    split
    · rename_i hnonblank
      simp only [hattributes, hordering]
      exact iff_of_true ⟨_, rfl⟩ ⟨hscope, hnonblank⟩
    · rename_i hblank
      exact iff_of_false (hrefused _) fun h => hblank h.2
  · rename_i hscope
    exact iff_of_false (hrefused _) fun h => hscope h.1

lemma eventId_nonblank (tail : String) : isBlank ("SE-" ++ tail) = false := by
  rw [isBlank, String.toList_append, List.all_append]
  rfl

variable (tooling now result) in
/-- The record of a receipt is normalized exactly where its texts are not blank and its instant has a
timezone. -/
lemma normalize_isOk : (∃ e, SecurityEventPlane.normalize tooling.codec tooling.reader now
      (rawEvent tooling job workloadId (statusOf result) evidenceRef outputDigest) = .ok e) ↔
    Recordable job workloadId evidenceRef outputDigest := by
  have hargs : ∀ provenance : EventProvenance, provenance.rawEvidenceRef = evidenceRef →
      ((∃ e, (reportArguments tooling now job workloadId (statusOf result) evidenceRef outputDigest
        provenance).event = .ok e) ↔
        (isBlank job.tenantId = false ∧ isBlank job.caseId = false ∧ isBlank job.targetId = false) ∧
          isBlank workloadId = false ∧ isBlank job.toolIdentity = false ∧ isBlank evidenceRef = false) := by
    intro provenance hevidence
    have hiff := @event_isOk (reportArguments tooling now job workloadId (statusOf result) evidenceRef
      outputDigest provenance) _ _ rfl rfl (le_refl _) hevidence.symm
    rw [hiff]
    refine and_congr_right fun _ => ?_
    have htexts : (reportArguments tooling now job workloadId (statusOf result) evidenceRef outputDigest
        provenance).texts = [SecurityEventPlane.deriveEventId tooling.codec "secscan-edge-runner" job.jobId
          job.signedAt.2 outputDigest, "secscan-edge-runner", "runner", workloadId, job.toolIdentity, "execute",
          statusOf result, evidenceRef, "security-events-v1", "secscan", "scanner_activity", "1.8.0"] := rfl
    rw [htexts]
    simp only [List.forall_mem_cons, SecurityEventPlane.deriveEventId, eventId_nonblank, statusOf_nonblank]
    constructor
    · rintro ⟨-, -, -, hactor, hobject, -, -, hevidence, -⟩
      exact ⟨hactor, hobject, hevidence⟩
    · rintro ⟨hactor, hobject, hevidence⟩
      exact ⟨trivial, by decide, by decide, hactor, hobject, by decide, trivial, hevidence, by decide, by decide,
        by decide, by decide, List.forall_mem_nil _⟩
  constructor
  · rintro ⟨e, h⟩
    obtain ⟨haware, provenance, hprovenance, hevent⟩ := normalize_rawEvent_iff.mp h
    obtain ⟨hnonblank, -, -, -, hevidence, -⟩ := provenance_eq_ok.mp hprovenance
    simp only [List.forall_mem_cons] at hnonblank
    obtain ⟨⟨htenant, hcase, htarget⟩, hworkload, htool, href⟩ := (hargs provenance hevidence).mp ⟨e, hevent⟩
    refine ⟨haware, ?_⟩
    simp only [List.forall_mem_cons]
    exact ⟨hnonblank.1, htenant, hcase, htarget, htool, hworkload, href, hnonblank.2.2.2.2.1, List.forall_mem_nil _⟩
  · rintro ⟨haware, hnonblank⟩
    simp only [List.forall_mem_cons] at hnonblank
    obtain ⟨hjob, htenant, hcase, htarget, htool, hworkload, href, hdigest, -⟩ := hnonblank
    obtain ⟨provenance, hprovenance⟩ : ∃ provenance, EventProvenance.of job.jobId "secscan-edge-runner"
        "edge-runner-v1" evidenceRef outputDigest = .ok provenance := by
      apply provenance_isOk
      simp only [List.forall_mem_cons]
      exact ⟨hjob, by decide, by decide, href, hdigest, List.forall_mem_nil _⟩
    obtain ⟨-, -, -, -, hevidence, -⟩ := provenance_eq_ok.mp hprovenance
    obtain ⟨e, hevent⟩ := (hargs provenance hevidence).mpr
      ⟨⟨htenant, hcase, htarget⟩, hworkload, htool, href⟩
    exact ⟨e, normalize_rawEvent_iff.mpr ⟨haware, provenance, hprovenance, hevent⟩⟩

lemma normalize_reports (h : SecurityEventPlane.normalize tooling.codec tooling.reader now
      (rawEvent tooling job workloadId (statusOf result) evidenceRef outputDigest) = .ok e) :
    e.eventId = SecurityEventPlane.expectedId tooling.codec e ∧
      Reports (receiptOf tooling job result evidenceRef outputDigest) e := by
  obtain ⟨-, provenance, hprovenance, hevent⟩ := normalize_rawEvent_iff.mp h
  exact ⟨(SecurityEventPlane.normalize_eq_ok h).1, reportArguments_reports hprovenance hevent⟩

/-- Another event of the same content is also that of the receipt. -/
lemma Reports.same {r : ResultReceipt} {codec : Codec} {x : SecurityEvent} (h : Reports r e)
    (hsame : (x.canonicalDict codec).sorted = (e.canonicalDict codec).sorted) : Reports r x := by
  obtain ⟨hsource, -, -, -, -, hscope, -, -, -, houtcome, -, hevidence, -, hprovenance, hattributes, -⟩ :=
    SecurityEvent.canonicalDict_fields hsame
  refine ⟨hsource.trans h.source, ?_, ?_, ?_, ?_, houtcome.trans h.outcome, ?_⟩
  · rw [hprovenance, h.record]
  · rw [hscope, h.scope]
  · rw [hprovenance, h.output]
  · rw [hevidence, h.evidence]
  · rw [← h.attributes]
    exact congrArg Value.obj hattributes

end Reports

section Submissions

variable (tooling : Tooling)

def outputDigestOf (result : SandboxExecutionResult) : String :=
  tooling.sha256 (tooling.sanitizeOutput result.stdout result.stderr)

/-- The submission gets as far as a receipt. -/
structure Concludes (call : RunnerCall) (runner : ReferenceEdgeRunner) (identity : WorkloadIdentity)
    (result : SandboxExecutionResult) (evidenceRef : String) : Prop where
  authentic : authenticate tooling call.ports call.job = .ok ()
  fresh : runner.receipts.find? call.job.key = none
  executed : ∃ capability, bind call.ports call.job runner = .ok (capability, identity) ∧
    call.ports.execute capability.manifest capability.command call.job.timeoutSeconds
      [("SECSCAN_RUNNER", "1")] = .ok result
  kept : call.ports.put (tooling.sanitizeOutput result.stdout result.stderr) "edge-runner-result" =
    .ok evidenceRef

def rawOf (call : RunnerCall) (identity : WorkloadIdentity) (result : SandboxExecutionResult)
    (evidenceRef : String) : Raw :=
  rawEvent tooling call.job identity.workloadId (statusOf result) evidenceRef (outputDigestOf tooling result)

/-- The event of the receipt is one that the plane takes. -/
def Reportable (call : RunnerCall) (runner : ReferenceEdgeRunner) : Prop :=
  ∀ identity result evidenceRef, Concludes tooling call runner identity result evidenceRef →
    ∀ plane ∈ runner.events,
      Recordable call.job identity.workloadId evidenceRef (outputDigestOf tooling result) ∧
        ∀ e, SecurityEventPlane.normalize tooling.codec tooling.reader call.now
          (rawOf tooling call identity result evidenceRef) = .ok e → plane.Takes tooling.codec e

variable {tooling} {call : RunnerCall} {runner : ReferenceEdgeRunner}

variable (tooling call runner) in
/-- A submission stores no receipt, or it stores one and then reports it. -/
lemma submit_concludes : (∃ outcome runner', exec tooling call runner = (outcome, runner') ∧
      runner'.receipts = runner.receipts ∧ runner'.events = runner.events ∧
      ∀ identity result evidenceRef, ¬ Concludes tooling call runner identity result evidenceRef) ∨
    ∃ identity result evidenceRef runner', Concludes tooling call runner identity result evidenceRef ∧
      runner'.receipts = runner.receipts.set call.job.key
        (receiptOf tooling call.job result evidenceRef (outputDigestOf tooling result)) ∧
      runner'.events = runner.events ∧
      exec tooling call runner =
        ((report tooling call.now (rawOf tooling call identity result evidenceRef) runner').1.map
            fun _ => receiptOf tooling call.job result evidenceRef (outputDigestOf tooling result),
          (report tooling call.now (rawOf tooling call identity result evidenceRef) runner').2) := by
  rw [exec, submit]
  cases hauthenticate : authenticate tooling call.ports call.job with
  | error e =>
    refine Or.inl ⟨_, _, rfl, rfl, rfl, fun _ _ _ h => ?_⟩
    rw [h.authentic] at hauthenticate
    cases hauthenticate
  | ok u =>
    simp only
    cases hprevious : runner.receipts.find? call.job.key with
    | some previous =>
      have hstored : ∀ identity result evidenceRef,
          ¬ Concludes tooling call runner identity result evidenceRef := by
        intro _ _ _ h
        rw [h.fresh] at hprevious
        cases hprevious
      simp only
      split
      · exact Or.inl ⟨_, _, rfl, rfl, rfl, hstored⟩
      · exact Or.inl ⟨_, _, rfl, rfl, rfl, hstored⟩
    | none =>
      simp only
      cases hbind : bind call.ports call.job runner with
      | error e =>
        refine Or.inl ⟨_, _, rfl, rfl, rfl, fun _ _ _ h => ?_⟩
        obtain ⟨capability, hbound, -⟩ := h.executed
        rw [hbound] at hbind
        cases hbind
      | ok bound =>
        obtain ⟨capability, identity⟩ := bound
        simp only [runJob]
        cases hexecute : call.ports.execute capability.manifest capability.command call.job.timeoutSeconds
            [("SECSCAN_RUNNER", "1")] with
        | error e =>
          refine Or.inl ⟨_, _, rfl, rfl, rfl, fun _ _ _ h => ?_⟩
          obtain ⟨capability', hbound, hexecuted⟩ := h.executed
          obtain ⟨rfl, rfl⟩ := Prod.mk.inj (Except.ok.inj (hbind.symm.trans hbound))
          rw [hexecuted] at hexecute
          cases hexecute
        | ok result =>
          simp only [conclude]
          cases hput : call.ports.put (tooling.sanitizeOutput result.stdout result.stderr)
              "edge-runner-result" with
          | error e =>
            refine Or.inl ⟨_, _, rfl, rfl, rfl, fun _ _ _ h => ?_⟩
            obtain ⟨capability', hbound, hexecuted⟩ := h.executed
            obtain ⟨rfl, rfl⟩ := Prod.mk.inj (Except.ok.inj (hbind.symm.trans hbound))
            obtain rfl := Except.ok.inj (hexecute.symm.trans hexecuted)
            have hkept := h.kept
            rw [hput] at hkept
            cases hkept
          | ok evidenceRef =>
            refine Or.inr ⟨identity, result, evidenceRef,
              { runner with
                evidence := runner.evidence ++
                  [⟨tooling.sanitizeOutput result.stdout result.stderr, "edge-runner-result"⟩]
                executions := runner.executions ++ [call.job]
                receipts := runner.receipts.set call.job.key
                  (receiptOf tooling call.job result evidenceRef (outputDigestOf tooling result)) },
              ⟨hauthenticate, hprevious, ⟨capability, hbind, hexecute⟩, hput⟩, rfl, rfl, rfl⟩

end Submissions

section Histories

variable (tooling : Tooling)

/-- A submission, or a record that someone else brings to the event plane. -/
inductive PlaneCall where
  | submit (call : RunnerCall)
  | ingest (call : IngestCall)

def PlaneCall.exec : PlaneCall → Effect ReferenceEdgeRunner (Option ResultReceipt)
  | .submit call => fun runner =>
    let r := ReferenceEdgeRunner.exec tooling call runner
    (r.1.map some, r.2)
  | .ingest call => fun runner =>
    match runner.events with
    | none => (.ok none, runner)
    | some plane =>
      let r := call.exec tooling.codec tooling.reader plane
      (r.1.map fun _ => none, { runner with events := some r.2 })

abbrev PlaneEntry := Entry PlaneCall ReferenceEdgeRunner (Except Raised (Option ResultReceipt))

/-- The events that a call may bring to the plane. -/
def Brought (call : PlaneCall) (runner : ReferenceEdgeRunner) (e : SecurityEvent) : Prop :=
  match call with
  | .submit call => ∃ identity result evidenceRef,
    Concludes tooling call runner identity result evidenceRef ∧
      SecurityEventPlane.normalize tooling.codec tooling.reader call.now
        (rawOf tooling call identity result evidenceRef) = .ok e
  | .ingest call => call.event tooling.codec tooling.reader = .ok e

/-- Every receipt has its event in the plane. -/
def Backed (runner : ReferenceEdgeRunner) : Prop :=
  ∃ plane, runner.events = some plane ∧ ∀ k r, runner.receipts.find? k = some r →
    ∃ id e, plane.events.find? id = some e ∧ Reports r e

/-- A submission that raised has stored no receipt. -/
def RaisesBare (entry : PlaneEntry) : Prop :=
  ∀ x, entry.outcome = .error x → ∀ k,
    (entry.call.exec tooling entry.before).2.receipts.find? k = entry.before.receipts.find? k

/-- The invariant: every receipt has its event, and all events of the plane are known. -/
structure Accounted (known : SecurityEvent → Prop) (runner : ReferenceEdgeRunner)
    (plane : SecurityEventPlane) : Prop where
  events : runner.events = some plane
  held : ∀ id e, plane.events.find? id = some e → known e
  receipts : ∀ k r, runner.receipts.find? k = some r → ∃ id e, plane.events.find? id = some e ∧ Reports r e

variable {tooling} {known : SecurityEvent → Prop} {runner runner' : ReferenceEdgeRunner}
  {plane : SecurityEventPlane} {call : RunnerCall}

lemma PlaneCall.exec_submit : PlaneCall.exec tooling (.submit call) runner =
    ((ReferenceEdgeRunner.exec tooling call runner).1.map some,
      (ReferenceEdgeRunner.exec tooling call runner).2) :=
  rfl

/-- What an ingestion leaves of the invariant, where the receipts stay. -/
lemma Accounted.ingested {e : SecurityEvent} (h : Accounted known runner plane)
    (hreceipts : runner'.receipts = runner.receipts)
    (hevents : runner'.events = some (plane.ingest tooling.codec e).2) (he : known e) :
    Accounted known runner' (plane.ingest tooling.codec e).2 := by
  have hingest := SecurityEventPlane.ingest_ingested tooling.codec plane e
  refine ⟨hevents, ?_, ?_⟩
  · intro id x hx
    rcases hingest.origin hx with hold | rfl
    · exact h.held id x hold
    · exact he
  · intro k r hr
    rw [hreceipts] at hr
    obtain ⟨id, x, hx, hreports⟩ := h.receipts k r hr
    exact ⟨id, x, hingest.extends hx, hreports⟩

lemma ingest_accounted (h : Accounted known runner plane) (ingest : IngestCall)
    (hbrought : ∀ e, Brought tooling (.ingest ingest) runner e → known e) :
    (∃ plane', Accounted known (PlaneCall.exec tooling (.ingest ingest) runner).2 plane') ∧
      RaisesBare tooling ⟨.ingest ingest, runner, (PlaneCall.exec tooling (.ingest ingest) runner).1⟩ := by
  have hexec : PlaneCall.exec tooling (.ingest ingest) runner =
      ((ingest.exec tooling.codec tooling.reader plane).1.map fun _ => none,
        { runner with events := some (ingest.exec tooling.codec tooling.reader plane).2 }) := by
    simp only [PlaneCall.exec, h.events]
  rw [RaisesBare, hexec]
  refine ⟨?_, fun _ _ _ => rfl⟩
  cases hevent : ingest.event tooling.codec tooling.reader with
  | error x =>
    rw [IngestCall.exec_of_error hevent]
    exact ⟨plane, rfl, h.held, h.receipts⟩
  | ok e =>
    rw [IngestCall.exec_of_event hevent]
    exact ⟨_, h.ingested rfl rfl (hbrought e hevent)⟩

lemma report_eq (now : Datetime) (raw : Raw) (hevents : runner.events = some plane) :
    report tooling now raw runner =
      ((SecurityEventPlane.ingestRaw tooling.codec tooling.reader now raw plane).1.map fun _ => (),
        { runner with
          events := some (SecurityEventPlane.ingestRaw tooling.codec tooling.reader now raw plane).2 }) := by
  rw [report, hevents]

lemma Concludes.unique {identity identity' : WorkloadIdentity} {result result' : SandboxExecutionResult}
    {evidenceRef evidenceRef' : String} (h : Concludes tooling call runner identity result evidenceRef)
    (h' : Concludes tooling call runner identity' result' evidenceRef') :
    identity = identity' ∧ result = result' ∧ evidenceRef = evidenceRef' := by
  obtain ⟨capability, hbind, hexecute⟩ := h.executed
  obtain ⟨capability', hbind', hexecute'⟩ := h'.executed
  obtain ⟨rfl, rfl⟩ := Prod.mk.inj (Except.ok.inj (hbind.symm.trans hbind'))
  obtain rfl := Except.ok.inj (hexecute.symm.trans hexecute')
  exact ⟨rfl, rfl, Except.ok.inj (h.kept.symm.trans h'.kept)⟩

/-- The step lemma: a submission whose event is one that the plane takes leaves every receipt with its event,
and if it raises it has stored none. -/
lemma submit_reportable (hdigest : ∀ a b, known a → known b →
      a.fingerprint tooling.codec = b.fingerprint tooling.codec →
        (a.canonicalDict tooling.codec).sorted = (b.canonicalDict tooling.codec).sorted)
    (h : Accounted known runner plane) (hbrought : ∀ e, Brought tooling (.submit call) runner e → known e)
    (hreport : Reportable tooling call runner) :
    (∃ plane', Accounted known (exec tooling call runner).2 plane') ∧
      ((∃ r, (exec tooling call runner).1 = .ok r) ∨
        (exec tooling call runner).2.receipts = runner.receipts) := by
  rcases submit_concludes tooling call runner with
    ⟨outcome, runner', hexec, hreceipts, hevents, -⟩ |
      ⟨identity, result, evidenceRef, runner', hconcludes, hreceipts, hevents, hexec⟩
  · rw [hexec]
    refine ⟨⟨plane, hevents.trans h.events, h.held, ?_⟩, Or.inr hreceipts⟩
    rw [hreceipts]
    exact h.receipts
  · obtain ⟨hrecordable, htakes⟩ := hreport identity result evidenceRef hconcludes plane h.events
    obtain ⟨e, he⟩ := (normalize_isOk tooling call.now result).mpr hrecordable
    obtain ⟨hid, hreports⟩ := normalize_reports he
    have hknown := hbrought e ⟨identity, result, evidenceRef, hconcludes, he⟩
    have hraw : SecurityEventPlane.ingestRaw tooling.codec tooling.reader call.now
        (rawOf tooling call identity result evidenceRef) plane = plane.ingest tooling.codec e := by
      rw [SecurityEventPlane.ingestRaw, rawOf]
      simp only [he]
    have hingest := SecurityEventPlane.ingest_ingested tooling.codec plane e
    obtain ⟨answer, hanswer⟩ : ∃ answer, (plane.ingest tooling.codec e).1 = .ok answer := by
      cases hcase : plane.ingest tooling.codec e with
      | mk outcome plane' =>
        rw [hcase] at hingest
        cases hingest with
        | refused x hrefused => exact absurd ⟨hid, htakes e he⟩ hrefused
        | kept x hx hsame r => exact ⟨r, rfl⟩
        | added hnone htaken r fingerprints => exact ⟨r, rfl⟩
    rw [hexec, report_eq _ _ (hevents.trans h.events), hraw, hanswer]
    refine ⟨⟨(plane.ingest tooling.codec e).2, rfl, ?_, ?_⟩, Or.inl ⟨_, rfl⟩⟩
    · intro id x hx
      rcases hingest.origin hx with hold | rfl
      · exact h.held id x hold
      · exact hknown
    · intro k r hr
      simp only [hreceipts] at hr
      rcases Dict.find?_set_eq_some hr with ⟨-, rfl⟩ | hold
      · obtain ⟨x, hx, hsame⟩ := hingest.stored hanswer
        have hxknown : known x := by
          rcases hingest.origin hx with hold | rfl
          · exact h.held _ x hold
          · exact hknown
        exact ⟨_, x, hx, hreports.same (hdigest x e hxknown hknown hsame)⟩
      · obtain ⟨id, x, hx, hold⟩ := h.receipts k r hold
        exact ⟨id, x, hingest.extends hx, hold⟩

/-- A submission whose event the plane does not take raises, with its receipt stored. -/
lemma submit_unreportable (hevents : runner.events = some plane) (hreport : ¬ Reportable tooling call runner) :
    runner.receipts.find? call.job.key = none ∧ ∃ x r, (exec tooling call runner).1 = .error x ∧
      (exec tooling call runner).2.receipts.find? call.job.key = some r := by
  simp only [Reportable, not_forall, not_and] at hreport
  obtain ⟨identity, result, evidenceRef, hconcludes, plane', hplane, hrefused⟩ := hreport
  obtain rfl := Option.some.inj (hevents.symm.trans hplane)
  refine ⟨hconcludes.fresh, ?_⟩
  rcases submit_concludes tooling call runner with
    ⟨-, -, -, -, -, hnone⟩ | ⟨identity', result', evidenceRef', runner', hconcludes', hreceipts, hsame, hexec⟩
  · exact absurd hconcludes (hnone identity result evidenceRef)
  · obtain ⟨rfl, rfl, rfl⟩ := hconcludes'.unique hconcludes
    have hraised : ∃ x, (SecurityEventPlane.ingestRaw tooling.codec tooling.reader call.now
        (rawOf tooling call identity' result' evidenceRef') plane).1 = .error x := by
      rw [SecurityEventPlane.ingestRaw]
      cases hnormal : SecurityEventPlane.normalize tooling.codec tooling.reader call.now
          (rawOf tooling call identity' result' evidenceRef') with
      | error x => exact ⟨x, rfl⟩
      | ok e =>
        have hrecordable := (normalize_isOk tooling call.now result').mp ⟨e, hnormal⟩
        obtain ⟨e', he', htakes⟩ := hrefused hrecordable
        obtain rfl := Except.ok.inj (hnormal.symm.trans he')
        have hingest := SecurityEventPlane.ingest_ingested tooling.codec plane e
        simp only
        cases hcase : plane.ingest tooling.codec e with
        | mk outcome plane' =>
          rw [hcase] at hingest
          cases hingest with
          | refused x _ => exact ⟨x, rfl⟩
          | kept x hx hfp _ => exact absurd (Or.inl ⟨x, hx, hfp⟩) htakes
          | added _ htaken _ _ => exact absurd htaken htakes
    obtain ⟨x, hx⟩ := hraised
    rw [hexec, report_eq _ _ (hsame.trans hevents), hx]
    refine ⟨x, receiptOf tooling call.job result' evidenceRef' (outputDigestOf tooling result'), rfl, ?_⟩
    simp only [hreceipts]
    exact Dict.find?_set_self _ _ _

lemma submit_accounted (hdigest : ∀ a b, known a → known b →
      a.fingerprint tooling.codec = b.fingerprint tooling.codec →
        (a.canonicalDict tooling.codec).sorted = (b.canonicalDict tooling.codec).sorted)
    (h : Accounted known runner plane) (hbrought : ∀ e, Brought tooling (.submit call) runner e → known e)
    (hreport : Reportable tooling call runner) :
    (∃ plane', Accounted known (PlaneCall.exec tooling (.submit call) runner).2 plane') ∧
      RaisesBare tooling ⟨.submit call, runner, (PlaneCall.exec tooling (.submit call) runner).1⟩ := by
  obtain ⟨hkept, hreturned⟩ := submit_reportable hdigest h hbrought hreport
  rw [RaisesBare, PlaneCall.exec_submit]
  refine ⟨hkept, fun x hx k => ?_⟩
  rcases hreturned with ⟨r, hr⟩ | hreceipts
  · rw [hr] at hx
    cases hx
  · exact congrArg (fun d => Dict.find? d k) hreceipts

lemma Accounted.backed (h : Accounted known runner plane) : Backed runner := ⟨plane, h.events, h.receipts⟩

/-- The run lemma: the invariant holds in every state of a history whose submissions are reportable. -/
lemma history_accounted {start : ReferenceEdgeRunner} {es : List PlaneEntry}
    (hdigest : ∀ a b, known a → known b →
      a.fingerprint tooling.codec = b.fingerprint tooling.codec →
        (a.canonicalDict tooling.codec).sorted = (b.canonicalDict tooling.codec).sorted)
    (hstart : Accounted known start plane) (h : History (PlaneCall.exec tooling) start es runner)
    (hbrought : ∀ entry ∈ es, ∀ e, Brought tooling entry.call entry.before e → known e)
    (hreport : ∀ entry ∈ es, ∀ call, entry.call = .submit call → Reportable tooling call entry.before) :
    (∃ plane', Accounted known runner plane') ∧
      ∀ entry ∈ es, Backed entry.before ∧ RaisesBare tooling entry := by
  induction h with
  | nil => exact ⟨⟨plane, hstart⟩, List.forall_mem_nil _⟩
  | @call es runner c h ih =>
    obtain ⟨⟨plane', haccounted⟩, hentries⟩ :=
      ih (fun entry hentry => hbrought entry (List.mem_cons_of_mem _ hentry))
        fun entry hentry => hreport entry (List.mem_cons_of_mem _ hentry)
    have hnow := hbrought _ List.mem_cons_self
    have hstep : (∃ plane', Accounted known (PlaneCall.exec tooling c runner).2 plane') ∧
        RaisesBare tooling ⟨c, runner, (PlaneCall.exec tooling c runner).1⟩ := by
      cases c with
      | ingest ingest => exact ingest_accounted haccounted ingest hnow
      | submit call => exact submit_accounted hdigest haccounted hnow (hreport _ List.mem_cons_self call rfl)
    refine ⟨hstep.1, fun entry hentry => ?_⟩
    rcases List.mem_cons.mp hentry with rfl | hentry
    · exact ⟨haccounted.backed, hstep.2⟩
    · exact hentries entry hentry

/-- The receipts of every state that a history goes through have their events, and no submission that raised
has stored a receipt, exactly where every submission that gets as far as a receipt has an event that the plane
takes. -/
theorem receipts_backed_iff {start : ReferenceEdgeRunner} {es : List PlaneEntry}
    (hdigest : ∀ a b, known a → known b →
      a.fingerprint tooling.codec = b.fingerprint tooling.codec →
        (a.canonicalDict tooling.codec).sorted = (b.canonicalDict tooling.codec).sorted)
    (hstart : start.receipts = Table.empty) (hplane : start.events = some plane)
    (hheld : ∀ id e, plane.events.find? id = some e → known e)
    (h : History (PlaneCall.exec tooling) start es runner)
    (hbrought : ∀ entry ∈ es, ∀ e, Brought tooling entry.call entry.before e → known e) :
    (Backed runner ∧ ∀ entry ∈ es, Backed entry.before ∧ RaisesBare tooling entry) ↔
      ∀ entry ∈ es, ∀ call, entry.call = .submit call → Reportable tooling call entry.before := by
  constructor
  · rintro ⟨-, hentries⟩ entry hentry call hcall
    obtain ⟨⟨plane', hevents, -⟩, hbare⟩ := hentries entry hentry
    by_contra hreport
    obtain ⟨hfresh, x, r, hraised, hstored⟩ := submit_unreportable hevents hreport
    have houtcome : entry.outcome = .error x := by
      rw [h.outcome_eq hentry, hcall, PlaneCall.exec_submit, hraised]
      rfl
    have hsame := hbare x houtcome call.job.key
    rw [hcall, hfresh] at hsame
    exact absurd (hstored.symm.trans hsame) nofun
  · intro hreport
    have haccounted : Accounted known start plane := by
      refine ⟨hplane, hheld, fun k r hr => ?_⟩
      rw [hstart] at hr
      cases hr
    obtain ⟨⟨plane', hkept⟩, hentries⟩ := history_accounted hdigest haccounted h hbrought hreport
    exact ⟨hkept.backed, hentries⟩

end Histories

section Example

def tenantText (tenantId caseId : String) : String :=
  "\x7b\"authority_decision\":\"allow\",\"capability_id\":\"CAP-1\",\"case_id\":\"" ++ caseId ++
    "\",\"input_digest\":\"id\",\"job_id\":\"JB-1\",\"network_policy\":\"none\"" ++
    ",\"resource_policy\":\x7b\x7d,\"signed_at\":\"1970-01-01T00:00:00Z\",\"signing_key_id\":\"K-1\"" ++
    ",\"snapshot_id\":\"SN-1\",\"target_id\":\"TG-1\",\"tenant_id\":\"" ++ tenantId ++
    "\",\"timeout_seconds\":30,\"tool_identity\":\"semgrep\"\x7d"

/-- The texts and digests that one job of two tenants needs. -/
def tenantTooling : Tooling :=
  { sampleTooling with
    codec :=
      { sampleTooling.codec with
        contentDigest v :=
          if v.member? "tenant" = some (.str "CL-1") then
            "49f8ac28c852e97e2c67e2dd7e2638c8fd4be98615b1f356215307bd8a770467"
          else if v.member? "tenant" = some (.str "CL-2") then
            "7c10cf3a9e19e8e340df92961160704b93a7eb954a75a00fbf823614c7788002"
          else "6bf7d67505e3cda53d50f0217747cd7bd93c185f67cc088ac21b067262d112ed" }
    stableJson v :=
      if v.member? "tenant_id" = some (.str "CL-1") then tenantText "CL-1" "EN-1"
      else tenantText "CL-2" "EN-2"
    sha256 s :=
      if s = tenantText "CL-1" "EN-1" then "c83cb60b1aebd004d864489c7563481f299a555600d1ff183ec7bde71fb3b56b"
      else if s = tenantText "CL-2" "EN-2" then
        "4f3b82433b8df9c3d2b270adf6781559cdabc35572ac774627455bf1f501a8ad"
      else "4cb748c4ce6039f4e9d808b89c0d8b69028090869422cba0ff3e6a9903c3f73e" }

def tenantPorts : RunnerPorts :=
  { samplePorts with resolve := fun job => .ok ⟨"WL-1", job.tenantId, job.caseId⟩ }

def emptyRunner : ReferenceEdgeRunner :=
  ⟨Table.single ("CAP-1", sampleCapability), Table.empty, some SecurityEventPlane.empty, [], []⟩

/-- The event of the sample job. -/
def sampleKnown (e : SecurityEvent) : Prop :=
  SecurityEventPlane.normalize tenantTooling.codec tenantTooling.reader 1
    (rawOf tenantTooling ⟨tenantPorts, 1, sampleJob⟩ ⟨"WL-1", "CL-1", "EN-1"⟩
      ⟨"SB-1", 0, "", "", false, "default"⟩
      "4cb748c4ce6039f4e9d808b89c0d8b69028090869422cba0ff3e6a9903c3f73e") = .ok e

lemma sample_concludes : Concludes tenantTooling ⟨tenantPorts, 1, sampleJob⟩ emptyRunner
    ⟨"WL-1", "CL-1", "EN-1"⟩ ⟨"SB-1", 0, "", "", false, "default"⟩
    "4cb748c4ce6039f4e9d808b89c0d8b69028090869422cba0ff3e6a9903c3f73e" where
  authentic := by decide
  fresh := rfl
  executed := ⟨sampleCapability, by decide, rfl⟩
  kept := by decide

def reportedHistory : List PlaneEntry × ReferenceEdgeRunner :=
  History.ofCalls (PlaneCall.exec tenantTooling) emptyRunner [.submit ⟨tenantPorts, 1, sampleJob⟩]

theorem sample_reported :
    (reportedHistory.2.receipts.find? ("CL-1", "EN-1", "JB-1")).isSome ∧
      (Backed reportedHistory.2 ∧
        ∀ entry ∈ reportedHistory.1, Backed entry.before ∧ RaisesBare tenantTooling entry) := by
  refine ⟨by decide +kernel, ?_⟩
  refine (@receipts_backed_iff tenantTooling sampleKnown reportedHistory.2 SecurityEventPlane.empty
    emptyRunner reportedHistory.1 ?_ rfl rfl ?_ (History.ofCalls_history _) ?_).mpr ?_
  · intro a b ha hb _
    obtain rfl := Except.ok.inj (ha.symm.trans hb)
    rfl
  · intro id e he
    cases he
  · intro entry hentry e hbrought
    obtain rfl := List.mem_singleton.mp hentry
    obtain ⟨identity, result, evidenceRef, hconcludes, he⟩ := hbrought
    obtain ⟨rfl, rfl, rfl⟩ := hconcludes.unique sample_concludes
    exact he
  · intro entry hentry call hcall identity result evidenceRef hconcludes plane hplane
    obtain rfl := List.mem_singleton.mp hentry
    obtain rfl := PlaneCall.submit.inj hcall
    obtain ⟨rfl, rfl, rfl⟩ := hconcludes.unique sample_concludes
    obtain rfl := Option.some.inj hplane
    exact ⟨⟨rfl, by decide +kernel⟩, fun _ _ => Or.inr ⟨rfl, nofun⟩⟩

def otherJob : CanonicalJob := { sampleJob with tenantId := "CL-2", caseId := "EN-2" }

/-- Two tenants submit a job of one id, one instant and one output, and the second submits it again. -/
def tenantHistory : List PlaneEntry × ReferenceEdgeRunner :=
  History.ofCalls (PlaneCall.exec tenantTooling) emptyRunner
    [.submit ⟨tenantPorts, 3, otherJob⟩, .submit ⟨tenantPorts, 2, otherJob⟩,
      .submit ⟨tenantPorts, 1, sampleJob⟩]

theorem other_tenant_unreported :
    History (PlaneCall.exec tenantTooling) emptyRunner tenantHistory.1 tenantHistory.2 ∧
      tenantHistory.1.map (fun entry => entry.outcome.isOk) = [true, false, true] ∧
      ¬ (Backed tenantHistory.2 ∧
        ∀ entry ∈ tenantHistory.1, Backed entry.before ∧ RaisesBare tenantTooling entry) := by
  have hfacts : tenantHistory.1.map (fun entry => entry.outcome.isOk) = [true, false, true] ∧
      (∀ p ∈ tenantHistory.2.events.elim [] (fun plane => plane.events.rows),
        p.2.scope.tenantId = "CL-1") ∧
      (tenantHistory.2.receipts.find? ("CL-2", "EN-2", "JB-1")).map ResultReceipt.tenantId =
        some "CL-2" := by decide +kernel
  obtain ⟨houtcomes, hscopes, hstored⟩ := hfacts
  refine ⟨History.ofCalls_history _, houtcomes, ?_⟩
  rintro ⟨⟨plane, hplane, hreceipts⟩, -⟩
  obtain ⟨r, hr, htenant⟩ := Option.map_eq_some_iff.mp hstored
  obtain ⟨id, e, he, hreports⟩ := hreceipts _ r hr
  rw [hplane] at hscopes
  have hscope := hscopes (id, e) (Dict.find?_eq_some_iff.mp he)
  have hsame : e.scope.tenantId = r.tenantId := congrArg Prod.fst hreports.scope
  rw [hscope, htenant] at hsame
  exact absurd hsame (by decide)

end Example

end ReferenceEdgeRunner

end SecScanMonitor.ContinuousSecurity
