import SecScanMonitor.ContinuousSecurity.Gateway
import SecScanMonitor.Domain.Capability

/-! The reference runner for signed jobs (`continuous_security/runner.py`). -/

namespace SecScanMonitor.ContinuousSecurity

open Foundations Domain DetectionResponse

/-- A job. Copies of a job are not validated, so nothing is asked of its fields. -/
structure CanonicalJob where
  jobId : String
  tenantId : String
  caseId : String
  targetId : String
  snapshotId : String
  capabilityId : String
  authorityDecision : PolicyDecision
  inputDigest : String
  toolIdentity : String
  timeoutSeconds : Int
  networkPolicy : String
  resourcePolicy : List (String × String)
  signingKeyId : String
  signedAt : Bool × Datetime
  signature : String
  deriving DecidableEq

namespace CanonicalJob

variable (tooling : Tooling)

def key (job : CanonicalJob) : String × String × String := (job.tenantId, job.caseId, job.jobId)

/-- What is signed: the job without its signature. -/
def unsigned (job : CanonicalJob) : Value := .obj
  [("job_id", .str job.jobId), ("tenant_id", .str job.tenantId), ("case_id", .str job.caseId),
    ("target_id", .str job.targetId), ("snapshot_id", .str job.snapshotId),
    ("capability_id", .str job.capabilityId),
    ("authority_decision", .str job.authorityDecision.value), ("input_digest", .str job.inputDigest),
    ("tool_identity", .str job.toolIdentity), ("timeout_seconds", .int job.timeoutSeconds),
    ("network_policy", .str job.networkPolicy), ("resource_policy", textMembers job.resourcePolicy),
    ("signing_key_id", .str job.signingKeyId),
    ("signed_at", .str (if job.signedAt.1 then tooling.codec.dumpDatetime job.signedAt.2
      else tooling.dumpNaive job.signedAt.2))]

/-- `unsigned_bytes` -/
def unsignedBytes (job : CanonicalJob) : String := tooling.stableJson (job.unsigned tooling)

def jobDigest (job : CanonicalJob) : String := tooling.sha256 (job.unsignedBytes tooling)

end CanonicalJob

/-- The fields of a manifest that running a capability reads. -/
structure RunnerManifest extends CapabilityManifest where
  toolIdentity : String
  timeoutSeconds : Int
  commandAllowlist : List String
  deriving DecidableEq

structure RunnerCapability where
  capabilityId : String
  manifest : RunnerManifest
  command : List String
  workloadId : String
  targetId : String
  resourcePolicy : List (String × String)
  runnable : command ≠ [] ∧ "" ∉ command
  named : manifest.capabilityId = capabilityId
  allowed : command.head?.any (fun part => decide (part ∈ manifest.commandAllowlist))
  deriving DecidableEq

structure WorkloadIdentity where
  workloadId : String
  tenantId : String
  caseId : String
  deriving DecidableEq

structure SandboxExecutionResult where
  sandboxId : String
  exitCode : Int
  stdout : String
  stderr : String
  timedOut : Bool
  profileName : String
  deriving DecidableEq

structure ResultReceipt where
  jobId : String
  tenantId : String
  caseId : String
  targetId : String
  snapshotId : String
  capabilityId : String
  status : String
  jobDigest : String
  evidenceRef : Option String
  outputDigest : Option String
  timedOut : Bool
  networkPolicy : String
  cleanupConfirmed : Bool
  telemetry : List (String × String)
  deriving DecidableEq

/-- What a submission meets outside the runner: the verifier, the identity port, the sandbox and the
evidence store. All of them may raise. -/
structure RunnerPorts where
  verify : (message signature keyId : String) → Except Raised Bool
  resolve : CanonicalJob → Except Raised WorkloadIdentity
  execute : RunnerManifest → (command : List String) → (timeoutSeconds : Int) →
    (environment : List (String × String)) → Except Raised SandboxExecutionResult
  put : (content contentType : String) → Except Raised String

structure ReferenceEdgeRunner where
  capabilities : Dict String RunnerCapability
  receipts : Dict (String × String × String) ResultReceipt
  events : Option SecurityEventPlane
  evidence : List EvidenceRecord
  /-- The jobs whose execution was started, in order. -/
  executions : List CanonicalJob

namespace ReferenceEdgeRunner

def refuse {α : Type} (message : String) : Except Raised α := raise .runnerRefusalError message

section Submit

variable (tooling : Tooling)

/-- The checks that come before the lookup of a receipt. -/
def authenticate (ports : RunnerPorts) (job : CanonicalJob) : Except Raised Unit := do
  raiseIf (job.authorityDecision ≠ .allow) .runnerRefusalError
      "runner accepts only an explicit ALLOW authority decision"
  raiseIf (job.networkPolicy ≠ "none") .runnerRefusalError
      "runner network policy must be deny-by-default (none)"
  let verified ← ports.verify (job.unsignedBytes tooling) job.signature job.signingKeyId
  raiseIf (verified = false) .runnerRefusalError "unsigned or unverifiable job refused"

/-- The checks of a job against the registered capability and the identity of the runner. -/
def bind (ports : RunnerPorts) (job : CanonicalJob) (runner : ReferenceEdgeRunner) :
    Except Raised (RunnerCapability × WorkloadIdentity) := do
  let capability ← orRaise (runner.capabilities.find? job.capabilityId) .runnerRefusalError
      "unknown capability refused"
  raiseIf (job.toolIdentity ≠ capability.manifest.toolIdentity) .runnerRefusalError
      "tool identity substitution refused"
  raiseIf (job.targetId ≠ capability.targetId) .runnerRefusalError "target binding mismatch"
  raiseIf (capability.manifest.timeoutSeconds < job.timeoutSeconds) .runnerRefusalError
      "job timeout exceeds the registered capability bound"
  raiseIf ((textMembers job.resourcePolicy).pyEq (textMembers capability.resourcePolicy) = false)
      .runnerRefusalError "caller-supplied resource policy differs from the registered policy"
  let identity ← ports.resolve job
  raiseIf (identity.workloadId ≠ capability.workloadId ∨ identity.tenantId ≠ job.tenantId ∨
      identity.caseId ≠ job.caseId) .runnerRefusalError "workload identity or scope mismatch"
  return (capability, identity)

def statusOf (result : SandboxExecutionResult) : String :=
  if result.timedOut then "timed_out" else if result.exitCode = 0 then "completed" else "failed"

def receiptOf (job : CanonicalJob) (result : SandboxExecutionResult)
    (evidenceRef outputDigest : String) : ResultReceipt where
  jobId := job.jobId
  tenantId := job.tenantId
  caseId := job.caseId
  targetId := job.targetId
  snapshotId := job.snapshotId
  capabilityId := job.capabilityId
  status := statusOf result
  jobDigest := job.jobDigest tooling
  evidenceRef := some evidenceRef
  outputDigest := some outputDigest
  timedOut := result.timedOut
  networkPolicy := job.networkPolicy
  cleanupConfirmed := true
  telemetry := [("sandbox_id", result.sandboxId), ("profile", result.profileName),
    ("exit_code", toString result.exitCode)]

def rawEvent (job : CanonicalJob) (workloadId status evidenceRef outputDigest : String) : Raw :=
  [("source", .json (.str "secscan-edge-runner")), ("source_record_id", .json (.str job.jobId)),
    ("source_digest", .json (.str outputDigest)),
    ("source_system", .json (.str "secscan-edge-runner")),
    ("collector_version", .json (.str "edge-runner-v1")), ("source_type", .json (.str "runner")),
    ("event_class", .json (.str EventClass.scannerActivity.value)),
    ("occurred_at", .datetime job.signedAt.1 job.signedAt.2),
    ("observed_at", .datetime job.signedAt.1 job.signedAt.2),
    ("tenant", .json (.str job.tenantId)), ("case", .json (.str job.caseId)),
    ("target", .json (.str job.targetId)), ("actor", .json (.str workloadId)),
    ("object", .json (.str job.toolIdentity)), ("action", .json (.str "execute")),
    ("outcome", .json (.str status)), ("raw_evidence_ref", .json (.str evidenceRef)),
    ("normalization_version", .json (.str "security-events-v1")),
    ("attributes", .json (.obj
      [("job_digest", .str (job.jobDigest tooling)), ("network_policy", .str job.networkPolicy)]))]

/-- Ingest the event of a receipt, where the runner has an event plane. -/
def report (now : Datetime) (raw : Raw) : Effect ReferenceEdgeRunner Unit := fun runner =>
  match runner.events with
  | none => (.ok (), runner)
  | some plane =>
    let r := SecurityEventPlane.ingestRaw tooling.codec tooling.reader now raw plane
    (r.1.map fun _ => (), { runner with events := some r.2 })

/-- Store the output of an execution and its receipt, and report the receipt. -/
def conclude (ports : RunnerPorts) (now : Datetime) (job : CanonicalJob)
    (identity : WorkloadIdentity) (result : SandboxExecutionResult) :
    Effect ReferenceEdgeRunner ResultReceipt := fun runner =>
  let safeOutput := tooling.sanitizeOutput result.stdout result.stderr
  let outputDigest := tooling.sha256 safeOutput
  match ports.put safeOutput "edge-runner-result" with
  | .error e => (.error e, runner)
  | .ok evidenceRef =>
    let receipt := receiptOf tooling job result evidenceRef outputDigest
    let r := report tooling now
      (rawEvent tooling job identity.workloadId receipt.status evidenceRef outputDigest)
      { runner with
        evidence := runner.evidence ++ [⟨safeOutput, "edge-runner-result"⟩]
        receipts := runner.receipts.set job.key receipt }
    (r.1.map fun _ => receipt, r.2)

/-- Run a bound job. -/
def runJob (ports : RunnerPorts) (now : Datetime) (job : CanonicalJob)
    (capability : RunnerCapability) (identity : WorkloadIdentity) :
    Effect ReferenceEdgeRunner ResultReceipt := fun runner =>
  let started := { runner with executions := runner.executions ++ [job] }
  match ports.execute capability.manifest capability.command job.timeoutSeconds
      [("SECSCAN_RUNNER", "1")] with
  | .error e => (refuse ("bounded execution refused: " ++ e.kind.name), started)
  | .ok result => conclude tooling ports now job identity result started

def submit (ports : RunnerPorts) (now : Datetime) (job : CanonicalJob) :
    Effect ReferenceEdgeRunner ResultReceipt := fun runner =>
  match authenticate tooling ports job with
  | .error e => (.error e, runner)
  | .ok () =>
    match runner.receipts.find? job.key with
    | some previous =>
      if previous.jobDigest ≠ job.jobDigest tooling then
        (refuse "job identity was reused for different signed content", runner)
      else (.ok previous, runner)
    | none =>
      match bind ports job runner with
      | .error e => (.error e, runner)
      | .ok (capability, identity) => runJob tooling ports now job capability identity runner

end Submit

end ReferenceEdgeRunner

end SecScanMonitor.ContinuousSecurity
