import SecScanMonitor.Capabilities.ScannerAdapters
import SecScanMonitor.Capabilities.ScannerResults

/-! One run of a scanner in the sandbox (`ScannerAdapter.execute`, `capabilities/scanner_adapters.py`). -/

namespace SecScanMonitor.Capabilities

open Foundations Domain Sanitize

section Model

/-- What a run reads of its `CapabilityManifest`. -/
structure ScannerManifest where
  capabilityId : String
  version : String
  toolIdentity : String
  toolVersion : String
  artifactRef : String

structure ScannerAdapter where
  manifest : ScannerManifest
  command : List String
  environment : List (String × String)
  configPath : Option String
  extraMounts : List (String × String)
  cacheRoot : Option String
  cacheManifestDigest : Option Str
  cacheProvenance : Str

structure Mount where
  hostPath : String
  containerPath : String
  readOnly : Bool

structure SandboxRequest where
  capability : ScannerManifest
  command : List String
  mounts : List Mount
  environment : List (String × String)
  workingDir : String

structure SandboxExecutionResult where
  sandboxId : String
  exitCode : ℤ
  stdout : Str
  stderr : Str
  timedOut : Bool
  profileName : String
  backendName : String

/-- The files, the sandbox and the clock around one run. -/
structure ScannerHost where
  isDir : String → Bool
  isFile : String → Bool
  isPresent : String → Bool
  resolve : String → String
  tree : String → Tree
  sandbox : SandboxRequest → Except Raised SandboxExecutionResult
  startedAt : String
  endedAt : String
  elapsedMs : ℤ

/-- `copy.deepcopy` gives the same value, unless it is nested too deeply for the interpreter. -/
structure ExecutionTooling extends ScannerTooling where
  deepcopy : Parsed → Except Raised Parsed
  deepcopy_none : deepcopy .none = .ok .none
  deepcopy_eq : ∀ v w, deepcopy v = .ok w → w = v
  deepcopy_raises : ∀ v e, deepcopy v = .error e → e.kind ≠ .typeError ∧ e.kind ≠ .valueError

inductive ScanStatus where
  | timedOut
  | malformedOutput
  | succeededWithFindings
  | succeeded
  | notQualified
  deriving DecidableEq

namespace ScanStatus

def text : ScanStatus → String
  | timedOut => "timed_out"
  | malformedOutput => "malformed_output"
  | succeededWithFindings => "succeeded_with_findings"
  | succeeded => "succeeded"
  | notQualified => "not_qualified"

def outcome : ScanStatus → String
  | timedOut => "TIMEOUT"
  | malformedOutput => "MALFORMED_OUTPUT"
  | succeededWithFindings => "FINDINGS"
  | succeeded => "SUCCESS"
  | notQualified => "FAILED"

def errorClass : ScanStatus → Option String
  | timedOut => some "sandbox_timeout"
  | malformedOutput => some "malformed_scanner_output"
  | notQualified => some "scanner_nonzero_exit"
  | _ => none

end ScanStatus

structure ScannerTelemetry where
  capabilityId : String
  serviceRunId : String
  scannerIdentity : String
  scannerVersion : String
  sandboxBackend : String
  startedAt : String
  endedAt : String
  durationMs : ℤ
  exitCode : ℤ
  outcome : String
  timeout : Bool
  errorClass : Option String
  inputDigest : Str
  outputDigest : Str
  resultCount : ℕ
  cacheManifestDigest : Option Str
  cacheProvenance : Str

structure ScannerExecution where
  capability : ScannerManifest
  sandboxId : String
  exitCode : ℤ
  status : ScanStatus
  evidenceBytes : List UInt8
  secretObservations : List (List (String × String))
  stderrRedacted : Bool
  telemetry : ScannerTelemetry

end Model

section Request

variable (tooling : ExecutionTooling) (host : ScannerHost) (adapter : ScannerAdapter)

def configMounts : Except Raised (List Mount) :=
  match adapter.configPath with
  | none => .ok []
  | some path => do
    raiseIf (host.isFile path = false) .fileNotFoundError s!"scanner configuration does not exist: {path}"
    return [⟨host.resolve path, "/cfg/scanner.yml", true⟩]

def cacheMount (mount : String × String) : Except Raised Mount := do
  raiseIf (host.isPresent mount.1 = false) .fileNotFoundError s!"scanner data cache does not exist: {mount.1}"
  return ⟨host.resolve mount.1, mount.2, true⟩

def scannerMounts (snapshotPath : String) : Except Raised (List Mount) := do
  raiseIf (host.isDir snapshotPath = false) .fileNotFoundError s!"immutable snapshot does not exist: {snapshotPath}"
  let config ← configMounts host adapter
  let extra ← adapter.extraMounts.mapM (cacheMount host)
  return ⟨host.resolve snapshotPath, "/src", true⟩ :: (config ++ extra)

/-- A cache is mounted only if it is still the one that its manifest vouched for. -/
def checkCache : Except Raised Unit :=
  if adapter.extraMounts = [] then .ok ()
  else
    match adapter.cacheRoot, adapter.cacheManifestDigest with
    | some root, some digest => do
      raiseIf (digest = [] ∨ adapter.cacheProvenance = []) .valueError
        "scanner cache mount is missing canonical provenance"
      raiseIf (tooling.sha256 (cacheDigestInput (host.tree root)) ≠ digest) .valueError
        "scanner cache changed after manifest validation"
    | _, _ => raise .valueError "scanner cache mount is missing canonical provenance"

/-- What is asked of the sandbox, and the digest of what it is to scan. -/
def prepare (snapshotPath : String) : Except Raised (SandboxRequest × Str) := do
  let mounts ← scannerMounts host adapter snapshotPath
  checkCache tooling host adapter
  return (⟨adapter.manifest, adapter.command, mounts, adapter.environment, "/src"⟩,
    tooling.sha256 (snapshotDigestInput (host.tree snapshotPath)))

end Request

section Evidence

variable (tooling : ExecutionTooling)

def textOf? : Parsed → Option Str
  | .str s => some s
  | _ => none

/-- `sorted({*notes, "scanner output schema mismatch"})` -/
def noteMismatch : Parsed → Parsed
  | .list notes =>
    .list ((sortBy id (notes.filterMap textOf? ++ [Str.ofString "scanner output schema mismatch"]).dedup).map .str)
  | v => v

/-- The payload with the canonical result, or else with a note on the mismatch, and whether the output is malformed. -/
def settle (capabilityId : String) (safe : SafeOutput) : Except Raised (Payload × Bool) := do
  let copied ← tooling.deepcopy (getMember safe.payload "result" .none)
  match normalizeScannerResult capabilityId copied with
  | .ok result => return (setMember "result" result safe.payload, safe.malformed)
  | .error e =>
    if e.kind = .typeError ∨ e.kind = .valueError then
      return (setMember "sanitization_notes" (noteMismatch (getMember safe.payload "sanitization_notes" (.list [])))
        safe.payload, true)
    else .error e

def statusOf (timedOut malformed : Bool) (exitCode : ℤ) (count : ℕ) : ScanStatus :=
  if timedOut then .timedOut
  else if malformed then .malformedOutput
  else if exitCode ≠ 0 ∧ 0 < count then .succeededWithFindings
  else if exitCode = 0 then .succeeded
  else .notQualified

/-- `payload.update(fields)` -/
def update (fields : List (String × Parsed)) (payload : Payload) : Payload :=
  fields.foldl (fun payload field => setMember field.1 field.2 payload) payload

def executionFields (adapter : ScannerAdapter) (result : SandboxExecutionResult) (status : ScanStatus) (count : ℕ) :
    List (String × Parsed) :=
  [("capability_id", .str adapter.manifest.capabilityId), ("capability_version", .str adapter.manifest.version),
    ("tool_identity", .str adapter.manifest.toolIdentity), ("tool_version", .str adapter.manifest.toolVersion),
    ("artifact_ref", .str adapter.manifest.artifactRef), ("sandbox_id", .str result.sandboxId),
    ("sandbox_profile", .str result.profileName), ("status", .str status.text), ("result_count", .int count),
    ("cache_manifest_digest", (adapter.cacheManifestDigest.map .str).getD .none),
    ("cache_provenance", .str adapter.cacheProvenance)]

def scopeLimitation : String :=
  "Trivy vulnerability scanning was not executed because no validated offline advisory database was supplied; " ++
    "misconfiguration and secret scanning remain in scope."

def scopeFields (adapter : ScannerAdapter) : List (String × Parsed) :=
  if adapter.manifest.capabilityId = "CAP-REPO-TRIVY" ∧ "vuln" ∉ adapter.command then
    [("scope_limitations", .list [.str scopeLimitation])]
  else []

def evidencePayload (adapter : ScannerAdapter) (result : SandboxExecutionResult) (status : ScanStatus) (count : ℕ)
    (payload : Payload) : Payload :=
  update (scopeFields adapter) (update (executionFields adapter result status count) payload)

variable (host : ScannerHost) (adapter : ScannerAdapter) (serviceRunId : String) (inputDigest : Str)

/-- What is made of the sanitized output. -/
def conclude (result : SandboxExecutionResult) (safe : SafeOutput) : Except Raised ScannerExecution := do
  let settled ← settle tooling adapter.manifest.capabilityId safe
  let count ← resultCount (getMember settled.1 "result" .none)
  let status := statusOf result.timedOut settled.2 result.exitCode count
  let evidenceBytes ← encode
    (jsonText tooling.floatText (.dict (evidencePayload adapter result status count settled.1)))
  return {
    capability := adapter.manifest
    sandboxId := result.sandboxId
    exitCode := result.exitCode
    status := status
    evidenceBytes := evidenceBytes
    secretObservations := safe.secretObservations
    stderrRedacted := safe.redacted
    telemetry := {
      capabilityId := adapter.manifest.capabilityId
      serviceRunId := serviceRunId
      scannerIdentity := adapter.manifest.toolIdentity
      scannerVersion := adapter.manifest.toolVersion
      sandboxBackend := result.backendName
      startedAt := host.startedAt
      endedAt := host.endedAt
      durationMs := max 0 host.elapsedMs
      exitCode := result.exitCode
      outcome := status.outcome
      timeout := result.timedOut
      errorClass := status.errorClass
      inputDigest := inputDigest
      outputDigest := tooling.sha256 evidenceBytes
      resultCount := count
      cacheManifestDigest := adapter.cacheManifestDigest
      cacheProvenance := adapter.cacheProvenance } }

/-- What is made of the result of the sandbox. -/
def record (result : SandboxExecutionResult) : Except Raised ScannerExecution := do
  let safe ← safePayload tooling.toScannerTooling result.stdout result.stderr result.exitCode
  conclude tooling host adapter serviceRunId inputDigest result safe

end Evidence

/-- `ScannerAdapter.execute` -/
def execute (tooling : ExecutionTooling) (host : ScannerHost) (adapter : ScannerAdapter)
    (snapshotPath serviceRunId : String) : Except Raised ScannerExecution := do
  let prepared ← prepare tooling host adapter snapshotPath
  let result ← host.sandbox prepared.1
  record tooling host adapter serviceRunId prepared.2 result

end SecScanMonitor.Capabilities
