import SecScanMonitor.Capabilities.ScannerExecution
import SecScanMonitor.Foundations.Programs

/-! The sandbox execution plane (`sandbox/__init__.py`): the Docker backend as a program that makes requests of the
Docker daemon and of the clock, and the service between the capabilities and a backend. -/

namespace SecScanMonitor.Sandbox

open Foundations Domain Capabilities

/-- What the module raises; `raised` is an exception of the client, as it is. -/
inductive SandboxFailure (ε : Type) where
  | unavailable (message : String)
  | refusal (message : String)
  | profileViolation (message : String)
  | valueError
  | raised (e : ε)

inductive SandboxRequirement where
  | none
  | required
  | optional
  deriving Repr, DecidableEq

inductive NetworkPolicy where
  | none
  | loopbackOnly
  | allowlisted
  deriving Repr, DecidableEq

/-- `str(policy)` -/
def NetworkPolicy.name : NetworkPolicy → String
  | .none => "NetworkPolicy.NONE"
  | .loopbackOnly => "NetworkPolicy.LOOPBACK_ONLY"
  | .allowlisted => "NetworkPolicy.ALLOWLISTED"

/-- Python's numbers: `float(s)`, `int(s)` and `int(x * 1_000_000_000)`. -/
structure Numbers (F ε : Type) where
  float : String → Option F
  int : String → Option ℤ
  nano : F → Except ε ℤ

/-- `command.split("/")[-1]` -/
def baseName (command : String) : String :=
  String.ofList (command.toList.reverse.takeWhile (· ≠ '/')).reverse

section Profiles

variable {F : Type}

structure SandboxProfile (F : Type) where
  name : String
  network : String
  inputReadOnly : Bool
  outputScratch : Bool
  hostSecrets : Bool
  dockerSocket : Bool
  cpuLimit : F
  memoryLimit : String
  pidsLimit : ℤ
  timeoutSeconds : ℤ
  commandAllowlist : List String
  env : List (String × String)

/-- The defaults of the class; `one` is `1.0`. -/
def SandboxProfile.default (one : F) : SandboxProfile F where
  name := "default"
  network := "none"
  inputReadOnly := true
  outputScratch := true
  hostSecrets := false
  dockerSocket := false
  cpuLimit := one
  memoryLimit := "256m"
  pidsLimit := 64
  timeoutSeconds := 60
  commandAllowlist := ["python", "cat", "sh", "dir"]
  env := []

def SandboxProfile.allowsCommand (p : SandboxProfile F) : List String → Bool
  | [] => false
  | command :: _ => decide (baseName command ∈ p.commandAllowlist)

/-- The keys of the dictionary that overrides a profile. -/
structure ProfileOverrides (F : Type) where
  name : Option String := none
  network : Option String := none
  inputReadOnly : Option Bool := none
  outputScratch : Option Bool := none
  hostSecrets : Option Bool := none
  dockerSocket : Option Bool := none
  cpuLimit : Option F := none
  memoryLimit : Option String := none
  pidsLimit : Option ℤ := none
  timeoutSeconds : Option ℤ := none
  commandAllowlist : Option (List String) := none
  env : Option (List (String × String)) := none

/-- `_resolve_profile` -/
def resolveProfile (base : SandboxProfile F) : Option (ProfileOverrides F) → SandboxProfile F
  | none => base
  | some o =>
    { name := o.name.getD base.name
      network := o.network.getD base.network
      inputReadOnly := o.inputReadOnly.getD base.inputReadOnly
      outputScratch := o.outputScratch.getD base.outputScratch
      hostSecrets := o.hostSecrets.getD base.hostSecrets
      dockerSocket := o.dockerSocket.getD base.dockerSocket
      cpuLimit := o.cpuLimit.getD base.cpuLimit
      memoryLimit := o.memoryLimit.getD base.memoryLimit
      pidsLimit := o.pidsLimit.getD base.pidsLimit
      timeoutSeconds := o.timeoutSeconds.getD base.timeoutSeconds
      commandAllowlist := o.commandAllowlist.getD base.commandAllowlist
      env := o.env.getD base.env }

end Profiles

section Daemon

structure Container where
  id : String
  shortId : String
  deriving DecidableEq

structure Volume where
  bind : String
  mode : String
  deriving DecidableEq

/-- The keyword arguments of `containers.run`; an absent `working_dir` is `none`, absent `volumes` are empty. -/
structure RunArgs where
  image : String
  command : List String
  detach : Bool
  networkDisabled : Bool
  readOnly : Bool
  pidsLimit : ℤ
  memLimit : String
  nanoCpus : ℤ
  environment : Dict String String
  tmpfs : List (String × String)
  workingDir : Option String
  volumes : Dict String Volume

/-- A request of the Docker client, or of the clock. -/
inductive DockerOp where
  | ping
  | run (args : RunArgs)
  | wait (container : Container) (timeout : ℤ)
  | logs (container : Container) (stdout stderr : Bool)
  | kill (container : Container)
  | remove (container : Container) (force : Bool)
  | monotonic

/-- The answers. That of `wait` is the status code, if there is one, that of `logs` is decoded, and that of the clock is
in seconds. -/
def DockerAnswer (ε : Type) : DockerOp → Type
  | .ping => Except ε Bool
  | .run _ => Except ε Container
  | .wait _ _ => Except ε (Option ℤ)
  | .logs _ _ _ => Except ε Str
  | .kill _ => Except ε Unit
  | .remove _ _ => Except ε Unit
  | .monotonic => ℚ

abbrev Docker (ε : Type) := Program DockerOp (DockerAnswer ε)

namespace Docker

variable {ε : Type}

abbrev ping : Docker ε (Except ε Bool) := Program.request DockerOp.ping

abbrev run (args : RunArgs) : Docker ε (Except ε Container) := Program.request (DockerOp.run args)

abbrev wait (container : Container) (timeout : ℤ) : Docker ε (Except ε (Option ℤ)) :=
  Program.request (DockerOp.wait container timeout)

abbrev logs (container : Container) (stdout stderr : Bool) : Docker ε (Except ε Str) :=
  Program.request (DockerOp.logs container stdout stderr)

abbrev kill (container : Container) : Docker ε (Except ε Unit) := Program.request (DockerOp.kill container)

abbrev remove (container : Container) (force : Bool) : Docker ε (Except ε Unit) :=
  Program.request (DockerOp.remove container force)

abbrev monotonic : Docker ε ℚ := Program.request DockerOp.monotonic

end Docker

/-- The arguments of `run`. -/
structure BackendCall (F : Type) where
  command : List String
  profile : Option (ProfileOverrides F)
  timeoutSeconds : Option ℤ
  mounts : List Mount
  environment : List (String × String)
  workingDir : Option String

structure DockerSandboxBackend (F : Type) where
  image : String
  profile : SandboxProfile F

variable {F ε : Type} (numbers : Numbers F ε) (text : ε → String)

/-- A dictionary from its entries, the later ones in the place of the earlier ones. -/
def dictFrom {ν : Type} (entries : List (String × ν)) : Dict String ν :=
  entries.foldl (fun d e => d.put e.1 e.2) Table.empty

def containerEnvironment (resolved : SandboxProfile F) (environment : List (String × String)) : Dict String String :=
  let merged := dictFrom ([("SECSCAN_SANDBOX", "1"), ("HOME", "/tmp/home")] ++ resolved.env ++ environment)
  if resolved.hostSecrets then merged else merged.put "SECSCAN_NO_HOST_SECRETS" "1"

def volumesOf (mounts : List Mount) : Dict String Volume :=
  dictFrom (mounts.map fun m => (m.hostPath, ⟨m.containerPath, "ro"⟩))

def runArgs (image : String) (resolved : SandboxProfile F) (call : BackendCall F) (nanoCpus : ℤ) : RunArgs where
  image
  command := call.command
  detach := true
  networkDisabled := decide (resolved.network = "none")
  readOnly := true
  pidsLimit := resolved.pidsLimit
  memLimit := resolved.memoryLimit
  nanoCpus
  environment := containerEnvironment resolved call.environment
  tmpfs := [("/tmp", "rw,noexec,nosuid,size=128m")]
  workingDir := call.workingDir.filter fun dir => decide (dir ≠ "")
  volumes := volumesOf call.mounts

/-- `is_available` -/
def isAvailable : Docker ε Bool := do
  match ← Docker.ping with
  | .ok answer => return answer
  | .error _ => return false

/-- What a container has written. -/
def collect (container : Container) : Docker ε (Except ε (Str × Str)) := do
  match ← Docker.logs container true false with
  | .error e => return .error e
  | .ok stdout =>
    match ← Docker.logs container false true with
    | .error e => return .error e
    | .ok stderr => return .ok (stdout, stderr)

def resultOf (container : Container) (exitCode : ℤ) (logs : Str × Str) (timedOut : Bool) (profileName : String) :
    SandboxExecutionResult :=
  ⟨container.shortId, exitCode, logs.1, logs.2, timedOut, profileName, "docker"⟩

/-- The container runs to its end, within the time. -/
def observe (container : Container) (timeout : ℤ) (profileName : String) :
    Docker ε (Except ε SandboxExecutionResult) := do
  match ← Docker.wait container timeout with
  | .error e => return .error e
  | .ok status =>
    match ← collect container with
    | .error e => return .error e
    | .ok logs => return .ok (resultOf container (status.getD (-1)) logs false profileName)

/-- The exception handler: a container whose time has run out is killed, and what it has written is its result. -/
def handle (container : Container) (timeout : ℤ) (profileName : String) (started : ℚ) (e : ε) :
    Docker ε (Except (SandboxFailure ε) SandboxExecutionResult) := do
  let now ← Docker.monotonic
  if (timeout : ℚ) ≤ now - started then
    let _ ← Docker.kill container
    match ← collect container with
    | .error e => return .error (.raised e)
    | .ok logs => return .ok (resultOf container 124 logs true profileName)
  else return .error (.unavailable ("sandbox execution failed: " ++ text e))

/-- The container is started, observed and removed. -/
def perform (args : RunArgs) (timeout : ℤ) (profileName : String) :
    Docker ε (Except (SandboxFailure ε) SandboxExecutionResult) := do
  let started ← Docker.monotonic
  match ← Docker.run args with
  | .error e => return .error (.unavailable ("sandbox execution failed: " ++ text e))
  | .ok container =>
    let observed ← observe container timeout profileName
    let result ← match observed with
      | .ok result => pure (.ok result)
      | .error e => handle text container timeout profileName started e
    -- the container is removed on every path, and a failure to remove it is passed over
    let _ ← Docker.remove container true
    return result

def DockerSandboxBackend.run (backend : DockerSandboxBackend F) (call : BackendCall F) :
    Docker ε (Except (SandboxFailure ε) SandboxExecutionResult) :=
  let resolved := resolveProfile backend.profile call.profile
  let timeout := call.timeoutSeconds.getD resolved.timeoutSeconds
  if resolved.allowsCommand call.command = false then
    return .error (.profileViolation ("command " ++ call.command.headD "<empty>" ++ " is not in the profile allowlist"))
  else if resolved.dockerSocket then
    return .error (.profileViolation "docker socket mounts are forbidden by the sandbox profile")
  else match call.mounts.find? fun m => !m.readOnly with
  | some m =>
    return .error (.profileViolation ("writable host mount refused: " ++ m.hostPath ++ " -> " ++ m.containerPath))
  | none => do
    if ← isAvailable then
      match numbers.nano resolved.cpuLimit with
      | .error e => return .error (.raised e)
      | .ok nano => perform text (runArgs backend.image resolved call nano) timeout resolved.name
    else return .error (.unavailable "Docker daemon unavailable; sandbox-required execution refused")

end Daemon

section Service

/-- Of a manifest, the fields that the service reads. -/
structure SandboxCapability where
  capabilityId : String
  sandboxRequirement : SandboxRequirement
  networkPolicy : NetworkPolicy
  timeoutSeconds : ℤ
  resourceLimits : Dict String String
  commandAllowlist : List String

/-- The arguments of `execute`. -/
structure SandboxCall where
  capability : SandboxCapability
  command : List String
  timeoutSeconds : Option ℤ
  mounts : List Mount
  environment : List (String × String)
  workingDir : Option String

variable {F ε : Type} (numbers : Numbers F ε)

/-- `rstrip("c")` -/
def stripUnit (limit : String) : String := String.ofList (limit.toList.reverse.dropWhile (· = 'c')).reverse

def limit {α : Type} (parse : String → Option α) : Option String → Except (SandboxFailure ε) (Option α)
  | none => .ok none
  | some s =>
    match parse s with
    | none => .error .valueError
    | some v => .ok (some v)

def profileOverrides (capability : SandboxCapability) : Except (SandboxFailure ε) (ProfileOverrides F) := do
  let cpuLimit ← limit (fun s => numbers.float (stripUnit s)) (capability.resourceLimits.find? "cpu")
  let pidsLimit ← limit numbers.int (capability.resourceLimits.find? "pids")
  return {
    timeoutSeconds := some capability.timeoutSeconds
    network := some "none"
    commandAllowlist := some capability.commandAllowlist
    cpuLimit
    memoryLimit := capability.resourceLimits.find? "memory"
    pidsLimit }

/-- The checks of `execute` that follow the one of the backend, and the call of the backend. -/
def SandboxCall.accept (call : SandboxCall) : Except (SandboxFailure ε) (BackendCall F) := do
  let capability := call.capability
  if capability.commandAllowlist ≠ [] ∧ ∀ c ∈ call.command.head?, baseName c ∉ capability.commandAllowlist then
    .error (.profileViolation ("command " ++ call.command.headD "<empty>" ++ " is not in the capability " ++
      capability.capabilityId ++ " command allowlist"))
  else if let some m := call.mounts.find? fun m => !m.readOnly then
    .error (.profileViolation ("capability " ++ capability.capabilityId ++ " requested writable host mount " ++
      m.hostPath ++ " -> " ++ m.containerPath))
  else if capability.networkPolicy ≠ .none then
    .error (.profileViolation ("capability " ++ capability.capabilityId ++ " requests unsupported network policy " ++
      capability.networkPolicy.name ++ "; fail closed"))
  else do
    let overrides ← profileOverrides numbers capability
    return {
      command := call.command
      profile := some overrides
      timeoutSeconds := some ((call.timeoutSeconds.filter fun t => decide (t ≠ 0)).getD capability.timeoutSeconds)
      mounts := call.mounts
      environment := call.environment
      workingDir := call.workingDir }

/-- Does the capability need a sandbox when there is none? -/
def refusesHost (capability : SandboxCapability) : Docker ε Bool := do
  if capability.sandboxRequirement = .required then
    let available ← isAvailable
    return !available
  else return false

/-- `SandboxExecutionService.execute`, with the Docker backend. -/
def execute (text : ε → String) (backend : DockerSandboxBackend F) (call : SandboxCall) :
    Docker ε (Except (SandboxFailure ε) SandboxExecutionResult) := do
  let refused ← refusesHost call.capability
  if refused then
    return .error (.refusal ("capability " ++ call.capability.capabilityId ++
      " is sandbox-required but no backend is available: REFUSE"))
  else match call.accept numbers with
  | .error e => return .error e
  | .ok backendCall => backend.run numbers text backendCall

end Service

end SecScanMonitor.Sandbox
