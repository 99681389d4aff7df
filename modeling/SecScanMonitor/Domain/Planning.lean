import SecScanMonitor.Domain.Authority
import SecScanMonitor.Domain.Common
import SecScanMonitor.Domain.Engagement
import SecScanMonitor.Foundations.Dict
import SecScanMonitor.Foundations.Value
import Mathlib.Data.List.Sort

/-! Target profiles, the contracts of the security services, and the plan that selects services for one snapshot
(`domain/profiles.py`, `domain/services.py` and `domain/planning.py`). -/

namespace SecScanMonitor.Domain

open Foundations

/-- `sorted(set(items))` -/
def sortedSet (items : List String) : List String := items.eraseDups.insertionSort (· ≤ ·)

/-- `part in s.lower()`, for a part whose letters no other character is lowered to. -/
def mentions (part s : String) : Bool := decide (part.toList <:+: s.toList.map Char.toLower)

/-- `s.strip()` -/
def stripped (s : String) : String :=
  String.ofList ((s.toList.dropWhile isSpace).reverse.dropWhile isSpace).reverse

structure DomainModel where
  createdAt : Datetime
  updatedAt : Datetime
  deriving DecidableEq

inductive ProfileFactStatus where
  | declared
  | discovered
  | implemented
  | tested
  | configured
  | contradicted
  | unknown
  deriving Repr, DecidableEq

def ProfileFactStatus.value : ProfileFactStatus → String
  | .declared => "DECLARED"
  | .discovered => "DISCOVERED"
  | .implemented => "IMPLEMENTED"
  | .tested => "TESTED"
  | .configured => "CONFIGURED"
  | .contradicted => "CONTRADICTED"
  | .unknown => "UNKNOWN"

lemma ProfileFactStatus.value_injective : Function.Injective ProfileFactStatus.value := by
  intro a b h
  cases a <;> cases b <;> simp_all [ProfileFactStatus.value]

lemma Confidence.value_injective : Function.Injective Confidence.value := by
  intro a b h
  cases a <;> cases b <;> simp_all [Confidence.value]

structure ProfileProvenance extends DomainModel where
  sourceKind : String
  sourceRef : String
  snapshotId : String
  evidenceId : Option String
  sourceDigest : Option String
  deriving DecidableEq

structure ProfileFact extends DomainModel where
  key : String
  value : Value
  status : ProfileFactStatus
  confidence : Confidence
  provenance : ProfileProvenance
  limitation : String
  deriving DecidableEq

structure TargetSecurityProfile extends DomainModel where
  targetId : String
  snapshotId : String
  targetIdentity : String
  snapshotIdentity : String
  targetClass : String
  languages : List ProfileFact
  frameworks : List ProfileFact
  packageEcosystems : List ProfileFact
  entryPoints : List ProfileFact
  apiSurfaces : List ProfileFact
  authenticationSurfaces : List ProfileFact
  authorizationSurfaces : List ProfileFact
  databaseStorage : List ProfileFact
  networkInterfaces : List ProfileFact
  containers : List ProfileFact
  infrastructureAsCode : List ProfileFact
  cicd : List ProfileFact
  buildRelease : List ProfileFact
  externalServices : List ProfileFact
  cloudIntegrations : List ProfileFact
  agenticComponents : List ProfileFact
  modelProviders : List ProfileFact
  mcpServers : List ProfileFact
  toolInterfaces : List ProfileFact
  memoryPersistence : List ProfileFact
  secretReferences : List ProfileFact
  securityConfiguration : List ProfileFact
  unknowns : List String
  contradictions : List String
  deriving DecidableEq

def TargetSecurityProfile.hasAgenticSurface (p : TargetSecurityProfile) : Bool :=
  p.agenticComponents ≠ [] || p.toolInterfaces ≠ [] || p.mcpServers ≠ []

/-- An engagement, as the security services read it. -/
structure FirmEngagement where
  engagementId : String
  clientId : String
  requesterPrincipalId : String
  targetIds : List String
  scope : String
  authorityLevel : AuthorityLevel
  status : EngagementStatus
  createdAt : Datetime
  deriving DecidableEq

structure SecurityServiceContract where
  serviceId : String
  version : String
  requiredCapabilities : List String
  outputContract : List String
  specialistOwner : String
  deriving DecidableEq

structure SecurityServiceRegistry where
  contracts : Dict String SecurityServiceContract

/-- Service ids are ASCII, so that `upper` is the ASCII one. -/
def SecurityServiceRegistry.get (registry : SecurityServiceRegistry) (serviceId : String) :
    Except Raised SecurityServiceContract :=
  orRaise (registry.contracts.find? (String.ofList ((stripped serviceId).toList.map Char.toUpper)))
    .unknownServiceError ("unknown security service: " ++ serviceId)

structure AssessmentPlan extends DomainModel where
  planId : String
  engagementId : String
  targetId : String
  profileSnapshotId : String
  targetClass : String
  requiredServices : List String
  optionalServices : List String
  selectedServiceVersions : List (String × String)
  allowedCapabilities : List String
  blockedCapabilities : List String
  serviceDependencies : List (String × List String)
  expectedOutputs : List (String × List String)
  knownLimitations : List String
  deriving DecidableEq

namespace AssessmentPlan

def selectedServices (plan : AssessmentPlan) : List String :=
  sortedSet (plan.requiredServices ++ plan.optionalServices)

def checkService (plan : AssessmentPlan) (registry : SecurityServiceRegistry) (serviceId : String) :
    Except Raised Unit := do
  let contract ← registry.get serviceId
  raiseIf (plan.selectedServiceVersions.lookup serviceId ≠ some contract.version)
    .serviceContractError ("plan version mismatch for " ++ serviceId)
  raiseIf (¬ contract.requiredCapabilities ⊆ plan.allowedCapabilities) .serviceContractError
    ("plan omits required capabilities for " ++ serviceId)

/-- `validate_plan` -/
def validatePlan (plan : AssessmentPlan) (registry : SecurityServiceRegistry)
    (engagement : FirmEngagement) : Except Raised Unit := do
  raiseIf (plan.engagementId ≠ engagement.engagementId ∨ plan.targetId ∉ engagement.targetIds)
    .serviceContractError "assessment plan escapes engagement target scope"
  raiseIf (engagement.authorityLevel ≠ .inspectionOnly) .serviceContractError
    "Release 0.1 assessment plans are inspection-only"
  raiseIf (∃ c ∈ plan.allowedCapabilities, c ∈ plan.blockedCapabilities) .serviceContractError
    "capability cannot be both allowed and blocked"
  let _ ← plan.selectedServices.mapM (plan.checkService registry)
  raiseIf (∃ c ∈ plan.allowedCapabilities, c ∈ ["mutate", "remediate", "active_test"])
    .serviceContractError "assessment plan contains a non-inspection capability"

end AssessmentPlan

/-- `route_services` -/
def routeServices (stamps : DomainModel) (profile : TargetSecurityProfile)
    (engagement : FirmEngagement) (registry : SecurityServiceRegistry) :
    Except Raised AssessmentPlan := do
  let required := ["APPSEC", "VULNINTEL", "SUPPLYCHAIN"]
  let optional :=
    if profile.hasAgenticSurface || mentions "agent" engagement.scope then ["AGENTSEC"] else []
  let selected := sortedSet (required ++ optional)
  let contracts ← selected.mapM registry.get
  let plan : AssessmentPlan :=
    { stamps with
      planId := "PLAN-" ++ engagement.engagementId ++ "-" ++ profile.snapshotId
      engagementId := engagement.engagementId
      targetId := profile.targetId
      profileSnapshotId := profile.snapshotId
      targetClass := profile.targetClass
      requiredServices := required
      optionalServices := optional
      selectedServiceVersions := selected.zip (contracts.map (·.version))
      allowedCapabilities := sortedSet (contracts.flatMap (·.requiredCapabilities))
      blockedCapabilities := []
      serviceDependencies :=
        [("APPSEC", []), ("VULNINTEL", ["APPSEC"]), ("SUPPLYCHAIN", []), ("AGENTSEC", [])]
      expectedOutputs := selected.zip (contracts.map (·.outputContract))
      knownLimitations :=
        if mentions "deployment" engagement.scope then []
        else ["runtime deployment exposure is not inferred from repository routes"] }
  plan.validatePlan registry engagement
  return plan

section Documents

variable (dumpDatetime : Datetime → String)

def DomainModel.members (m : DomainModel) : List (String × Value) :=
  [("created_at", .str (dumpDatetime m.createdAt)), ("updated_at", .str (dumpDatetime m.updatedAt))]

def optionalText : Option String → Value
  | none => .null
  | some s => .str s

def texts (items : List String) : Value := .arr (items.map .str)

def ProfileProvenance.toValue (p : ProfileProvenance) : Value :=
  .obj (p.toDomainModel.members dumpDatetime ++
    [("source_kind", .str p.sourceKind), ("source_ref", .str p.sourceRef),
      ("snapshot_id", .str p.snapshotId), ("evidence_id", optionalText p.evidenceId),
      ("source_digest", optionalText p.sourceDigest)])

def ProfileFact.toValue (f : ProfileFact) : Value :=
  .obj (f.toDomainModel.members dumpDatetime ++
    [("key", .str f.key), ("value", f.value), ("status", .str f.status.value),
      ("confidence", .str f.confidence.value), ("provenance", f.provenance.toValue dumpDatetime),
      ("limitation", .str f.limitation)])

def TargetSecurityProfile.factFields (p : TargetSecurityProfile) : List (String × List ProfileFact) :=
  [("languages", p.languages), ("frameworks", p.frameworks),
    ("package_ecosystems", p.packageEcosystems), ("entry_points", p.entryPoints),
    ("api_surfaces", p.apiSurfaces), ("authentication_surfaces", p.authenticationSurfaces),
    ("authorization_surfaces", p.authorizationSurfaces), ("database_storage", p.databaseStorage),
    ("network_interfaces", p.networkInterfaces), ("containers", p.containers),
    ("infrastructure_as_code", p.infrastructureAsCode), ("cicd", p.cicd),
    ("build_release", p.buildRelease), ("external_services", p.externalServices),
    ("cloud_integrations", p.cloudIntegrations), ("agentic_components", p.agenticComponents),
    ("model_providers", p.modelProviders), ("mcp_servers", p.mcpServers),
    ("tool_interfaces", p.toolInterfaces), ("memory_persistence", p.memoryPersistence),
    ("secret_references", p.secretReferences), ("security_configuration", p.securityConfiguration)]

/-- `model_dump(mode="json")` -/
def TargetSecurityProfile.toValue (p : TargetSecurityProfile) : Value :=
  .obj (p.toDomainModel.members dumpDatetime ++
    [("target_id", .str p.targetId), ("snapshot_id", .str p.snapshotId),
      ("target_identity", .str p.targetIdentity), ("snapshot_identity", .str p.snapshotIdentity),
      ("target_class", .str p.targetClass)] ++
    (p.factFields.map fun field => (field.1, .arr (field.2.map (·.toValue dumpDatetime)))) ++
    [("unknowns", texts p.unknowns), ("contradictions", texts p.contradictions)])

/-- `model_dump(mode="json")` -/
def AssessmentPlan.toValue (p : AssessmentPlan) : Value :=
  .obj (p.toDomainModel.members dumpDatetime ++
    [("plan_id", .str p.planId), ("engagement_id", .str p.engagementId),
      ("target_id", .str p.targetId), ("profile_snapshot_id", .str p.profileSnapshotId),
      ("target_class", .str p.targetClass), ("required_services", texts p.requiredServices),
      ("optional_services", texts p.optionalServices),
      ("selected_service_versions", .obj (p.selectedServiceVersions.map fun v => (v.1, .str v.2))),
      ("allowed_capabilities", texts p.allowedCapabilities),
      ("blocked_capabilities", texts p.blockedCapabilities),
      ("service_dependencies", .obj (p.serviceDependencies.map fun d => (d.1, texts d.2))),
      ("expected_outputs", .obj (p.expectedOutputs.map fun o => (o.1, texts o.2))),
      ("known_limitations", texts p.knownLimitations)])

end Documents

end SecScanMonitor.Domain
