import SecScanMonitor.Application.FirmSecurityServices
import SecScanMonitor.Application.SupplyChainSecurity
import SecScanMonitor.Sanitize.Patterns

/-! The profile of a snapshot (`AttackSurfaceMapper` of `application/security_services.py`): what the detectors find
in the files, and the facts that are recorded of it. But for the times of its records, a profile is determined
by its snapshot. -/

namespace SecScanMonitor.Application.Firm

open Foundations Domain

/-- The functions of the language on texts, and the Unicode tables of its patterns. -/
structure TextTooling extends Interpreter where
  unicode : Sanitize.UnicodeTables

/-- The lists of a profile that detectors add facts to. -/
inductive FactField where
  | languages
  | frameworks
  | packageEcosystems
  | entryPoints
  | apiSurfaces
  | authenticationSurfaces
  | authorizationSurfaces
  | databaseStorage
  | networkInterfaces
  | containers
  | infrastructureAsCode
  | cicd
  | buildRelease
  | externalServices
  | agenticComponents
  | modelProviders
  | mcpServers
  | toolInterfaces
  | memoryPersistence
  | secretReferences
  deriving DecidableEq

/-- What a detector adds to a list. -/
structure Detected where
  field : FactField
  key : String
  value : Value
  path : Str
  confidence : Confidence := .medium

/-- A text without lone surrogates. -/
def plain (s : Str) : String :=
  String.ofList (s.filterMap fun c => match c with
    | .scalar c => some c
    | .surrogate _ => none)

def InspectionSnapshot.repository (snapshot : InspectionSnapshot) : RepositorySnapshot where
  targetId := snapshot.targetId
  snapshotId := snapshot.snapshotId
  targetIdentity := snapshot.targetIdentity
  files := snapshot.files
  sourceIdentity := snapshot.sourceIdentity

section Paths

def slash : CodePoint := .scalar '/'

/-- `str(PurePosixPath(path))` -/
def purePath (path : Str) : Str :=
  let leading := (path.takeWhile fun c => decide (c = slash)).length
  let root : Str := if leading = 0 then [] else if leading = 2 then [slash, slash] else [slash]
  let parts := (path.splitOn slash).filter fun part => decide (part ≠ [] ∧ part ≠ Str.ofString ".")
  let joined := root ++ [slash].intercalate parts
  if joined = [] then "." else joined

/-- `PurePosixPath(path).suffix` -/
def suffix (path : Str) : Str :=
  let name := pathName path
  let extension := (name.reverse.takeWhile fun c => decide (c ≠ .scalar '.')).reverse
  if extension ≠ [] ∧ 1 < name.length - extension.length then .scalar '.' :: extension else []

/-- `f"/{path.lower()}/"` -/
def delimited (lower : Str) : Str := slash :: (lower ++ [slash])

/-- `any(marker in text for marker in markers)` -/
def mentionsAny (markers : List String) (text : Str) : Bool := markers.any fun marker => contains marker text

def pathFact (field : FactField) (key : String) (path : Str) : Detected :=
  { field, key, value := .str (plain path), path }

end Paths

section Detectors

variable (tooling : TextTooling)

def extensions : List (String × String) :=
  [(".py", "Python"), (".ts", "TypeScript"), (".tsx", "TypeScript"), (".js", "JavaScript"), (".jsx", "JavaScript"),
    (".go", "Go"), (".rs", "Rust"), (".java", "Java"), (".rb", "Ruby")]

def languageFact (language : String) (path : Str) : Detected :=
  { field := .languages, key := "language", value := .str language, path }

/-- `_detect_languages`, where some languages are known already -/
def detectLanguages : List String → List Str → List Detected
  | _, [] => []
  | seen, path :: paths =>
    match (extensions.find? fun e => decide (Str.ofString e.1 = tooling.lower (suffix path))).map Prod.snd with
    | none => detectLanguages seen paths
    | some language =>
      if language ∈ seen then detectLanguages seen paths
      else languageFact language path :: detectLanguages (language :: seen) paths

def manifestMap : List (String × String × String × String) :=
  [("pyproject.toml", "PyPI", "Python", "package_manifest"),
    ("requirements.txt", "PyPI", "Python", "package_manifest"),
    ("poetry.lock", "PyPI", "Python", "lockfile"),
    ("package.json", "npm", "JavaScript", "package_manifest"),
    ("package-lock.json", "npm", "JavaScript", "lockfile"),
    ("pnpm-lock.yaml", "npm", "JavaScript", "lockfile"),
    ("yarn.lock", "npm", "JavaScript", "lockfile"),
    ("go.mod", "Go", "Go", "package_manifest"),
    ("go.sum", "Go", "Go", "lockfile"),
    ("Cargo.toml", "crates.io", "Rust", "package_manifest"),
    ("Cargo.lock", "crates.io", "Rust", "lockfile"),
    ("pom.xml", "Maven", "Java", "package_manifest"),
    ("Gemfile.lock", "RubyGems", "Ruby", "lockfile")]

/-- `_detect_manifests`, where some ecosystems and languages are known already -/
def detectManifests : List String → List String → List Str → List Detected
  | _, _, [] => []
  | ecosystems, languages, path :: paths =>
    match manifestMap.find? fun m => decide (Str.ofString m.1 = pathName path) with
    | none => detectManifests ecosystems languages paths
    | some (_, ecosystem, language, kind) =>
      (if ecosystem ∈ ecosystems then []
        else [{ field := .packageEcosystems, key := "package_ecosystem", value := .str ecosystem, path }]) ++
        pathFact .buildRelease kind path ::
          ((if language ∈ languages then [] else [languageFact language path]) ++
            detectManifests (ecosystem :: ecosystems) (language :: languages) paths)

def frameworkMarkers : List (String × String) :=
  [("fastapi", "FastAPI"), ("flask", "Flask"), ("django", "Django"), ("express", "Express"), ("next/", "Next.js"),
    ("react", "React"), ("temporal", "Temporal"), ("sqlalchemy", "SQLAlchemy")]

/-- The frameworks of a text that are not known yet; no framework has two markers. -/
def newFrameworks (seen : List String) (lower : Str) : List String :=
  (frameworkMarkers.filter fun m => contains m.1 lower && decide (m.2 ∉ seen)).map Prod.snd

def methods : List String := ["get", "post", "put", "patch", "delete"]

/-- `@(app|router)\.(get|post|put|patch|delete)|app\.(get|post|put|patch|delete)\(` -/
def routeMarkers : List String :=
  methods.map ("@app." ++ ·) ++ methods.map ("@router." ++ ·) ++ methods.map fun method => "app." ++ method ++ "("

/-- The lines of a text with their numbers. -/
def numberedLines (content : Str) : List (Str × ℕ) :=
  (SupplyChainSecurityService.splitLinesFrom [] content).zipIdx 1

def lineValue (path : Str) (line : ℕ) : List (String × Value) := [("path", .str (plain path)), ("line", .int line)]

def detectRoutes (path content : Str) : List Detected :=
  let routes := ((numberedLines content).filter fun line => mentionsAny routeMarkers line.1).map fun line =>
    { field := .apiSurfaces, key := "api_route", value := .obj (lineValue path line.2), path }
  if routes = [] then [] else routes ++ [pathFact .entryPoints "application_entry_point" path]

/-- A fact about a file of which something holds. -/
def factWhere (holds : Bool) (field : FactField) (key : String) (path : Str) : List Detected :=
  if holds then [pathFact field key path] else []

/-- `_detect_frameworks_and_routes`, where some frameworks are known already -/
def detectFrameworksAndRoutes : List String → List (Str × Str) → List Detected
  | _, [] => []
  | seen, (path, content) :: files =>
    let lower := tooling.lower content
    let found := newFrameworks seen lower
    (found.map fun framework => { field := .frameworks, key := "framework", value := .str framework, path }) ++
      (detectRoutes path content ++
        (factWhere (mentionsAny ["authenticate", "authorization", "permission", "oauth", "jwt", "session"] lower)
            .authenticationSurfaces "auth_surface" path ++
          factWhere (mentionsAny ["tenant_id", "owner_id", "acl", "is_admin", "role_required"] lower)
            .authorizationSurfaces "authorization_surface" path ++
          factWhere (mentionsAny ["postgres", "sqlite", "mysql", "redis", "mongodb", "database"] lower)
            .databaseStorage "storage" path ++
          factWhere (mentionsAny ["requests.", "httpx", "urllib", "fetch(", "axios"] lower)
            .externalServices "outbound_client" path)) ++
      detectFrameworksAndRoutes (found ++ seen) files

/-- `_detect_deployment` -/
def detectDeployment (files : List (Str × Str)) : List Detected :=
  files.flatMap fun (path, content) =>
    let name := tooling.lower (pathName path)
    let lower := tooling.lower content
    let lowerPath := delimited (tooling.lower path)
    let workflow := mentionsAny [".github/workflows/", "/.gitlab-ci"] lowerPath
    factWhere (decide (name = Str.ofString "dockerfile") || startsWith "dockerfile." name) .containers "dockerfile" path ++
      factWhere (decide (name ∈ ["docker-compose.yml", "docker-compose.yaml", "compose.yml", "compose.yaml"].map
        Str.ofString)) .containers "compose" path ++
      factWhere (([".tf", ".bicep", ".hcl"].any fun ending => endsWith ending name) ||
        contains "/terraform/" lowerPath) .infrastructureAsCode "iac" path ++
      factWhere workflow .cicd "ci_workflow" path ++
      factWhere workflow .buildRelease "release_automation" path ++
      factWhere (mentionsAny ["listen=0.0.0.0", "host: 0.0.0.0", "bind: 0.0.0.0"] lower) .networkInterfaces
        "configured_bind" path

/-- `_detect_agent_surface` -/
def detectAgentSurface (files : List (Str × Str)) : List Detected :=
  files.flatMap fun (path, content) =>
    let lower := tooling.lower content
    let name := tooling.lower (pathName path)
    let pathSignal := mentionsAny ["/agent", "/mcp", "/model", "/llm", "/tool"] (delimited (tooling.lower path))
    let contentSignal := mentionsAny ["mcp", "tool_registry", "model_provider", "agent_id", "system_prompt",
      "memory_store"] lower
    factWhere (pathSignal || contentSignal) .agenticComponents "agentic_component" path ++
      factWhere (contains "mcp" lower || contains "mcp" name) .mcpServers "mcp_server_or_config" path ++
      factWhere (mentionsAny ["openai", "anthropic", "gemini", "model_provider", "llm"] lower) .modelProviders
        "model_provider_reference" path ++
      factWhere (mentionsAny ["tool_registry", "allowed_tools", "capabilities", "execute_tool", "function_call"] lower)
        .toolInterfaces "tool_interface" path ++
      factWhere (mentionsAny ["memory_store", "conversation_memory", "vector_store", "retrieval"] lower)
        .memoryPersistence "agent_memory" path

def isWordPoint : CodePoint → Bool
  | .scalar c => Sanitize.isWord tooling.unicode c
  | .surrogate _ => false

def foldPoint : CodePoint → CodePoint
  | .scalar c => .scalar (Sanitize.fold c)
  | .surrogate n => .surrogate n

/-- The names of `(api[_-]?key|token|password|secret|private[_-]?key|credential)` -/
def secretNames : List String :=
  ["api_key", "api-key", "apikey", "token", "password", "secret", "private_key", "private-key", "privatekey",
    "credential"]

/-- `\b` -/
def isWordEdge (l n : Option CodePoint) : Bool := l.any (isWordPoint tooling) != n.any (isWordPoint tooling)

/-- One of the names at a place of a line, between two edges of words, ignoring case. -/
def readSecretName (last : Option CodePoint) (s : Str) : Option (Str × ℕ) :=
  (secretNames.find? fun name =>
    decide ((s.take name.length).map foldPoint = Str.ofString name) && isWordEdge tooling last s.head? &&
      isWordEdge tooling (s.take name.length).getLast? (s.drop name.length).head?).map fun name =>
    (s.take name.length, name.length)

/-- `_detect_secret_references` -/
def detectSecretReferences (files : List (Str × Str)) : List Detected :=
  files.flatMap fun (path, content) =>
    (numberedLines content).filterMap fun line =>
      (findIter (readSecretName tooling) 0 none line.1).head?.map fun name =>
        { field := .secretReferences
          key := "secret_reference"
          value := .obj (lineValue path line.2 ++ [("name", .str (plain (tooling.lower name)))])
          path
          confidence := .low }

def factValues (field : FactField) (found : List Detected) : List String :=
  found.filterMap fun d => match d.value with
    | .str s => if d.field = field then some s else none
    | _ => none

/-- All that the detectors add, in the order in which they do. -/
def detect (snapshot : InspectionSnapshot) : List Detected :=
  let files : Dict Str Str := snapshot.files.rows.foldl (fun d e => d.set (purePath e.1) e.2) Table.empty
  let items := files.sortedItems
  let languages := detectLanguages tooling [] (items.map Prod.fst)
  languages ++ detectManifests [] (factValues .languages languages) (items.map Prod.fst) ++
    detectFrameworksAndRoutes tooling [] items ++ detectDeployment tooling items ++
    detectAgentSurface tooling items ++ detectSecretReferences tooling items

end Detectors

section Profile

variable (tooling : TextTooling)

/-- A fact but for its times: what was detected, and the id of its evidence. -/
structure FactSeed where
  detected : Detected
  evidenceId : String

def factSeeds (snapshot : InspectionSnapshot) : Except Raised (List FactSeed) :=
  (detect tooling snapshot).mapM fun d => do
    let id ← evidenceId tooling.toInterpreter snapshot.repository d.path d.key
    return ⟨d, plain id⟩

variable (clock : ℕ → Datetime) (snapshot : InspectionSnapshot) (seeds : List FactSeed)

/-- `_fact`; the provenance reads the clock twice, and then the fact does. -/
def FactSeed.fact (seed : FactSeed) (n : ℕ) : ProfileFact where
  createdAt := clock (4 * n + 4)
  updatedAt := clock (4 * n + 5)
  key := seed.detected.key
  value := seed.detected.value
  status := .discovered
  confidence := seed.detected.confidence
  provenance :=
    { createdAt := clock (4 * n + 2)
      updatedAt := clock (4 * n + 3)
      sourceKind := "code_discovered"
      sourceRef := plain seed.detected.path
      snapshotId := snapshot.snapshotId
      evidenceId := some seed.evidenceId
      sourceDigest := none }
  limitation := ""

def factsOf (field : FactField) : List ProfileFact :=
  (seeds.zipIdx.filter fun seed => decide (seed.1.detected.field = field)).map fun seed =>
    seed.1.fact clock snapshot seed.2

/-- The fields to which something was added. -/
def fills (field : FactField) : Bool := seeds.any fun seed => decide (seed.detected.field = field)

/-- `_classify` -/
def classify : String :=
  let agentic := fills seeds .agenticComponents || fills seeds .toolInterfaces || fills seeds .mcpServers
  if agentic && fills seeds .apiSurfaces then "agentic_web_saas"
  else if fills seeds .apiSurfaces then "web_application"
  else if fills seeds .packageEcosystems then "static_library"
  else "unknown"

def profileOf : TargetSecurityProfile :=
  let factsOf := factsOf clock snapshot seeds
  { createdAt := clock 0
    updatedAt := clock 1
    targetId := snapshot.targetId
    snapshotId := snapshot.snapshotId
    targetIdentity := snapshot.targetIdentity
    snapshotIdentity := snapshot.sourceIdentity
    targetClass := classify seeds
    languages := factsOf .languages
    frameworks := factsOf .frameworks
    packageEcosystems := factsOf .packageEcosystems
    entryPoints := factsOf .entryPoints
    apiSurfaces := factsOf .apiSurfaces
    authenticationSurfaces := factsOf .authenticationSurfaces
    authorizationSurfaces := factsOf .authorizationSurfaces
    databaseStorage := factsOf .databaseStorage
    networkInterfaces := factsOf .networkInterfaces
    containers := factsOf .containers
    infrastructureAsCode := factsOf .infrastructureAsCode
    cicd := factsOf .cicd
    buildRelease := factsOf .buildRelease
    externalServices := factsOf .externalServices
    cloudIntegrations := []
    agenticComponents := factsOf .agenticComponents
    modelProviders := factsOf .modelProviders
    mcpServers := factsOf .mcpServers
    toolInterfaces := factsOf .toolInterfaces
    memoryPersistence := factsOf .memoryPersistence
    secretReferences := factsOf .secretReferences
    securityConfiguration := []
    unknowns :=
      (if fills seeds .networkInterfaces then []
        else ["runtime network exposure is not established by repository artifacts"]) ++
      if fills seeds .authenticationSurfaces then [] else ["authentication implementation was not identified"]
    contradictions := [] }

/-- `AttackSurfaceMapper.map` -/
def mapSurface : Except Raised TargetSecurityProfile := do
  let seeds ← factSeeds tooling snapshot
  return profileOf clock snapshot seeds

end Profile

section Times

variable {tooling : TextTooling} {clock clock' : ℕ → Datetime} {snapshot : InspectionSnapshot}
  {seeds : List FactSeed} {profile : TargetSecurityProfile} {dumpDatetime : Datetime → String}

lemma mapSurface_eq_ok : mapSurface tooling clock snapshot = .ok profile ↔
    ∃ seeds, factSeeds tooling snapshot = .ok seeds ∧ profile = profileOf clock snapshot seeds := by
  rw [mapSurface, bind_eq_ok]
  exact exists_congr fun seeds => and_congr_right fun _ => ⟨fun h => (Except.ok.inj h).symm, fun h => h ▸ rfl⟩

lemma withoutTimestamps_fact (seed : FactSeed) (n : ℕ) :
    withoutTimestamps ((seed.fact clock snapshot n).toValue dumpDatetime) =
      withoutTimestamps ((seed.fact clock' snapshot n).toValue dumpDatetime) := by
  simp only [withoutTimestamps, FactSeed.fact, ProfileFact.toValue, ProfileProvenance.toValue, DomainModel.members,
    List.cons_append, List.nil_append, Value.without, Value.membersWithout, timestamps, List.mem_cons, true_or, or_true,
    if_true]

lemma withoutTimestamps_factsOf (field : FactField) :
    Value.without timestamps (.arr ((factsOf clock snapshot seeds field).map (·.toValue dumpDatetime))) =
      Value.without timestamps (.arr ((factsOf clock' snapshot seeds field).map (·.toValue dumpDatetime))) := by
  rw [Value.without, Value.without, Value.itemsWithout_eq_map, Value.itemsWithout_eq_map, factsOf, factsOf]
  simp only [List.map_map]
  refine congrArg Value.arr (List.map_congr_left fun seed _ => ?_)
  exact withoutTimestamps_fact seed.1 seed.2

/-- Two profiles of a snapshot are the same but for the times of their records. -/
theorem withoutTimestamps_profileOf :
    withoutTimestamps ((profileOf clock snapshot seeds).toValue dumpDatetime) =
      withoutTimestamps ((profileOf clock' snapshot seeds).toValue dumpDatetime) := by
  have hfacts := fun field => @withoutTimestamps_factsOf clock clock' snapshot seeds dumpDatetime field
  have hcreated : "created_at" ∈ timestamps := by decide
  have hupdated : "updated_at" ∈ timestamps := by decide
  simp only [withoutTimestamps, TargetSecurityProfile.toValue, TargetSecurityProfile.factFields, profileOf,
    DomainModel.members, List.map_cons, List.cons_append, List.nil_append, Value.without, Value.membersWithout,
    hcreated, hupdated, if_true] at hfacts ⊢
  simp only [hfacts]

lemma factsOf_eq_nil {field : FactField} : factsOf clock snapshot seeds field = [] ↔ fills seeds field = false := by
  rw [factsOf, List.map_eq_nil_iff, List.filter_eq_nil_iff, fills, List.any_eq_false]
  constructor
  · intro h seed hseed
    rw [← List.zipIdx_map_fst 0 seeds] at hseed
    obtain ⟨⟨_, n⟩, hmem, rfl⟩ := List.mem_map.mp hseed
    exact h _ hmem
  · rintro h ⟨seed, n⟩ hmem
    refine h seed ?_
    rw [← List.zipIdx_map_fst 0 seeds]
    exact List.mem_map_of_mem hmem

lemma hasAgenticSurface_profileOf : (profileOf clock snapshot seeds).hasAgenticSurface =
    (fills seeds .agenticComponents || fills seeds .toolInterfaces || fills seeds .mcpServers) := by
  rw [Bool.eq_iff_iff]
  simp only [TargetSecurityProfile.hasAgenticSurface, profileOf, Bool.or_eq_true, decide_eq_true_eq, ne_eq,
    factsOf_eq_nil, Bool.not_eq_false]

/-- A plan but for its times depends on the engagement, and on no time of the profile. -/
lemma routeServices_profileOf {stamps stamps' : DomainModel} {engagement : FirmEngagement}
    {registry : SecurityServiceRegistry} {plan : AssessmentPlan}
    (h : routeServices stamps (profileOf clock snapshot seeds) engagement registry = .ok plan) :
    routeServices stamps' (profileOf clock' snapshot seeds) engagement registry =
      .ok { plan with toDomainModel := stamps' } := by
  rw [routeServices, hasAgenticSurface_profileOf] at h ⊢
  obtain ⟨contracts, hcontracts, h⟩ := bind_eq_ok.mp h
  obtain ⟨_, hvalid, h⟩ := bind_eq_ok.mp h
  obtain rfl := Except.ok.inj h
  exact bind_eq_ok.mpr ⟨contracts, hcontracts, bind_eq_ok.mpr ⟨(), hvalid, rfl⟩⟩

lemma withoutTimestamps_plan {plan : AssessmentPlan} {stamps : DomainModel} :
    withoutTimestamps (({ plan with toDomainModel := stamps } : AssessmentPlan).toValue dumpDatetime) =
      withoutTimestamps (plan.toValue dumpDatetime) := by
  have hcreated : "created_at" ∈ timestamps := by decide
  have hupdated : "updated_at" ∈ timestamps := by decide
  simp only [withoutTimestamps, AssessmentPlan.toValue, DomainModel.members, List.cons_append, List.nil_append,
    Value.without, Value.membersWithout, hcreated, hupdated, if_true]

end Times

end SecScanMonitor.Application.Firm
