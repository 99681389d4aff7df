import Mathlib.Algebra.Ring.Int.Defs
import SecScanMonitor.DetectionResponse.Engine

/-! The importer of Sigma rules (`detection_response/sigma.py`). The YAML loader and Python's own text functions are
parameters of it. -/

namespace SecScanMonitor.DetectionResponse

open Foundations Domain

/-- A decoded YAML document; `other` stands for the dates, bytes and sets that YAML has besides. -/
inductive Yaml where
  | null
  | bool (b : Bool)
  | int (n : Int)
  | float (q : Rat)
  | str (s : String)
  | seq (items : List Yaml)
  | map (entries : List (Yaml × Yaml))
  | other (tag text : String)

abbrev YamlMap := List (Yaml × Yaml)

inductive YamlFailure where
  | yamlError
  | other (e : Raised)

/-- The YAML loader, `str.lower`, `str`, whether a character is a decimal digit, and the content digest of a
document, which some documents have no JSON for. -/
structure SigmaTooling where
  load : String → Except YamlFailure Yaml
  lower : String → String
  str : Yaml → String
  isDecimal : Char → Bool
  contentDigest : Yaml → Except Raised String

namespace Sigma

def refuse {α : Type} (message : String) : Except Raised α :=
  raise .unsupportedDetectionConstruct message

def specificationVersion : String := "2.1.0"

def allowedRootKeys : List String :=
  ["title", "id", "name", "status", "description", "author", "date", "modified", "references", "tags",
    "logsource", "detection", "level", "falsepositives", "fields"]

def allowedCustomPrefix : String := "x_secscan_"

def allowedCustomKeys : List String :=
  ["x_secscan_confidence", "x_secscan_rationale", "x_secscan_version"]

def allowedLogsourceKeys : List String := ["category", "product", "service"]

def isKey (key : String) : Yaml → Bool
  | .str s => decide (s = key)
  | _ => false

/-- `m.get(key)` -/
def get (m : YamlMap) (key : String) : Option Yaml := (m.find? fun e => isKey key e.1).map Prod.snd

/-- `_mapping` -/
def mapping (value : Option Yaml) (label : String) : Except Raised YamlMap :=
  match value with
  | some (.map entries) => .ok entries
  | _ => refuse ("Sigma " ++ label ++ " must be a mapping")

def strip (s : String) : String :=
  String.ofList ((s.toList.dropWhile isSpace).reverse.dropWhile isSpace).reverse

def isText : Yaml → Bool
  | .str s => !isBlank s
  | _ => false

/-- The text of a checked value. -/
def textOf : Yaml → String
  | .str s => s
  | _ => ""

section Fields

variable (tooling : SigmaTooling)

def checkLogsourceValues : YamlMap → Except Raised Unit
  | [] => .ok ()
  | (key, value) :: entries => do
    raiseIf (isText value = false) .unsupportedDetectionConstruct
      ("Sigma logsource " ++ tooling.str key ++ " must be a non-empty string")
    checkLogsourceValues entries

def familiesOf (category product service : String) : List String :=
  (if category ∈ ["process_creation", "process_access", "file_event"] ∨
      product ∈ ["windows", "linux", "endpoint"] then ["endpoint_fixture"] else []) ++
  (if category ∈ ["authentication", "cloud", "audit", "iam"] ∨
      product ∈ ["aws", "azure", "gcp", "cloud"] then ["cloud_audit_fixture"] else []) ++
  (if product ∈ ["mcp", "a2a", "gateway"] ∨ service ∈ ["mcp", "a2a", "gateway"] then
    ["mcp_a2a_gateway"] else []) ++
  (if product ∈ ["secscan", "secscanmonitor"] then ["secscan"] else []) ++
  (if product ∈ ["edge_runner", "runner"] ∨ service = "edge_runner" then ["edge_runner"] else [])

/-- `_source_family` -/
def sourceFamily (logsource : YamlMap) : Except Raised String := do
  raiseIf (logsource.any fun e => !(allowedLogsourceKeys.any fun k => isKey k e.1))
    .unsupportedDetectionConstruct "Sigma logsource contains unsupported fields"
  checkLogsourceValues tooling logsource
  let lowered := fun key => tooling.lower (((get logsource key).map textOf).getD "")
  match familiesOf (lowered "category") (lowered "product") (lowered "service") with
  | [family] => .ok family
  | _ => refuse "Sigma logsource must resolve to exactly one bounded source family"

/-- `not value` -/
def falsy : Yaml → Bool
  | .null => true
  | .bool b => !b
  | .int n => decide (n = 0)
  | .float q => decide (q = 0)
  | .str s => decide (s = "")
  | .seq items => items.isEmpty
  | .map entries => entries.isEmpty
  | .other _ _ => false

def severityOfLevel : String → Option Severity
  | "informational" => some .low
  | "low" => some .low
  | "medium" => some .medium
  | "high" => some .high
  | "critical" => some .critical
  | _ => none

/-- `_severity` -/
def severity (level : Option Yaml) : Except Raised Severity :=
  let value := tooling.lower (match level with
    | some v => if falsy v then "medium" else tooling.str v
    | none => "medium")
  orRaise (severityOfLevel value) .unsupportedDetectionConstruct ("unsupported Sigma level: " ++ value)

/-- `attack\.t\d{4}(?:\.\d{3})?`, where case is ignored. -/
def isAttackTag (s : String) : Bool :=
  let digits := fun n cs => decide (List.length cs = n) && cs.all tooling.isDecimal
  match s.toList with
  | 'a' :: 't' :: 't' :: 'a' :: 'c' :: 'k' :: '.' :: t :: cs =>
    (t = 't' || t = 'T') && (digits 4 cs || (digits 4 (cs.take 4) &&
      match cs.drop 4 with
      | '.' :: ds => digits 3 ds
      | _ => false))
  | _ => false

/-- `[A-Za-z0-9]` where case is ignored: four letters beyond ASCII have an ASCII letter as their other case. -/
def isTagChar (c : Char) : Bool :=
  c.isAlphanum || c.toNat ∈ [0x130, 0x131, 0x17F, 0x212A]

/-- `[A-Za-z0-9]+(?:[._-][A-Za-z0-9]+)*` -/
def isAtlasName (s : List Char) : Bool :=
  (s.splitOnP fun c => c = '.' || c = '_' || c = '-').all fun part => !part.isEmpty && part.all isTagChar

def tagKinds : List String → Except Raised (List String × List String)
  | [] => .ok ([], [])
  | tag :: tags => do
    let normalized := tooling.lower tag
    if "attack.".toList <+: normalized.toList then
      raiseIf (isAttackTag tooling normalized = false) .unsupportedDetectionConstruct
        "malformed ATT&CK tag"
      let (attack, atlas) ← tagKinds tags
      return (tag :: attack, atlas)
    else if "atlas.".toList <+: normalized.toList then
      raiseIf (isAtlasName (normalized.toList.drop 6) = false) .unsupportedDetectionConstruct
        "malformed ATLAS tag"
      let (attack, atlas) ← tagKinds tags
      return (attack, tag :: atlas)
    else
      raiseIf ('.' ∈ tag.toList) .unsupportedDetectionConstruct "unsupported Sigma tag namespace"
      tagKinds tags

def texts : List Yaml → Option (List String)
  | [] => some []
  | .str s :: items => (texts items).map (s :: ·)
  | _ :: _ => none

/-- `_tags` -/
def tags (value : Option Yaml) : Except Raised (List String × List String) :=
  match value with
  | none | some .null => .ok ([], [])
  | some (.seq items) => do
    let names ← orRaise (texts items) .unsupportedDetectionConstruct
      "Sigma tags must be a list of strings"
    let (attack, atlas) ← tagKinds tooling names
    return (normalized attack, normalized atlas)
  | some _ => refuse "Sigma tags must be a list of strings"

end Fields

section Selector

/-- A scalar of a selector. -/
def scalar : Yaml → Option Value
  | .str s => some (.str s)
  | .int n => some (.int n)
  | .float q => some (.float q)
  | .bool b => some (.bool b)
  | _ => none

def scalars : List Yaml → Option (List Value)
  | [] => some []
  | v :: vs => do
    let w ← scalar v
    let ws ← scalars vs
    return w :: ws

def isMap : Yaml → Bool
  | .map _ => true
  | _ => false

/-- What a selector expects of a field. -/
def expected : Yaml → Except Raised Value
  | .map _ => refuse "nested Sigma selector values are not supported"
  | .seq items => do
    raiseIf (items.any isMap) .unsupportedDetectionConstruct
      "nested Sigma selector values are not supported"
    raiseIf items.isEmpty .unsupportedDetectionConstruct
      "Sigma selector lists must contain scalar values"
    let values ← orRaise (scalars items) .unsupportedDetectionConstruct
      "Sigma selector lists must contain scalar values"
    return .arr values
  | v => orRaise (scalar v) .unsupportedDetectionConstruct
      "Sigma selector values must be scalar or scalar lists"

def checkField (field : String) : Except Raised Unit :=
  raiseIf ('|' ∈ field.toList ∧ (rsplitBar field).2 ∉ ["contains", "startswith", "endswith"])
    .unsupportedDetectionConstruct "unsupported Sigma field modifier"

/-- `predicates[field] = value` -/
def assign (field : String) (value : Value) : List (String × Value) → List (String × Value)
  | [] => [(field, value)]
  | (k, v) :: ps => if k = field then (k, value) :: ps else (k, v) :: assign field value ps

def predicatesOf : YamlMap → List (String × Value) → Except Raised (List (String × Value))
  | [], predicates => .ok predicates
  | (.str field, value) :: entries, predicates => do
    raiseIf (isBlank field) .unsupportedDetectionConstruct
      "Sigma selector fields must be non-empty strings"
    checkField field
    let v ← expected value
    predicatesOf entries (assign field v predicates)
  | _ :: _, _ => refuse "Sigma selector fields must be non-empty strings"

/-- The selectors of a detection. -/
def selectors (detection : YamlMap) : YamlMap := detection.filter fun e => !isKey "condition" e.1

/-- `_selector` -/
def selector (detection : YamlMap) : Except Raised (String × List (String × Value)) :=
  match get detection "condition" with
  | some (.str condition) => do
    raiseIf (isBlank condition) .unsupportedDetectionConstruct "Sigma condition is required"
    let selected ← orRaise (get (selectors detection) (strip condition)) .unsupportedDetectionConstruct
      "only a single named Sigma selector condition is supported"
    raiseIf ((selectors detection).length ≠ 1) .unsupportedDetectionConstruct
      "multiple Sigma selectors/boolean expressions are not supported"
    let entries ← mapping (some selected) "selector"
    let predicates ← predicatesOf entries []
    raiseIf (predicates = []) .unsupportedDetectionConstruct "Sigma selector cannot be empty"
    return (strip condition, predicates)
  | _ => refuse "Sigma condition is required"

end Selector

section Import

/-- What `DetectionRuleVersion`, `DetectionRule` and `DetectionPlan` are built of. -/
structure Parts where
  ruleId : String
  version : Int
  title : String
  digest : String
  sourceReference : String
  family : String
  severity : Severity
  confidence : Confidence
  rationale : String
  attack : List String
  atlas : List String
  references : List String
  predicates : List (String × Value)
  status : RuleStatus
  condition : String
  createdAt : Datetime
  modifiedAt : Datetime

namespace Parts

variable (codec : Codec) (parts : Parts)

def content : RuleContent where
  ruleType := .eventMatch
  contentDigest := parts.digest
  eventSchema := "OCSF"
  supportedSourceFamilies := [parts.family]
  predicates := parts.predicates
  correlationKeys := []
  windowSeconds := 0
  threshold := 1

/-- What the validators of the models ask. -/
structure Valid : Prop where
  content : parts.content.Valid
  nonblank : [parts.ruleId, parts.title, parts.sourceReference].all fun s => !isBlank s
  positive : 1 ≤ parts.version

instance : Decidable parts.Valid :=
  decidable_of_iff (parts.content.Valid ∧
      ([parts.ruleId, parts.title, parts.sourceReference].all fun s => !isBlank s) ∧ 1 ≤ parts.version)
    ⟨fun h => ⟨h.1, h.2.1, h.2.2⟩, fun h => ⟨h.content, h.nonblank, h.positive⟩⟩

variable {parts}

def ruleVersion (h : parts.Valid) : DetectionRuleVersion where
  toRuleContent := parts.content
  ruleId := parts.ruleId
  version := parts.version
  title := parts.title
  source := "sigma-" ++ specificationVersion
  sourceReference := parts.sourceReference
  owner := "SecScanMonitor"
  ocsfVersion := supportedOcsfVersion
  severity := parts.severity
  confidence := parts.confidence
  confidenceMetadata :=
    [("sigma_specification", .str specificationVersion), ("rationale", .str parts.rationale)]
  attackMappings := parts.attack
  atlasMappings := parts.atlas
  references := parts.references
  status := parts.status
  createdAt := parts.createdAt
  modifiedAt := parts.modifiedAt
  evaluationMetadata := [("condition", .str parts.condition), ("sigma_subset", .str "single_event")]
  valid := h.content
  nonblank := by
    have hsource : isBlank ("sigma-" ++ specificationVersion) = false := by decide
    have howner : isBlank "SecScanMonitor" = false := by decide
    have hnonblank := h.nonblank
    simp only [List.all_cons, List.all_nil, Bool.and_true, Bool.and_eq_true, hsource, howner,
      Bool.not_false] at hnonblank ⊢
    simpa using hnonblank
  ocsf := rfl
  positive := h.positive

def rule (h : parts.Valid) : DetectionRule where
  ruleId := parts.ruleId
  name := parts.title
  versions := [ruleVersion h]
  activeVersion := parts.version
  owner := "SecScanMonitor"
  nonblank := by
    have howner : isBlank "SecScanMonitor" = false := by decide
    have hnonblank := h.nonblank
    simp only [List.all_cons, List.all_nil, Bool.and_true, Bool.and_eq_true, howner,
      Bool.not_false] at hnonblank ⊢
    exact ⟨hnonblank.1, hnonblank.2.1⟩
  activeExists := ⟨ruleVersion h, List.mem_singleton_self _, rfl⟩
  belongs := by
    intro v hv
    obtain rfl := List.mem_singleton.mp hv
    rfl
  unique := List.nodup_singleton _
  owned := by
    intro v hv
    obtain rfl := List.mem_singleton.mp hv
    rfl

def plan (h : parts.Valid) : DetectionPlan where
  toRuleContent := parts.content
  planId := stableId codec "PLAN-" [.str parts.ruleId, .int parts.version, .str parts.digest]
  ruleId := parts.ruleId
  ruleVersion := parts.version
  valid := h.content
  nonblank := by
    have hplan : isBlank (stableId codec "PLAN-"
        [.str parts.ruleId, .int parts.version, .str parts.digest]) = false :=
      isBlank_append (by decide) _
    have hnonblank := h.nonblank
    simp only [List.all_cons, List.all_nil, Bool.and_true, Bool.and_eq_true, hplan,
      Bool.not_false, Bool.true_and] at hnonblank ⊢
    exact hnonblank.1

end Parts

/-- `SigmaImportResult` -/
structure ImportResult where
  rule : DetectionRule
  plan : DetectionPlan
  contentDigest : String

/-- The text of a rule, or its decoded mapping. -/
inductive Document where
  | text (s : String)
  | decoded (payload : Yaml)

variable (tooling : SigmaTooling) (codec : Codec)

def payloadOf : Document → Except Raised Yaml
  | .text s =>
    match tooling.load s with
    | .ok payload => .ok payload
    | .error .yamlError => refuse "malformed Sigma YAML"
    | .error (.other e) => .error e
  | .decoded payload => .ok payload

def allowedKey (key : Yaml) : Bool :=
  (allowedRootKeys.any fun k => isKey k key) ||
    match key with
    | .str s => decide (allowedCustomPrefix.toList <+: s.toList) && decide (s ∈ allowedCustomKeys)
    | _ => false

def statusOf : String → Option RuleStatus
  | "stable" => some .active
  | "test" => some .test
  | "experimental" => some .test
  | _ => none

def confidenceOf : String → Option Confidence
  | "high" => some .high
  | "medium" => some .medium
  | "low" => some .low
  | "unknown" => some .unknown
  | _ => none

def titleOf (value : Option Yaml) : Except Raised String :=
  match value with
  | some (.str s) => if isBlank s then refuse "Sigma title is required" else .ok s
  | _ => refuse "Sigma title is required"

def referencesOf (value : Option Yaml) : Except Raised (List String) :=
  match value with
  | none => .ok []
  | some (.seq items) =>
    if items.all isText then .ok (items.map textOf)
    else refuse "Sigma references must be a list of non-empty strings"
  | some _ => refuse "Sigma references must be a list of non-empty strings"

def ruleIdOf (value : Option Yaml) (title digest : String) : Except Raised String :=
  match value with
  | none | some .null => .ok (stableId codec "SIGMA-RULE-" [.str title, .str digest])
  | some (.str s) =>
    if isBlank s then refuse "Sigma id must be a non-empty string" else .ok (strip s)
  | some _ => refuse "Sigma id must be a non-empty string"

def versionOf (value : Option Yaml) : Except Raised Int :=
  match value with
  | none => .ok 1
  | some (.int n) =>
    if n < 1 then refuse "x_secscan_version must be a positive integer" else .ok n
  | some _ => refuse "x_secscan_version must be a positive integer"

def partsOf (root : YamlMap) (sourceReference : String) (createdAt modifiedAt : Datetime) :
    Except Raised Parts := do
  let unknown := root.filter fun e => !allowedKey e.1
  raiseIf (unknown ≠ []) .unsupportedDetectionConstruct ("unsupported Sigma fields: " ++
    tooling.str (.seq (((unknown.map fun e => tooling.str e.1).insertionSort (· ≤ ·)).map .str)))
  let title ← titleOf ((get root "title").or (get root "name"))
  let logsource ← mapping (get root "logsource") "logsource"
  let family ← sourceFamily tooling logsource
  let detection ← mapping (get root "detection") "detection"
  let (condition, predicates) ← selector detection
  let (attack, atlas) ← tags tooling (get root "tags")
  let references ← referencesOf (get root "references")
  let statusValue := tooling.lower (((get root "status").map tooling.str).getD "stable")
  let status ← orRaise (statusOf statusValue) .unsupportedDetectionConstruct
    ("unsupported Sigma status: " ++ statusValue)
  let digest ← tooling.contentDigest (.map root)
  let ruleId ← ruleIdOf codec (get root "id") title digest
  let rationale := (get root "x_secscan_rationale").getD
    (.str "SecScanMonitor-owned bounded detection content")
  raiseIf (isText rationale = false) .unsupportedDetectionConstruct
    "x_secscan_rationale must be a non-empty string"
  let confidence ← orRaise (confidenceOf (tooling.lower
      (((get root "x_secscan_confidence").map tooling.str).getD "medium")))
    .unsupportedDetectionConstruct "x_secscan_confidence must use the fixed confidence scale"
  let version ← versionOf (get root "x_secscan_version")
  let severity ← severity tooling (get root "level")
  return { ruleId, version, title, digest, sourceReference, family, severity, confidence
           rationale := textOf rationale
           attack, atlas, references, predicates, status, condition, createdAt, modifiedAt }

def importRule (document : Document) (sourceReference : String) (createdAt modifiedAt : Datetime) :
    Except Raised ImportResult := do
  let payload ← payloadOf tooling document
  let root ← mapping (some payload) "document"
  let parts ← partsOf tooling codec root sourceReference createdAt modifiedAt
  if h : parts.Valid then return ⟨Parts.rule h, Parts.plan codec h, parts.digest⟩
  else raise .validationError "validation error for DetectionRuleVersion"

end Import

end Sigma

end SecScanMonitor.DetectionResponse
