import SecScanMonitor.Domain.Authority
import SecScanMonitor.Domain.Common
import SecScanMonitor.Domain.Documents
import SecScanMonitor.Foundations.SortBy

/-! The security graph, its canonical form and its replay (`continuous_security/graph.py`). -/

namespace SecScanMonitor.ContinuousSecurity

open Foundations Domain

inductive GraphEntityType where
  | asset
  | identity
  | agent
  | service
  | interface
  | mcpServer
  | a2aAgent
  | tool
  | capability
  | dependency
  | vulnerability
  | policy
  | deployment
  | evidence
  | finding
  deriving Repr, DecidableEq

namespace GraphEntityType

def value : GraphEntityType → String
  | .asset => "Asset"
  | .identity => "Identity"
  | .agent => "Agent"
  | .service => "Service"
  | .interface => "Interface"
  | .mcpServer => "MCPServer"
  | .a2aAgent => "A2AAgent"
  | .tool => "Tool"
  | .capability => "Capability"
  | .dependency => "Dependency"
  | .vulnerability => "Vulnerability"
  | .policy => "Policy"
  | .deployment => "Deployment"
  | .evidence => "Evidence"
  | .finding => "Finding"

def all : List GraphEntityType :=
  [.asset, .identity, .agent, .service, .interface, .mcpServer, .a2aAgent, .tool, .capability,
    .dependency, .vulnerability, .policy, .deployment, .evidence, .finding]

def ofValue? (s : String) : Option GraphEntityType := all.find? fun t => decide (t.value = s)

@[simp] lemma ofValue?_value (t : GraphEntityType) : ofValue? t.value = some t := by
  cases t <;> decide

end GraphEntityType

inductive GraphRelation where
  | exposes
  | calls
  | uses
  | canInvoke
  | accesses
  | dependsOn
  | affectedBy
  | governedBy
  | deployedAs
  | supportedBy
  deriving Repr, DecidableEq

namespace GraphRelation

def value : GraphRelation → String
  | .exposes => "EXPOSES"
  | .calls => "CALLS"
  | .uses => "USES"
  | .canInvoke => "CAN_INVOKE"
  | .accesses => "ACCESSES"
  | .dependsOn => "DEPENDS_ON"
  | .affectedBy => "AFFECTED_BY"
  | .governedBy => "GOVERNED_BY"
  | .deployedAs => "DEPLOYED_AS"
  | .supportedBy => "SUPPORTED_BY"

def all : List GraphRelation :=
  [.exposes, .calls, .uses, .canInvoke, .accesses, .dependsOn, .affectedBy, .governedBy,
    .deployedAs, .supportedBy]

def ofValue? (s : String) : Option GraphRelation := all.find? fun t => decide (t.value = s)

@[simp] lemma ofValue?_value (t : GraphRelation) : ofValue? t.value = some t := by
  cases t <;> decide

end GraphRelation

inductive GraphProvenanceStatus where
  | declared
  | discovered
  | verified
  | contradicted
  | unknown
  deriving Repr, DecidableEq

namespace GraphProvenanceStatus

def value : GraphProvenanceStatus → String
  | .declared => "declared"
  | .discovered => "discovered"
  | .verified => "verified"
  | .contradicted => "contradicted"
  | .unknown => "unknown"

def all : List GraphProvenanceStatus := [.declared, .discovered, .verified, .contradicted, .unknown]

def ofValue? (s : String) : Option GraphProvenanceStatus := all.find? fun t => decide (t.value = s)

@[simp] lemma ofValue?_value (t : GraphProvenanceStatus) : ofValue? t.value = some t := by
  cases t <;> decide

end GraphProvenanceStatus

/-- SHA-256 in hexadecimal, the JSON text of a document as it stands and its reader, the JSON form of a UTC
instant, and the instants that texts stand for, with whether they have a timezone. -/
structure GraphTooling where
  sha256 : String → String
  dumps : Value → String
  loads : String → Except Raised Value
  dumpDatetime : Datetime → String
  fromisoformat : String → Option (Bool × Datetime)

structure GraphProvenance where
  source : String
  sourceType : String
  observedAt : Datetime
  normalizationVersion : String
  status : GraphProvenanceStatus
  evidenceRefs : List String
  nonblank : ∀ s ∈ [source, sourceType, normalizationVersion], isBlank s = false
  deriving DecidableEq

structure GraphNode where
  entityId : String
  entityType : GraphEntityType
  attributes : List (String × Value)
  provenance : List GraphProvenance
  nonblank : isBlank entityId = false
  supported : provenance ≠ []
  deriving DecidableEq

structure GraphEdge where
  edgeId : String
  sourceNode : String
  targetNode : String
  relation : GraphRelation
  provenance : List GraphProvenance
  attributes : List (String × Value)
  nonblank : ∀ s ∈ [edgeId, sourceNode, targetNode], isBlank s = false
  supported : provenance ≠ []
  deriving DecidableEq

def GraphNode.nodeKey (n : GraphNode) : String := n.entityType.value ++ ":" ++ n.entityId

/-- The checks of `_validate_state`. -/
structure ValidGraph (scope : List String) (nodes : List GraphNode) (edges : List GraphEdge) :
    Prop where
  nonblank : ∀ s ∈ scope, isBlank s = false
  distinctNodes : (nodes.map GraphNode.nodeKey).Nodup
  distinctEdges : (edges.map GraphEdge.edgeId).Nodup
  known : ∀ e ∈ edges, e.sourceNode ∈ nodes.map GraphNode.nodeKey ∧
    e.targetNode ∈ nodes.map GraphNode.nodeKey

structure SecurityGraph where
  tenantId : String
  caseId : String
  targetId : String
  snapshotId : String
  nodes : List GraphNode
  edges : List GraphEdge
  valid : ValidGraph [tenantId, caseId, targetId, snapshotId] nodes edges

section Dump

variable (tooling : GraphTooling)

/-- `model_dump(mode="json")` -/
def GraphProvenance.dump (p : GraphProvenance) : Value :=
  .obj [("source", .str p.source), ("source_type", .str p.sourceType),
    ("observed_at", .str (tooling.dumpDatetime p.observedAt)),
    ("normalization_version", .str p.normalizationVersion), ("status", .str p.status.value),
    ("evidence_refs", .arr (p.evidenceRefs.map .str))]

def GraphNode.dump (n : GraphNode) : Value :=
  .obj [("entity_id", .str n.entityId), ("entity_type", .str n.entityType.value),
    ("attributes", .obj n.attributes), ("provenance", .arr (n.provenance.map (·.dump tooling)))]

def GraphEdge.dump (e : GraphEdge) : Value :=
  .obj [("edge_id", .str e.edgeId), ("source_node", .str e.sourceNode),
    ("target_node", .str e.targetNode), ("relation", .str e.relation.value),
    ("provenance", .arr (e.provenance.map (·.dump tooling))), ("attributes", .obj e.attributes)]

/-- What nodes are ordered by. -/
def GraphNode.sortKey (n : GraphNode) : List String := [n.entityType.value, n.entityId]

/-- What edges are ordered by. -/
def GraphEdge.sortKey (e : GraphEdge) : List String :=
  [e.sourceNode, e.targetNode, e.relation.value, e.edgeId]

namespace SecurityGraph

variable (g : SecurityGraph)

def canonicalDict : Value :=
  .obj [("tenant_id", .str g.tenantId), ("case_id", .str g.caseId), ("target_id", .str g.targetId),
    ("snapshot_id", .str g.snapshotId),
    ("nodes", .arr ((sortBy GraphNode.sortKey g.nodes).map (·.dump tooling))),
    ("edges", .arr ((sortBy GraphEdge.sortKey g.edges).map (·.dump tooling)))]

/-- `canonical_bytes`: the text of the document with its keys in order. -/
def canonicalBytes : String := tooling.dumps (g.canonicalDict tooling).sorted

def digest : String := tooling.sha256 (g.canonicalBytes tooling)

end SecurityGraph

end Dump

/-- A dictionary, as `dict(item)` makes it. -/
abbrev PyDict := List (Value × Value)

/-- `d.get(key)` -/
def fieldOf (d : PyDict) (key : String) : Option Value :=
  (d.find? fun m => decide (m.1 = .str key)).map Prod.snd

/-- A model refuses what it is given. -/
def invalid {α : Type} (model : String) : Except Raised α :=
  raise .validationError ("validation error for " ++ model)

/-- A model that forbids extra fields. -/
def onlyFields (model : String) (names : List String) (d : PyDict) : Except Raised Unit :=
  if ∀ m ∈ d, m.1 ∈ names.map Value.str then .ok () else invalid model

def textField (model : String) : Option Value → Except Raised String
  | some (.str s) => .ok s
  | _ => invalid model

/-- Iterating over what `d.get(key, [])` gives. -/
def itemsOf (d : PyDict) (key : String) : Except Raised (List Value) :=
  match fieldOf d key with
  | none => .ok []
  | some v => orRaise (Documents.elements v) .typeError
      ("'" ++ Documents.typeName v ++ "' object is not iterable")

/-- `Enum(value)`, if the value is a text. -/
def restoreEnum {α : Type} (model : String) (ofValue? : String → Option α) :
    Option Value → Except Raised (Option α)
  | some (.str s) => do
    let member ← orRaise (ofValue? s) .valueError ("'" ++ s ++ "' is not a valid " ++ model)
    return some member
  | _ => .ok none

def allTexts : List Value → Option (List String)
  | [] => some []
  | .str s :: vs => (allTexts vs).map (s :: ·)
  | _ :: _ => none

/-- `replace("Z", "+00:00")` -/
def zoned (s : String) : String :=
  String.ofList (s.toList.flatMap fun c => if c = 'Z' then "+00:00".toList else [c])

section Replay

variable (tooling : GraphTooling)

/-- `GraphProvenance.model_validate` on what `restore_provenance` has made of an item. -/
def validateProvenance (d : PyDict) (observedAt : Option (Bool × Datetime))
    (status : Option GraphProvenanceStatus) : Except Raised GraphProvenance := do
  onlyFields "GraphProvenance" ["source", "source_type", "observed_at", "normalization_version",
    "status", "evidence_refs"] d
  let source ← textField "GraphProvenance" (fieldOf d "source")
  let sourceType ← textField "GraphProvenance" (fieldOf d "source_type")
  let version ← textField "GraphProvenance"
    (some ((fieldOf d "normalization_version").getD (.str "security-graph-v1")))
  let status ← match fieldOf d "status", status with
    | none, _ => .ok GraphProvenanceStatus.unknown
    | some _, some status => .ok status
    | some _, none => invalid "GraphProvenance"
  let refs ← match fieldOf d "evidence_refs" with
    | none => .ok []
    | some (.arr items) => (match allTexts items with
      | some refs => .ok refs
      | none => invalid "GraphProvenance")
    | some _ => invalid "GraphProvenance"
  match observedAt with
  | some (true, t) =>
    if h : ∀ s ∈ [source, sourceType, version], isBlank s = false then
      return ⟨source, sourceType, t, version, status, refs, h⟩
    else invalid "GraphProvenance"
  | _ => invalid "GraphProvenance"

/-- A step of `restore_provenance`. -/
def restoreProvenance (item : Value) : Except Raised GraphProvenance := do
  let d ← Documents.toDict item
  let observedAt ← match fieldOf d "observed_at" with
    | some (.str s) => do
      let parsed ← orRaise (tooling.fromisoformat (zoned s)) .valueError
        ("Invalid isoformat string: '" ++ zoned s ++ "'")
      pure (some parsed)
    | _ => pure none
  let status ← restoreEnum "GraphProvenanceStatus" GraphProvenanceStatus.ofValue? (fieldOf d "status")
  validateProvenance d observedAt status

/-- A node or an edge with its enumeration and its provenance restored. -/
structure Restored (τ : Type) where
  fields : PyDict
  kind : Option τ
  provenance : List GraphProvenance

def restore {τ : Type} (model kindField : String) (ofValue? : String → Option τ) (item : Value) :
    Except Raised (Restored τ) := do
  let d ← Documents.toDict item
  let kind ← restoreEnum model ofValue? (fieldOf d kindField)
  let items ← itemsOf d "provenance"
  let provenance ← items.mapM (restoreProvenance tooling)
  return ⟨d, kind, provenance⟩

def attributesField (model : String) (d : PyDict) : Except Raised (List (String × Value)) :=
  match fieldOf d "attributes" with
  | none => .ok []
  | some (.obj members) => .ok members
  | some _ => invalid model

def validateNode (r : Restored GraphEntityType) : Except Raised GraphNode := do
  onlyFields "GraphNode" ["entity_id", "entity_type", "attributes", "provenance"] r.fields
  let entityId ← textField "GraphNode" (fieldOf r.fields "entity_id")
  let attributes ← attributesField "GraphNode" r.fields
  match r.kind with
  | none => invalid "GraphNode"
  | some entityType =>
    if h : isBlank entityId = false ∧ r.provenance ≠ [] then
      return ⟨entityId, entityType, attributes, r.provenance, h.1, h.2⟩
    else invalid "GraphNode"

def validateEdge (r : Restored GraphRelation) : Except Raised GraphEdge := do
  onlyFields "GraphEdge" ["edge_id", "source_node", "target_node", "relation", "provenance",
    "attributes"] r.fields
  let edgeId ← textField "GraphEdge" (fieldOf r.fields "edge_id")
  let sourceNode ← textField "GraphEdge" (fieldOf r.fields "source_node")
  let targetNode ← textField "GraphEdge" (fieldOf r.fields "target_node")
  let attributes ← attributesField "GraphEdge" r.fields
  match r.kind with
  | none => invalid "GraphEdge"
  | some relation =>
    if h : (∀ s ∈ [edgeId, sourceNode, targetNode], isBlank s = false) ∧ r.provenance ≠ [] then
      return ⟨edgeId, sourceNode, targetNode, relation, r.provenance, attributes, h.1, h.2⟩
    else invalid "GraphEdge"

instance (scope : List String) (nodes : List GraphNode) (edges : List GraphEdge) :
    Decidable (ValidGraph scope nodes edges) :=
  decidable_of_iff ((∀ s ∈ scope, isBlank s = false) ∧ (nodes.map GraphNode.nodeKey).Nodup ∧
      (edges.map GraphEdge.edgeId).Nodup ∧ ∀ e ∈ edges,
        e.sourceNode ∈ nodes.map GraphNode.nodeKey ∧ e.targetNode ∈ nodes.map GraphNode.nodeKey)
    ⟨fun h => ⟨h.1, h.2.1, h.2.2.1, h.2.2.2⟩, fun h => ⟨h.1, h.2, h.3, h.4⟩⟩

namespace SecurityGraph

/-- The graph of some nodes and edges, if `_validate_state` accepts it. -/
def validate (tenantId caseId targetId snapshotId : String) (nodes : List GraphNode)
    (edges : List GraphEdge) : Except Raised SecurityGraph :=
  if h : ValidGraph [tenantId, caseId, targetId, snapshotId] nodes edges then
    .ok ⟨tenantId, caseId, targetId, snapshotId, nodes, edges, h⟩
  else invalid "SecurityGraph"

/-- `GraphBuilder.build` -/
def build (tenantId caseId targetId snapshotId : String) (nodes : List GraphNode)
    (edges : List GraphEdge) : Except Raised SecurityGraph :=
  validate tenantId caseId targetId snapshotId (sortBy GraphNode.sortKey nodes)
    (sortBy GraphEdge.sortKey edges)

/-- `replay` of a decoded document. -/
def replay (canonicalState : Value) : Except Raised SecurityGraph :=
  match canonicalState with
  | .obj members => do
    let state : PyDict := members.map fun m => (.str m.1, m.2)
    let nodeItems ← itemsOf state "nodes"
    let nodes ← nodeItems.mapM
      (restore tooling "GraphEntityType" "entity_type" GraphEntityType.ofValue?)
    let edgeItems ← itemsOf state "edges"
    let edges ← edgeItems.mapM (restore tooling "GraphRelation" "relation" GraphRelation.ofValue?)
    onlyFields "SecurityGraph"
      ["tenant_id", "case_id", "target_id", "snapshot_id", "nodes", "edges"] state
    let tenantId ← textField "SecurityGraph" (fieldOf state "tenant_id")
    let caseId ← textField "SecurityGraph" (fieldOf state "case_id")
    let targetId ← textField "SecurityGraph" (fieldOf state "target_id")
    let snapshotId ← textField "SecurityGraph" (fieldOf state "snapshot_id")
    let nodes ← nodes.mapM validateNode
    let edges ← edges.mapM validateEdge
    validate tenantId caseId targetId snapshotId nodes edges
  | _ => raise .valueError "canonical graph state must be an object"

/-- `replay` of canonical bytes. -/
def replayBytes (canonicalState : String) : Except Raised SecurityGraph := do
  let document ← tooling.loads canonicalState
  replay tooling document

end SecurityGraph

end Replay

end SecScanMonitor.ContinuousSecurity
