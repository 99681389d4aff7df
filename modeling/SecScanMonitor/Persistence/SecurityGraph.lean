import SecScanMonitor.ContinuousSecurity.GraphReplay
import SecScanMonitor.Persistence.Models

/-! Stored security graphs (`persistence/security_graph.py`). A snapshot keeps the digest of the graph that was
saved under its identity. -/

namespace SecScanMonitor.Persistence

open Foundations Domain ContinuousSecurity

structure SecurityGraphNodeRow where
  snapshotId : String
  nodeKey : String
  entityType : String
  entityId : String
  attributes : List (String × Value)
  provenance : List Value

structure SecurityGraphEdgeRow where
  snapshotId : String
  edgeId : String
  sourceNode : String
  targetNode : String
  relation : String
  attributes : List (String × Value)
  provenance : List Value

structure SecurityGraphSnapshotRow where
  snapshotId : String
  tenantId : String
  caseId : String
  targetId : String
  digest : String
  normalizationVersion : String
  canonicalState : Value
  deriving DecidableEq

structure GraphDatabase where
  snapshots : Table SecurityGraphSnapshotRow.snapshotId
  nodeRows : Table fun r : SecurityGraphNodeRow => (r.snapshotId, r.nodeKey)
  edgeRows : Table fun r : SecurityGraphEdgeRow => (r.snapshotId, r.edgeId)

def GraphDatabase.empty : GraphDatabase := ⟨Table.empty, Table.empty, Table.empty⟩

namespace SecurityGraphSnapshotRow

def scope (row : SecurityGraphSnapshotRow) : String × String × String :=
  (row.tenantId, row.caseId, row.targetId)

/-- `uq_security_graph_scope_digest` -/
def clash (r s : SecurityGraphSnapshotRow) : Bool := s.scope = r.scope && s.digest = r.digest

end SecurityGraphSnapshotRow

section Rows

variable (tooling : GraphTooling) (g : SecurityGraph)

def graphScope : String × String × String := (g.tenantId, g.caseId, g.targetId)

def snapshotRow : SecurityGraphSnapshotRow where
  snapshotId := g.snapshotId
  tenantId := g.tenantId
  caseId := g.caseId
  targetId := g.targetId
  digest := g.digest tooling
  normalizationVersion := "security-graph-v1"
  canonicalState := g.canonicalDict tooling

def nodeRow (n : GraphNode) : SecurityGraphNodeRow where
  snapshotId := g.snapshotId
  nodeKey := n.nodeKey
  entityType := n.entityType.value
  entityId := n.entityId
  attributes := n.attributes
  provenance := n.provenance.map (·.dump tooling)

def edgeRow (e : GraphEdge) : SecurityGraphEdgeRow where
  snapshotId := g.snapshotId
  edgeId := e.edgeId
  sourceNode := e.sourceNode
  targetNode := e.targetNode
  relation := e.relation.value
  attributes := e.attributes
  provenance := e.provenance.map (·.dump tooling)

/-- Add rows one after the other. -/
def insertAll {ρ κ : Type} {key : ρ → κ} [DecidableEq κ] (t : Table key) :
    List ρ → Except Raised (Table key)
  | [] => .ok t
  | r :: rs => do
    let t ← unique (t.insert? (fun _ => false) r)
    insertAll t rs

/-- `_assert_scope` -/
def assertScope (row : SecurityGraphSnapshotRow) : Except Raised Unit :=
  raiseIf (row.scope ≠ graphScope g) .graphScopeError
    "snapshot identity cannot be rebound across scopes"

def saveGraph (db : GraphDatabase) : Except Raised GraphDatabase :=
  match db.snapshots.get? g.snapshotId with
  | some row => do
    assertScope g row
    raiseIf (row.digest ≠ g.digest tooling) .graphStateConflict
      ("snapshot " ++ g.snapshotId ++ " already has a different digest")
    return db
  | none => do
    let snapshots ← unique (db.snapshots.insert? (snapshotRow tooling g).clash (snapshotRow tooling g))
    let nodeRows ← insertAll db.nodeRows (g.nodes.map (nodeRow tooling g))
    let edgeRows ← insertAll db.edgeRows (g.edges.map (edgeRow tooling g))
    return ⟨snapshots, nodeRows, edgeRows⟩

def loadGraph (snapshotId : String) (scope : String × String × String) (db : GraphDatabase) :
    Except Raised (Option SecurityGraph) :=
  match db.snapshots.get? snapshotId with
  | none => .ok none
  | some row => do
    raiseIf (row.scope ≠ scope) .graphScopeError
      "graph snapshot is outside the requested tenant/case/target scope"
    let graph ← SecurityGraph.replay tooling row.canonicalState
    raiseIf (graph.digest tooling ≠ row.digest) .graphStateConflict
      ("canonical snapshot " ++ snapshotId ++ " failed digest replay")
    return some graph

/-- A save in its own transaction: what raises leaves the rows as they are. -/
def saveExec (g : SecurityGraph) (db : GraphDatabase) : Except Raised Unit × GraphDatabase :=
  match saveGraph tooling g db with
  | .ok db => (.ok (), db)
  | .error e => (.error e, db)

end Rows

end SecScanMonitor.Persistence
