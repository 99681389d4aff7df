import SecScanMonitor.Foundations.History
import SecScanMonitor.Persistence.SecurityGraph

/-! What stored security graphs come to over any history of saves: a graph is kept under its identity with its
digest and its scope, and loading gives it back. -/

namespace SecScanMonitor.Persistence

open Foundations Domain ContinuousSecurity

section Insert

variable {ρ κ : Type} {key : ρ → κ} [DecidableEq κ]

lemma mem_insertAll {rs : List ρ} {t t' : Table key} (h : insertAll t rs = .ok t') {s : ρ} :
    s ∈ t' ↔ s ∈ rs ∨ s ∈ t := by
  induction rs generalizing t with
  | nil =>
    obtain rfl := Except.ok.inj h
    simp
  | cons r rs ih =>
    obtain ⟨t₁, ht₁, h⟩ := bind_eq_ok.mp h
    rw [ih h, Table.mem_insert (unique_eq_ok.mp ht₁), List.mem_cons, or_left_comm, or_assoc]

/-- Rows with new keys are all added. -/
lemma insertAll_new {rs : List ρ} {t : Table key} (hkeys : (rs.map key).Nodup)
    (hnew : ∀ r ∈ rs, t.get? (key r) = none) : ∃ t', insertAll t rs = .ok t' := by
  induction rs generalizing t with
  | nil => exact ⟨t, rfl⟩
  | cons r rs ih =>
    obtain ⟨hr, hrs⟩ := List.nodup_cons.mp hkeys
    have hsome : (t.insert? (fun _ => false) r).isSome :=
      Table.insert?_isSome (hnew r List.mem_cons_self) fun _ _ => rfl
    obtain ⟨t₁, ht₁⟩ := Option.isSome_iff_exists.mp hsome
    have hnext : ∀ s ∈ rs, t₁.get? (key s) = none := by
      intro s hs
      have hne : key s ≠ key r := by
        intro heq
        apply hr
        rw [← heq]
        exact List.mem_map_of_mem hs
      rw [Table.get?_insert_of_ne ht₁ hne]
      exact hnew s (List.mem_cons_of_mem r hs)
    obtain ⟨t', ht'⟩ := ih hrs hnext
    exact ⟨t', bind_eq_ok.mpr ⟨t₁, unique_eq_ok.mpr ht₁, ht'⟩⟩

end Insert

section Save

variable {tooling : GraphTooling} {g : SecurityGraph} {db db' : GraphDatabase}

/-- How a save succeeds. -/
inductive Saving (tooling : GraphTooling) (g : SecurityGraph) (db : GraphDatabase) :
    GraphDatabase → Prop
  | again {row : SecurityGraphSnapshotRow} : db.snapshots.get? g.snapshotId = some row →
      row.scope = graphScope g → row.digest = g.digest tooling → Saving tooling g db db
  | added {snapshots nodeRows edgeRows} : db.snapshots.get? g.snapshotId = none →
      db.snapshots.insert? (snapshotRow tooling g).clash (snapshotRow tooling g) = some snapshots →
      insertAll db.nodeRows (g.nodes.map (nodeRow tooling g)) = .ok nodeRows →
      insertAll db.edgeRows (g.edges.map (edgeRow tooling g)) = .ok edgeRows →
      Saving tooling g db ⟨snapshots, nodeRows, edgeRows⟩

lemma saveGraph_stored {row : SecurityGraphSnapshotRow}
    (hrow : db.snapshots.get? g.snapshotId = some row) : saveGraph tooling g db = .ok db' ↔
      db' = db ∧ row.scope = graphScope g ∧ row.digest = g.digest tooling := by
  rw [saveGraph, hrow]
  simp only [assertScope, raiseIf_bind_eq_ok, ne_eq, not_not]
  constructor
  · rintro ⟨hscope, hdigest, heq⟩
    exact ⟨(Except.ok.inj heq).symm, hscope, hdigest⟩
  · rintro ⟨rfl, hscope, hdigest⟩
    exact ⟨hscope, hdigest, rfl⟩

lemma saving_of_ok (h : saveGraph tooling g db = .ok db') : Saving tooling g db db' := by
  cases hrow : db.snapshots.get? g.snapshotId with
  | some row =>
    obtain ⟨rfl, hscope, hdigest⟩ := (saveGraph_stored hrow).mp h
    exact .again hrow hscope hdigest
  | none =>
    rw [saveGraph, hrow] at h
    obtain ⟨snapshots, hsnapshots, h⟩ := bind_eq_ok.mp h
    obtain ⟨nodeRows, hnodes, h⟩ := bind_eq_ok.mp h
    obtain ⟨edgeRows, hedges, h⟩ := bind_eq_ok.mp h
    obtain rfl := Except.ok.inj h
    exact .added hrow (unique_eq_ok.mp hsnapshots) hnodes hedges

lemma saveExec_ok (h : saveGraph tooling g db = .ok db') : saveExec tooling g db = (.ok (), db') := by
  rw [saveExec, h]

lemma saveExec_error {e : Raised} (h : saveGraph tooling g db = .error e) :
    saveExec tooling g db = (.error e, db) := by
  rw [saveExec, h]

/-- Every row of a node or an edge belongs to a snapshot. -/
structure Attached (db : GraphDatabase) : Prop where
  nodeRows : ∀ r ∈ db.nodeRows, ∃ row ∈ db.snapshots, row.snapshotId = r.snapshotId
  edgeRows : ∀ r ∈ db.edgeRows, ∃ row ∈ db.snapshots, row.snapshotId = r.snapshotId

lemma Saving.attached (hs : Saving tooling g db db') (h : Attached db) : Attached db' := by
  cases hs with
  | again => exact h
  | added hnone hsnapshots hnodes hedges =>
    have hself : snapshotRow tooling g ∈ _ := (Table.mem_insert hsnapshots).mpr (Or.inl rfl)
    constructor
    · intro r hr
      rcases (mem_insertAll hnodes).mp hr with hr | hr
      · obtain ⟨n, -, rfl⟩ := List.mem_map.mp hr
        exact ⟨_, hself, rfl⟩
      · obtain ⟨row, hrow, hid⟩ := h.nodeRows r hr
        exact ⟨row, Table.extends_insert hsnapshots row hrow, hid⟩
    · intro r hr
      rcases (mem_insertAll hedges).mp hr with hr | hr
      · obtain ⟨e, -, rfl⟩ := List.mem_map.mp hr
        exact ⟨_, hself, rfl⟩
      · obtain ⟨row, hrow, hid⟩ := h.edgeRows r hr
        exact ⟨row, Table.extends_insert hsnapshots row hrow, hid⟩

/-- A graph with a new identity is saved, unless a snapshot of its scope has its digest. -/
lemma saveGraph_new (h : Attached db) (hnone : db.snapshots.get? g.snapshotId = none)
    (hclash : ∀ row ∈ db.snapshots, (snapshotRow tooling g).clash row = false) :
    ∃ db', saveGraph tooling g db = .ok db' := by
  have hapart : ∀ row ∈ db.snapshots, row.snapshotId ≠ g.snapshotId := Table.get?_eq_none_iff.mp hnone
  obtain ⟨snapshots, hsnapshots⟩ := Option.isSome_iff_exists.mp
    (Table.insert?_isSome (r := snapshotRow tooling g) hnone hclash)
  have hnodes : ∃ nodeRows, insertAll db.nodeRows (g.nodes.map (nodeRow tooling g)) = .ok nodeRows := by
    apply insertAll_new
    · rw [List.map_map]
      have hkeys := g.valid.distinctNodes.map (Prod.mk_right_injective g.snapshotId)
      rwa [List.map_map] at hkeys
    · intro r hr
      obtain ⟨n, -, rfl⟩ := List.mem_map.mp hr
      refine Table.get?_eq_none_iff.mpr ?_
      intro s hs heq
      obtain ⟨row, hrow, hid⟩ := h.nodeRows s hs
      exact hapart row hrow (hid.trans (congrArg Prod.fst heq))
  have hedges : ∃ edgeRows, insertAll db.edgeRows (g.edges.map (edgeRow tooling g)) = .ok edgeRows := by
    apply insertAll_new
    · rw [List.map_map]
      have hkeys := g.valid.distinctEdges.map (Prod.mk_right_injective g.snapshotId)
      rwa [List.map_map] at hkeys
    · intro r hr
      obtain ⟨e, -, rfl⟩ := List.mem_map.mp hr
      refine Table.get?_eq_none_iff.mpr ?_
      intro s hs heq
      obtain ⟨row, hrow, hid⟩ := h.edgeRows s hs
      exact hapart row hrow (hid.trans (congrArg Prod.fst heq))
  obtain ⟨nodeRows, hnodes⟩ := hnodes
  obtain ⟨edgeRows, hedges⟩ := hedges
  refine ⟨⟨snapshots, nodeRows, edgeRows⟩, ?_⟩
  rw [saveGraph, hnone]
  simp only [hsnapshots, unique, ok_bind, hnodes, hedges]
  rfl

end Save

section History

variable {tooling : GraphTooling} {es : List (Entry SecurityGraph GraphDatabase (Except Raised Unit))}
  {db : GraphDatabase} {g : SecurityGraph}

/-- The rows are those of the graphs that were saved, and each of these has its row. -/
structure StoredGraphs (tooling : GraphTooling)
    (es : List (Entry SecurityGraph GraphDatabase (Except Raised Unit))) (db : GraphDatabase) :
    Prop where
  attached : Attached db
  rows : ∀ row ∈ db.snapshots, ∃ e ∈ es, row = snapshotRow tooling e.call
  saved : ∀ e ∈ es, e.outcome = .ok () → ∃ row, db.snapshots.get? e.call.snapshotId = some row ∧
    row.scope = graphScope e.call ∧ row.digest = e.call.digest tooling

lemma storedGraphs (h : Foundations.History (saveExec tooling) GraphDatabase.empty es db) :
    StoredGraphs tooling es db := by
  induction h with
  | nil =>
    refine ⟨⟨?_, ?_⟩, ?_, ?_⟩
    · intro r hr
      cases hr
    · intro r hr
      cases hr
    · intro row hrow
      cases hrow
    · intro e he
      cases he
  | @call es db g h ih =>
    cases hsave : saveGraph tooling g db with
    | error e =>
      rw [saveExec_error hsave]
      refine ⟨ih.attached, ?_, ?_⟩
      · intro row hrow
        obtain ⟨e, he, hrow⟩ := ih.rows row hrow
        exact ⟨e, List.mem_cons_of_mem _ he, hrow⟩
      · intro e he hok
        rcases List.mem_cons.mp he with rfl | he
        · cases hok
        · exact ih.saved e he hok
    | ok db' =>
      rw [saveExec_ok hsave]
      have hsaving := saving_of_ok hsave
      have hattached := hsaving.attached ih.attached
      cases hsaving with
      | @again row hrow hscope hdigest =>
        refine ⟨hattached, ?_, ?_⟩
        · intro row hrow
          obtain ⟨e, he, hrow⟩ := ih.rows row hrow
          exact ⟨e, List.mem_cons_of_mem _ he, hrow⟩
        · intro e he hok
          rcases List.mem_cons.mp he with rfl | he
          · exact ⟨row, hrow, hscope, hdigest⟩
          · exact ih.saved e he hok
      | added hnone hsnapshots hnodes hedges =>
        refine ⟨hattached, ?_, ?_⟩
        · intro row hrow
          rcases (Table.mem_insert hsnapshots).mp hrow with rfl | hrow
          · exact ⟨_, List.mem_cons_self, rfl⟩
          · obtain ⟨e, he, hrow⟩ := ih.rows row hrow
            exact ⟨e, List.mem_cons_of_mem _ he, hrow⟩
        · intro e he hok
          rcases List.mem_cons.mp he with rfl | he
          · exact ⟨_, Table.get?_insert_self hsnapshots, rfl, rfl⟩
          · obtain ⟨row, hrow, hsame⟩ := ih.saved e he hok
            exact ⟨row, (Table.extends_insert hsnapshots).get? hrow, hsame⟩

/-- A stored graph is loaded back. -/
lemma loadGraph_stored (hrows : StoredGraphs tooling es db) (hread : ∀ e ∈ es, e.call.Readable tooling)
    {row : SecurityGraphSnapshotRow} {snapshotId : String}
    (hrow : db.snapshots.get? snapshotId = some row) :
    ∃ g', loadGraph tooling snapshotId row.scope db = .ok (some g') ∧
      g'.digest tooling = row.digest := by
  obtain ⟨e, he, rfl⟩ := hrows.rows row (Table.get?_eq_some_iff.mp hrow).1
  obtain ⟨g', hreplay, hsame⟩ := SecurityGraph.replay_same (hread e he) rfl
  refine ⟨g', ?_, hsame.digest_eq⟩
  have hstate : (snapshotRow tooling e.call).canonicalState = e.call.canonicalDict tooling := rfl
  have hdigest : (snapshotRow tooling e.call).digest = g'.digest tooling := hsame.digest_eq.symm
  rw [loadGraph, hrow]
  simp only [hstate, hreplay, hdigest, raiseIf, ne_eq, not_true_eq_false, if_false, ok_bind]
  rfl

/-- A security graph has one canonical form, whatever the order of its nodes and edges, from which its replay gives
it back, and what is stored under a snapshot identity stays as it was first saved. -/
theorem graph_canonical (h : Foundations.History (saveExec tooling) GraphDatabase.empty es db)
    (hread : ∀ e ∈ es, e.call.Readable tooling) :
    (∀ g g' : SecurityGraph, g.Permuted g' →
      g.canonicalBytes tooling = g'.canonicalBytes tooling ∧ g.digest tooling = g'.digest tooling ∧
        SecurityGraph.build g.tenantId g.caseId g.targetId g.snapshotId g'.nodes g'.edges =
          .ok g.inOrder) ∧
      (∀ g : SecurityGraph, g.Readable tooling →
        tooling.loads (g.canonicalBytes tooling) = .ok (g.canonicalDict tooling).sorted →
        ∃ g', SecurityGraph.replayBytes tooling (g.canonicalBytes tooling) = .ok g' ∧
          g'.Same g.inOrder ∧ g'.digest tooling = g.digest tooling) ∧
      (∀ e ∈ es, e.outcome = .ok () →
        (∃ g', loadGraph tooling e.call.snapshotId (graphScope e.call) db = .ok (some g') ∧
          g'.digest tooling = e.call.digest tooling) ∧
        ∀ g', e.call.Permuted g' → saveExec tooling g' db = (.ok (), db)) ∧
      (∀ g row, db.snapshots.get? g.snapshotId = some row →
        row.digest ≠ g.digest tooling ∨ row.scope ≠ graphScope g →
        ∃ x, saveExec tooling g db = (.error x, db)) ∧
      ∀ g, db.snapshots.get? g.snapshotId = none →
        (∀ row ∈ db.snapshots, (snapshotRow tooling g).clash row = false) →
        ∃ db', saveExec tooling g db = (.ok (), db') := by
  have hstored := storedGraphs h
  refine ⟨?_, ?_, ?_, ?_, ?_⟩
  · intro g g' hp
    exact ⟨hp.canonicalBytes_eq, hp.digest_eq, SecurityGraph.build_permuted hp.nodes hp.edges⟩
  · intro g hreadable hloads
    obtain ⟨g', hreplay, hsame⟩ := SecurityGraph.replay_same hreadable (Value.sorted_sorted _)
    refine ⟨g', ?_, hsame, hsame.digest_eq⟩
    rw [SecurityGraph.replayBytes, hloads]
    exact hreplay
  · intro e he hok
    obtain ⟨row, hrow, hscope, hdigest⟩ := hstored.saved e he hok
    constructor
    · obtain ⟨g', hload, hg'⟩ := loadGraph_stored hstored hread hrow
      rw [hscope] at hload
      exact ⟨g', hload, hg'.trans hdigest⟩
    · intro g' hp
      have hscope' : graphScope e.call = graphScope g' := by
        rw [graphScope, hp.tenantId, hp.caseId, hp.targetId, graphScope]
      apply saveExec_ok
      rw [hp.snapshotId] at hrow
      exact (saveGraph_stored hrow).mpr ⟨rfl, hscope.trans hscope', hdigest.trans hp.digest_eq⟩
  · intro g row hrow hother
    cases hsave : saveGraph tooling g db with
    | error x => exact ⟨x, saveExec_error hsave⟩
    | ok db' =>
      obtain ⟨-, hscope, hdigest⟩ := (saveGraph_stored hrow).mp hsave
      rcases hother with hne | hne
      · exact absurd hdigest hne
      · exact absurd hscope hne
  · intro g hnone hclash
    obtain ⟨db', hsave⟩ := saveGraph_new hstored.attached hnone hclash
    exact ⟨db', saveExec_ok hsave⟩

end History

section Example

lemma scanned_nonblank : ∀ s ∈ ["inventory", "scan", "security-graph-v1"], isBlank s = false := by decide

lemma agentNode_nonblank : isBlank "a" = false := by decide

lemma toolNode_nonblank : isBlank "t" = false := by decide

def scanned : GraphProvenance where
  source := "inventory"
  sourceType := "scan"
  observedAt := 1767225600000000
  normalizationVersion := "security-graph-v1"
  status := .verified
  evidenceRefs := ["EV-1"]
  nonblank := scanned_nonblank

def agentNode : GraphNode := ⟨"a", .agent, [], [scanned], agentNode_nonblank, by decide⟩

def toolNode : GraphNode := ⟨"t", .tool, [("exposed", .bool true)], [scanned], toolNode_nonblank, by decide⟩

def useEdge : GraphEdge :=
  ⟨"E-1", "Agent:a", "Tool:t", .uses, [scanned], [], by decide, by decide⟩

def toolGraph : SecurityGraph :=
  ⟨"TEN-1", "CASE-1", "TGT-1", "SG-1", [toolNode, agentNode], [useEdge], by decide⟩

def toolGraphInOrder : SecurityGraph :=
  ⟨"TEN-1", "CASE-1", "TGT-1", "SG-1", [agentNode, toolNode], [useEdge], by decide⟩

/-- The graph in another case. -/
def movedGraph : SecurityGraph :=
  ⟨"TEN-1", "CASE-2", "TGT-1", "SG-1", [toolNode, agentNode], [useEdge], by decide⟩

def scannedDocument : Value := .obj
  [("evidence_refs", .arr [.str "EV-1"]), ("normalization_version", .str "security-graph-v1"),
    ("observed_at", .str "2026-01-01T00:00:00Z"), ("source", .str "inventory"),
    ("source_type", .str "scan"), ("status", .str "verified")]

def graphDocument (caseId : String) : Value := .obj
  [("case_id", .str caseId),
    ("edges", .arr [.obj [("attributes", .obj []), ("edge_id", .str "E-1"),
      ("provenance", .arr [scannedDocument]), ("relation", .str "USES"),
      ("source_node", .str "Agent:a"), ("target_node", .str "Tool:t")]]),
    ("nodes", .arr [
      .obj [("attributes", .obj []), ("entity_id", .str "a"), ("entity_type", .str "Agent"),
        ("provenance", .arr [scannedDocument])],
      .obj [("attributes", .obj [("exposed", .bool true)]), ("entity_id", .str "t"),
        ("entity_type", .str "Tool"), ("provenance", .arr [scannedDocument])]]),
    ("snapshot_id", .str "SG-1"), ("target_id", .str "TGT-1"), ("tenant_id", .str "TEN-1")]

def scannedText : String :=
  "[\x7b\"evidence_refs\":[\"EV-1\"],\"normalization_version\":\"security-graph-v1\"," ++
    "\"observed_at\":\"2026-01-01T00:00:00Z\",\"source\":\"inventory\",\"source_type\":\"scan\"," ++
    "\"status\":\"verified\"\x7d]"

def graphText (caseId : String) : String :=
  "\x7b\"case_id\":\"" ++ caseId ++ "\",\"edges\":[\x7b\"attributes\":\x7b\x7d,\"edge_id\":\"E-1\"," ++
    "\"provenance\":" ++ scannedText ++ ",\"relation\":\"USES\",\"source_node\":\"Agent:a\"," ++
    "\"target_node\":\"Tool:t\"\x7d],\"nodes\":[\x7b\"attributes\":\x7b\x7d,\"entity_id\":\"a\"," ++
    "\"entity_type\":\"Agent\",\"provenance\":" ++ scannedText ++
    "\x7d,\x7b\"attributes\":\x7b\"exposed\":true\x7d,\"entity_id\":\"t\",\"entity_type\":\"Tool\"," ++
    "\"provenance\":" ++ scannedText ++
    "\x7d],\"snapshot_id\":\"SG-1\",\"target_id\":\"TGT-1\",\"tenant_id\":\"TEN-1\"\x7d"

/-- The texts and the digests of the two graphs. -/
def graphTooling : GraphTooling where
  sha256 s :=
    if s = graphText "CASE-1" then "b34e1396b4ae1b3a9cbba2f819d40b3073404a162e5a61b99fde2eab026a423e"
    else if s = graphText "CASE-2" then
      "4c0bafcfbd790d68616babd299e97465574c7e7b317273f0e3c09f6d3c79a3a5"
    else ""
  dumps v :=
    if v = graphDocument "CASE-1" then graphText "CASE-1"
    else if v = graphDocument "CASE-2" then graphText "CASE-2"
    else ""
  loads s :=
    if s = graphText "CASE-1" then .ok (graphDocument "CASE-1")
    else if s = graphText "CASE-2" then .ok (graphDocument "CASE-2")
    else raise .valueError "Expecting value"
  dumpDatetime t := if t = 1767225600000000 then "2026-01-01T00:00:00Z" else ""
  fromisoformat s :=
    if s = "2026-01-01T00:00:00+00:00" then some (true, 1767225600000000) else none

/-- A graph is saved, then it is saved in canonical order and in another case. -/
def graphSaves : List (Entry SecurityGraph GraphDatabase (Except Raised Unit)) × GraphDatabase :=
  Foundations.History.ofCalls (saveExec graphTooling) GraphDatabase.empty
    [movedGraph, toolGraphInOrder, toolGraph]

/-- The graph is loaded with its digest, its text is replayed, and it is not moved to another case. -/
theorem graph_kept :
    (∃ g', loadGraph graphTooling "SG-1" ("TEN-1", "CASE-1", "TGT-1") graphSaves.2 = .ok (some g') ∧
      g'.digest graphTooling = "b34e1396b4ae1b3a9cbba2f819d40b3073404a162e5a61b99fde2eab026a423e") ∧
      (∃ g', SecurityGraph.replayBytes graphTooling (toolGraph.canonicalBytes graphTooling) = .ok g' ∧
        g'.Same toolGraph.inOrder ∧ g'.digest graphTooling = toolGraph.digest graphTooling) ∧
      ∃ x, saveExec graphTooling movedGraph graphSaves.2 = (.error x, graphSaves.2) := by
  have hscanned : ∀ e ∈ graphSaves.1, ∀ p ∈ e.call.provenances, p = scanned := by decide +kernel
  have hread : ∀ e ∈ graphSaves.1, e.call.Readable graphTooling := by
    intro e he p hp
    rw [hscanned e he p hp]
    rfl
  obtain ⟨-, hreplay, hsaved, hother, -⟩ :=
    graph_canonical (Foundations.History.ofCalls_history _) hread
  refine ⟨?_, hreplay toolGraph ?_ (by decide +kernel), hother movedGraph
    (snapshotRow graphTooling toolGraph) (by decide +kernel) (Or.inr (by decide))⟩
  · let e : Entry SecurityGraph GraphDatabase (Except Raised Unit) :=
      ⟨toolGraph, GraphDatabase.empty, (saveExec graphTooling toolGraph GraphDatabase.empty).1⟩
    have he : e ∈ graphSaves.1 :=
      List.mem_cons_of_mem _ (List.mem_cons_of_mem _ List.mem_cons_self)
    obtain ⟨g', hload, hdigest⟩ := (hsaved e he (by decide +kernel)).1
    exact ⟨g', hload, hdigest.trans (by decide +kernel)⟩
  · intro p hp
    have h : ∀ p ∈ toolGraph.provenances, p = scanned := by decide +kernel
    rw [h p hp]
    rfl

end Example

end SecScanMonitor.Persistence
