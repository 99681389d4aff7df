import SecScanMonitor.ContinuousSecurity.Graph

/-! The canonical form of a security graph does not depend on the order of its nodes and edges, and its replay
gives the graph back. -/

namespace SecScanMonitor.ContinuousSecurity

open Foundations Domain

section Documents

variable {ns ms : List (String × Value)} {key : String}

/-- The dictionary of an object. -/
def membersOf (ns : List (String × Value)) : PyDict := ns.map fun m => (.str m.1, m.2)

lemma fieldOf_members : fieldOf (membersOf ns) key = ns.lookup key := by
  rw [fieldOf, membersOf]
  induction ns with
  | nil => rfl
  | cons m ns ih =>
    obtain ⟨k, v⟩ := m
    rw [List.map_cons, List.lookup_cons]
    by_cases h : key = k
    · subst h
      simp
    · rw [List.find?_cons_of_neg (by simpa using fun heq => h heq.symm), ih]
      simp [beq_false_of_ne h]

/-- What a dictionary has under a key of a document that is the same up to the order of the members. -/
lemma fieldOf_same (h : Value.sortedMembers ns = Value.sortedMembers ms) {w : Value}
    (hw : ms.lookup key = some w) : ∃ v, fieldOf (membersOf ns) key = some v ∧ v.sorted = w.sorted := by
  have hlookup := Value.lookup_sortedMembers key ns
  rw [h, Value.lookup_sortedMembers, hw, Option.map_some, eq_comm, Option.map_eq_some_iff] at hlookup
  rw [fieldOf_members]
  exact hlookup

lemma textField_same (h : Value.sortedMembers ns = Value.sortedMembers ms) {s model : String}
    (hs : ms.lookup key = some (.str s)) :
    textField model (fieldOf (membersOf ns) key) = .ok s := by
  obtain ⟨v, hv, hsame⟩ := fieldOf_same h hs
  rw [hv, Value.eq_str_of_sorted hsame]
  rfl

lemma fieldOf_text (h : Value.sortedMembers ns = Value.sortedMembers ms) {s : String}
    (hs : ms.lookup key = some (.str s)) : fieldOf (membersOf ns) key = some (.str s) := by
  obtain ⟨v, hv, hsame⟩ := fieldOf_same h hs
  rw [hv, Value.eq_str_of_sorted hsame]

lemma onlyFields_same (h : Value.sortedMembers ns = Value.sortedMembers ms) {model : String}
    {names : List String} (hnames : ∀ k ∈ ms.map Prod.fst, k ∈ names) :
    onlyFields model names (membersOf ns) = .ok () := by
  rw [onlyFields, if_pos]
  intro m hm
  obtain ⟨n, hn, rfl⟩ := List.mem_map.mp hm
  have hkey : n.1 ∈ (Value.sortedMembers ns).map Prod.fst :=
    Value.mem_keys_sortedMembers.mpr (List.mem_map_of_mem hn)
  rw [h] at hkey
  exact List.mem_map_of_mem (hnames _ (Value.mem_keys_sortedMembers.mp hkey))

lemma itemsOf_same (h : Value.sortedMembers ns = Value.sortedMembers ms) {items : List Value}
    (hitems : ms.lookup key = some (.arr items)) :
    ∃ vs, itemsOf (membersOf ns) key = .ok vs ∧ vs.map Value.sorted = items.map Value.sorted := by
  obtain ⟨v, hv, hsame⟩ := fieldOf_same h hitems
  obtain ⟨vs, rfl, hvs⟩ := Value.eq_arr_of_sorted hsame
  refine ⟨vs, ?_, hvs⟩
  rw [itemsOf, hv]
  rfl

lemma allTexts_same {vs : List Value} {refs : List String}
    (h : vs.map Value.sorted = (refs.map Value.str).map Value.sorted) : allTexts vs = some refs := by
  induction vs generalizing refs with
  | nil =>
    cases refs with
    | nil => rfl
    | cons r refs => cases h
  | cons v vs ih =>
    cases refs with
    | nil => cases h
    | cons r refs =>
      obtain ⟨hv, hvs⟩ := List.cons.inj h
      obtain rfl := Value.eq_str_of_sorted hv
      rw [allTexts, ih hvs]
      rfl

lemma mapM_forall₂ {α β γ : Type} {f : α → Except Raised γ} {R : α → β → Prop} {S : γ → β → Prop}
    {as : List α} {bs : List β} (h : List.Forall₂ R as bs)
    (hf : ∀ a b, b ∈ bs → R a b → ∃ c, f a = .ok c ∧ S c b) :
    ∃ cs, as.mapM f = .ok cs ∧ List.Forall₂ S cs bs := by
  induction h with
  | nil => exact ⟨[], rfl, .nil⟩
  | @cons a b as bs hab h ih =>
    obtain ⟨c, hc, hS⟩ := hf a b List.mem_cons_self hab
    obtain ⟨cs, hcs, hSs⟩ := ih fun a' b' hb' => hf a' b' (List.mem_cons_of_mem b hb')
    refine ⟨c :: cs, ?_, .cons hS hSs⟩
    rw [List.mapM_cons, hc, hcs]
    rfl

lemma forall₂_of_map {α β γ : Type} {f : α → γ} {g : β → γ} {as : List α} {bs : List β}
    (h : as.map f = bs.map g) : List.Forall₂ (fun a b => f a = g b) as bs := by
  rw [← List.forall₂_eq_eq_eq] at h
  exact List.forall₂_map_right_iff.mp (List.forall₂_map_left_iff.mp h)

lemma map_eq_of_forall₂ {α β : Type} {f : α → β} {R : α → α → Prop} (hf : ∀ a b, R a b → f a = f b)
    {as bs : List α} (h : List.Forall₂ R as bs) : as.map f = bs.map f := by
  induction h with
  | nil => rfl
  | cons hab h ih => rw [List.map_cons, List.map_cons, hf _ _ hab, ih]

lemma mem_of_forall₂ {α : Type} {R : α → α → Prop} {as bs : List α} (h : List.Forall₂ R as bs)
    {a : α} (ha : a ∈ as) : ∃ b ∈ bs, R a b := by
  induction h with
  | nil => cases ha
  | @cons a' b as bs hab h ih =>
    rcases List.mem_cons.mp ha with rfl | ha
    · exact ⟨b, List.mem_cons_self, hab⟩
    · obtain ⟨b', hb', hR⟩ := ih ha
      exact ⟨b', List.mem_cons_of_mem b hb', hR⟩

end Documents

/-- The JSON form of an instant is read back. -/
def GraphTooling.ReadsBack (tooling : GraphTooling) (t : Datetime) : Prop :=
  tooling.fromisoformat (zoned (tooling.dumpDatetime t)) = some (true, t)

/-- The provenance of all nodes and edges. -/
def SecurityGraph.provenances (g : SecurityGraph) : List GraphProvenance :=
  g.nodes.flatMap (·.provenance) ++ g.edges.flatMap (·.provenance)

def SecurityGraph.Readable (tooling : GraphTooling) (g : SecurityGraph) : Prop :=
  ∀ p ∈ g.provenances, tooling.ReadsBack p.observedAt

/-- Equal nodes: the equality of dictionaries does not look at the order of their members. -/
structure GraphNode.Same (n m : GraphNode) : Prop where
  entityId : n.entityId = m.entityId
  entityType : n.entityType = m.entityType
  attributes : (Value.obj n.attributes).sorted = (Value.obj m.attributes).sorted
  provenance : n.provenance = m.provenance

structure GraphEdge.Same (e f : GraphEdge) : Prop where
  edgeId : e.edgeId = f.edgeId
  sourceNode : e.sourceNode = f.sourceNode
  targetNode : e.targetNode = f.targetNode
  relation : e.relation = f.relation
  provenance : e.provenance = f.provenance
  attributes : (Value.obj e.attributes).sorted = (Value.obj f.attributes).sorted

section Replay

variable {tooling : GraphTooling} {v : Value}

lemma restoreProvenance_same {p : GraphProvenance} (hread : tooling.ReadsBack p.observedAt)
    (h : v.sorted = (p.dump tooling).sorted) : restoreProvenance tooling v = .ok p := by
  obtain ⟨ns, rfl, hns⟩ := Value.eq_obj_of_sorted h
  have hat : fieldOf (membersOf ns) "observed_at" =
      some (.str (tooling.dumpDatetime p.observedAt)) := fieldOf_text hns (by simp [List.lookup_cons])
  have hstatus : fieldOf (membersOf ns) "status" = some (.str p.status.value) :=
    fieldOf_text hns (by simp [List.lookup_cons])
  have hversion : fieldOf (membersOf ns) "normalization_version" =
      some (.str p.normalizationVersion) := fieldOf_text hns (by simp [List.lookup_cons])
  have hsource : textField "GraphProvenance" (fieldOf (membersOf ns) "source") = .ok p.source :=
    textField_same hns (by simp)
  have htype : textField "GraphProvenance" (fieldOf (membersOf ns) "source_type") =
      .ok p.sourceType := textField_same hns (by simp [List.lookup_cons])
  have hitems : ∃ w, fieldOf (membersOf ns) "evidence_refs" = some w ∧
      w.sorted = (Value.arr (p.evidenceRefs.map .str)).sorted :=
    fieldOf_same hns (by simp [List.lookup_cons])
  obtain ⟨w, hrefs, hsame⟩ := hitems
  obtain ⟨vs, rfl, hvs⟩ := Value.eq_arr_of_sorted hsame
  have hread' : tooling.fromisoformat (zoned (tooling.dumpDatetime p.observedAt)) =
    some (true, p.observedAt) := hread
  have hvalid : validateProvenance (membersOf ns) (some (true, p.observedAt)) (some p.status) =
      .ok p := by
    rw [validateProvenance, onlyFields_same hns (by simp), ok_bind, hsource, ok_bind, htype, ok_bind,
      hversion, hstatus, hrefs]
    simp only [Option.getD_some, textField, ok_bind, allTexts_same hvs, dif_pos p.nonblank]
    rfl
  have hdict : Documents.toDict (.obj ns) = .ok (membersOf ns) := rfl
  rw [restoreProvenance, hdict, ok_bind, hat, hstatus]
  simp only [hread', orRaise, ok_bind, restoreEnum, GraphProvenanceStatus.ofValue?_value]
  exact hvalid

lemma restore_same {τ : Type} {model kindField : String} {ofValue? : String → Option τ}
    {ns ms : List (String × Value)} (hns : Value.sortedMembers ns = Value.sortedMembers ms)
    {s : String} (hkind : ms.lookup kindField = some (.str s)) {kind : τ}
    (hvalue : ofValue? s = some kind) {ps : List GraphProvenance}
    (hps : ms.lookup "provenance" = some (.arr (ps.map (·.dump tooling))))
    (hread : ∀ p ∈ ps, tooling.ReadsBack p.observedAt) :
    restore tooling model kindField ofValue? (.obj ns) = .ok ⟨membersOf ns, some kind, ps⟩ := by
  obtain ⟨vs, hvs, hsame⟩ := itemsOf_same hns hps
  rw [List.map_map] at hsame
  have hrestored : ∃ qs, vs.mapM (restoreProvenance tooling) = .ok qs ∧ List.Forall₂ Eq qs ps := by
    refine mapM_forall₂ (forall₂_of_map hsame) ?_
    intro v p hp h
    exact ⟨p, restoreProvenance_same (hread p hp) h, rfl⟩
  obtain ⟨qs, hqs, heq⟩ := hrestored
  obtain rfl := List.forall₂_eq_eq_eq ▸ heq
  have hdict : Documents.toDict (.obj ns) = .ok (membersOf ns) := rfl
  rw [restore, hdict, ok_bind, fieldOf_text hns hkind, restoreEnum, hvalue, orRaise, ok_bind, hvs]
  simp only [pure_bind, ok_bind, hqs]
  rfl

lemma attributesField_same {model : String} {ns ms members : List (String × Value)}
    (hns : Value.sortedMembers ns = Value.sortedMembers ms)
    (h : ms.lookup "attributes" = some (.obj members)) :
    ∃ members', attributesField model (membersOf ns) = .ok members' ∧
      (Value.obj members').sorted = (Value.obj members).sorted := by
  obtain ⟨v, hv, hsame⟩ := fieldOf_same hns h
  obtain ⟨members', rfl, hmembers⟩ := Value.eq_obj_of_sorted hsame
  refine ⟨members', ?_, congrArg Value.obj hmembers⟩
  rw [attributesField, hv]

lemma restoreNode_same {n : GraphNode} (hread : ∀ p ∈ n.provenance, tooling.ReadsBack p.observedAt)
    (h : v.sorted = (n.dump tooling).sorted) : ∃ r,
      restore tooling "GraphEntityType" "entity_type" GraphEntityType.ofValue? v = .ok r ∧
        ∃ m, validateNode r = .ok m ∧ m.Same n := by
  obtain ⟨ns, rfl, hns⟩ := Value.eq_obj_of_sorted h
  have hid : textField "GraphNode" (fieldOf (membersOf ns) "entity_id") = .ok n.entityId :=
    textField_same hns (by simp)
  have hattributes : ∃ members, attributesField "GraphNode" (membersOf ns) = .ok members ∧
      (Value.obj members).sorted = (Value.obj n.attributes).sorted :=
    attributesField_same hns (by simp [List.lookup_cons])
  obtain ⟨members, hmembers, hsame⟩ := hattributes
  refine ⟨_, restore_same hns (by simp [List.lookup_cons]) (GraphEntityType.ofValue?_value n.entityType)
    (by simp [List.lookup_cons]) hread, ?_⟩
  refine ⟨⟨n.entityId, n.entityType, members, n.provenance, n.nonblank, n.supported⟩, ?_,
    rfl, rfl, hsame, rfl⟩
  rw [validateNode, onlyFields_same hns (by simp), ok_bind, hid, ok_bind, hmembers, ok_bind]
  simp only [n.nonblank, n.supported, ne_eq, not_false_eq_true, and_self, dif_pos]
  rfl

lemma restoreEdge_same {e : GraphEdge} (hread : ∀ p ∈ e.provenance, tooling.ReadsBack p.observedAt)
    (h : v.sorted = (e.dump tooling).sorted) : ∃ r,
      restore tooling "GraphRelation" "relation" GraphRelation.ofValue? v = .ok r ∧
        ∃ f, validateEdge r = .ok f ∧ f.Same e := by
  obtain ⟨ns, rfl, hns⟩ := Value.eq_obj_of_sorted h
  have hid : textField "GraphEdge" (fieldOf (membersOf ns) "edge_id") = .ok e.edgeId :=
    textField_same hns (by simp)
  have hsource : textField "GraphEdge" (fieldOf (membersOf ns) "source_node") = .ok e.sourceNode :=
    textField_same hns (by simp [List.lookup_cons])
  have htarget : textField "GraphEdge" (fieldOf (membersOf ns) "target_node") = .ok e.targetNode :=
    textField_same hns (by simp [List.lookup_cons])
  have hattributes : ∃ members, attributesField "GraphEdge" (membersOf ns) = .ok members ∧
      (Value.obj members).sorted = (Value.obj e.attributes).sorted :=
    attributesField_same hns (by simp [List.lookup_cons])
  obtain ⟨members, hmembers, hsame⟩ := hattributes
  refine ⟨_, restore_same hns (by simp [List.lookup_cons]) (GraphRelation.ofValue?_value e.relation)
    (by simp [List.lookup_cons]) hread, ?_⟩
  refine ⟨⟨e.edgeId, e.sourceNode, e.targetNode, e.relation, e.provenance, members, e.nonblank,
    e.supported⟩, ?_, rfl, rfl, rfl, rfl, rfl, hsame⟩
  rw [validateEdge, onlyFields_same hns (by simp), ok_bind, hid, ok_bind, hsource, ok_bind, htarget,
    ok_bind, hmembers, ok_bind]
  simp only [dif_pos (And.intro e.nonblank e.supported)]
  rfl

end Replay

namespace SecurityGraph

variable {tooling : GraphTooling} {g : SecurityGraph}

/-- The graph with its nodes and edges in canonical order. -/
def inOrder (g : SecurityGraph) : SecurityGraph where
  tenantId := g.tenantId
  caseId := g.caseId
  targetId := g.targetId
  snapshotId := g.snapshotId
  nodes := sortBy GraphNode.sortKey g.nodes
  edges := sortBy GraphEdge.sortKey g.edges
  valid := by
    have hnodes : ((sortBy GraphNode.sortKey g.nodes).map GraphNode.nodeKey).Perm
        (g.nodes.map GraphNode.nodeKey) := sortBy_perm.map GraphNode.nodeKey
    have hedges : ((sortBy GraphEdge.sortKey g.edges).map GraphEdge.edgeId).Perm
        (g.edges.map GraphEdge.edgeId) := sortBy_perm.map GraphEdge.edgeId
    refine ⟨g.valid.nonblank, hnodes.nodup_iff.mpr g.valid.distinctNodes,
      hedges.nodup_iff.mpr g.valid.distinctEdges, ?_⟩
    intro e he
    rw [hnodes.mem_iff, hnodes.mem_iff]
    exact g.valid.known e (mem_sortBy.mp he)

lemma mem_provenances_node {n : GraphNode} (hn : n ∈ g.inOrder.nodes) {p : GraphProvenance}
    (hp : p ∈ n.provenance) : p ∈ g.provenances :=
  List.mem_append_left _ (List.mem_flatMap.mpr ⟨n, mem_sortBy.mp hn, hp⟩)

lemma mem_provenances_edge {e : GraphEdge} (he : e ∈ g.inOrder.edges) {p : GraphProvenance}
    (hp : p ∈ e.provenance) : p ∈ g.provenances :=
  List.mem_append_right _ (List.mem_flatMap.mpr ⟨e, mem_sortBy.mp he, hp⟩)

/-- Equal graphs. -/
structure Same (g h : SecurityGraph) : Prop where
  tenantId : g.tenantId = h.tenantId
  caseId : g.caseId = h.caseId
  targetId : g.targetId = h.targetId
  snapshotId : g.snapshotId = h.snapshotId
  nodes : List.Forall₂ GraphNode.Same g.nodes h.nodes
  edges : List.Forall₂ GraphEdge.Same g.edges h.edges

lemma nodeKeys_same {nodes nodes' : List GraphNode} (h : List.Forall₂ GraphNode.Same nodes nodes') :
    nodes.map GraphNode.nodeKey = nodes'.map GraphNode.nodeKey := by
  refine map_eq_of_forall₂ ?_ h
  intro n m hnm
  rw [GraphNode.nodeKey, GraphNode.nodeKey, hnm.entityType, hnm.entityId]

/-- Equal nodes and edges pass the same checks. -/
lemma validate_same {nodes : List GraphNode} {edges : List GraphEdge}
    (hnodes : List.Forall₂ GraphNode.Same nodes g.nodes)
    (hedges : List.Forall₂ GraphEdge.Same edges g.edges) :
    ∃ g', validate g.tenantId g.caseId g.targetId g.snapshotId nodes edges = .ok g' ∧ g'.Same g := by
  have hkeys := nodeKeys_same hnodes
  have hvalid : ValidGraph [g.tenantId, g.caseId, g.targetId, g.snapshotId] nodes edges := by
    refine ⟨g.valid.nonblank, hkeys ▸ g.valid.distinctNodes, ?_, ?_⟩
    · rw [map_eq_of_forall₂ (fun _ _ h => h.edgeId) hedges]
      exact g.valid.distinctEdges
    · intro e he
      obtain ⟨f, hf, hef⟩ := mem_of_forall₂ hedges he
      rw [hkeys, hef.sourceNode, hef.targetNode]
      exact g.valid.known f hf
  exact ⟨_, dif_pos hvalid, rfl, rfl, rfl, rfl, hnodes, hedges⟩

/-- The replay of a document that has the members of a graph's canonical one, in whatever order. -/
lemma replay_same {v : Value} (hread : g.Readable tooling)
    (h : v.sorted = (g.canonicalDict tooling).sorted) :
    ∃ g', replay tooling v = .ok g' ∧ g'.Same g.inOrder := by
  obtain ⟨ns, rfl, hns⟩ := Value.eq_obj_of_sorted h
  have htenant : textField "SecurityGraph" (fieldOf (membersOf ns) "tenant_id") = .ok g.tenantId :=
    textField_same hns (by simp)
  have hcase : textField "SecurityGraph" (fieldOf (membersOf ns) "case_id") = .ok g.caseId :=
    textField_same hns (by simp [List.lookup_cons])
  have htarget : textField "SecurityGraph" (fieldOf (membersOf ns) "target_id") = .ok g.targetId :=
    textField_same hns (by simp [List.lookup_cons])
  have hsnapshot : textField "SecurityGraph" (fieldOf (membersOf ns) "snapshot_id") =
      .ok g.snapshotId := textField_same hns (by simp [List.lookup_cons])
  have hnodes : ∃ vs, itemsOf (membersOf ns) "nodes" = .ok vs ∧ vs.map Value.sorted =
      (g.inOrder.nodes.map (·.dump tooling)).map Value.sorted :=
    itemsOf_same hns (by simp [List.lookup_cons, inOrder])
  have hedges : ∃ vs, itemsOf (membersOf ns) "edges" = .ok vs ∧ vs.map Value.sorted =
      (g.inOrder.edges.map (·.dump tooling)).map Value.sorted :=
    itemsOf_same hns (by simp [List.lookup_cons, inOrder])
  obtain ⟨nodeItems, hnodeItems, hnodesSame⟩ := hnodes
  obtain ⟨edgeItems, hedgeItems, hedgesSame⟩ := hedges
  rw [List.map_map] at hnodesSame hedgesSame
  obtain ⟨restoredNodes, hrestoredNodes, hvalidNodes⟩ := mapM_forall₂ (forall₂_of_map hnodesSame)
    fun v n hn h => restoreNode_same (fun p hp => hread p (mem_provenances_node hn hp)) h
  obtain ⟨restoredEdges, hrestoredEdges, hvalidEdges⟩ := mapM_forall₂ (forall₂_of_map hedgesSame)
    fun v e he h => restoreEdge_same (fun p hp => hread p (mem_provenances_edge he hp)) h
  obtain ⟨nodes, hnodes, hsameNodes⟩ := mapM_forall₂ hvalidNodes fun r n _ h => h
  obtain ⟨edges, hedges, hsameEdges⟩ := mapM_forall₂ hvalidEdges fun r e _ h => h
  obtain ⟨g', hg', hsame⟩ := validate_same hsameNodes hsameEdges
  refine ⟨g', ?_, hsame⟩
  have honly : onlyFields "SecurityGraph"
      ["tenant_id", "case_id", "target_id", "snapshot_id", "nodes", "edges"] (membersOf ns) =
        .ok () := onlyFields_same hns (by simp)
  rw [replay, show (ns.map fun m => (Value.str m.1, m.2)) = membersOf ns from rfl, hnodeItems,
    ok_bind, hrestoredNodes, ok_bind, hedgeItems, ok_bind, hrestoredEdges, ok_bind, honly, ok_bind, htenant, ok_bind, hcase, ok_bind, htarget, ok_bind, hsnapshot, ok_bind, hnodes,
    ok_bind, hedges, ok_bind]
  exact hg'

/-- The same graph with its nodes and edges in another order. -/
structure Permuted (g h : SecurityGraph) : Prop where
  tenantId : g.tenantId = h.tenantId
  caseId : g.caseId = h.caseId
  targetId : g.targetId = h.targetId
  snapshotId : g.snapshotId = h.snapshotId
  nodes : g.nodes.Perm h.nodes
  edges : g.edges.Perm h.edges

/-- A node's place is determined by its key. -/
lemma nodup_nodeSortKeys : (g.nodes.map GraphNode.sortKey).Nodup := by
  have hkey : GraphNode.nodeKey = (fun k => k.headD "" ++ ":" ++ k.getLastD "") ∘ GraphNode.sortKey :=
    rfl
  have hdistinct := g.valid.distinctNodes
  rw [hkey, ← List.map_map] at hdistinct
  exact hdistinct.of_map

lemma nodup_edgeSortKeys : (g.edges.map GraphEdge.sortKey).Nodup := by
  have hkey : GraphEdge.edgeId = (fun k => k.getLastD "") ∘ GraphEdge.sortKey := rfl
  have hdistinct := g.valid.distinctEdges
  rw [hkey, ← List.map_map] at hdistinct
  exact hdistinct.of_map

lemma Permuted.inOrder_eq {h : SecurityGraph} (hp : g.Permuted h) : g.inOrder = h.inOrder := by
  have hnodes := sortBy_eq_of_perm nodup_nodeSortKeys hp.nodes
  have hedges := sortBy_eq_of_perm nodup_edgeSortKeys hp.edges
  simp only [inOrder, hp.tenantId, hp.caseId, hp.targetId, hp.snapshotId, hnodes, hedges]

lemma canonicalDict_inOrder : g.inOrder.canonicalDict tooling = g.canonicalDict tooling := by
  rw [canonicalDict, canonicalDict, inOrder, sortBy_of_sorted sortBy_sorted,
    sortBy_of_sorted sortBy_sorted]

lemma Permuted.canonicalDict_eq {h : SecurityGraph} (hp : g.Permuted h) :
    g.canonicalDict tooling = h.canonicalDict tooling := by
  rw [← canonicalDict_inOrder, hp.inOrder_eq, canonicalDict_inOrder]

lemma Permuted.canonicalBytes_eq {h : SecurityGraph} (hp : g.Permuted h) :
    g.canonicalBytes tooling = h.canonicalBytes tooling := by
  rw [canonicalBytes, hp.canonicalDict_eq, canonicalBytes]

lemma Permuted.digest_eq {h : SecurityGraph} (hp : g.Permuted h) :
    g.digest tooling = h.digest tooling := by
  rw [digest, hp.canonicalBytes_eq, digest]

/-- The builder puts nodes and edges in canonical order, whatever order they come in. -/
lemma build_permuted {nodes : List GraphNode} {edges : List GraphEdge} (hnodes : g.nodes.Perm nodes)
    (hedges : g.edges.Perm edges) :
    build g.tenantId g.caseId g.targetId g.snapshotId nodes edges = .ok g.inOrder := by
  rw [build, validate, ← sortBy_eq_of_perm nodup_nodeSortKeys hnodes,
    ← sortBy_eq_of_perm nodup_edgeSortKeys hedges]
  exact dif_pos g.inOrder.valid

end SecurityGraph

section Canonical

variable {tooling : GraphTooling}

lemma GraphNode.Same.dump {n m : GraphNode} (h : n.Same m) :
    (n.dump tooling).sorted = (m.dump tooling).sorted := by
  refine congrArg Value.obj (Value.sortedMembers_eq_of_forall₂ ?_)
  rw [h.entityId, h.entityType, h.provenance]
  exact .cons ⟨rfl, rfl⟩ (.cons ⟨rfl, rfl⟩ (.cons ⟨rfl, h.attributes⟩ (.cons ⟨rfl, rfl⟩ .nil)))

lemma GraphEdge.Same.dump {e f : GraphEdge} (h : e.Same f) :
    (e.dump tooling).sorted = (f.dump tooling).sorted := by
  refine congrArg Value.obj (Value.sortedMembers_eq_of_forall₂ ?_)
  rw [h.edgeId, h.sourceNode, h.targetNode, h.relation, h.provenance]
  exact .cons ⟨rfl, rfl⟩ (.cons ⟨rfl, rfl⟩ (.cons ⟨rfl, rfl⟩ (.cons ⟨rfl, rfl⟩
    (.cons ⟨rfl, rfl⟩ (.cons ⟨rfl, h.attributes⟩ .nil)))))

lemma sortBy_same {α κ : Type} [LinearOrder κ] {key : α → κ} {R : α → α → Prop}
    (hR : ∀ a b, R a b → key a = key b) {as bs : List α} (h : List.Forall₂ R as (sortBy key bs)) :
    sortBy key as = as := by
  apply sortBy_of_sorted
  have hsorted : ((sortBy key bs).map key).Pairwise (· ≤ ·) := List.pairwise_map.mpr sortBy_sorted
  rw [← map_eq_of_forall₂ hR h] at hsorted
  exact List.pairwise_map.mp hsorted

namespace SecurityGraph

variable {g h : SecurityGraph}

lemma Same.canonicalDict_eq (hs : h.Same g.inOrder) :
    (h.canonicalDict tooling).sorted = (g.canonicalDict tooling).sorted := by
  have hnodes : sortBy GraphNode.sortKey h.nodes = h.nodes := by
    refine sortBy_same ?_ hs.nodes
    intro n m hnm
    rw [GraphNode.sortKey, GraphNode.sortKey, hnm.entityType, hnm.entityId]
  have hedges : sortBy GraphEdge.sortKey h.edges = h.edges := by
    refine sortBy_same ?_ hs.edges
    intro e f hef
    rw [GraphEdge.sortKey, GraphEdge.sortKey, hef.sourceNode, hef.targetNode, hef.relation, hef.edgeId]
  have hnodeDumps : h.nodes.map (fun n => (n.dump tooling).sorted) =
      g.inOrder.nodes.map fun n => (n.dump tooling).sorted :=
    map_eq_of_forall₂ (fun _ _ hnm => hnm.dump) hs.nodes
  have hedgeDumps : h.edges.map (fun e => (e.dump tooling).sorted) =
      g.inOrder.edges.map fun e => (e.dump tooling).sorted :=
    map_eq_of_forall₂ (fun _ _ hef => hef.dump) hs.edges
  refine congrArg Value.obj (Value.sortedMembers_eq_of_forall₂ ?_)
  rw [hnodes, hedges, hs.tenantId, hs.caseId, hs.targetId, hs.snapshotId]
  refine .cons ⟨rfl, rfl⟩ (.cons ⟨rfl, rfl⟩ (.cons ⟨rfl, rfl⟩ (.cons ⟨rfl, rfl⟩
    (.cons ⟨rfl, congrArg Value.arr ?_⟩ (.cons ⟨rfl, congrArg Value.arr ?_⟩ .nil)))))
  · rw [Value.sortedItems_eq_map, Value.sortedItems_eq_map, List.map_map, List.map_map]
    exact hnodeDumps
  · rw [Value.sortedItems_eq_map, Value.sortedItems_eq_map, List.map_map, List.map_map]
    exact hedgeDumps

lemma Same.canonicalBytes_eq (hs : h.Same g.inOrder) :
    h.canonicalBytes tooling = g.canonicalBytes tooling := by
  rw [canonicalBytes, hs.canonicalDict_eq, canonicalBytes]

lemma Same.digest_eq (hs : h.Same g.inOrder) : h.digest tooling = g.digest tooling := by
  rw [digest, hs.canonicalBytes_eq, digest]

end SecurityGraph

end Canonical

end SecScanMonitor.ContinuousSecurity
