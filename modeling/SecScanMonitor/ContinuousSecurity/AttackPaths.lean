import SecScanMonitor.ContinuousSecurity.Graph
import SecScanMonitor.Foundations.Search
import Mathlib.Data.List.Duplicate
import Mathlib.Data.List.Induction

/-! The bounded path queries of the security graph (`SecurityGraph.paths_between`), and which walks of the graph
they return. -/

namespace SecScanMonitor.ContinuousSecurity

open Foundations Domain Relation

structure GraphPath where
  nodeKeys : List String
  edgeIds : List String
  deriving Repr, DecidableEq

structure PathQuery where
  startTypes : List GraphEntityType
  endTypes : List GraphEntityType
  startAttribute : Option (String × Value) := none
  endAttribute : Option (String × Value) := none
  maxDepth : Int := 8

/-- `attribute is None or node.attributes.get(attribute[0]) == attribute[1]` -/
def GraphNode.hasAttribute (n : GraphNode) (wanted : Option (String × Value)) : Bool :=
  wanted.all fun a => ((n.attributes.lookup a.1).getD .null).pyEq a.2

namespace SecurityGraph

variable (g : SecurityGraph) (query : PathQuery)

/-- `nodes[key]` -/
def node? (key : String) : Option GraphNode := g.nodes.find? fun n => decide (n.nodeKey = key)

def adjacent (key : String) : List GraphEdge :=
  (g.edges.filter fun e => decide (e.sourceNode = key)).insertionSort fun e f =>
    e.targetNode < f.targetNode ∨ e.targetNode = f.targetNode ∧ e.edgeId ≤ f.edgeId

def isStart (n : GraphNode) : Bool :=
  n.entityType ∈ query.startTypes && n.hasAttribute query.startAttribute

def isEnd (key : String) : Bool :=
  (g.node? key).any fun n => n.entityType ∈ query.endTypes && n.hasAttribute query.endAttribute

/-- An entry of the queue: the node that has been reached, and the way to it. -/
structure Trail where
  current : String
  nodeKeys : List String
  edgeIds : List String

def Trail.start (key : String) : Trail := ⟨key, [key], []⟩

def Trail.extend (x : Trail) (e : GraphEdge) : Trail :=
  ⟨e.targetNode, x.nodeKeys ++ [e.targetNode], x.edgeIds ++ [e.edgeId]⟩

def Trail.state (x : Trail) : String × ℕ := (x.current, x.edgeIds.length)

def Trail.path (x : Trail) : GraphPath := ⟨x.nodeKeys, x.edgeIds⟩

/-- The loop over the queue; `none` where the fuel runs out. -/
def explore : ℕ → List Trail → List (String × ℕ) → List GraphPath → Option (List GraphPath)
  | _, [], _, results => some results
  | 0, _ :: _, _, _ => none
  | fuel + 1, x :: queue, visited, results =>
    let depth := x.edgeIds.length
    if 0 < depth ∧ g.isEnd query x.current then explore fuel queue visited (results ++ [x.path])
    else if query.maxDepth ≤ depth then explore fuel queue visited results
    else
      let fresh := Search.enqueue Trail.state ((g.adjacent x.current).map x.extend) visited
      explore fuel (queue ++ fresh.1) fresh.2 results

/-- The states that a search can meet. -/
def states : List (String × ℕ) :=
  (g.nodes.map GraphNode.nodeKey).flatMap fun key => (List.range (query.maxDepth.toNat + 1)).map (key, ·)

def pathsFrom (start : GraphNode) : Option (List GraphPath) :=
  g.explore query (g.states query).length [Trail.start start.nodeKey] [(start.nodeKey, 0)] []

def starts : List GraphNode := sortBy GraphNode.nodeKey (g.nodes.filter (isStart query))

/-- `paths_between` -/
def pathsBetween : Except Raised (Option (List GraphPath)) := do
  raiseIf (query.maxDepth < 1) .valueError "max_depth must be positive"
  return ((g.starts query).mapM (g.pathsFrom query)).map List.flatten

end SecurityGraph

section Walks

open SecurityGraph

variable {g : SecurityGraph} {query : PathQuery}

/-- The edges lead from one node to another, each from where the one before it ends. -/
def IsWalk (g : SecurityGraph) : String → List GraphEdge → String → Prop
  | s, [], t => s = t
  | s, e :: es, t => e ∈ g.edges ∧ e.sourceNode = s ∧ IsWalk g e.targetNode es t

/-- The path that follows the edges from a node. -/
def pathOf (s : String) (es : List GraphEdge) : GraphPath :=
  ⟨s :: es.map GraphEdge.targetNode, es.map GraphEdge.edgeId⟩

/-- No node before the last is one that the query ends at, the first apart. -/
def OpenInside (g : SecurityGraph) (query : PathQuery) (es : List GraphEdge) : Prop :=
  ∀ e ∈ es.dropLast, g.isEnd query e.targetNode = false

lemma isWalk_concat {s t : String} {es : List GraphEdge} {e : GraphEdge} :
    IsWalk g s (es ++ [e]) t ↔ IsWalk g s es e.sourceNode ∧ e ∈ g.edges ∧ e.targetNode = t := by
  induction es generalizing s with
  | nil =>
    simp only [List.nil_append, IsWalk]
    constructor
    · rintro ⟨he, hs, ht⟩
      exact ⟨hs.symm, he, ht⟩
    · rintro ⟨hs, he, ht⟩
      exact ⟨he, hs.symm, ht⟩
  | cons f es ih =>
    simp only [List.cons_append, IsWalk, ih, and_assoc]

lemma mem_adjacent {key : String} {e : GraphEdge} :
    e ∈ g.adjacent key ↔ e ∈ g.edges ∧ e.sourceNode = key := by
  rw [adjacent, List.mem_insertionSort, List.mem_filter, decide_eq_true_eq]

/-- The entries that follow an entry of the queue. -/
def expand (g : SecurityGraph) (query : PathQuery) (x : Trail) : List Trail :=
  if 0 < x.edgeIds.length ∧ g.isEnd query x.current then []
  else if query.maxDepth ≤ x.edgeIds.length then []
  else (g.adjacent x.current).map x.extend

/-- An entry whose way is returned. -/
def Returned (g : SecurityGraph) (query : PathQuery) (x : Trail) : Bool :=
  0 < x.edgeIds.length && g.isEnd query x.current

/-- The loop is a search whose results are the ways of the entries that end. -/
lemma explore_eq_search (fuel : ℕ) (queue : List Trail) (visited : List (String × ℕ))
    (results : List GraphPath) :
    g.explore query fuel queue visited results =
      (Search.search (expand g query) Trail.state fuel queue visited).map fun found =>
        results ++ (found.filter (Returned g query)).map Trail.path := by
  induction fuel generalizing queue visited results with
  | zero =>
    cases queue with
    | nil => simp [explore, Search.search]
    | cons x queue => rfl
  | succ fuel ih =>
    cases queue with
    | nil => simp [explore, Search.search]
    | cons x queue =>
      rw [explore, Search.search]
      by_cases hend : 0 < x.edgeIds.length ∧ g.isEnd query x.current = true
      · have hreturned : Returned g query x = true := by simp [Returned, hend.1, hend.2]
        have hexpand : expand g query x = [] := if_pos hend
        simp only [if_pos hend, hexpand, Search.enqueue, List.append_nil, ih, Option.map_map,
          Function.comp_def, List.filter_cons, hreturned, if_true, List.map_cons, List.append_assoc,
          List.singleton_append]
      · have hreturned : Returned g query x = false := by
          rw [Returned, ← Bool.not_eq_true, Bool.and_eq_true, decide_eq_true_eq]
          exact hend
        by_cases hdeep : query.maxDepth ≤ x.edgeIds.length
        · have hexpand : expand g query x = [] := (if_neg hend).trans (if_pos hdeep)
          simp only [if_neg hend, if_pos hdeep, hexpand, Search.enqueue, List.append_nil, ih,
            Option.map_map, Function.comp_def, List.filter_cons, hreturned, Bool.false_eq_true, if_false]
        · have hexpand : expand g query x = (g.adjacent x.current).map x.extend :=
            (if_neg hend).trans (if_neg hdeep)
          simp only [if_neg hend, if_neg hdeep, hexpand, ih, Option.map_map, Function.comp_def,
            List.filter_cons, hreturned, Bool.false_eq_true, if_false]

/-- The entry at the end of a walk. -/
def trailOf (s : String) (es : List GraphEdge) (t : String) : Trail :=
  ⟨t, (pathOf s es).nodeKeys, (pathOf s es).edgeIds⟩

lemma trailOf_extend (s t : String) (es : List GraphEdge) (e : GraphEdge) :
    (trailOf s es t).extend e = trailOf s (es ++ [e]) e.targetNode := by
  simp [trailOf, pathOf, Trail.extend]

lemma trailOf_length (s t : String) (es : List GraphEdge) :
    (trailOf s es t).edgeIds.length = es.length := by
  simp [trailOf, pathOf]

/-- A walk that the search follows. -/
structure Followed (g : SecurityGraph) (query : PathQuery) (s : String) (es : List GraphEdge) (t : String) :
    Prop where
  walk : IsWalk g s es t
  bounded : (es.length : Int) ≤ query.maxDepth
  openInside : OpenInside g query es

/-- A followed walk goes on at the node where it is, by any of its edges, unless it ends there. -/
lemma followed_concat {s t : String} {es : List GraphEdge} {e : GraphEdge} :
    Followed g query s (es ++ [e]) t ↔
      Followed g query s es e.sourceNode ∧ (es.length : Int) < query.maxDepth ∧
        (es ≠ [] → g.isEnd query e.sourceNode = false) ∧ e ∈ g.edges ∧ e.targetNode = t := by
  have hlast : ∀ {u : String}, IsWalk g s es u → es ≠ [] → ∃ f fs, es = fs ++ [f] ∧ f.targetNode = u := by
    intro u hwalk hne
    rcases List.eq_nil_or_concat es with rfl | ⟨fs, f, rfl⟩
    · exact absurd rfl hne
    · rw [List.concat_eq_append] at hwalk ⊢
      exact ⟨f, fs, rfl, (isWalk_concat.mp hwalk).2.2⟩
  constructor
  · rintro ⟨hwalk, hbound, hopen⟩
    obtain ⟨hwalk, hedge, htarget⟩ := isWalk_concat.mp hwalk
    rw [List.length_append, List.length_singleton] at hbound
    have hopen' : ∀ f ∈ es, g.isEnd query f.targetNode = false := by
      intro f hf
      refine hopen f ?_
      rwa [List.dropLast_concat]
    refine ⟨⟨hwalk, by omega, fun f hf => hopen' f (List.dropLast_subset es hf)⟩, by omega, ?_, hedge,
      htarget⟩
    intro hne
    obtain ⟨f, fs, rfl, hf⟩ := hlast hwalk hne
    rw [← hf]
    exact hopen' f (List.mem_append_right fs List.mem_cons_self)
  · rintro ⟨⟨hwalk, -, hopen⟩, hbound, hgo, hedge, htarget⟩
    refine ⟨isWalk_concat.mpr ⟨hwalk, hedge, htarget⟩, ?_, fun f hf => ?_⟩
    · rw [List.length_append, List.length_singleton]
      omega
    · rw [List.dropLast_concat] at hf
      obtain ⟨last, fs, rfl, hend⟩ := hlast hwalk (List.ne_nil_of_mem hf)
      rcases List.mem_append.mp hf with hf | hf
      · exact hopen f (by rwa [List.dropLast_concat])
      · obtain rfl := List.mem_singleton.mp hf
        rw [hend]
        exact hgo (List.append_ne_nil_of_right_ne_nil fs (List.cons_ne_nil _ _))

lemma mem_expand {s t : String} {es : List GraphEdge} {y : Trail} :
    y ∈ expand g query (trailOf s es t) ↔
      (es ≠ [] → g.isEnd query t = false) ∧ (es.length : Int) < query.maxDepth ∧
        ∃ e ∈ g.edges, e.sourceNode = t ∧ y = trailOf s (es ++ [e]) e.targetNode := by
  have hlength : 0 < es.length ↔ es ≠ [] := List.length_pos_iff
  rw [expand, trailOf_length]
  split
  · rename_i hend
    refine ⟨nofun, fun ⟨hgo, _⟩ => ?_⟩
    have hopen := hgo (hlength.mp hend.1)
    have hclosed : g.isEnd query t = true := hend.2
    rw [hopen] at hclosed
    cases hclosed
  · rename_i hend
    have hgo : es ≠ [] → g.isEnd query t = false := fun hne =>
      Bool.eq_false_iff.mpr fun h => hend ⟨hlength.mpr hne, h⟩
    split
    · exact ⟨nofun, fun ⟨_, hbound, _⟩ => by omega⟩
    · simp only [List.mem_map, mem_adjacent, trailOf_extend]
      constructor
      · rintro ⟨e, ⟨hedge, hsource⟩, rfl⟩
        exact ⟨hgo, by omega, e, hedge, hsource, rfl⟩
      · rintro ⟨-, -, e, hedge, hsource, rfl⟩
        exact ⟨e, ⟨hedge, hsource⟩, rfl⟩

/-- The entries that a search derives from a node are the ends of the walks that it follows. -/
lemma derived_iff (hbound : 0 ≤ query.maxDepth) {s : String} {x : Trail} :
    ReflTransGen (fun x y => y ∈ expand g query x) (Trail.start s) x ↔
      ∃ es t, Followed g query s es t ∧ x = trailOf s es t := by
  constructor
  · intro h
    induction h with
    | refl => exact ⟨[], s, ⟨rfl, hbound, nofun⟩, rfl⟩
    | tail _ hexpand ih =>
      obtain ⟨es, t, hfollowed, rfl⟩ := ih
      obtain ⟨hgo, hdepth, e, hedge, rfl, rfl⟩ := mem_expand.mp hexpand
      exact ⟨es ++ [e], e.targetNode, followed_concat.mpr ⟨hfollowed, hdepth, hgo, hedge, rfl⟩, rfl⟩
  · rintro ⟨es, t, hfollowed, rfl⟩
    induction es using List.reverseRecOn generalizing t with
    | nil =>
      obtain rfl : s = t := hfollowed.walk
      exact .refl
    | append_singleton es e ih =>
      obtain ⟨hbefore, hdepth, hgo, hedge, rfl⟩ := followed_concat.mp hfollowed
      exact (ih _ hbefore).tail (mem_expand.mpr ⟨hgo, hdepth, e, hedge, rfl, rfl⟩)

lemma expand_state (x y : Trail) (h : x.state = y.state) :
    ∀ x' ∈ expand g query x, ∃ y' ∈ expand g query y, y'.state = x'.state := by
  obtain ⟨hcurrent, hdepth⟩ := Prod.mk.inj h
  intro x' hx'
  rw [expand, hcurrent, hdepth] at hx'
  rw [expand]
  split at hx'
  · cases hx'
  rename_i hend
  rw [if_neg hend]
  split at hx'
  · cases hx'
  rename_i hdeep
  rw [if_neg hdeep]
  obtain ⟨e, he, rfl⟩ := List.mem_map.mp hx'
  refine ⟨y.extend e, List.mem_map_of_mem he, ?_⟩
  simp only [Trail.state, Trail.extend, List.length_append, hdepth]

lemma walk_known {s t : String} {es : List GraphEdge} (hs : s ∈ g.nodes.map GraphNode.nodeKey)
    (h : IsWalk g s es t) : t ∈ g.nodes.map GraphNode.nodeKey := by
  rcases List.eq_nil_or_concat es with rfl | ⟨fs, f, rfl⟩
  · obtain rfl : s = t := h
    exact hs
  · rw [List.concat_eq_append] at h
    obtain ⟨-, hedge, rfl⟩ := isWalk_concat.mp h
    exact (g.valid.known f hedge).2

lemma derived_states (hbound : 0 ≤ query.maxDepth) {s : String}
    (hs : s ∈ g.nodes.map GraphNode.nodeKey) (x : Trail)
    (h : ReflTransGen (fun x y => y ∈ expand g query x) (Trail.start s) x) :
    x.state ∈ g.states query := by
  obtain ⟨es, t, hfollowed, rfl⟩ := (derived_iff hbound).mp h
  have hdepth := hfollowed.bounded
  refine List.mem_flatMap.mpr ⟨t, walk_known hs hfollowed.walk, List.mem_map.mpr ⟨es.length, ?_, ?_⟩⟩
  · rw [List.mem_range]
    omega
  · rw [Trail.state, trailOf_length]
    rfl

/-- Where a path starts and ends, and its number of edges. -/
def GraphPath.ends (p : GraphPath) : Option String × Option String × ℕ :=
  (p.nodeKeys.head?, p.nodeKeys.getLast?, p.edgeIds.length)

lemma ends_pathOf {s t : String} {es : List GraphEdge} (h : IsWalk g s es t) :
    (pathOf s es).ends = (some s, some t, es.length) := by
  have hlast : (s :: es.map GraphEdge.targetNode).getLast? = some t := by
    rcases List.eq_nil_or_concat es with rfl | ⟨fs, f, rfl⟩
    · obtain rfl : s = t := h
      rfl
    · rw [List.concat_eq_append] at h ⊢
      obtain ⟨-, -, rfl⟩ := isWalk_concat.mp h
      rw [List.map_append, List.map_cons, List.map_nil, ← List.cons_append, List.getLast?_concat]
  simp only [GraphPath.ends, pathOf, List.head?_cons, hlast, List.length_map]

/-- A walk that is to be returned: it is followed to a node that the query ends at. -/
structure Sought (g : SecurityGraph) (query : PathQuery) (s : String) (es : List GraphEdge) (t : String) :
    Prop extends Followed g query s es t where
  moves : es ≠ []
  ending : g.isEnd query t = true

/-- What is returned for one start: sought walks, of those with the same end and length one. -/
structure FromStart (g : SecurityGraph) (query : PathQuery) (s : String) (paths : List GraphPath) : Prop where
  sought : ∀ p ∈ paths, ∃ es t, Sought g query s es t ∧ p = pathOf s es
  single : (paths.map GraphPath.ends).Nodup
  complete : ∀ es t, Sought g query s es t → ∃ p ∈ paths, p.ends = (some s, some t, es.length)

lemma returned_iff {s t : String} {es : List GraphEdge} :
    Returned g query (trailOf s es t) = true ↔ es ≠ [] ∧ g.isEnd query t = true := by
  rw [Returned, trailOf_length, Bool.and_eq_true, decide_eq_true_eq, List.length_pos_iff]
  rfl

lemma pathsFrom_fromStart (hbound : 0 ≤ query.maxDepth) {n : GraphNode} (hn : n ∈ g.nodes) :
    ∃ paths, g.pathsFrom query n = some paths ∧ FromStart g query n.nodeKey paths := by
  obtain ⟨found, hfound, hexplored⟩ := Search.search_explored
    (derived_states hbound (List.mem_map_of_mem hn)) (@expand_state g query)
  have hderived : ∀ x ∈ found, ∃ es t, Followed g query n.nodeKey es t ∧ x = trailOf n.nodeKey es t :=
    fun x hx => (derived_iff hbound).mp (hexplored.derived x hx)
  refine ⟨(found.filter (Returned g query)).map Trail.path, ?_, fun p hp => ?_, ?_, fun es t hsought => ?_⟩
  · rw [pathsFrom, explore_eq_search]
    have hstart : [(n.nodeKey, 0)] = [(Trail.start n.nodeKey).state] := rfl
    rw [hstart, hfound]
    rfl
  · obtain ⟨x, hx, rfl⟩ := List.mem_map.mp hp
    obtain ⟨hx, hreturned⟩ := List.mem_filter.mp hx
    obtain ⟨es, t, hfollowed, rfl⟩ := hderived x hx
    obtain ⟨hmoves, hend⟩ := returned_iff.mp hreturned
    exact ⟨es, t, ⟨hfollowed, hmoves, hend⟩, rfl⟩
  · have hends : ∀ x ∈ found, x.path.ends = (some n.nodeKey, some x.state.1, x.state.2) := by
      intro x hx
      obtain ⟨es, t, hfollowed, rfl⟩ := hderived x hx
      rw [Trail.state, trailOf_length]
      exact ends_pathOf hfollowed.walk
    have hdistinct : (found.filter (Returned g query)).map Trail.state |>.Nodup :=
      hexplored.distinct.sublist (List.filter_sublist.map Trail.state)
    rw [List.map_map]
    refine List.Nodup.map_on ?_ (hdistinct.of_map _)
    intro x hx y hy hxy
    have hx' := (List.mem_filter.mp hx).1
    have hy' := (List.mem_filter.mp hy).1
    rw [Function.comp_apply, Function.comp_apply, hends x hx', hends y hy'] at hxy
    have hstate : x.state = y.state := by
      simp only [Prod.mk.injEq, Option.some.injEq, true_and] at hxy
      exact Prod.ext hxy.1 hxy.2
    exact List.inj_on_of_nodup_map hexplored.distinct hx' hy' hstate
  · obtain ⟨x, hx, hstate⟩ := hexplored.complete _
      ((derived_iff hbound).mpr ⟨es, t, hsought.toFollowed, rfl⟩)
    obtain ⟨fs, u, hfollowed, rfl⟩ := hderived x hx
    rw [Trail.state, Trail.state, trailOf_length, trailOf_length] at hstate
    obtain ⟨hsame, hlength⟩ := Prod.mk.inj hstate
    obtain rfl : u = t := hsame
    have hmoves : fs ≠ [] := by
      rw [← List.length_pos_iff, hlength, List.length_pos_iff]
      exact hsought.moves
    refine ⟨pathOf n.nodeKey fs, List.mem_map.mpr ⟨_, List.mem_filter.mpr ⟨hx, ?_⟩, rfl⟩, ?_⟩
    · exact returned_iff.mpr ⟨hmoves, hsought.ending⟩
    · rw [ends_pathOf hfollowed.walk, hlength]

/-- What a query returns: sought walks from its starts, one for each start, end and length that has such a walk. -/
structure Answers (g : SecurityGraph) (query : PathQuery) (paths : List GraphPath) : Prop where
  sought : ∀ p ∈ paths, ∃ n ∈ g.nodes, isStart query n = true ∧
    ∃ es t, Sought g query n.nodeKey es t ∧ p = pathOf n.nodeKey es
  single : (paths.map GraphPath.ends).Nodup
  complete : ∀ n ∈ g.nodes, isStart query n = true → ∀ t, g.isEnd query t = true →
    ∀ d : ℕ, 1 ≤ d → (d : Int) ≤ query.maxDepth →
      ((paths.map GraphPath.ends).count (some n.nodeKey, some t, d) = 1 ↔
        ∃ es, IsWalk g n.nodeKey es t ∧ es.length = d ∧ OpenInside g query es)

lemma mapM_some {α β : Type} {f : α → Option β} {l : List α} (h : ∀ a ∈ l, ∃ b, f a = some b) :
    ∃ bs, l.mapM f = some bs ∧ List.Forall₂ (fun a b => f a = some b) l bs := by
  induction l with
  | nil => exact ⟨[], rfl, .nil⟩
  | cons a l ih =>
    obtain ⟨b, hb⟩ := h a List.mem_cons_self
    obtain ⟨bs, hbs, hall⟩ := ih fun a ha => h a (List.mem_cons_of_mem _ ha)
    exact ⟨b :: bs, by rw [List.mapM_cons, hb, hbs]; rfl, .cons hb hall⟩

lemma starts_distinct : ((g.starts query).map GraphNode.nodeKey).Nodup := by
  have hkeys : ((g.nodes.filter (isStart query)).map GraphNode.nodeKey).Nodup :=
    g.valid.distinctNodes.sublist (List.filter_sublist.map GraphNode.nodeKey)
  exact ((sortBy_perm.map GraphNode.nodeKey).nodup_iff).mpr hkeys

/-- The paths of all the starts, where each start has its own. -/
lemma answers_flatten {ns : List GraphNode} {answers : List (List GraphPath)}
    (hdistinct : (ns.map GraphNode.nodeKey).Nodup)
    (h : List.Forall₂ (fun n paths => FromStart g query n.nodeKey paths) ns answers) :
    (∀ p ∈ answers.flatten, ∃ n ∈ ns, ∃ es t, Sought g query n.nodeKey es t ∧ p = pathOf n.nodeKey es) ∧
      (answers.flatten.map GraphPath.ends).Nodup ∧
      ∀ n ∈ ns, ∀ es t, Sought g query n.nodeKey es t →
        ∃ p ∈ answers.flatten, p.ends = (some n.nodeKey, some t, es.length) := by
  induction h with
  | nil => exact ⟨nofun, List.nodup_nil, nofun⟩
  | @cons n paths ns answers hn _ ih =>
    rw [List.map_cons, List.nodup_cons] at hdistinct
    obtain ⟨hsought, hsingle, hcomplete⟩ := ih hdistinct.2
    rw [List.flatten_cons]
    refine ⟨fun p hp => ?_, ?_, fun m hm es t hmoves => ?_⟩
    · rcases List.mem_append.mp hp with hp | hp
      · exact ⟨n, List.mem_cons_self, hn.sought p hp⟩
      · obtain ⟨m, hm, hp⟩ := hsought p hp
        exact ⟨m, List.mem_cons_of_mem _ hm, hp⟩
    · rw [List.map_append, List.nodup_append']
      refine ⟨hn.single, hsingle, fun ends hhere hrest => ?_⟩
      -- a path of another start begins at another node
      obtain ⟨p, hp, rfl⟩ := List.mem_map.mp hhere
      obtain ⟨es, t, hes, rfl⟩ := hn.sought p hp
      obtain ⟨q, hq, hends⟩ := List.mem_map.mp hrest
      obtain ⟨m, hm, fs, u, hfs, rfl⟩ := hsought q hq
      rw [ends_pathOf hes.walk, ends_pathOf hfs.walk] at hends
      have hkey : m.nodeKey = n.nodeKey := Option.some.inj (congrArg Prod.fst hends)
      exact hdistinct.1 (hkey ▸ List.mem_map_of_mem hm)
    · rcases List.mem_cons.mp hm with rfl | hm
      · obtain ⟨p, hp, hends⟩ := hn.complete es t hmoves
        exact ⟨p, List.mem_append_left _ hp, hends⟩
      · obtain ⟨p, hp, hends⟩ := hcomplete m hm es t hmoves
        exact ⟨p, List.mem_append_right _ hp, hends⟩

lemma starts_answers (hbound : 0 ≤ query.maxDepth) :
    ∃ paths, ((g.starts query).mapM (g.pathsFrom query)).map List.flatten = some paths ∧
      Answers g query paths := by
  have hfrom : ∀ n ∈ g.starts query, ∃ paths, g.pathsFrom query n = some paths ∧
      FromStart g query n.nodeKey paths := fun n hn =>
    pathsFrom_fromStart hbound (List.mem_filter.mp (mem_sortBy.mp hn)).1
  obtain ⟨answers, hanswers, hall⟩ := mapM_some fun n hn => (hfrom n hn).imp fun _ h => h.1
  have heach : List.Forall₂ (fun n paths => FromStart g query n.nodeKey paths) (g.starts query) answers := by
    refine List.forall₂_iff_get.mpr ⟨hall.length_eq, fun i hi hi' => ?_⟩
    obtain ⟨paths, hpaths, hstart⟩ := hfrom _ (List.get_mem _ ⟨i, hi⟩)
    have hget := (List.forall₂_iff_get.mp hall).2 i hi hi'
    rw [hpaths] at hget
    rwa [← Option.some.inj hget]
  obtain ⟨hsought, hsingle, hcomplete⟩ := answers_flatten starts_distinct heach
  refine ⟨answers.flatten, by rw [hanswers]; rfl, fun p hp => ?_, hsingle, ?_⟩
  · obtain ⟨n, hn, hp⟩ := hsought p hp
    obtain ⟨hn, hstart⟩ := List.mem_filter.mp (mem_sortBy.mp hn)
    exact ⟨n, hn, hstart, hp⟩
  · intro n hn hstart t hend d hpositive hdepth
    constructor
    · intro hcount
      have hmem : (some n.nodeKey, some t, d) ∈ answers.flatten.map GraphPath.ends :=
        List.count_pos_iff.mp (by omega)
      obtain ⟨p, hp, hends⟩ := List.mem_map.mp hmem
      obtain ⟨m, -, es, u, hes, rfl⟩ := hsought p hp
      rw [ends_pathOf hes.walk] at hends
      obtain ⟨hm, hu, rfl⟩ : m.nodeKey = n.nodeKey ∧ u = t ∧ es.length = d := by simpa using hends
      exact ⟨es, hm ▸ hu ▸ hes.walk, rfl, hes.openInside⟩
    · rintro ⟨es, hwalk, rfl, hopen⟩
      have hmoves : es ≠ [] := List.length_pos_iff.mp hpositive
      obtain ⟨p, hp, hends⟩ := hcomplete n (mem_sortBy.mpr (List.mem_filter.mpr ⟨hn, hstart⟩)) es t
        ⟨⟨hwalk, hdepth, hopen⟩, hmoves, hend⟩
      exact List.count_eq_one_of_mem hsingle (hends ▸ List.mem_map_of_mem hp)

/-- A query with a positive depth is answered on every graph, and its answer is sound and complete. -/
theorem pathsBetween_answers (g : SecurityGraph) (query : PathQuery) :
    query.maxDepth < 1 ∧ g.pathsBetween query = raise .valueError "max_depth must be positive" ∨
      1 ≤ query.maxDepth ∧ ∃ paths, g.pathsBetween query = .ok (some paths) ∧ Answers g query paths := by
  by_cases hdepth : query.maxDepth < 1
  · exact Or.inl ⟨hdepth, by simp [pathsBetween, raiseIf, hdepth]; rfl⟩
  · obtain ⟨paths, hpaths, hanswers⟩ := @starts_answers g query (by omega)
    refine Or.inr ⟨by omega, paths, ?_, hanswers⟩
    rw [pathsBetween, hpaths]
    simp [raiseIf, hdepth]

lemma walk_split {s t v : String} {es : List GraphEdge} {before after : List String}
    (hwalk : IsWalk g s es t) (h : s :: es.map GraphEdge.targetNode = before ++ v :: after) :
    ∃ fs gs, es = fs ++ gs ∧ IsWalk g s fs v ∧ IsWalk g v gs t ∧ gs.map GraphEdge.targetNode = after := by
  induction before generalizing s es with
  | nil =>
    obtain ⟨rfl, hafter⟩ := List.cons.inj h
    exact ⟨[], es, rfl, rfl, hwalk, hafter⟩
  | cons b before ih =>
    obtain ⟨rfl, hrest⟩ := List.cons.inj h
    cases es with
    | nil => exact absurd hrest.symm (List.append_ne_nil_of_right_ne_nil before (List.cons_ne_nil _ _))
    | cons e es =>
      obtain ⟨hedge, hsource, hwalk⟩ := hwalk
      obtain ⟨fs, gs, rfl, hfirst, hsecond, hafter⟩ := ih hwalk hrest
      exact ⟨e :: fs, gs, rfl, ⟨hedge, hsource, hfirst⟩, hsecond, hafter⟩

/-- What lies between two visits of a node is a closed walk. -/
lemma walk_revisits {s t v : String} {es : List GraphEdge} {before between after : List String}
    (hwalk : IsWalk g s es t)
    (h : (pathOf s es).nodeKeys = before ++ v :: (between ++ v :: after)) :
    ∃ cs, cs.map GraphEdge.targetNode = between ++ [v] ∧
      cs.map GraphEdge.edgeId <:+: (pathOf s es).edgeIds ∧ IsWalk g v cs v := by
  obtain ⟨fs, gs, rfl, -, hrest, hgs⟩ := walk_split hwalk h
  have hagain : v :: gs.map GraphEdge.targetNode = (v :: between) ++ v :: after := by
    rw [hgs, List.cons_append]
  obtain ⟨cs, ds, rfl, hclosed, -, hds⟩ := walk_split hrest hagain
  refine ⟨cs, ?_, ⟨fs.map GraphEdge.edgeId, ds.map GraphEdge.edgeId, ?_⟩, hclosed⟩
  · rw [List.map_append, hds, ← List.singleton_append, ← List.append_assoc] at hgs
    exact List.append_cancel_right hgs
  · simp only [pathOf, List.map_append, List.append_assoc]

lemma nodup_of_parts {α : Type} {l : List α}
    (h : ∀ v before between after, l ≠ before ++ v :: (between ++ v :: after)) : l.Nodup := by
  by_contra hrepeats
  obtain ⟨v, hv⟩ := List.exists_duplicate_iff_not_nodup.mpr hrepeats
  obtain ⟨front, back, rfl, hfront, hback⟩ := List.cons_sublist_iff.mp (List.duplicate_iff_sublist.mp hv)
  obtain ⟨before, between, rfl⟩ := List.append_of_mem hfront
  obtain ⟨between', after, rfl⟩ := List.append_of_mem (List.singleton_sublist.mp hback)
  exact h v before (between ++ between') after (by simp)

/-- A returned path visits a node again only by going round a directed cycle; where there is none, it is simple. -/
theorem pathsBetween_revisits (g : SecurityGraph) (query : PathQuery) (paths : List GraphPath)
    (h : g.pathsBetween query = .ok (some paths)) (p : GraphPath) (hp : p ∈ paths) :
    (∀ v before between after, p.nodeKeys = before ++ v :: (between ++ v :: after) →
      ∃ es, es.map GraphEdge.targetNode = between ++ [v] ∧ es.map GraphEdge.edgeId <:+: p.edgeIds ∧
        IsWalk g v es v) ∧
      ((∀ v es, IsWalk g v es v → es = []) → p.nodeKeys.Nodup) := by
  rcases pathsBetween_answers g query with ⟨-, hraises⟩ | ⟨-, paths', hpaths, hanswers⟩
  · rw [hraises] at h
    cases h
  obtain rfl : paths' = paths := Option.some.inj (Except.ok.inj (hpaths.symm.trans h))
  obtain ⟨n, -, -, es, t, hsought, rfl⟩ := hanswers.sought p hp
  have hrevisits : ∀ v before between after,
      (pathOf n.nodeKey es).nodeKeys = before ++ v :: (between ++ v :: after) → _ :=
    fun v before between after => walk_revisits hsought.walk
  refine ⟨hrevisits, fun hacyclic => nodup_of_parts fun v before between after hkeys => ?_⟩
  obtain ⟨cs, htargets, -, hclosed⟩ := hrevisits v before between after hkeys
  rw [hacyclic v cs hclosed] at htargets
  exact List.append_ne_nil_of_right_ne_nil between (List.cons_ne_nil v []) htargets.symm

section Example

def inventoried : GraphProvenance where
  source := "inventory"
  sourceType := "scan"
  observedAt := 1767225600000000
  normalizationVersion := "security-graph-v1"
  status := .verified
  evidenceRefs := ["EV-1"]
  nonblank := by decide

def plannerNode : GraphNode := ⟨"a", .agent, [], [inventoried], by decide, by decide⟩

def brokerNode : GraphNode := ⟨"b", .service, [], [inventoried], by decide, by decide⟩

def shellNode : GraphNode := ⟨"t", .tool, [], [inventoried], by decide, by decide⟩

/-- An agent that calls a service, which calls the agent, and that uses a tool. -/
def mutualGraph : SecurityGraph where
  tenantId := "TEN-1"
  caseId := "CASE-1"
  targetId := "TGT-1"
  snapshotId := "SG-1"
  nodes := [plannerNode, brokerNode, shellNode]
  edges := [⟨"E-1", "Agent:a", "Service:b", .calls, [inventoried], [], by decide, by decide⟩,
    ⟨"E-2", "Service:b", "Agent:a", .calls, [inventoried], [], by decide, by decide⟩,
    ⟨"E-3", "Agent:a", "Tool:t", .uses, [inventoried], [], by decide, by decide⟩]
  valid := by decide

def toolQuery : PathQuery where
  startTypes := [.agent]
  endTypes := [.tool]
  maxDepth := 4

def directPath : GraphPath := ⟨["Agent:a", "Tool:t"], ["E-3"]⟩

def roundPath : GraphPath := ⟨["Agent:a", "Service:b", "Agent:a", "Tool:t"], ["E-1", "E-2", "E-3"]⟩

theorem mutualGraph_paths : mutualGraph.pathsBetween toolQuery = .ok (some [directPath, roundPath]) := by
  decide

theorem roundPath_returned :
    ∃ paths, mutualGraph.pathsBetween toolQuery = .ok (some paths) ∧ ∃ p ∈ paths, ¬ p.nodeKeys.Nodup :=
  ⟨_, mutualGraph_paths, roundPath, by decide, by decide⟩

theorem roundPath_revisits :
    ∃ es, es.map GraphEdge.targetNode = ["Service:b", "Agent:a"] ∧
      es.map GraphEdge.edgeId <:+: roundPath.edgeIds ∧ IsWalk mutualGraph "Agent:a" es "Agent:a" :=
  (pathsBetween_revisits mutualGraph toolQuery _ mutualGraph_paths roundPath (by decide)).1
    "Agent:a" [] ["Service:b"] ["Tool:t"] rfl

end Example

end Walks

end SecScanMonitor.ContinuousSecurity
