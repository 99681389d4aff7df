import Mathlib.Data.List.Sort
import SecScanMonitor.Domain.Common
import SecScanMonitor.Foundations.Dict
import SecScanMonitor.Foundations.Value

/-! Snapshot diffing and targeted patrol (`continuous_security/patrol.py`). -/

namespace SecScanMonitor.ContinuousSecurity

open Foundations Domain

/-- `SECURITY_SURFACES` -/
def securitySurfaces : List String :=
  ["source", "dependencies", "sbom", "agent_declarations", "mcp_tools", "a2a_agents",
    "capabilities", "opa_policies", "deployment", "vulnerability_intelligence",
    "exposure_reachability"]

inductive ChangeState where
  | new
  | changed
  | resolved
  | unchanged
  | unknown
  deriving Repr, DecidableEq

def ChangeState.value : ChangeState → String
  | .new => "NEW"
  | .changed => "CHANGED"
  | .resolved => "RESOLVED"
  | .unchanged => "UNCHANGED"
  | .unknown => "UNKNOWN"

inductive FindingState where
  | open
  | changed
  | resolved
  deriving Repr, DecidableEq

/-- Tenant, case and target of a snapshot or a finding. -/
structure PatrolScope where
  tenantId : String
  caseId : String
  targetId : String
  deriving Repr, DecidableEq

structure CanonicalSnapshot where
  tenantId : String
  caseId : String
  targetId : String
  snapshotId : String
  surfaces : List (String × Value)
  nonblank : ∀ id ∈ [tenantId, caseId, targetId, snapshotId], isBlank id = false

namespace CanonicalSnapshot

def scope (s : CanonicalSnapshot) : PatrolScope := ⟨s.tenantId, s.caseId, s.targetId⟩

/-- `surfaces.get(name, {})` -/
def surface (s : CanonicalSnapshot) (name : String) : Value := (s.surfaces.lookup name).getD (.obj [])

def securityPayload (s : CanonicalSnapshot) : Value :=
  .obj (securitySurfaces.map fun name => (name, s.surface name))

def payload (s : CanonicalSnapshot) : Value :=
  .obj [("tenant_id", .str s.tenantId), ("case_id", .str s.caseId), ("target_id", .str s.targetId),
    ("surfaces", s.securityPayload)]

end CanonicalSnapshot

structure SnapshotDelta where
  surface : String
  key : String
  state : ChangeState
  before : Value
  after : Value
  deriving DecidableEq

def SnapshotDelta.affectedSurface (d : SnapshotDelta) : String := d.surface ++ ":" ++ d.key

structure PatrolCandidate where
  conditionKey : String
  title : String
  severity : String
  affectedSurface : String
  supportingEvidenceRefs : List String
  adjudicated : Bool
  rationale : String
  evidenced : adjudicated = true → supportingEvidenceRefs ≠ []
  deriving DecidableEq

/-- What the store keeps a finding under. -/
structure FindingKey where
  scope : PatrolScope
  conditionKey : String
  deriving Repr, DecidableEq

structure PatrolFinding where
  findingId : String
  conditionKey : String
  tenantId : String
  caseId : String
  targetId : String
  title : String
  severity : String
  state : FindingState
  affectedSurface : String
  supportingEvidenceRefs : List String
  snapshotId : String
  rationale : String
  deriving Repr, DecidableEq

namespace PatrolFinding

def scope (f : PatrolFinding) : PatrolScope := ⟨f.tenantId, f.caseId, f.targetId⟩

def key (f : PatrolFinding) : FindingKey := ⟨f.scope, f.conditionKey⟩

/-- `model_copy(update={"state": RESOLVED, "snapshot_id": ...})` -/
def resolve (snapshot : CanonicalSnapshot) (f : PatrolFinding) : PatrolFinding :=
  { f with state := .resolved, snapshotId := snapshot.snapshotId }

/-- An unresolved finding of a scope on a surface. -/
def unresolvedOn (scope : PatrolScope) (surface : String) (f : PatrolFinding) : Prop :=
  f.scope = scope ∧ f.affectedSurface = surface ∧ f.state ≠ .resolved

instance (scope : PatrolScope) (surface : String) : DecidablePred (unresolvedOn scope surface) :=
  fun _ => inferInstanceAs (Decidable (_ ∧ _ ∧ _))

end PatrolFinding

/-- SHA-256 in hexadecimal, of text and of canonical JSON text. -/
structure Hashing where
  sha256 : String → String
  contentDigest : Value → String

/-- `InMemoryFindingStore`: each finding stands under its own key. -/
structure InMemoryFindingStore where
  findings : Dict FindingKey PatrolFinding
  keyed : ∀ k f, findings.find? k = some f → f.key = k

namespace InMemoryFindingStore

@[ext] lemma ext {s t : InMemoryFindingStore} (h : s.findings = t.findings) : s = t := by
  cases s
  cases t
  simp only at h
  subst h
  rfl

def empty : InMemoryFindingStore := ⟨Table.empty, nofun⟩

/-- `self._findings[key] = finding` -/
def write (key : FindingKey) (f : PatrolFinding) (h : f.key = key) (store : InMemoryFindingStore) :
    InMemoryFindingStore where
  findings := store.findings.put key f
  keyed := by
    intro k g hg
    rw [Dict.find?_put] at hg
    by_cases hk : k = key
    · rw [if_pos hk] at hg
      obtain rfl := Option.some.inj hg
      rw [h, hk]
    · rw [if_neg hk] at hg
      exact store.keyed k g hg

lemma find?_write {key : FindingKey} {f : PatrolFinding} {h : f.key = key}
    {store : InMemoryFindingStore} (k : FindingKey) : (store.write key f h).findings.find? k =
      if k = key then some f else store.findings.find? k :=
  Dict.find?_put store.findings key k f

def keyOf (snapshot : CanonicalSnapshot) (conditionKey : String) : FindingKey :=
  ⟨snapshot.scope, conditionKey⟩

lemma resolve_key {snapshot : CanonicalSnapshot} {f : PatrolFinding} (h : f.scope = snapshot.scope) :
    (f.resolve snapshot).key = keyOf snapshot f.conditionKey :=
  congrArg (FindingKey.mk · f.conditionKey) h

def get (key : FindingKey) (store : InMemoryFindingStore) : Option PatrolFinding :=
  store.findings.find? key

/-- `for_surface` -/
def forSurface (scope : PatrolScope) (surface : String) (store : InMemoryFindingStore) :
    List PatrolFinding :=
  (store.findings.values.filter fun f => decide (f.unresolvedOn scope surface)).insertionSort
    fun f g => f.findingId ≤ g.findingId

/-- The id that a new finding gets. -/
def newId (hashing : Hashing) (key : FindingKey) : String :=
  "PF-" ++ String.ofList ((hashing.sha256 ("|".intercalate
    [key.scope.tenantId, key.scope.caseId, key.scope.targetId, key.conditionKey])).toList.take 32)

/-- The finding that a candidate becomes. -/
def findingOf (snapshot : CanonicalSnapshot) (candidate : PatrolCandidate) (state : FindingState)
    (findingId : String) : PatrolFinding where
  findingId := findingId
  conditionKey := candidate.conditionKey
  tenantId := snapshot.tenantId
  caseId := snapshot.caseId
  targetId := snapshot.targetId
  title := candidate.title
  severity := candidate.severity
  state := state
  affectedSurface := candidate.affectedSurface
  supportingEvidenceRefs := candidate.supportingEvidenceRefs
  snapshotId := snapshot.snapshotId
  rationale := candidate.rationale

lemma findingOf_key {snapshot : CanonicalSnapshot} {candidate : PatrolCandidate}
    {state : FindingState} {findingId : String} :
    (findingOf snapshot candidate state findingId).key = keyOf snapshot candidate.conditionKey := rfl

def upsert (hashing : Hashing) (snapshot : CanonicalSnapshot) (candidate : PatrolCandidate)
    (state : FindingState) (store : InMemoryFindingStore) : PatrolFinding × InMemoryFindingStore :=
  let key := keyOf snapshot candidate.conditionKey
  let findingId :=
    match store.get key with
    | none => newId hashing key
    | some existing => existing.findingId
  let finding := findingOf snapshot candidate state findingId
  (finding, store.write key finding findingOf_key)

/-- The loop of `resolve_surface` over the findings of the surface. -/
def resolveEach (snapshot : CanonicalSnapshot) :
    (found : List PatrolFinding) → (∀ f ∈ found, f.scope = snapshot.scope) →
      InMemoryFindingStore → InMemoryFindingStore
  | [], _, store => store
  | f :: found, h, store =>
    resolveEach snapshot found (fun g hg => h g (List.mem_cons_of_mem f hg))
      (store.write (keyOf snapshot f.conditionKey) (f.resolve snapshot)
        (resolve_key (h f List.mem_cons_self)))

lemma mem_forSurface {scope : PatrolScope} {surface : String} {store : InMemoryFindingStore}
    {f : PatrolFinding} : f ∈ store.forSurface scope surface ↔
      store.findings.find? f.key = some f ∧ f.unresolvedOn scope surface := by
  rw [forSurface, List.mem_insertionSort, List.mem_filter, Dict.mem_values_iff_find?,
    decide_eq_true_iff]
  constructor
  · rintro ⟨⟨k, hk⟩, hon⟩
    rw [store.keyed k f hk]
    exact ⟨hk, hon⟩
  · rintro ⟨hf, hon⟩
    exact ⟨⟨f.key, hf⟩, hon⟩

def resolveSurface (snapshot : CanonicalSnapshot) (surface : String) (store : InMemoryFindingStore) :
    List PatrolFinding × InMemoryFindingStore :=
  let found := store.forSurface snapshot.scope surface
  (found.map (·.resolve snapshot),
    resolveEach snapshot found (fun _ hf => (mem_forSurface.mp hf).2.1) store)

end InMemoryFindingStore

/-- `_stable_json(a) == _stable_json(b)` -/
def sameJson (a b : Value) : Bool := decide (a.sorted = b.sorted)

/-- The keys of two dictionaries, in order. -/
def deltaKeys (before after : List (String × Value)) : List String :=
  ((before ++ after).map Prod.fst).dedup.insertionSort (· ≤ ·)

def keyDelta (surface : String) (before after : List (String × Value)) (key : String) :
    Option SnapshotDelta :=
  let beforeValue := (before.lookup key).getD .null
  let afterValue := (after.lookup key).getD .null
  if sameJson beforeValue afterValue then none
  else
    let state : ChangeState :=
      if before.lookup key = none then .new
      else if after.lookup key = none then .resolved
      else .changed
    some ⟨surface, key, state, beforeValue, afterValue⟩

def surfaceDeltas (surface : String) (before after : Value) : List SnapshotDelta :=
  if sameJson before after then []
  else
    match before, after with
    | .obj before, .obj after => (deltaKeys before after).filterMap (keyDelta surface before after)
    | before, after => [⟨surface, "$", .changed, before, after⟩]

/-- The order of `(surface, key, state.value)`. -/
def SnapshotDelta.upTo (d e : SnapshotDelta) : Prop :=
  d.surface < e.surface ∨ d.surface = e.surface ∧
    (d.key < e.key ∨ d.key = e.key ∧ d.state.value ≤ e.state.value)

instance : DecidableRel SnapshotDelta.upTo := fun d e => by
  unfold SnapshotDelta.upTo
  infer_instance

/-- The deltas of two snapshots of one scope. -/
def deltasOf (previous current : CanonicalSnapshot) : List SnapshotDelta :=
  (securitySurfaces.flatMap fun name =>
    surfaceDeltas name (previous.surface name) (current.surface name)).insertionSort
      SnapshotDelta.upTo

def diffSnapshots (previous current : CanonicalSnapshot) : Except Raised (List SnapshotDelta) := do
  raiseIf (previous.scope ≠ current.scope) .valueError
    "patrol cannot diff snapshots across tenant, case, or target scope"
  return deltasOf previous current

structure PatrolRunResult where
  baselineSnapshotId : String
  currentSnapshotId : String
  baselineDigest : String
  currentDigest : String
  deltas : List SnapshotDelta
  reassessedSurfaces : List String
  findings : List PatrolFinding
  deriving DecidableEq

abbrev Assessment := SnapshotDelta → Except Raised (List PatrolCandidate)

/-- The finding store, and the deltas that were assessed. -/
structure Patrol where
  store : InMemoryFindingStore
  assessed : List SnapshotDelta

namespace PatrolEngine

variable (hashing : Hashing)

def candidatesInOrder (candidates : List PatrolCandidate) : List PatrolCandidate :=
  candidates.insertionSort fun a b => a.conditionKey ≤ b.conditionKey

def stateOf (delta : SnapshotDelta) : FindingState :=
  if delta.state = .new then .open else .changed

def upsertEach (current : CanonicalSnapshot) (delta : SnapshotDelta) :
    List PatrolCandidate → InMemoryFindingStore → List PatrolFinding × InMemoryFindingStore
  | [], store => ([], store)
  | candidate :: candidates, store =>
    if candidate.adjudicated then
      let (finding, store) := store.upsert hashing current candidate (stateOf delta)
      let (findings, store) := upsertEach current delta candidates store
      (finding :: findings, store)
    else upsertEach current delta candidates store

/-- What the loop does for a delta. -/
def patrolDelta (current : CanonicalSnapshot) (assess : Assessment) (delta : SnapshotDelta) :
    Effect Patrol (List PatrolFinding) := fun p =>
  match delta.state with
  | .resolved =>
    let (findings, store) := p.store.resolveSurface current delta.affectedSurface
    (.ok findings, { p with store })
  | .unchanged | .unknown => (.ok [], p)
  | .new | .changed =>
    let p := { p with assessed := p.assessed ++ [delta] }
    match assess delta with
    | .error e => (.error e, p)
    | .ok candidates =>
      let (findings, store) := upsertEach hashing current delta (candidatesInOrder candidates) p.store
      if delta.state = .changed ∧ candidates = [] then
        let (resolved, store) := store.resolveSurface current delta.affectedSurface
        (.ok (findings ++ resolved), { p with store })
      else (.ok findings, { p with store })

def patrolEach (current : CanonicalSnapshot) (assess : Assessment) :
    List SnapshotDelta → Effect Patrol (List PatrolFinding)
  | [], p => (.ok [], p)
  | delta :: deltas, p =>
    match patrolDelta hashing current assess delta p with
    | (.error e, p) => (.error e, p)
    | (.ok findings, p) =>
      match patrolEach current assess deltas p with
      | (.error e, p) => (.error e, p)
      | (.ok later, p) => (.ok (findings ++ later), p)

def reassessed (deltas : List SnapshotDelta) : List String :=
  ((deltas.filter fun d => d.state = .new ∨ d.state = .changed).map
    (·.affectedSurface)).dedup.insertionSort (· ≤ ·)

def run (baseline current : CanonicalSnapshot) (assess : Assessment) :
    Effect Patrol PatrolRunResult := fun p =>
  match diffSnapshots baseline current with
  | .error e => (.error e, p)
  | .ok deltas =>
    match patrolEach hashing current assess deltas p with
    | (.error e, p) => (.error e, p)
    | (.ok findings, p) =>
      (.ok
        { baselineSnapshotId := baseline.snapshotId
          currentSnapshotId := current.snapshotId
          baselineDigest := hashing.contentDigest baseline.payload
          currentDigest := hashing.contentDigest current.payload
          deltas
          reassessedSurfaces := reassessed deltas
          findings := findings.insertionSort fun f g => f.findingId ≤ g.findingId }, p)

end PatrolEngine

end SecScanMonitor.ContinuousSecurity
