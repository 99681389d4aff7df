import SecScanMonitor.ContinuousSecurity.PatrolWrites

/-! Patrol runs: what they repeat, keep and leave alone, and what they leave unresolved. -/

namespace SecScanMonitor.ContinuousSecurity

open Foundations Domain InMemoryFindingStore PatrolEngine PatrolWrite

/-- What the loop writes for a delta that is assessed. -/
def writesOf (delta : SnapshotDelta) (candidates : List PatrolCandidate) : List PatrolWrite :=
  ((candidatesInOrder candidates).filter (·.adjudicated)).map (.upsert · (stateOf delta)) ++
    if delta.state = .changed ∧ candidates = [] then [.resolve delta.affectedSurface] else []

/-- What the loop writes for a delta. -/
def writesAt (assess : Assessment) (delta : SnapshotDelta) : Except Raised (List PatrolWrite) :=
  match delta.state with
  | .resolved => .ok [.resolve delta.affectedSurface]
  | .unchanged | .unknown => .ok []
  | .new | .changed => (assess delta).map (writesOf delta)

/-- What the loop writes, until an assessment raises. -/
def writesFor (assess : Assessment) : List SnapshotDelta → List PatrolWrite
  | [] => []
  | delta :: deltas =>
    match writesAt assess delta with
    | .error _ => []
    | .ok ws => ws ++ writesFor assess deltas

section Writes

variable {hashing : Hashing} {baseline current : CanonicalSnapshot} {assess : Assessment}

lemma upsertEach_store (delta : SnapshotDelta) (candidates : List PatrolCandidate)
    (store : InMemoryFindingStore) : (upsertEach hashing current delta candidates store).2 =
      applyAll hashing current
        ((candidates.filter (·.adjudicated)).map (.upsert · (stateOf delta))) store := by
  induction candidates generalizing store with
  | nil => rfl
  | cons candidate candidates ih =>
    by_cases h : candidate.adjudicated = true
    · rw [upsertEach, if_pos h, List.filter_cons_of_pos h]
      exact ih _
    · rw [upsertEach, if_neg h, List.filter_cons_of_neg h]
      exact ih _

lemma applyAll_append (ws ws' : List PatrolWrite) (store : InMemoryFindingStore) :
    applyAll hashing current (ws ++ ws') store =
      applyAll hashing current ws' (applyAll hashing current ws store) :=
  List.foldl_append

variable (hashing current) in
lemma patrolDelta_raised {delta : SnapshotDelta} {e : Raised} (h : writesAt assess delta = .error e)
    (p : Patrol) : ∃ p', patrolDelta hashing current assess delta p = (.error e, p') ∧
      p'.store = p.store := by
  rw [writesAt] at h
  refine ⟨{ p with assessed := p.assessed ++ [delta] }, ?_, rfl⟩
  cases hassess : assess delta with
  | ok candidates =>
    rw [hassess] at h
    cases hstate : delta.state <;> rw [hstate] at h <;> cases h
  | error e' =>
    rw [hassess] at h
    cases hstate : delta.state with
    | resolved =>
      rw [hstate] at h
      cases h
    | unchanged =>
      rw [hstate] at h
      cases h
    | unknown =>
      rw [hstate] at h
      cases h
    | new =>
      rw [hstate] at h
      obtain rfl := Except.error.inj h
      rw [patrolDelta, hstate, hassess]
    | changed =>
      rw [hstate] at h
      obtain rfl := Except.error.inj h
      rw [patrolDelta, hstate, hassess]

lemma patrolDelta_assessed {delta : SnapshotDelta} {candidates : List PatrolCandidate}
    (hstate : delta.state = .new ∨ delta.state = .changed) (h : assess delta = .ok candidates)
    (p : Patrol) : ∃ findings p', patrolDelta hashing current assess delta p = (.ok findings, p') ∧
      p'.store = applyAll hashing current (writesOf delta candidates) p.store := by
  rw [writesOf, applyAll_append, ← upsertEach_store]
  let upserted := upsertEach hashing current delta (candidatesInOrder candidates) p.store
  let resolved := upserted.2.resolveSurface current delta.affectedSurface
  by_cases hsafe : delta.state = .changed ∧ candidates = []
  · rw [if_pos hsafe]
    refine ⟨upserted.1 ++ resolved.1, ⟨resolved.2, p.assessed ++ [delta]⟩, ?_, rfl⟩
    rw [patrolDelta, hsafe.1]
    simp only [h]
    exact if_pos ⟨trivial, hsafe.2⟩
  · rw [if_neg hsafe]
    refine ⟨upserted.1, ⟨upserted.2, p.assessed ++ [delta]⟩, ?_, rfl⟩
    rw [patrolDelta]
    rcases hstate with hstate | hstate
    · simp only [hstate, h]
      rfl
    · have hcandidates : candidates ≠ [] := fun hnil => hsafe ⟨hstate, hnil⟩
      simp only [hstate, h, hcandidates, and_false, if_false]
      rfl

variable (hashing current) in
lemma patrolDelta_writes {delta : SnapshotDelta} {ws : List PatrolWrite}
    (h : writesAt assess delta = .ok ws) (p : Patrol) :
    ∃ findings p', patrolDelta hashing current assess delta p = (.ok findings, p') ∧
      p'.store = applyAll hashing current ws p.store := by
  rw [writesAt] at h
  cases hstate : delta.state with
  | resolved =>
    rw [hstate] at h
    obtain rfl := Except.ok.inj h
    rw [patrolDelta, hstate]
    exact ⟨_, _, rfl, rfl⟩
  | unchanged =>
    rw [hstate] at h
    obtain rfl := Except.ok.inj h
    rw [patrolDelta, hstate]
    exact ⟨_, _, rfl, rfl⟩
  | unknown =>
    rw [hstate] at h
    obtain rfl := Except.ok.inj h
    rw [patrolDelta, hstate]
    exact ⟨_, _, rfl, rfl⟩
  | new =>
    rw [hstate] at h
    obtain ⟨candidates, hassess, rfl⟩ := map_eq_ok.mp h
    exact patrolDelta_assessed (Or.inl hstate) hassess p
  | changed =>
    rw [hstate] at h
    obtain ⟨candidates, hassess, rfl⟩ := map_eq_ok.mp h
    exact patrolDelta_assessed (Or.inr hstate) hassess p

lemma patrolEach_store (deltas : List SnapshotDelta) (p : Patrol) :
    (patrolEach hashing current assess deltas p).2.store =
      applyAll hashing current (writesFor assess deltas) p.store := by
  induction deltas generalizing p with
  | nil => rfl
  | cons delta deltas ih =>
    rw [patrolEach, writesFor]
    cases hwrites : writesAt assess delta with
    | error e =>
      obtain ⟨p', hp, hstore⟩ := patrolDelta_raised hashing current hwrites p
      rw [hp]
      exact hstore
    | ok ws =>
      obtain ⟨findings, p', hp, hstore⟩ :=
        patrolDelta_writes hashing current hwrites p
      rw [hp]
      simp only
      rw [applyAll_append, ← hstore, ← ih p']
      cases patrolEach hashing current assess deltas p' with
      | mk answer p'' =>
        cases answer with
        | error e => rfl
        | ok later => rfl

/-- What a run writes. -/
def writesOfRun (baseline current : CanonicalSnapshot) (assess : Assessment) : List PatrolWrite :=
  if baseline.scope = current.scope then writesFor assess (deltasOf baseline current) else []

lemma diffSnapshots_eq (h : baseline.scope = current.scope) :
    diffSnapshots baseline current = .ok (deltasOf baseline current) := by
  rw [diffSnapshots, raiseIf, if_neg (not_not.mpr h)]
  rfl

lemma diffSnapshots_of_ne (h : baseline.scope ≠ current.scope) : diffSnapshots baseline current =
    raise .valueError "patrol cannot diff snapshots across tenant, case, or target scope" := by
  rw [diffSnapshots, raiseIf, if_pos h]
  rfl

lemma run_store (p : Patrol) : (run hashing baseline current assess p).2.store =
    applyAll hashing current (writesOfRun baseline current assess) p.store := by
  by_cases h : baseline.scope = current.scope
  · rw [run, diffSnapshots_eq h, writesOfRun, if_pos h, ← patrolEach_store]
    simp only
    cases patrolEach hashing current assess (deltasOf baseline current) p with
    | mk answer p' =>
      cases answer with
      | error e => rfl
      | ok findings => rfl
  · rw [run, diffSnapshots_of_ne h, writesOfRun, if_neg h]
    rfl

/-- The finding under a key after a run. -/
lemma run_find? (p : Patrol) (k : FindingKey) :
    (run hashing baseline current assess p).2.store.findings.find? k =
      actAll hashing current k (writesOfRun baseline current assess) (p.store.findings.find? k) := by
  rw [run_store, find?_applyAll]

/-- A write leaves the findings of other scopes alone. -/
lemma act_elsewhere {k : FindingKey} {v : Option PatrolFinding} (h : k.scope ≠ current.scope)
    (hv : ∀ f, v = some f → f.key = k) (w : PatrolWrite) : w.act hashing current k v = v := by
  cases w with
  | upsert candidate state =>
    apply act_other
    intro hk
    exact h (congrArg FindingKey.scope hk)
  | resolve surface =>
    cases v with
    | none => rfl
    | some f =>
      rw [act, Option.map_some, if_neg]
      intro hon
      apply h
      rw [← hv f rfl]
      exact hon.1

end Writes

/-- A run that is asked for. -/
structure PatrolCall where
  baseline : CanonicalSnapshot
  current : CanonicalSnapshot
  assess : Assessment

def PatrolCall.exec (hashing : Hashing) (call : PatrolCall) : Effect Patrol PatrolRunResult :=
  run hashing call.baseline call.current call.assess

/-- The patrol after some runs. -/
def afterRuns (hashing : Hashing) (calls : List PatrolCall) (p : Patrol) : Patrol :=
  calls.foldl (fun p call => (call.exec hashing p).2) p

section Stability

variable {hashing : Hashing} {calls : List PatrolCall} {p : Patrol}

variable (hashing) in
lemma run_id (call : PatrolCall) {k : FindingKey} {f : PatrolFinding}
    (h : p.store.findings.find? k = some f) : ∃ f',
      (call.exec hashing p).2.store.findings.find? k = some f' ∧ f'.findingId = f.findingId := by
  rw [PatrolCall.exec, run_find?, h]
  obtain ⟨f', hf'⟩ := Option.isSome_iff_exists.mp (actAll_isSome hashing call.current k
    (writesOfRun call.baseline call.current call.assess) (v := some f) rfl)
  refine ⟨f', hf', ?_⟩
  have hid := idUnder_actAll hashing call.current k
    (writesOfRun call.baseline call.current call.assess) (some f)
  rw [hf'] at hid
  exact hid

variable (hashing calls) in
lemma afterRuns_id {k : FindingKey} {f : PatrolFinding} (h : p.store.findings.find? k = some f) :
    ∃ f', (afterRuns hashing calls p).store.findings.find? k = some f' ∧
      f'.findingId = f.findingId := by
  induction calls generalizing p f with
  | nil => exact ⟨f, h, rfl⟩
  | cons call calls ih =>
    obtain ⟨g, hg, hid⟩ := run_id hashing call h
    obtain ⟨f', hf', hid'⟩ := ih hg
    exact ⟨f', hf', hid'.trans hid⟩

lemma run_elsewhere (call : PatrolCall) {k : FindingKey} (h : call.current.scope ≠ k.scope) :
    (call.exec hashing p).2.store.findings.find? k = p.store.findings.find? k := by
  rw [PatrolCall.exec, run_find?]
  apply actAll_fixed
  intro w _
  exact act_elsewhere h.symm (p.store.keyed k) w

lemma afterRuns_elsewhere {k : FindingKey} (h : ∀ call ∈ calls, call.current.scope ≠ k.scope) :
    (afterRuns hashing calls p).store.findings.find? k = p.store.findings.find? k := by
  induction calls generalizing p with
  | nil => rfl
  | cons call calls ih =>
    have hlater := fun c hc => h c (List.mem_cons_of_mem call hc)
    exact (ih hlater).trans (run_elsewhere call (h call List.mem_cons_self))

lemma deltasOf_same {baseline current : CanonicalSnapshot}
    (h : sameJson baseline.securityPayload current.securityPayload = true) :
    deltasOf baseline current = [] := by
  have hkeys : ∀ s : CanonicalSnapshot,
      (securitySurfaces.map fun name => (name, s.surface name)).map Prod.fst = securitySurfaces := by
    intro s
    rw [List.map_map]
    exact List.map_id _
  have hsurfaces := Value.values_of_sorted (decide_eq_true_iff.mp h) ((hkeys _).trans (hkeys _).symm)
    (by rw [hkeys]; decide)
  rw [List.map_map, List.map_map, List.map_inj_left] at hsurfaces
  have hnone : (securitySurfaces.flatMap fun name =>
      surfaceDeltas name (baseline.surface name) (current.surface name)) = [] := by
    apply List.flatMap_eq_nil_iff.mpr
    intro name hname
    have hsame : sameJson (baseline.surface name) (current.surface name) = true :=
      decide_eq_true_iff.mpr (hsurfaces name hname)
    simp only [surfaceDeltas, if_pos hsame]
  rw [deltasOf, hnone]
  rfl

lemma run_same (call : PatrolCall)
    (h : sameJson call.baseline.securityPayload call.current.securityPayload = true) :
    (call.exec hashing p).2 = p := by
  rw [PatrolCall.exec, run]
  by_cases hscope : call.baseline.scope = call.current.scope
  · rw [diffSnapshots_eq hscope, deltasOf_same h]
    rfl
  · rw [diffSnapshots_of_ne hscope]
    rfl

/-- Whatever runs came before: a run that is repeated changes nothing, findings keep their ids and stand under
their own keys, those of other scopes stay as they are, and snapshots with the same payload lead to
no assessment and to no write. -/
theorem patrol_stability (hashing : Hashing) (calls : List PatrolCall) (call : PatrolCall) (p : Patrol) :
    let before := afterRuns hashing calls p
    let once := (call.exec hashing before).2
    (call.exec hashing once).2.store = once.store ∧
      (∀ k f, p.store.findings.find? k = some f → ∃ f',
        once.store.findings.find? k = some f' ∧ f'.findingId = f.findingId) ∧
      (∀ k f, once.store.findings.find? k = some f → f.key = k) ∧
      (∀ k, (∀ c ∈ calls, c.current.scope ≠ k.scope) → call.current.scope ≠ k.scope →
        once.store.findings.find? k = p.store.findings.find? k) ∧
      (sameJson call.baseline.securityPayload call.current.securityPayload = true →
        once = before) := by
  intro before once
  refine ⟨?_, ?_, once.store.keyed, ?_, run_same call⟩
  · simp only [once, PatrolCall.exec, run_store]
    exact applyAll_twice before.store
  · intro k f hf
    obtain ⟨g, hg, hid⟩ := afterRuns_id hashing calls hf
    obtain ⟨f', hf', hid'⟩ := run_id hashing call hg
    exact ⟨f', hf', hid'.trans hid⟩
  · intro k hcalls hcall
    exact (run_elsewhere call hcall).trans (afterRuns_elsewhere hcalls)

end Stability

end SecScanMonitor.ContinuousSecurity
