import SecScanMonitor.ContinuousSecurity.Patrol

/-! A patrol run as the list of its writes, each of which acts on the finding under a key by itself. -/

namespace SecScanMonitor.ContinuousSecurity

open Foundations Domain InMemoryFindingStore PatrolEngine

/-- A candidate becomes a finding, or the findings on a surface are resolved. -/
inductive PatrolWrite where
  | upsert (candidate : PatrolCandidate) (state : FindingState)
  | resolve (surface : String)

namespace PatrolWrite

variable (hashing : Hashing) (snapshot : CanonicalSnapshot)

/-- The id of the finding under a key, or the one that it would get. -/
def idUnder (key : FindingKey) : Option PatrolFinding → String
  | none => newId hashing key
  | some f => f.findingId

/-- What a write makes of the finding under a key. -/
def act (key : FindingKey) : PatrolWrite → Option PatrolFinding → Option PatrolFinding
  | .upsert candidate state, v =>
    if key = keyOf snapshot candidate.conditionKey then
      some (findingOf snapshot candidate state (idUnder hashing key v))
    else v
  | .resolve surface, v =>
    v.map fun f => if f.unresolvedOn snapshot.scope surface then f.resolve snapshot else f

/-- The write is of the finding under the key. -/
def writesTo (key : FindingKey) : PatrolWrite → Prop
  | .upsert candidate _ => key = keyOf snapshot candidate.conditionKey
  | .resolve _ => False

def apply (store : InMemoryFindingStore) : PatrolWrite → InMemoryFindingStore
  | .upsert candidate state => (store.upsert hashing snapshot candidate state).2
  | .resolve surface => (store.resolveSurface snapshot surface).2

variable {hashing snapshot} {key : FindingKey} {candidate : PatrolCandidate} {state : FindingState}
  {v : Option PatrolFinding}

lemma act_written (h : writesTo snapshot key (.upsert candidate state)) :
    act hashing snapshot key (.upsert candidate state) v =
      some (findingOf snapshot candidate state (idUnder hashing key v)) := if_pos h

lemma act_other (h : ¬ writesTo snapshot key (.upsert candidate state)) :
    act hashing snapshot key (.upsert candidate state) v = v := if_neg h

end PatrolWrite

open PatrolWrite

section Store

variable {hashing : Hashing} {snapshot : CanonicalSnapshot} {store : InMemoryFindingStore}

lemma find?_resolveEach {found : List PatrolFinding} {h : ∀ f ∈ found, f.scope = snapshot.scope}
    (hnodup : found.Nodup) (hfound : ∀ f ∈ found, store.findings.find? f.key = some f)
    (k : FindingKey) : (resolveEach snapshot found h store).findings.find? k =
      (store.findings.find? k).map fun f => if f ∈ found then f.resolve snapshot else f := by
  induction found generalizing store with
  | nil =>
    rw [resolveEach]
    simp
  | cons f found ih =>
    obtain ⟨hf, hrest⟩ := List.nodup_cons.mp hnodup
    have hresolve := resolve_key (h f List.mem_cons_self)
    have hkey : f.key = keyOf snapshot f.conditionKey := hresolve
    have hstored := hfound f List.mem_cons_self
    -- the findings that are left still stand as they were found
    have hleft : ∀ g ∈ found, (store.write (keyOf snapshot f.conditionKey) (f.resolve snapshot)
        hresolve).findings.find? g.key = some g := by
      intro g hg
      have hg' := hfound g (List.mem_cons_of_mem f hg)
      rw [find?_write, ← hkey]
      by_cases heq : g.key = f.key
      · rw [heq, hstored] at hg'
        obtain rfl := Option.some.inj hg'
        exact absurd hg hf
      · rw [if_neg heq]
        exact hg'
    rw [resolveEach, ih hrest hleft, find?_write, ← hkey]
    by_cases hk : k = f.key
    · subst hk
      have hresolved : f.resolve snapshot ∉ found := by
        intro hmem
        have hstill := hfound _ (List.mem_cons_of_mem f hmem)
        rw [show (f.resolve snapshot).key = f.key from rfl, hstored] at hstill
        rw [← Option.some.inj hstill] at hmem
        exact hf hmem
      rw [if_pos rfl, hstored, Option.map_some, Option.map_some, if_neg hresolved,
        if_pos List.mem_cons_self]
    · rw [if_neg hk]
      apply Option.map_congr
      intro g hg
      have hne : g ≠ f := by
        rintro rfl
        exact hk (store.keyed k g hg).symm
      simp only [List.mem_cons, hne, false_or]

lemma forSurface_nodup (surface : String) : (store.forSurface snapshot.scope surface).Nodup := by
  rw [forSurface, (List.perm_insertionSort _ _).nodup_iff]
  apply List.Nodup.filter
  rw [Dict.values]
  apply List.Nodup.map_on _ store.findings.nodup.of_map
  rintro ⟨k, f⟩ hf ⟨l, g⟩ hg rfl
  rw [← store.keyed k f (Dict.find?_eq_some_iff.mpr hf), ← store.keyed l f (Dict.find?_eq_some_iff.mpr hg)]

/-- A write acts on each finding by itself. -/
lemma find?_apply (w : PatrolWrite) (k : FindingKey) :
    (w.apply hashing snapshot store).findings.find? k =
      w.act hashing snapshot k (store.findings.find? k) := by
  cases w with
  | upsert candidate state =>
    rw [PatrolWrite.apply, InMemoryFindingStore.upsert, act]
    simp only
    rw [find?_write]
    by_cases hk : k = keyOf snapshot candidate.conditionKey
    · subst hk
      rw [if_pos rfl, if_pos rfl, InMemoryFindingStore.get]
      cases store.findings.find? (keyOf snapshot candidate.conditionKey) with
      | none => rfl
      | some f => rfl
    · rw [if_neg hk, if_neg hk]
  | resolve surface =>
    rw [PatrolWrite.apply, resolveSurface, act]
    simp only
    rw [find?_resolveEach (forSurface_nodup surface) (fun f hf => (mem_forSurface.mp hf).1)]
    apply Option.map_congr
    intro f hf
    have hkey := store.keyed k f hf
    simp only [mem_forSurface, hkey, hf, true_and]

lemma resolveEach_keys {found : List PatrolFinding} {h : ∀ f ∈ found, f.scope = snapshot.scope}
    (hfound : ∀ f ∈ found, f.key ∈ store.findings.keys) :
    (resolveEach snapshot found h store).findings.keys = store.findings.keys := by
  induction found generalizing store with
  | nil => rfl
  | cons f found ih =>
    have hresolve := resolve_key (h f List.mem_cons_self)
    have hmem : keyOf snapshot f.conditionKey ∈ store.findings.keys := by
      rw [← hresolve]
      exact hfound f List.mem_cons_self
    have hkeys : (store.write (keyOf snapshot f.conditionKey) (f.resolve snapshot)
        hresolve).findings.keys = store.findings.keys := Dict.keys_put_of_mem hmem _
    rw [resolveEach, ih, hkeys]
    intro g hg
    rw [hkeys]
    exact hfound g (List.mem_cons_of_mem f hg)

/-- A write to what is there keeps the keys and their order. -/
lemma keys_apply {w : PatrolWrite} (hw : ∀ candidate state, w = .upsert candidate state →
      keyOf snapshot candidate.conditionKey ∈ store.findings.keys) :
    (w.apply hashing snapshot store).findings.keys = store.findings.keys := by
  cases w with
  | upsert candidate state => exact Dict.keys_put_of_mem (hw candidate state rfl) _
  | resolve surface =>
    apply resolveEach_keys
    intro f hf
    exact Dict.mem_keys.mpr ⟨f, (mem_forSurface.mp hf).1⟩

end Store

section Fold

variable (hashing : Hashing) (snapshot : CanonicalSnapshot)

/-- What a list of writes makes of the finding under a key. -/
def actAll (key : FindingKey) (ws : List PatrolWrite) (v : Option PatrolFinding) :
    Option PatrolFinding :=
  ws.foldl (fun v w => w.act hashing snapshot key v) v

def applyAll (ws : List PatrolWrite) (store : InMemoryFindingStore) : InMemoryFindingStore :=
  ws.foldl (fun store w => w.apply hashing snapshot store) store

variable {hashing snapshot} {key : FindingKey} {ws : List PatrolWrite}

lemma find?_applyAll (store : InMemoryFindingStore) :
    (applyAll hashing snapshot ws store).findings.find? key =
      actAll hashing snapshot key ws (store.findings.find? key) := by
  induction ws generalizing store with
  | nil => rfl
  | cons w ws ih =>
    rw [applyAll, List.foldl_cons, ← applyAll, ih, find?_apply]
    rfl

/-- What every write keeps holds after all of them. -/
lemma actAll_invariant {P : Option PatrolFinding → Prop} {v : Option PatrolFinding}
    (hstep : ∀ w ∈ ws, ∀ u, P u → P (w.act hashing snapshot key u)) (h : P v) :
    P (actAll hashing snapshot key ws v) := by
  induction ws generalizing v with
  | nil => exact h
  | cons w ws ih =>
    exact ih (fun w' hw' => hstep w' (List.mem_cons_of_mem w hw')) (hstep w List.mem_cons_self v h)

/-- What one write brings about and every write keeps, where an invariant holds, holds after all. -/
lemma actAll_established {P Q : Option PatrolFinding → Prop} {v : Option PatrolFinding}
    {w : PatrolWrite} (hw : w ∈ ws) (hQ : ∀ w ∈ ws, ∀ u, Q u → Q (w.act hashing snapshot key u))
    (hP : ∀ w ∈ ws, ∀ u, Q u → P u → P (w.act hashing snapshot key u))
    (hbring : ∀ u, Q u → P (w.act hashing snapshot key u)) (h : Q v) :
    P (actAll hashing snapshot key ws v) := by
  induction ws generalizing v with
  | nil => cases hw
  | cons w' ws ih =>
    have hQ' := fun x hx => hQ x (List.mem_cons_of_mem w' hx)
    have hP' := fun x hx => hP x (List.mem_cons_of_mem w' hx)
    have hnext := hQ w' List.mem_cons_self v h
    rcases List.mem_cons.mp hw with rfl | hw
    · refine (actAll_invariant (P := fun u => Q u ∧ P u) ?_ ⟨hnext, hbring v h⟩).2
      intro x hx u hu
      exact ⟨hQ' x hx u hu.1, hP' x hx u hu.1 hu.2⟩
    · exact ih hw hQ' hP' hnext

/-- The finding stands under its own key. -/
def KeyedUnder (key : FindingKey) (v : Option PatrolFinding) : Prop := ∀ f, v = some f → f.key = key

lemma act_keyed {w : PatrolWrite} {v : Option PatrolFinding} (h : KeyedUnder key v) :
    KeyedUnder key (w.act hashing snapshot key v) := by
  intro f hf
  cases w with
  | upsert candidate state =>
    by_cases hw : writesTo snapshot key (.upsert candidate state)
    · rw [act_written hw] at hf
      obtain rfl := Option.some.inj hf
      exact hw.symm
    · rw [act_other hw] at hf
      exact h f hf
  | resolve surface =>
    rw [act, Option.map_eq_some_iff] at hf
    obtain ⟨g, hg, rfl⟩ := hf
    rw [← h g hg]
    split
    · rfl
    · rfl

/-- A finding keeps its id. -/
lemma idUnder_act (w : PatrolWrite) (v : Option PatrolFinding) :
    idUnder hashing key (w.act hashing snapshot key v) = idUnder hashing key v := by
  cases w with
  | upsert candidate state =>
    rw [act]
    split
    · rfl
    · rfl
  | resolve surface =>
    cases v with
    | none => rfl
    | some f =>
      simp only [act, Option.map_some]
      split
      · rfl
      · rfl

variable (hashing snapshot key ws) in
lemma idUnder_actAll (v : Option PatrolFinding) :
    idUnder hashing key (actAll hashing snapshot key ws v) = idUnder hashing key v := by
  induction ws generalizing v with
  | nil => rfl
  | cons w ws ih =>
    rw [actAll, List.foldl_cons, ← actAll, ih, idUnder_act]

lemma act_isSome {w : PatrolWrite} {v : Option PatrolFinding} (h : v.isSome) :
    (w.act hashing snapshot key v).isSome := by
  cases w with
  | upsert candidate state =>
    rw [act]
    split
    · rfl
    · exact h
  | resolve surface => rw [act, Option.isSome_map, h]

variable (hashing snapshot key ws) in
lemma actAll_isSome {v : Option PatrolFinding} (h : v.isSome) :
    (actAll hashing snapshot key ws v).isSome := by
  induction ws generalizing v with
  | nil => exact h
  | cons w ws ih => exact ih (act_isSome h)

/-- A finding that is written depends on what was there by its id only. -/
lemma actAll_written {v v' : Option PatrolFinding} (hid : idUnder hashing key v = idUnder hashing key v')
    (h : ∃ w ∈ ws, writesTo snapshot key w) :
    actAll hashing snapshot key ws v = actAll hashing snapshot key ws v' := by
  induction ws generalizing v v' with
  | nil =>
    obtain ⟨w, hw, -⟩ := h
    cases hw
  | cons w ws ih =>
    rw [actAll, actAll, List.foldl_cons, List.foldl_cons, ← actAll, ← actAll]
    by_cases hw : writesTo snapshot key w
    · cases w with
      | upsert candidate state =>
        rw [act_written hw, act_written hw, hid]
      | resolve surface => cases hw
    · apply ih
      · rw [idUnder_act, idUnder_act, hid]
      · obtain ⟨w', hmem, hw'⟩ := h
        rcases List.mem_cons.mp hmem with rfl | hmem
        · exact absurd hw' hw
        · exact ⟨w', hmem, hw'⟩

lemma actAll_fixed {v : Option PatrolFinding} (h : ∀ w ∈ ws, w.act hashing snapshot key v = v) :
    actAll hashing snapshot key ws v = v := by
  induction ws with
  | nil => rfl
  | cons w ws ih =>
    rw [actAll, List.foldl_cons, ← actAll, h w List.mem_cons_self]
    exact ih fun w' hw' => h w' (List.mem_cons_of_mem w hw')

/-- What a write leaves alone, no resolution makes it change. -/
lemma act_fixed_kept {w w' : PatrolWrite} {v : Option PatrolFinding} (hw : ¬ writesTo snapshot key w)
    (hw' : ¬ writesTo snapshot key w') (h : w.act hashing snapshot key v = v) :
    w.act hashing snapshot key (w'.act hashing snapshot key v) = w'.act hashing snapshot key v := by
  cases w with
  | upsert candidate state => exact act_other hw
  | resolve surface =>
    cases w' with
    | upsert candidate state => rw [act_other hw', h]
    | resolve surface' =>
      cases v with
      | none => rfl
      | some f =>
        simp only [act, Option.map_some, Option.some.injEq] at h ⊢
        by_cases hon : f.unresolvedOn snapshot.scope surface'
        · rw [if_pos hon]
          exact if_neg fun hagain => hagain.2.2 rfl
        · rw [if_neg hon, h]

lemma act_twice {w : PatrolWrite} (hw : ¬ writesTo snapshot key w) (v : Option PatrolFinding) :
    w.act hashing snapshot key (w.act hashing snapshot key v) = w.act hashing snapshot key v := by
  cases w with
  | upsert candidate state =>
    rw [act_other hw, act_other hw]
  | resolve surface =>
    cases v with
    | none => rfl
    | some f =>
      simp only [act, Option.map_some, Option.some.injEq]
      by_cases hon : f.unresolvedOn snapshot.scope surface
      · rw [if_pos hon]
        exact if_neg fun hagain => hagain.2.2 rfl
      · rw [if_neg hon, if_neg hon]

/-- Resolutions are done when they have been done once. -/
lemma actAll_resolved {v : Option PatrolFinding} (hnone : ∀ w ∈ ws, ¬ writesTo snapshot key w) :
    ∀ w ∈ ws, w.act hashing snapshot key (actAll hashing snapshot key ws v) =
      actAll hashing snapshot key ws v := by
  have hkept : ∀ (us : List PatrolWrite) (w : PatrolWrite) (u : Option PatrolFinding),
      (∀ w' ∈ us, ¬ writesTo snapshot key w') → ¬ writesTo snapshot key w →
      w.act hashing snapshot key u = u → w.act hashing snapshot key
        (actAll hashing snapshot key us u) = actAll hashing snapshot key us u := by
    intro us
    induction us with
    | nil =>
      intro w u _ _ h
      exact h
    | cons w' us ih =>
      intro w u hus hw h
      exact ih w _ (fun x hx => hus x (List.mem_cons_of_mem w' hx)) hw
        (act_fixed_kept hw (hus w' List.mem_cons_self) h)
  induction ws generalizing v with
  | nil =>
    intro w hw
    cases hw
  | cons w ws ih =>
    have hw := hnone w List.mem_cons_self
    have hrest := fun w' hw' => hnone w' (List.mem_cons_of_mem w hw')
    intro w' hw'
    rcases List.mem_cons.mp hw' with rfl | hw'
    · exact hkept ws w' _ hrest hw (act_twice hw v)
    · exact ih hrest w' hw'

lemma actAll_twice (v : Option PatrolFinding) :
    actAll hashing snapshot key ws (actAll hashing snapshot key ws v) =
      actAll hashing snapshot key ws v := by
  by_cases h : ∃ w ∈ ws, writesTo snapshot key w
  · exact actAll_written (idUnder_actAll hashing snapshot key ws v) h
  · push Not at h
    exact actAll_fixed (actAll_resolved h)

lemma applyAll_keys {store : InMemoryFindingStore} (h : ∀ w ∈ ws, ∀ candidate state,
      w = .upsert candidate state → keyOf snapshot candidate.conditionKey ∈ store.findings.keys) :
    (applyAll hashing snapshot ws store).findings.keys = store.findings.keys := by
  induction ws generalizing store with
  | nil => rfl
  | cons w ws ih =>
    have hkeys : (w.apply hashing snapshot store).findings.keys = store.findings.keys :=
      keys_apply (h w List.mem_cons_self)
    rw [applyAll, List.foldl_cons, ← applyAll, ih, hkeys]
    intro w' hw' candidate state hup
    rw [hkeys]
    exact h w' (List.mem_cons_of_mem w hw') candidate state hup

lemma actAll_written_isSome {v : Option PatrolFinding} (h : ∃ w ∈ ws, writesTo snapshot key w) :
    (actAll hashing snapshot key ws v).isSome := by
  induction ws generalizing v with
  | nil =>
    obtain ⟨w, hw, -⟩ := h
    cases hw
  | cons w ws ih =>
    rw [actAll, List.foldl_cons, ← actAll]
    obtain ⟨w', hmem, hw'⟩ := h
    rcases List.mem_cons.mp hmem with rfl | hmem
    · cases w' with
      | upsert candidate state =>
        apply actAll_isSome
        rw [act_written hw']
        rfl
      | resolve surface => cases hw'
    · exact ih ⟨w', hmem, hw'⟩

/-- The same writes again change nothing. -/
lemma applyAll_twice (store : InMemoryFindingStore) :
    applyAll hashing snapshot ws (applyAll hashing snapshot ws store) =
      applyAll hashing snapshot ws store := by
  apply InMemoryFindingStore.ext
  apply Dict.eq_of_keys
  · apply applyAll_keys
    rintro w hw candidate state rfl
    rw [Dict.mem_keys, find?_applyAll]
    exact Option.isSome_iff_exists.mp (actAll_written_isSome ⟨_, hw, rfl⟩)
  · intro k
    rw [find?_applyAll, find?_applyAll, actAll_twice]

end Fold

end SecScanMonitor.ContinuousSecurity
