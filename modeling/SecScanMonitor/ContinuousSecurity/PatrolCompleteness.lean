import SecScanMonitor.ContinuousSecurity.PatrolRuns
import SecScanMonitor.Foundations.Cuts

/-! What a patrol run leaves unresolved on the surfaces that changed. -/

namespace SecScanMonitor.ContinuousSecurity

open Foundations Domain InMemoryFindingStore PatrolEngine PatrolWrite

section Surfaces

variable {previous current : CanonicalSnapshot} {d e : SnapshotDelta}

lemma securitySurfaces_plain {name : String} (h : name ∈ securitySurfaces) : ':' ∉ name.toList := by
  revert name
  decide

lemma keyDelta_eq_some {surface key : String} {before after : List (String × Value)}
    (h : keyDelta surface before after key = some d) : d.surface = surface ∧ d.key = key := by
  rw [keyDelta] at h
  split at h
  · cases h
  · obtain rfl := Option.some.inj h
    exact ⟨rfl, rfl⟩

lemma surfaceDeltas_cases (surface : String) (before after : Value) :
    surfaceDeltas surface before after = [] ∨
      (∃ bs as, surfaceDeltas surface before after =
        (deltaKeys bs as).filterMap (keyDelta surface bs as)) ∨
      surfaceDeltas surface before after = [⟨surface, "$", .changed, before, after⟩] := by
  unfold surfaceDeltas
  split
  · exact Or.inl rfl
  · split
    · exact Or.inr (Or.inl ⟨_, _, rfl⟩)
    · exact Or.inr (Or.inr rfl)

lemma surfaceDeltas_surface {surface : String} {before after : Value}
    (h : d ∈ surfaceDeltas surface before after) : d.surface = surface := by
  rcases surfaceDeltas_cases surface before after with hnil | ⟨bs, as, hkeys⟩ | hone
  · rw [hnil] at h
    cases h
  · rw [hkeys] at h
    obtain ⟨key, -, hkey⟩ := List.mem_filterMap.mp h
    exact (keyDelta_eq_some hkey).1
  · rw [hone] at h
    obtain rfl := List.mem_singleton.mp h
    rfl

lemma surfaceDeltas_key {surface : String} {before after : Value}
    (hd : d ∈ surfaceDeltas surface before after) (he : e ∈ surfaceDeltas surface before after)
    (h : d.key = e.key) : d = e := by
  rcases surfaceDeltas_cases surface before after with hnil | ⟨bs, as, hkeys⟩ | hone
  · rw [hnil] at hd
    cases hd
  · rw [hkeys] at hd he
    obtain ⟨key, -, hkey⟩ := List.mem_filterMap.mp hd
    obtain ⟨key', -, hkey'⟩ := List.mem_filterMap.mp he
    have heq : key = key' := by
      rw [← (keyDelta_eq_some hkey).2, ← (keyDelta_eq_some hkey').2, h]
    rw [heq, hkey'] at hkey
    exact (Option.some.inj hkey).symm
  · rw [hone] at hd he
    rw [List.mem_singleton.mp hd, List.mem_singleton.mp he]

lemma mem_deltasOf : d ∈ deltasOf previous current ↔ ∃ name ∈ securitySurfaces,
    d ∈ surfaceDeltas name (previous.surface name) (current.surface name) := by
  rw [deltasOf, List.mem_insertionSort, List.mem_flatMap]

/-- Each delta has a surface of its own. -/
lemma affectedSurface_inj (hd : d ∈ deltasOf previous current) (he : e ∈ deltasOf previous current)
    (h : d.affectedSurface = e.affectedSurface) : d = e := by
  obtain ⟨name, hname, hd⟩ := mem_deltasOf.mp hd
  obtain ⟨name', hname', he⟩ := mem_deltasOf.mp he
  have hsurface := surfaceDeltas_surface hd
  have hsurface' := surfaceDeltas_surface he
  have htext : d.surface.toList ++ ':' :: d.key.toList = e.surface.toList ++ ':' :: e.key.toList := by
    have hlist := congrArg String.toList h
    simpa [SnapshotDelta.affectedSurface] using hlist
  obtain ⟨hs, hk⟩ := first_cut (hsurface ▸ securitySurfaces_plain hname)
    (hsurface' ▸ securitySurfaces_plain hname') htext
  have hnames : name = name' := by
    rw [← hsurface, ← hsurface']
    exact String.toList_inj.mp hs
  subst hnames
  exact surfaceDeltas_key hd he (String.toList_inj.mp hk)

end Surfaces

/-- An assessment that answers. -/
def answering (answer : SnapshotDelta → List PatrolCandidate) : Assessment := fun d => .ok (answer d)

section Writes

variable {answer : SnapshotDelta → List PatrolCandidate} {deltas : List SnapshotDelta}

lemma mem_writesFor {w : PatrolWrite} : w ∈ writesFor (answering answer) deltas ↔
    ∃ d ∈ deltas, ∃ ws, writesAt (answering answer) d = .ok ws ∧ w ∈ ws := by
  induction deltas with
  | nil => simp [writesFor]
  | cons d deltas ih =>
    have hok : ∃ ws, writesAt (answering answer) d = .ok ws := by
      rw [writesAt, answering]
      cases d.state with
      | new => exact ⟨_, rfl⟩
      | changed => exact ⟨_, rfl⟩
      | resolved => exact ⟨_, rfl⟩
      | unchanged => exact ⟨_, rfl⟩
      | unknown => exact ⟨_, rfl⟩
    obtain ⟨ws, hws⟩ := hok
    rw [writesFor, hws]
    simp only [List.mem_append, ih, List.mem_cons]
    constructor
    · rintro (hw | ⟨d', hd', hrest⟩)
      · exact ⟨d, Or.inl rfl, ws, hws, hw⟩
      · exact ⟨d', Or.inr hd', hrest⟩
    · rintro ⟨d', rfl | hd', ws', hws', hw⟩
      · rw [hws] at hws'
        obtain rfl := Except.ok.inj hws'
        exact Or.inl hw
      · exact Or.inr ⟨d', hd', ws', hws', hw⟩

lemma mem_writesOf_upsert {d : SnapshotDelta} {candidates : List PatrolCandidate}
    {candidate : PatrolCandidate} {state : FindingState} :
    PatrolWrite.upsert candidate state ∈ writesOf d candidates ↔
      candidate ∈ candidates ∧ candidate.adjudicated = true ∧ state = stateOf d := by
  rw [writesOf, List.mem_append, List.mem_map]
  constructor
  · rintro (⟨c, hc, heq⟩ | h)
    · obtain ⟨rfl, rfl⟩ := PatrolWrite.upsert.inj heq
      obtain ⟨hmem, hadj⟩ := List.mem_filter.mp hc
      exact ⟨(List.mem_insertionSort _).mp hmem, hadj, rfl⟩
    · split at h
      · cases List.mem_singleton.mp h
      · cases h
  · rintro ⟨hmem, hadj, rfl⟩
    exact Or.inl ⟨candidate, List.mem_filter.mpr ⟨(List.mem_insertionSort _).mpr hmem, hadj⟩, rfl⟩

lemma mem_writesOf_resolve {d : SnapshotDelta} {candidates : List PatrolCandidate} {surface : String} :
    PatrolWrite.resolve surface ∈ writesOf d candidates ↔
      surface = d.affectedSurface ∧ d.state = .changed ∧ candidates = [] := by
  rw [writesOf, List.mem_append, List.mem_map]
  constructor
  · rintro (⟨c, hc, heq⟩ | h)
    · cases heq
    · split at h
      · rename_i hsafe
        exact ⟨PatrolWrite.resolve.inj (List.mem_singleton.mp h), hsafe⟩
      · cases h
  · rintro ⟨rfl, hsafe⟩
    rw [if_pos hsafe]
    exact Or.inr (List.mem_singleton.mpr rfl)

/-- The findings that are written are the adjudicated candidates of what is new or changed. -/
lemma upsert_mem {candidate : PatrolCandidate} {state : FindingState} :
    PatrolWrite.upsert candidate state ∈ writesFor (answering answer) deltas ↔
      ∃ d ∈ deltas, (d.state = .new ∨ d.state = .changed) ∧ candidate ∈ answer d ∧
        candidate.adjudicated = true ∧ state = stateOf d := by
  rw [mem_writesFor]
  constructor
  · rintro ⟨d, hd, ws, hws, hw⟩
    rw [writesAt] at hws
    cases hstate : d.state with
    | new =>
      rw [hstate] at hws
      obtain rfl := Except.ok.inj hws
      exact ⟨d, hd, Or.inl hstate, mem_writesOf_upsert.mp hw⟩
    | changed =>
      rw [hstate] at hws
      obtain rfl := Except.ok.inj hws
      exact ⟨d, hd, Or.inr hstate, mem_writesOf_upsert.mp hw⟩
    | resolved =>
      rw [hstate] at hws
      obtain rfl := Except.ok.inj hws
      cases List.mem_singleton.mp hw
    | unchanged =>
      rw [hstate] at hws
      obtain rfl := Except.ok.inj hws
      cases hw
    | unknown =>
      rw [hstate] at hws
      obtain rfl := Except.ok.inj hws
      cases hw
  · rintro ⟨d, hd, hstate, hcandidate⟩
    refine ⟨d, hd, writesOf d (answer d), ?_, mem_writesOf_upsert.mpr hcandidate⟩
    rw [writesAt]
    rcases hstate with hstate | hstate
    · rw [hstate]
      rfl
    · rw [hstate]
      rfl

/-- The surfaces that are resolved are those that are gone and those that changed to nothing. -/
lemma resolve_mem {surface : String} :
    PatrolWrite.resolve surface ∈ writesFor (answering answer) deltas ↔
      ∃ d ∈ deltas, surface = d.affectedSurface ∧
        (d.state = .resolved ∨ d.state = .changed ∧ answer d = []) := by
  rw [mem_writesFor]
  constructor
  · rintro ⟨d, hd, ws, hws, hw⟩
    rw [writesAt] at hws
    cases hstate : d.state with
    | resolved =>
      rw [hstate] at hws
      obtain rfl := Except.ok.inj hws
      exact ⟨d, hd, PatrolWrite.resolve.inj (List.mem_singleton.mp hw), Or.inl hstate⟩
    | new =>
      rw [hstate] at hws
      obtain rfl := Except.ok.inj hws
      obtain ⟨-, hchanged, -⟩ := mem_writesOf_resolve.mp hw
      rw [hstate] at hchanged
      cases hchanged
    | changed =>
      rw [hstate] at hws
      obtain rfl := Except.ok.inj hws
      obtain ⟨rfl, hsafe⟩ := mem_writesOf_resolve.mp hw
      exact ⟨d, hd, rfl, Or.inr hsafe⟩
    | unchanged =>
      rw [hstate] at hws
      obtain rfl := Except.ok.inj hws
      cases hw
    | unknown =>
      rw [hstate] at hws
      obtain rfl := Except.ok.inj hws
      cases hw
  · rintro ⟨d, hd, rfl, hstate | ⟨hstate, hnil⟩⟩
    · refine ⟨d, hd, [.resolve d.affectedSurface], ?_, List.mem_singleton.mpr rfl⟩
      rw [writesAt, hstate]
    · refine ⟨d, hd, writesOf d (answer d), ?_, mem_writesOf_resolve.mpr ⟨rfl, hstate, hnil⟩⟩
      rw [writesAt, hstate]
      rfl

end Writes

section Fold

variable {hashing : Hashing} {snapshot : CanonicalSnapshot} {ws : List PatrolWrite} {k : FindingKey}
  {v : Option PatrolFinding} {f : PatrolFinding} {surface : String}

/-- Where a surface is resolved and nothing is written to it, nothing on it is left unresolved. -/
lemma actAll_resolved_on (hscope : k.scope = snapshot.scope) (hkeyed : KeyedUnder k v)
    (hresolve : .resolve surface ∈ ws)
    (hnone : ∀ candidate state, .upsert candidate state ∈ ws → candidate.affectedSurface ≠ surface)
    (h : actAll hashing snapshot k ws v = some f) (hon : f.affectedSurface = surface) :
    f.state = .resolved := by
  revert f
  apply actAll_established hresolve (Q := KeyedUnder k)
    (P := fun u => ∀ {f}, u = some f → f.affectedSurface = surface → f.state = .resolved)
  · intro w _ u hu
    exact act_keyed hu
  · intro w hw u _ hu f hf hsurface
    cases w with
    | upsert candidate state =>
      by_cases hk : writesTo snapshot k (.upsert candidate state)
      · rw [act_written hk] at hf
        obtain rfl := Option.some.inj hf
        exact absurd hsurface (hnone candidate state hw)
      · rw [act_other hk] at hf
        exact hu hf hsurface
    | resolve surface' =>
      rw [act, Option.map_eq_some_iff] at hf
      obtain ⟨g, hg, rfl⟩ := hf
      by_cases hon : g.unresolvedOn snapshot.scope surface'
      · rw [if_pos hon]
        rfl
      · rw [if_neg hon] at hsurface ⊢
        exact hu hg hsurface
  · intro u hu f hf hsurface
    rw [act, Option.map_eq_some_iff] at hf
    obtain ⟨g, hg, rfl⟩ := hf
    by_cases hon : g.unresolvedOn snapshot.scope surface
    · rw [if_pos hon]
      rfl
    · rw [if_neg hon] at hsurface ⊢
      have hgscope : g.scope = snapshot.scope := by
        rw [← hscope, ← hu g hg]
        rfl
      by_contra hstate
      exact hon ⟨hgscope, hsurface, hstate⟩
  · exact hkeyed

/-- What is written stays unresolved, if no surface that is written to is resolved. -/
lemma actAll_unresolved {candidate : PatrolCandidate} {state : FindingState}
    (hup : .upsert candidate state ∈ ws) (hk : k = keyOf snapshot candidate.conditionKey)
    (hstates : ∀ c s, .upsert c s ∈ ws → s ≠ .resolved)
    (hapart : ∀ c s, .upsert c s ∈ ws → .resolve c.affectedSurface ∉ ws) :
    ∃ f, actAll hashing snapshot k ws v = some f ∧ f.state ≠ .resolved := by
  have h : ∃ f, actAll hashing snapshot k ws v = some f ∧ f.state ≠ .resolved ∧
      ∃ c s, .upsert c s ∈ ws ∧ f.affectedSurface = c.affectedSurface := by
    apply actAll_established hup (Q := fun _ => True)
      (P := fun u => ∃ f, u = some f ∧ f.state ≠ .resolved ∧
        ∃ c s, .upsert c s ∈ ws ∧ f.affectedSurface = c.affectedSurface)
    · intro _ _ _ _
      trivial
    · rintro w hw u - ⟨f, rfl, hstate, c, s, hc, hsurface⟩
      cases w with
      | upsert c' s' =>
        by_cases hk' : writesTo snapshot k (.upsert c' s')
        · rw [act_written hk']
          exact ⟨_, rfl, hstates c' s' hw, c', s', hw, rfl⟩
        · rw [act_other hk']
          exact ⟨f, rfl, hstate, c, s, hc, hsurface⟩
      | resolve surface' =>
        refine ⟨f, ?_, hstate, c, s, hc, hsurface⟩
        rw [act, Option.map_some, if_neg]
        intro hon
        apply hapart c s hc
        rw [← hsurface, hon.2.1]
        exact hw
    · intro u _
      rw [act_written hk]
      exact ⟨_, rfl, hstates candidate state hup, candidate, state, hup, rfl⟩
    · trivial
  obtain ⟨f, hf, hstate, -⟩ := h
  exact ⟨f, hf, hstate⟩

variable (hashing v) in
/-- A finding that is written stands on the surface of a candidate that it was written for. -/
lemma actAll_surface (h : ∃ w ∈ ws, writesTo snapshot k w) : ∃ f c s,
    actAll hashing snapshot k ws v = some f ∧ .upsert c s ∈ ws ∧
      k = keyOf snapshot c.conditionKey ∧ f.affectedSurface = c.affectedSurface := by
  obtain ⟨w, hw, hwrites⟩ := h
  apply actAll_established hw (Q := fun _ => True)
    (P := fun u => ∃ f c s, u = some f ∧ .upsert c s ∈ ws ∧
      k = keyOf snapshot c.conditionKey ∧ f.affectedSurface = c.affectedSurface)
  · intro _ _ _ _
    trivial
  · rintro w' hw' u - ⟨f, c, s, rfl, hc, hkc, hsurface⟩
    cases w' with
    | upsert c' s' =>
      by_cases hk' : writesTo snapshot k (.upsert c' s')
      · rw [act_written hk']
        exact ⟨_, c', s', rfl, hw', hk', rfl⟩
      · rw [act_other hk']
        exact ⟨f, c, s, rfl, hc, hkc, hsurface⟩
    | resolve surface' =>
      rw [act, Option.map_some]
      refine ⟨_, c, s, rfl, hc, hkc, ?_⟩
      split
      · exact hsurface
      · exact hsurface
  · intro u _
    cases w with
    | upsert c s =>
      rw [act_written hwrites]
      exact ⟨_, c, s, rfl, hw, hwrites, rfl⟩
    | resolve surface => cases hwrites
  · trivial

/-- What is not written and on no surface that is resolved stays as it is. -/
lemma actAll_untouched (hnone : ∀ w ∈ ws, ¬ writesTo snapshot k w)
    (hsurface : .resolve f.affectedSurface ∉ ws) :
    actAll hashing snapshot k ws (some f) = some f := by
  apply actAll_fixed
  intro w hw
  cases w with
  | upsert c s => exact act_other (hnone _ hw)
  | resolve surface =>
    rw [act, Option.map_some, if_neg]
    rintro ⟨-, hon, -⟩
    rw [hon] at hsurface
    exact hsurface hw

/-- What is not written stays on its surface. -/
lemma actAll_stays (hnone : ∀ w ∈ ws, ¬ writesTo snapshot k w)
    (h : actAll hashing snapshot k ws v = some f) :
    ∃ g, v = some g ∧ g.affectedSurface = f.affectedSurface ∧ g.conditionKey = f.conditionKey ∧
      g.scope = f.scope ∧ (f.state ≠ .resolved → g.state ≠ .resolved) := by
  revert h f
  apply actAll_invariant
    (P := fun u => ∀ {f}, u = some f → ∃ g, v = some g ∧ g.affectedSurface = f.affectedSurface ∧
      g.conditionKey = f.conditionKey ∧ g.scope = f.scope ∧
        (f.state ≠ .resolved → g.state ≠ .resolved))
  · intro w hw u hu f hf
    cases w with
    | upsert c s =>
      rw [act_other (hnone _ hw)] at hf
      exact hu hf
    | resolve surface =>
      rw [act, Option.map_eq_some_iff] at hf
      obtain ⟨f', hf', rfl⟩ := hf
      obtain ⟨g, hg, hsurface, hcondition, hscope, hstate⟩ := hu hf'
      refine ⟨g, hg, ?_⟩
      by_cases hon : f'.unresolvedOn snapshot.scope surface
      · rw [if_pos hon]
        exact ⟨hsurface, hcondition, hscope, fun hopen => absurd rfl hopen⟩
      · rw [if_neg hon]
        exact ⟨hsurface, hcondition, hscope, hstate⟩
  · intro f hf
    exact ⟨f, hf, rfl, rfl, rfl, id⟩

end Fold

/-- The candidates of an assessment name the surface that they were assessed for. -/
def NamesSurface (answer : SnapshotDelta → List PatrolCandidate) : Prop :=
  ∀ d, ∀ c ∈ answer d, c.affectedSurface = d.affectedSurface

/-- The finding under a key is unresolved and of the scope of a snapshot, on the surface of a delta. -/
structure OpenOn (current : CanonicalSnapshot) (d : SnapshotDelta) (store : InMemoryFindingStore)
    (f : PatrolFinding) : Prop where
  stored : ∃ k, store.findings.find? k = some f
  scope : f.scope = current.scope
  surface : f.affectedSurface = d.affectedSurface
  unresolved : f.state ≠ .resolved

/-- Every adjudicated candidate has its finding, and nothing is unresolved on a surface that is gone or,
without a candidate for its condition, on one that changed. -/
structure PatrolComplete (baseline current : CanonicalSnapshot)
    (answer : SnapshotDelta → List PatrolCandidate) (store : InMemoryFindingStore) : Prop where
  adjudicated : ∀ d ∈ deltasOf baseline current, d.state = .new ∨ d.state = .changed →
    ∀ c ∈ answer d, c.adjudicated = true → ∃ f,
      store.findings.find? (keyOf current c.conditionKey) = some f ∧ f.state ≠ .resolved
  gone : ∀ d ∈ deltasOf baseline current, d.state = .resolved → ∀ f, ¬ OpenOn current d store f
  changed : ∀ d ∈ deltasOf baseline current, d.state = .changed → ∀ f, OpenOn current d store f →
    ∃ c ∈ answer d, c.conditionKey = f.conditionKey

/-- On a surface that changed and for which there are candidates at all, every unresolved finding has a
candidate, or is adjudicated elsewhere. -/
def Reconfirmed (baseline current : CanonicalSnapshot) (answer : SnapshotDelta → List PatrolCandidate)
    (store : InMemoryFindingStore) : Prop :=
  ∀ d ∈ deltasOf baseline current, d.state = .changed → answer d ≠ [] →
    ∀ f, OpenOn current d store f → (∃ c ∈ answer d, c.conditionKey = f.conditionKey) ∨
      ∃ d' ∈ deltasOf baseline current, (d'.state = .new ∨ d'.state = .changed) ∧
        ∃ c ∈ answer d', c.adjudicated = true ∧ c.conditionKey = f.conditionKey

section Completeness

variable {hashing : Hashing} {baseline current : CanonicalSnapshot}
  {answer : SnapshotDelta → List PatrolCandidate} {p : Patrol}

lemma OpenOn.found {d : SnapshotDelta} {store : InMemoryFindingStore} {f : PatrolFinding}
    (h : OpenOn current d store f) :
    store.findings.find? (keyOf current f.conditionKey) = some f := by
  obtain ⟨k, hk⟩ := h.stored
  have hkey : k = keyOf current f.conditionKey := by
    rw [← store.keyed k f hk, PatrolFinding.key, h.scope]
    rfl
  rw [← hkey]
  exact hk

lemma resolve_apart (hnames : NamesSurface answer) {c : PatrolCandidate} {s : FindingState}
    (h : .upsert c s ∈ writesFor (answering answer) (deltasOf baseline current)) :
    .resolve c.affectedSurface ∉ writesFor (answering answer) (deltasOf baseline current) := by
  intro hresolve
  obtain ⟨d, hd, hstate, hc, -, -⟩ := upsert_mem.mp h
  obtain ⟨d', hd', hsurface, hgone⟩ := resolve_mem.mp hresolve
  rw [hnames d c hc] at hsurface
  obtain rfl := affectedSurface_inj hd hd' hsurface
  rcases hgone with hgone | ⟨-, hnil⟩
  · rcases hstate with hstate | hstate
    · rw [hgone] at hstate
      cases hstate
    · rw [hgone] at hstate
      cases hstate
  · rw [hnil] at hc
    cases hc

lemma stateOf_unresolved (d : SnapshotDelta) : stateOf d ≠ .resolved := by
  rw [stateOf]
  split
  · nofun
  · nofun

/-- Nothing is unresolved on a surface that is resolved. -/
lemma closed_after (hnames : NamesSurface answer) {d : SnapshotDelta}
    (hd : d ∈ deltasOf baseline current)
    (hgone : d.state = .resolved ∨ d.state = .changed ∧ answer d = []) (f : PatrolFinding) :
    ¬ OpenOn current d (applyAll hashing current
      (writesFor (answering answer) (deltasOf baseline current)) p.store) f := by
  intro h
  have hresolve := resolve_mem.mpr ⟨d, hd, rfl, hgone⟩
  have hfound := h.found
  rw [find?_applyAll] at hfound
  refine h.unresolved (actAll_resolved_on rfl (p.store.keyed _) hresolve ?_ hfound h.surface)
  intro c s hup hsurface
  exact resolve_apart hnames hup (hsurface ▸ hresolve)

lemma kept_open {d : SnapshotDelta} (hd : d ∈ deltasOf baseline current) (hchanged : d.state = .changed)
    (hsome : answer d ≠ []) {f : PatrolFinding} (h : OpenOn current d p.store f)
    (hnone : ∀ d' ∈ deltasOf baseline current, d'.state = .new ∨ d'.state = .changed →
      ∀ c ∈ answer d', c.adjudicated = true → c.conditionKey ≠ f.conditionKey) :
    OpenOn current d (applyAll hashing current
      (writesFor (answering answer) (deltasOf baseline current)) p.store) f := by
  refine ⟨⟨keyOf current f.conditionKey, ?_⟩, h.scope, h.surface, h.unresolved⟩
  rw [find?_applyAll, h.found]
  apply actAll_untouched
  · intro w hw hwrites
    cases w with
    | upsert c s =>
      obtain ⟨d', hd', hstate, hc, hadj, -⟩ := upsert_mem.mp hw
      exact hnone d' hd' hstate c hc hadj (congrArg FindingKey.conditionKey hwrites).symm
    | resolve surface => cases hwrites
  · intro hresolve
    obtain ⟨d', hd', hsurface, hgone⟩ := resolve_mem.mp hresolve
    rw [h.surface] at hsurface
    obtain rfl := affectedSurface_inj hd hd' hsurface
    rcases hgone with hgone | ⟨-, hnil⟩
    · rw [hchanged] at hgone
      cases hgone
    · exact hsome hnil

/-- What is unresolved on a changed surface after the run and has no candidate there was unresolved there
before it, and no candidate was adjudicated for it. -/
lemma open_before (hnames : NamesSurface answer) {d : SnapshotDelta}
    (hd : d ∈ deltasOf baseline current) {f : PatrolFinding}
    (h : OpenOn current d (applyAll hashing current
      (writesFor (answering answer) (deltasOf baseline current)) p.store) f)
    (hcandidates : ∀ c ∈ answer d, c.conditionKey ≠ f.conditionKey) :
    (∃ g, OpenOn current d p.store g ∧ g.conditionKey = f.conditionKey) ∧
      ∀ d' ∈ deltasOf baseline current, d'.state = .new ∨ d'.state = .changed →
        ∀ c ∈ answer d', c.adjudicated = true → c.conditionKey ≠ f.conditionKey := by
  have hfound := h.found
  rw [find?_applyAll] at hfound
  have hnone : ∀ w ∈ writesFor (answering answer) (deltasOf baseline current),
      ¬ writesTo current (keyOf current f.conditionKey) w := by
    intro w hw hwrites
    obtain ⟨g, c, s, hg, hup, hk, hsurface⟩ :=
      actAll_surface hashing (p.store.findings.find? (keyOf current f.conditionKey)) ⟨w, hw, hwrites⟩
    rw [hfound] at hg
    obtain rfl := Option.some.inj hg
    obtain ⟨d', hd', -, hc, -, -⟩ := upsert_mem.mp hup
    rw [h.surface, hnames d' c hc] at hsurface
    obtain rfl := affectedSurface_inj hd hd' hsurface
    exact hcandidates c hc (congrArg FindingKey.conditionKey hk).symm
  constructor
  · obtain ⟨g, hg, hsurface, hcondition, hscope, hstate⟩ := actAll_stays hnone hfound
    exact ⟨g, ⟨⟨_, hg⟩, hscope.trans h.scope, hsurface.trans h.surface, hstate h.unresolved⟩,
      hcondition⟩
  · intro d' hd' hstate c hc hadj hcondition
    apply hnone _ (upsert_mem.mpr ⟨d', hd', hstate, hc, hadj, rfl⟩)
    rw [writesTo, hcondition]

/-- A run is complete exactly when what it found open on changed surfaces with candidates is reconfirmed. -/
theorem patrol_complete_iff (hscope : baseline.scope = current.scope) (hnames : NamesSurface answer) :
    PatrolComplete baseline current answer
        (run hashing baseline current (answering answer) p).2.store ↔
      Reconfirmed baseline current answer p.store := by
  rw [run_store, writesOfRun, if_pos hscope]
  constructor
  · intro h d hd hchanged hsome f hf
    by_contra hnot
    push Not at hnot
    obtain ⟨hhere, helsewhere⟩ := hnot
    obtain ⟨c, hc, hcondition⟩ := h.changed d hd hchanged f
      (kept_open hd hchanged hsome hf helsewhere)
    exact hhere c hc hcondition
  · intro h
    refine ⟨?_, ?_, ?_⟩
    · intro d hd hstate c hc hadj
      rw [find?_applyAll]
      refine actAll_unresolved (upsert_mem.mpr ⟨d, hd, hstate, hc, hadj, rfl⟩) rfl ?_ ?_
      · intro c' s' hup
        obtain ⟨d', -, -, -, -, rfl⟩ := upsert_mem.mp hup
        exact stateOf_unresolved d'
      · intro c' s' hup
        exact resolve_apart hnames hup
    · intro d hd hgone f
      exact closed_after hnames hd (Or.inl hgone) f
    · intro d hd hchanged f hf
      by_contra hnot
      push Not at hnot
      have hsome : answer d ≠ [] := fun hnil => closed_after hnames hd (Or.inr ⟨hchanged, hnil⟩) f hf
      obtain ⟨⟨g, hg, hcondition⟩, hnone⟩ := open_before hnames hd hf hnot
      rcases h d hd hchanged hsome g hg with ⟨c, hc, heq⟩ | ⟨d', hd', hstate, c, hc, hadj, heq⟩
      · exact hnot c hc (heq.trans hcondition)
      · exact hnone d' hd' hstate c hc hadj (heq.trans hcondition)

end Completeness

section Dependency

/-- A snapshot of one dependency at a level of risk. -/
def dependencySnapshot (level : Int) : CanonicalSnapshot where
  tenantId := "tenant-a"
  caseId := "case-a"
  targetId := "target-a"
  snapshotId := "snapshot-" ++ toString level
  surfaces := [("dependencies", .obj [("dep", .obj [("level", .int level)])])]
  nonblank := by
    intro id h
    simp only [List.mem_cons, List.not_mem_nil, or_false] at h
    rcases h with rfl | rfl | rfl | rfl
    · decide
    · decide
    · decide
    · simp [isBlank, isSpace]

def riskCandidate (conditionKey affectedSurface : String) : PatrolCandidate where
  conditionKey := conditionKey
  title := "Dependency risk"
  severity := "high"
  affectedSurface := affectedSurface
  supportingEvidenceRefs := ["EV-risk"]
  adjudicated := true
  rationale := ""
  evidenced _ := nofun

/-- Level one has two risks, level two only the first of them. -/
def assessLevel (d : SnapshotDelta) : List PatrolCandidate :=
  if d.after = .obj [("level", .int 1)] then
    [riskCandidate "first" d.affectedSurface, riskCandidate "second" d.affectedSurface]
  else if d.after = .obj [("level", .int 2)] then [riskCandidate "first" d.affectedSurface]
  else []

lemma assessLevel_names : NamesSurface assessLevel := by
  intro d c hc
  rw [assessLevel] at hc
  split at hc
  · rcases List.mem_cons.mp hc with rfl | hc
    · rfl
    · obtain rfl := List.mem_singleton.mp hc
      rfl
  · split at hc
    · obtain rfl := List.mem_singleton.mp hc
      rfl
    · cases hc

def noHash : Hashing := ⟨fun _ => "", fun _ => ""⟩

/-- The patrol after the dependency has come to level one. -/
def riskyPatrol : Patrol :=
  (run noHash (dependencySnapshot 0) (dependencySnapshot 1) (answering assessLevel)
    ⟨InMemoryFindingStore.empty, []⟩).2

/-- At level two the second risk has no candidate, and its finding is still open. -/
theorem second_risk_left : ¬ ∀ (hashing : Hashing) (baseline current : CanonicalSnapshot)
    (answer : SnapshotDelta → List PatrolCandidate) (p : Patrol),
    baseline.scope = current.scope → NamesSurface answer → PatrolComplete baseline current answer
      (run hashing baseline current (answering answer) p).2.store := by
  intro h
  have hcomplete := h noHash (dependencySnapshot 1) (dependencySnapshot 2) assessLevel riskyPatrol rfl
    assessLevel_names
  let d : SnapshotDelta := ⟨"dependencies", "dep", .changed, .obj [("level", .int 1)],
    .obj [("level", .int 2)]⟩
  have hd : d ∈ deltasOf (dependencySnapshot 1) (dependencySnapshot 2) := by decide +kernel
  obtain ⟨c, hc, hcondition⟩ := hcomplete.changed d hd rfl
    (findingOf (dependencySnapshot 1) (riskCandidate "second" "dependencies:dep") .changed "PF-")
    ⟨⟨keyOf (dependencySnapshot 1) "second", by decide +kernel⟩, rfl, by decide, nofun⟩
  have hfirst : assessLevel d = [riskCandidate "first" d.affectedSurface] := by decide
  rw [hfirst] at hc
  obtain rfl := List.mem_singleton.mp hc
  exact absurd hcondition (by decide)

theorem first_risks_complete : PatrolComplete (dependencySnapshot 0) (dependencySnapshot 1) assessLevel
    riskyPatrol.store := by
  have hiff : PatrolComplete (dependencySnapshot 0) (dependencySnapshot 1) assessLevel
      riskyPatrol.store ↔ Reconfirmed (dependencySnapshot 0) (dependencySnapshot 1) assessLevel
        InMemoryFindingStore.empty := patrol_complete_iff rfl assessLevel_names
  apply hiff.mpr
  intro d _ _ _ f hf
  obtain ⟨k, hk⟩ := hf.stored
  cases hk

end Dependency

end SecScanMonitor.ContinuousSecurity
