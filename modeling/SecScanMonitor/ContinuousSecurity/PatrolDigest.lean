import Mathlib.Data.List.Dedup
import SecScanMonitor.ContinuousSecurity.PatrolCompleteness
import SecScanMonitor.Foundations.Members

/-! The diff of two snapshots against their digests. -/

namespace SecScanMonitor.ContinuousSecurity

open Foundations Domain

variable {hashing : Hashing} {previous current : CanonicalSnapshot} {bs as : List (String × Value)}
  {surface key : String} {before after : Value}

lemma sameJson_iff : sameJson before after = true ↔ before.sorted = after.sorted := decide_eq_true_iff

section Differences

/-- A key that holds null in one of two dictionaries and is missing from the other. -/
def NullOrMissing (bs as : List (String × Value)) (key : String) : Prop :=
  bs.lookup key = some .null ∧ as.lookup key = none ∨ bs.lookup key = none ∧ as.lookup key = some .null

/-- What the two dictionaries hold under the key has the same canonical text, or neither holds it. -/
def AlikeAt (bs as : List (String × Value)) (key : String) : Prop :=
  (bs.lookup key).map Value.sorted = (as.lookup key).map Value.sorted

/-- Nothing differs but nulls that only one of two dictionaries holds. -/
def OnlyNulls (before after : Value) : Prop :=
  ∃ bs as, before = .obj bs ∧ after = .obj as ∧ ∀ key, AlikeAt bs as key ∨ NullOrMissing bs as key

lemma null_of_sorted {v : Value} (h : v.sorted = Value.null) : v = .null := by
  cases v with
  | null => rfl
  | _ => simp only [Value.sorted, reduceCtorEq] at h

/-- The lookups of a diff, which read null where a key is missing. -/
lemma sameJson_getD_iff {v w : Option Value} :
    sameJson (v.getD .null) (w.getD .null) = true ↔ v.map Value.sorted = w.map Value.sorted ∨
      (v = some .null ∧ w = none ∨ v = none ∧ w = some .null) := by
  rw [sameJson_iff]
  cases v with
  | none =>
    cases w with
    | none => simp
    | some w =>
      simp only [Option.getD_none, Option.getD_some, Option.map_none, Option.map_some, reduceCtorEq,
        false_and, Option.some.injEq, true_and, false_or]
      exact ⟨fun h => null_of_sorted h.symm, fun h => by rw [h]⟩
  | some v =>
    cases w with
    | none =>
      simp only [Option.getD_none, Option.getD_some, Option.map_none, Option.map_some, reduceCtorEq,
        false_and, Option.some.injEq, and_true, or_false, false_or]
      exact ⟨null_of_sorted, fun h => by rw [h]⟩
    | some w => simp

lemma keyDelta_eq_none : keyDelta surface bs as key = none ↔
    AlikeAt bs as key ∨ NullOrMissing bs as key := by
  have hsame : sameJson ((bs.lookup key).getD .null) ((as.lookup key).getD .null) = true ↔
      AlikeAt bs as key ∨ NullOrMissing bs as key := sameJson_getD_iff
  rw [← hsame, keyDelta]
  split
  · rename_i h
    exact iff_of_true rfl h
  · rename_i h
    exact iff_of_false (Option.some_ne_none _) h

lemma mem_deltaKeys_of_unlike (h : ¬ AlikeAt bs as key) : key ∈ deltaKeys bs as := by
  rw [deltaKeys, List.mem_insertionSort, List.mem_dedup, List.map_append, List.mem_append]
  by_contra hnone
  rw [not_or] at hnone
  apply h
  rw [AlikeAt, Value.lookup_eq_none_iff.mpr hnone.1, Value.lookup_eq_none_iff.mpr hnone.2]

lemma sameJson_obj_iff (hbs : (Value.obj bs).Keyed) (has : (Value.obj as).Keyed) :
    sameJson (.obj bs) (.obj as) = true ↔ ∀ key, AlikeAt bs as key := by
  rw [sameJson_iff, Value.sorted, Value.sorted, Value.obj.injEq]
  exact Value.sortedMembers_eq_iff hbs has

/-- A surface has no delta exactly where it has not changed or only by nulls. -/
lemma surfaceDeltas_eq_nil (hbefore : before.Keyed) (hafter : after.Keyed) :
    surfaceDeltas surface before after = [] ↔
      sameJson before after = true ∨ OnlyNulls before after := by
  unfold surfaceDeltas
  split
  · rename_i hsame
    exact iff_of_true rfl (Or.inl hsame)
  · rename_i hchanged
    split
    · rename_i bs as
      rw [List.filterMap_eq_nil_iff]
      constructor
      · intro h
        refine Or.inr ⟨bs, as, rfl, rfl, ?_⟩
        intro key
        by_cases hkey : AlikeAt bs as key
        · exact Or.inl hkey
        · exact keyDelta_eq_none.mp (h key (mem_deltaKeys_of_unlike hkey))
      · rintro (hsame | ⟨bs', as', hbs, has, hkeys⟩) key -
        · exact absurd hsame hchanged
        · rw [Value.obj.inj hbs, Value.obj.inj has]
          exact keyDelta_eq_none.mpr (hkeys key)
    · rename_i hdicts
      refine iff_of_false (List.cons_ne_nil _ _) ?_
      rintro (hsame | ⟨bs, as, hbs, has, -⟩)
      · exact hchanged hsame
      · exact hdicts bs as hbs has

end Differences

section Payloads

lemma payload_sorted_iff (hscope : previous.scope = current.scope) :
    previous.payload.sorted = current.payload.sorted ↔
      sameJson previous.securityPayload current.securityPayload = true := by
  obtain ⟨htenant, hcase, htarget⟩ := PatrolScope.mk.inj hscope
  rw [sameJson_iff, CanonicalSnapshot.payload, CanonicalSnapshot.payload, htenant, hcase, htarget,
    Value.sorted, Value.sorted, Value.obj.injEq, Value.sortedMembers_eq_iff (by simp) (by simp)]
  constructor
  · intro h
    have hsurfaces := h "surfaces"
    simpa [List.lookup_cons] using hsurfaces
  · intro h key
    simp only [List.lookup_cons, List.lookup_nil]
    split
    · rfl
    · split
      · rfl
      · split
        · rfl
        · split
          · rw [Option.map_some, Option.map_some, h]
          · rfl

lemma lookup_securityPayload {s : CanonicalSnapshot} {names : List String} (name : String) :
    (names.map fun n => (n, s.surface n)).lookup name =
      if name ∈ names then some (s.surface name) else none := by
  induction names with
  | nil => simp
  | cons n names ih =>
    rw [List.map_cons, List.lookup_cons]
    by_cases hn : name = n
    · simp [hn]
    · simp [hn, beq_false_of_ne hn, ih]

lemma securityPayload_same_iff :
    sameJson previous.securityPayload current.securityPayload = true ↔
      ∀ name ∈ securitySurfaces, sameJson (previous.surface name) (current.surface name) = true := by
  have hkeyed : ∀ s : CanonicalSnapshot, s.securityPayload.Keyed := by
    intro s
    have hnames : (securitySurfaces.map fun name => (name, s.surface name)).map Prod.fst =
        securitySurfaces := by
      rw [List.map_map]
      exact List.map_id _
    rw [CanonicalSnapshot.securityPayload, Value.Keyed, hnames]
    decide
  rw [CanonicalSnapshot.securityPayload, CanonicalSnapshot.securityPayload,
    sameJson_obj_iff (hkeyed previous) (hkeyed current)]
  simp only [AlikeAt, lookup_securityPayload, sameJson_iff]
  constructor
  · intro h name hname
    have hboth := h name
    rw [if_pos hname, if_pos hname] at hboth
    exact Option.some.inj hboth
  · intro h name
    by_cases hname : name ∈ securitySurfaces
    · rw [if_pos hname, if_pos hname, Option.map_some, Option.map_some, h name hname]
    · rw [if_neg hname, if_neg hname]

end Payloads

section Agreement

/-- Every way in which two snapshots differ has a delta: each key of two dictionaries that is not alike, and
each other surface that has changed. -/
structure DifferencesShown (previous current : CanonicalSnapshot) (deltas : List SnapshotDelta) : Prop where
  keys : ∀ name ∈ securitySurfaces, ∀ bs as, previous.surface name = .obj bs →
    current.surface name = .obj as → ∀ key, ¬ AlikeAt bs as key →
      ∃ d ∈ deltas, d.surface = name ∧ d.key = key
  surfaces : ∀ name ∈ securitySurfaces,
    sameJson (previous.surface name) (current.surface name) = false →
    (∀ bs as, previous.surface name = .obj bs → current.surface name ≠ .obj as) → ∃ d ∈ deltas,
      d.surface = name ∧ d.before = previous.surface name ∧ d.after = current.surface name

/-- The diff is empty exactly where the digests are equal. -/
def DiffAgrees (hashing : Hashing) (previous current : CanonicalSnapshot) : Prop :=
  diffSnapshots previous current = .ok [] ↔
    hashing.contentDigest previous.payload = hashing.contentDigest current.payload

lemma deltasOf_eq_nil (hprevious : ∀ name, (previous.surface name).Keyed)
    (hcurrent : ∀ name, (current.surface name).Keyed) :
    deltasOf previous current = [] ↔ ∀ name ∈ securitySurfaces,
      sameJson (previous.surface name) (current.surface name) = true ∨
        OnlyNulls (previous.surface name) (current.surface name) := by
  have hsort : deltasOf previous current = [] ↔ (securitySurfaces.flatMap fun name =>
      surfaceDeltas name (previous.surface name) (current.surface name)) = [] := by
    rw [← List.length_eq_zero_iff, deltasOf, List.length_insertionSort, List.length_eq_zero_iff]
  rw [hsort, List.flatMap_eq_nil_iff]
  exact forall₂_congr fun name _ => surfaceDeltas_eq_nil (hprevious name) (hcurrent name)

lemma digest_eq_iff (hscope : previous.scope = current.scope)
    (hdigest : hashing.contentDigest previous.payload = hashing.contentDigest current.payload ↔
      previous.payload.sorted = current.payload.sorted) :
    hashing.contentDigest previous.payload = hashing.contentDigest current.payload ↔
      ∀ name ∈ securitySurfaces, sameJson (previous.surface name) (current.surface name) = true := by
  rw [hdigest, payload_sorted_iff hscope, securityPayload_same_iff]

lemma diffAgrees_iff (hscope : previous.scope = current.scope)
    (hprevious : ∀ name, (previous.surface name).Keyed) (hcurrent : ∀ name, (current.surface name).Keyed)
    (hdigest : hashing.contentDigest previous.payload = hashing.contentDigest current.payload ↔
      previous.payload.sorted = current.payload.sorted) :
    DiffAgrees hashing previous current ↔
      ((∀ name ∈ securitySurfaces, sameJson (previous.surface name) (current.surface name) = true ∨
          OnlyNulls (previous.surface name) (current.surface name)) →
        ∀ name ∈ securitySurfaces, sameJson (previous.surface name) (current.surface name) = true) := by
  rw [DiffAgrees, diffSnapshots_eq hscope, Except.ok.injEq, deltasOf_eq_nil hprevious hcurrent,
    digest_eq_iff hscope hdigest]
  exact ⟨fun h => h.mp, fun h => ⟨h, fun hsame name hname => Or.inl (hsame name hname)⟩⟩

/-- A key that is alike, or null where it is missing, has no delta. -/
lemma differencesShown_iff (hprevious : ∀ name, (previous.surface name).Keyed)
    (hcurrent : ∀ name, (current.surface name).Keyed) :
    DifferencesShown previous current (deltasOf previous current) ↔
      ∀ name ∈ securitySurfaces, ∀ bs as, previous.surface name = .obj bs →
        current.surface name = .obj as → ∀ key, ¬ NullOrMissing bs as key := by
  have hdicts : ∀ {name bs as}, previous.surface name = .obj bs → current.surface name = .obj as →
      ∀ key, ¬ AlikeAt bs as key → surfaceDeltas name (previous.surface name) (current.surface name) =
        (deltaKeys bs as).filterMap (keyDelta name bs as) := by
    intro name bs as hbs has key hkey
    have hchanged : ¬ sameJson (.obj bs) (.obj as) = true := fun hsame =>
      hkey ((sameJson_obj_iff (hbs ▸ hprevious name) (has ▸ hcurrent name)).mp hsame key)
    rw [hbs, has, surfaceDeltas, if_neg hchanged]
  constructor
  · intro h name hname bs as hbs has key hnull
    have hkey : ¬ AlikeAt bs as key := by
      rcases hnull with ⟨hb, ha⟩ | ⟨hb, ha⟩
      · simp [AlikeAt, hb, ha]
      · simp [AlikeAt, hb, ha]
    obtain ⟨d, hd, hsurface, rfl⟩ := h.keys name hname bs as hbs has key hkey
    obtain ⟨name', -, hd'⟩ := mem_deltasOf.mp hd
    obtain rfl : name' = name := (surfaceDeltas_surface hd').symm.trans hsurface
    rw [hdicts hbs has d.key hkey] at hd'
    obtain ⟨key', -, hkey'⟩ := List.mem_filterMap.mp hd'
    have hnone : keyDelta name' bs as d.key = none := keyDelta_eq_none.mpr (Or.inr hnull)
    rw [(keyDelta_eq_some hkey').2, hkey'] at hnone
    cases hnone
  · intro h
    constructor
    · intro name hname bs as hbs has key hkey
      have hdelta : keyDelta name bs as key ≠ none := by
        rw [Ne, keyDelta_eq_none, not_or]
        exact ⟨hkey, h name hname bs as hbs has key⟩
      obtain ⟨d, hd⟩ := Option.ne_none_iff_exists'.mp hdelta
      refine ⟨d, mem_deltasOf.mpr ⟨name, hname, ?_⟩, keyDelta_eq_some hd⟩
      rw [hdicts hbs has key hkey]
      exact List.mem_filterMap.mpr ⟨key, mem_deltaKeys_of_unlike hkey, hd⟩
    · intro name hname hchanged hother
      refine ⟨⟨name, "$", .changed, previous.surface name, current.surface name⟩,
        mem_deltasOf.mpr ⟨name, hname, ?_⟩, rfl, rfl, rfl⟩
      unfold surfaceDeltas
      rw [if_neg (by rw [hchanged]; exact Bool.false_ne_true)]
      split
      · rename_i hbs has
        exact absurd has (hother _ _ hbs)
      · exact List.mem_singleton.mpr rfl

/-- The diff of two snapshots of one scope is empty exactly where their digests are equal, unless they differ
in nothing but nulls that only one of them holds; and it shows every difference exactly where no key is null
in one of two dictionaries and missing from the other. -/
theorem diff_shows_iff (hscope : previous.scope = current.scope)
    (hprevious : ∀ name, (previous.surface name).Keyed) (hcurrent : ∀ name, (current.surface name).Keyed)
    (hdigest : hashing.contentDigest previous.payload = hashing.contentDigest current.payload ↔
      previous.payload.sorted = current.payload.sorted) :
    (DiffAgrees hashing previous current ↔
      ((∀ name ∈ securitySurfaces, sameJson (previous.surface name) (current.surface name) = true ∨
          OnlyNulls (previous.surface name) (current.surface name)) →
        ∀ name ∈ securitySurfaces, sameJson (previous.surface name) (current.surface name) = true)) ∧
    (DiffAgrees hashing previous current ∧
        DifferencesShown previous current (deltasOf previous current) ↔
      ∀ name ∈ securitySurfaces, ∀ bs as, previous.surface name = .obj bs →
        current.surface name = .obj as → ∀ key, ¬ NullOrMissing bs as key) := by
  have hagrees := diffAgrees_iff hscope hprevious hcurrent hdigest
  have hshown := differencesShown_iff hprevious hcurrent
  refine ⟨hagrees, fun h => hshown.mp h.2, fun h => ⟨hagrees.mpr ?_, hshown.mpr h⟩⟩
  intro hsilent name hname
  rcases hsilent name hname with hsame | ⟨bs, as, hbs, has, hkeys⟩
  · exact hsame
  · have hbkeyed := hbs ▸ hprevious name
    have hakeyed := has ▸ hcurrent name
    rw [hbs, has, sameJson_obj_iff hbkeyed hakeyed]
    intro key
    exact (hkeys key).resolve_right (h name hname bs as hbs has key)

end Agreement

section Capabilities

/-- A snapshot of the capabilities alone. -/
def capabilitySnapshot (capabilities : List (String × Value)) : CanonicalSnapshot where
  tenantId := "tenant-a"
  caseId := "case-a"
  targetId := "target-a"
  snapshotId := "snapshot-a"
  surfaces := [("capabilities", .obj capabilities)]
  nonblank := by decide

def noCapability : CanonicalSnapshot := capabilitySnapshot []

def nullCapability : CanonicalSnapshot := capabilitySnapshot [("shell", .null)]

def shellCapability : CanonicalSnapshot := capabilitySnapshot [("shell", .str "bash")]

lemma capabilitySnapshot_keyed {capabilities : List (String × Value)}
    (h : (Value.obj capabilities).Keyed) (name : String) :
    ((capabilitySnapshot capabilities).surface name).Keyed := by
  rw [CanonicalSnapshot.surface, capabilitySnapshot, List.lookup_cons]
  split
  · exact h
  · exact List.nodup_nil

/-- Three documents with digests of their own. -/
def capabilityHashing : Hashing where
  sha256 := id
  contentDigest v :=
    if v.sorted = noCapability.payload.sorted then "0f" else
    if v.sorted = nullCapability.payload.sorted then "1e" else "2d"

theorem shell_capability_shown : DiffAgrees capabilityHashing noCapability shellCapability ∧
    DifferencesShown noCapability shellCapability (deltasOf noCapability shellCapability) := by
  have hiff := @diff_shows_iff capabilityHashing noCapability shellCapability rfl
    (capabilitySnapshot_keyed List.nodup_nil) (capabilitySnapshot_keyed (List.nodup_singleton _))
    (by decide +kernel)
  apply hiff.2.mpr
  intro name hname bs as hbs has key hnull
  have hmembers : ∀ capabilities members : List (String × Value),
      (capabilitySnapshot capabilities).surface name = .obj members →
        members = capabilities ∨ members = [] := by
    intro capabilities members hmembers
    rw [CanonicalSnapshot.surface, capabilitySnapshot, List.lookup_cons] at hmembers
    split at hmembers
    · exact Or.inl (Value.obj.inj hmembers).symm
    · exact Or.inr (Value.obj.inj hmembers).symm
  obtain rfl : bs = [] := (hmembers [] bs hbs).elim id id
  rcases hnull with ⟨hb, -⟩ | ⟨-, ha⟩
  · cases hb
  · rcases hmembers _ as has with rfl | rfl
    · cases Value.mem_of_lookup ha with
      | tail _ hmem => cases hmem
    · cases ha

/-- A capability that appears with null changes the digest, and the diff is empty. -/
theorem null_capability_silent : ¬ ∀ (hashing : Hashing) (previous current : CanonicalSnapshot),
    previous.scope = current.scope → (∀ name, (previous.surface name).Keyed) →
    (∀ name, (current.surface name).Keyed) →
    (hashing.contentDigest previous.payload = hashing.contentDigest current.payload ↔
      previous.payload.sorted = current.payload.sorted) → DiffAgrees hashing previous current := by
  intro h
  have hagrees := h capabilityHashing noCapability nullCapability rfl
    (capabilitySnapshot_keyed List.nodup_nil) (capabilitySnapshot_keyed (List.nodup_singleton _))
    (by decide +kernel)
  have hempty : diffSnapshots noCapability nullCapability = .ok [] := by decide +kernel
  exact absurd (hagrees.mp hempty) (by decide +kernel)

end Capabilities

end SecScanMonitor.ContinuousSecurity
