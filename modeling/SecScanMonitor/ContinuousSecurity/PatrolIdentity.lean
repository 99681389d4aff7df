import Mathlib.Data.List.Induction
import SecScanMonitor.ContinuousSecurity.PatrolCompleteness
import SecScanMonitor.Foundations.Joined

/-! The ids of patrol findings, which are digests of the joined fields of their keys. -/

namespace SecScanMonitor.ContinuousSecurity

open Foundations Domain InMemoryFindingStore PatrolEngine PatrolWrite

namespace FindingKey

/-- `"|".join(key)` -/
def joined (k : FindingKey) : String :=
  "|".intercalate [k.scope.tenantId, k.scope.caseId, k.scope.targetId, k.conditionKey]

/-- The scope of a snapshot. -/
def Scoped (k : FindingKey) : Prop :=
  ∀ id ∈ [k.scope.tenantId, k.scope.caseId, k.scope.targetId], isBlank id = false

instance (k : FindingKey) : Decidable k.Scoped := inferInstanceAs (Decidable (∀ id ∈ _, _))

def Unmistakable (k : FindingKey) : Prop :=
  Joined.Unmistakable '|' (fun c => isSpace c = true) k.scope.tenantId.toList k.scope.caseId.toList
    k.scope.targetId.toList k.conditionKey.toList

lemma joined_toList (k : FindingKey) : k.joined.toList = Joined.joined '|' k.scope.tenantId.toList
    k.scope.caseId.toList k.scope.targetId.toList k.conditionKey.toList := by
  rw [joined, String.toList_intercalate]
  simp [Joined.joined, List.intercalate]

lemma blank_iff {s : String} : Joined.Blank (fun c => isSpace c = true) s.toList ↔ isBlank s = true :=
  List.all_eq_true.symm

/-- The bars of an unmistakable key are where they must be. -/
lemma told_apart_iff {k : FindingKey} (hk : k.Scoped) :
    (∀ l : FindingKey, l.Scoped → l.joined = k.joined → l = k) ↔ k.Unmistakable := by
  have hnonblank : ∀ {s : String}, isBlank s = false →
      ¬ Joined.Blank (fun c => isSpace c = true) s.toList := by
    intro s hs hblank
    rw [blank_iff.mp hblank] at hs
    cases hs
  have hblank : ∀ {l : List Char}, ¬ Joined.Blank (fun c => isSpace c = true) l →
      isBlank (String.ofList l) = false := by
    intro l hl
    rw [Bool.eq_false_iff]
    intro h
    rw [← blank_iff, String.toList_ofList] at h
    exact hl h
  simp only [Scoped, List.forall_mem_cons] at hk
  obtain ⟨ht, hc, hg, -⟩ := hk
  rw [Unmistakable, ← Joined.told_apart_iff (by decide) (hnonblank ht) (hnonblank hc) (hnonblank hg)]
  constructor
  · intro h t c g d ht' hc' hg' heq
    have hsame := h ⟨⟨String.ofList t, String.ofList c, String.ofList g⟩, String.ofList d⟩ ?_ ?_
    · rw [← hsame]
      simp
    · simp [Scoped, hblank ht', hblank hc', hblank hg']
    · rw [← String.toList_inj, joined_toList, joined_toList, ← heq]
      simp
  · rintro h ⟨⟨t, c, g⟩, d⟩ hscoped heq
    simp only [Scoped, List.forall_mem_cons] at hscoped
    obtain ⟨ht', hc', hg', -⟩ := hscoped
    rw [← String.toList_inj, joined_toList, joined_toList] at heq
    have hsame := h _ _ _ _ (hnonblank ht') (hnonblank hc') (hnonblank hg') heq
    simp only [String.toList_inj] at hsame
    obtain ⟨rfl, rfl, rfl, rfl⟩ := hsame
    rfl

end FindingKey

section Ids

variable {hashing : Hashing} {calls : List PatrolCall} {f : PatrolFinding} {k : FindingKey}

/-- The store after some runs from an empty one. -/
def storeAfter (hashing : Hashing) (calls : List PatrolCall) : InMemoryFindingStore :=
  (afterRuns hashing calls ⟨InMemoryFindingStore.empty, []⟩).store

/-- The digits of a digest that an id keeps. -/
def idDigits (hashing : Hashing) (k : FindingKey) : List Char := (hashing.sha256 k.joined).toList.take 32

lemma newId_eq : newId hashing k = "PF-" ++ String.ofList (idDigits hashing k) := rfl

lemma newId_inj {l : FindingKey} : newId hashing k = newId hashing l ↔
    idDigits hashing k = idDigits hashing l := by
  rw [newId_eq, newId_eq, ← String.toList_inj, String.toList_append, String.toList_append,
    List.append_cancel_left_eq, String.toList_ofList, String.toList_ofList]

lemma storeAfter_append (later : List PatrolCall) (call : PatrolCall) :
    storeAfter hashing (later ++ [call]) = applyAll hashing call.current
      (writesOfRun call.baseline call.current call.assess) (storeAfter hashing later) := by
  rw [storeAfter, afterRuns, List.foldl_append]
  exact run_store _

/-- The finding under a key, if any, has the id of the key, and the key has a scope. -/
def Identified (hashing : Hashing) (k : FindingKey) (v : Option PatrolFinding) : Prop :=
  idUnder hashing k v = newId hashing k ∧ (v ≠ none → k.Scoped)

lemma act_identified {snapshot : CanonicalSnapshot} {w : PatrolWrite} {v : Option PatrolFinding}
    (h : Identified hashing k v) : Identified hashing k (w.act hashing snapshot k v) := by
  refine ⟨(idUnder_act w v).trans h.1, fun hsome => ?_⟩
  cases w with
  | upsert candidate state =>
    by_cases hk : writesTo snapshot k (.upsert candidate state)
    · have hkey : k = keyOf snapshot candidate.conditionKey := hk
      intro id hid
      apply snapshot.nonblank
      rw [hkey] at hid
      simp only [keyOf, CanonicalSnapshot.scope, List.mem_cons, List.not_mem_nil, or_false] at hid ⊢
      rcases hid with hid | hid | hid
      · exact Or.inl hid
      · exact Or.inr (Or.inl hid)
      · exact Or.inr (Or.inr (Or.inl hid))
    · rw [act_other hk] at hsome
      exact h.2 hsome
  | resolve surface =>
    refine h.2 fun hnone => hsome ?_
    rw [hnone]
    rfl

variable (hashing calls k) in
lemma storeAfter_identified : Identified hashing k ((storeAfter hashing calls).findings.find? k) := by
  induction calls using List.reverseRecOn with
  | nil => exact ⟨rfl, fun h => absurd rfl h⟩
  | append_singleton later call ih =>
    rw [storeAfter_append, find?_applyAll]
    exact actAll_invariant (fun _ _ _ => act_identified) ih

lemma findingId_eq (h : (storeAfter hashing calls).findings.find? k = some f) :
    f.findingId = newId hashing k ∧ k.Scoped := by
  have hid := storeAfter_identified hashing calls k
  rw [h] at hid
  exact ⟨hid.1, hid.2 (Option.some_ne_none f)⟩

end Ids

section Collisions

variable {hashing : Hashing}

/-- A snapshot of a scope, with the dependencies as given. -/
def scopedSnapshot (k : FindingKey) (hk : k.Scoped) (dependencies : List (String × Value)) :
    CanonicalSnapshot where
  tenantId := k.scope.tenantId
  caseId := k.scope.caseId
  targetId := k.scope.targetId
  snapshotId := "snapshot"
  surfaces := [("dependencies", .obj dependencies)]
  nonblank := by
    simp only [FindingKey.Scoped, List.forall_mem_cons] at hk
    simp only [List.forall_mem_cons]
    exact ⟨hk.1, hk.2.1, hk.2.2.1, by decide, nofun⟩

/-- A condition that every assessment finds. -/
def conditionCandidate (conditionKey : String) : PatrolCandidate where
  conditionKey := conditionKey
  title := "Dependency risk"
  severity := "high"
  affectedSurface := "dependencies:dep"
  supportingEvidenceRefs := ["EV-dep"]
  adjudicated := true
  rationale := ""
  evidenced _ := nofun

/-- A dependency is added, and the assessment finds the condition of the key. -/
def findingRun (k : FindingKey) (hk : k.Scoped) : PatrolCall where
  baseline := scopedSnapshot k hk []
  current := scopedSnapshot k hk [("dep", .int 1)]
  assess := answering fun _ => [conditionCandidate k.conditionKey]

variable (hashing) in
/-- Whatever ran before, the run leaves a finding under the key. -/
lemma findingRun_finds (calls : List PatrolCall) {k : FindingKey} (hk : k.Scoped) :
    ∃ f, (storeAfter hashing (calls ++ [findingRun k hk])).findings.find? f.key = some f ∧
      f.key = k := by
  have hdelta : ⟨"dependencies", "dep", .new, .null, .int 1⟩ ∈
      deltasOf (findingRun k hk).baseline (findingRun k hk).current := by
    refine mem_deltasOf.mpr ⟨"dependencies", by decide, ?_⟩
    have hdeltas : surfaceDeltas "dependencies" (.obj []) (.obj [("dep", .int 1)]) =
        [⟨"dependencies", "dep", .new, .null, .int 1⟩] := by decide
    exact hdeltas ▸ List.mem_cons_self
  have hwrite : .upsert (conditionCandidate k.conditionKey) .open ∈ writesOfRun (findingRun k hk).baseline
      (findingRun k hk).current (findingRun k hk).assess := by
    have hscope : (findingRun k hk).baseline.scope = (findingRun k hk).current.scope := rfl
    rw [writesOfRun, if_pos hscope]
    exact upsert_mem.mpr ⟨_, hdelta, Or.inl rfl, List.mem_cons_self, rfl, rfl⟩
  have hwrites : ∃ w ∈ writesOfRun (findingRun k hk).baseline (findingRun k hk).current
      (findingRun k hk).assess, writesTo (findingRun k hk).current k w := ⟨_, hwrite, rfl⟩
  obtain ⟨f, c, s, hf, -⟩ := actAll_surface hashing ((storeAfter hashing calls).findings.find? k) hwrites
  have hstored : (storeAfter hashing (calls ++ [findingRun k hk])).findings.find? k = some f := by
    rw [storeAfter_append, find?_applyAll]
    exact hf
  have hkey := InMemoryFindingStore.keyed _ k f hstored
  exact ⟨f, hkey.symm ▸ hstored, hkey⟩

/-- The ids that the digests of two keys give do not collide. -/
def Distinguished (hashing : Hashing) (k l : FindingKey) : Prop :=
  idDigits hashing k = idDigits hashing l → k.joined = l.joined

/-- The id of a finding is that of no finding of another scope or condition, whatever runs follow and as far
as digests do not collide, exactly where no bar can be moved from one field of its key to another. -/
theorem identity_iff (hashing : Hashing) (calls : List PatrolCall) (f : PatrolFinding)
    (hf : (storeAfter hashing calls).findings.find? f.key = some f) :
    (∀ later g, (storeAfter hashing (calls ++ later)).findings.find? g.key = some g →
        Distinguished hashing g.key f.key → g.findingId = f.findingId → g.key = f.key) ↔
      f.key.Unmistakable := by
  obtain ⟨hid, hscoped⟩ := findingId_eq hf
  rw [← FindingKey.told_apart_iff hscoped]
  constructor
  · intro h l hl hjoined
    obtain ⟨g, hg, rfl⟩ := findingRun_finds hashing calls hl
    refine h _ g hg (fun _ => hjoined) ?_
    have hdigits : idDigits hashing g.key = idDigits hashing f.key := by rw [idDigits, hjoined, idDigits]
    rw [hid, (findingId_eq hg).1, newId_inj.mpr hdigits]
  · intro h later g hg hdistinct hsame
    obtain ⟨hgid, hgscoped⟩ := findingId_eq hg
    rw [hid, hgid] at hsame
    exact h g.key hgscoped (hdistinct (newId_inj.mp hsame))

def plainKey : FindingKey := ⟨⟨"a", "b", "t"⟩, "c"⟩

def barredKey : FindingKey := ⟨⟨"a|b", "t", "c"⟩, "d"⟩

def shiftedKey : FindingKey := ⟨⟨"a", "b|t", "c"⟩, "d"⟩

/-- Digests that keep short texts apart. -/
def textHashing : Hashing := ⟨id, fun _ => ""⟩

theorem plain_identity : ∃ f, (storeAfter textHashing [findingRun plainKey (by decide)]).findings.find?
      f.key = some f ∧ f.key = plainKey ∧
    ∀ later g, (storeAfter textHashing ([findingRun plainKey (by decide)] ++ later)).findings.find? g.key =
        some g → Distinguished textHashing g.key f.key → g.findingId = f.findingId → g.key = f.key := by
  obtain ⟨f, hf, hkey⟩ := findingRun_finds textHashing [] (k := plainKey) (by decide)
  refine ⟨f, hf, hkey, (identity_iff textHashing _ f hf).mpr ?_⟩
  rw [hkey]
  refine ⟨?_, ?_, ?_, ?_⟩
  · intro x y h
    exact absurd (h ▸ List.mem_append_right x List.mem_cons_self) (by decide : '|' ∉ "a".toList)
  · intro x y h
    exact absurd (h ▸ List.mem_append_right x List.mem_cons_self) (by decide : '|' ∉ "b".toList)
  · intro x y h
    exact absurd (h ▸ List.mem_append_right x List.mem_cons_self) (by decide : '|' ∉ "t".toList)
  · decide

/-- Tenants `a|b` and `a` get one id for different conditions. -/
theorem barred_tenants_collide : ¬ ∀ (hashing : Hashing) (calls later : List PatrolCall)
    (f g : PatrolFinding), (storeAfter hashing calls).findings.find? f.key = some f →
      (storeAfter hashing (calls ++ later)).findings.find? g.key = some g →
      Distinguished hashing g.key f.key → g.findingId = f.findingId → g.key = f.key := by
  intro h
  obtain ⟨f, hf, hfkey⟩ := findingRun_finds textHashing [] (k := barredKey) (by decide)
  obtain ⟨g, hg, hgkey⟩ := findingRun_finds textHashing [findingRun barredKey (by decide)]
    (k := shiftedKey) (by decide)
  have hjoined : g.key.joined = f.key.joined := by
    rw [hfkey, hgkey]
    decide
  have hdigits : idDigits textHashing g.key = idDigits textHashing f.key := by
    rw [idDigits, hjoined, idDigits]
  have hids : g.findingId = f.findingId := by
    rw [(findingId_eq hf).1, (findingId_eq hg).1]
    exact newId_inj.mpr hdigits
  have hsame := h textHashing _ [findingRun shiftedKey (by decide)] f g hf hg (fun _ => hjoined) hids
  rw [hfkey, hgkey] at hsame
  exact absurd hsame (by decide)

end Collisions

end SecScanMonitor.ContinuousSecurity
