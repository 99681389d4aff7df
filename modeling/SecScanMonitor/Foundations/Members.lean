import Mathlib.Data.List.Nodup
import SecScanMonitor.Foundations.Value

/-! Objects as dictionaries: where keys are listed once, the canonical form of an object is known by its
lookups. -/

namespace SecScanMonitor.Foundations.Value

variable {ms ns : List (String × Value)} {k : String} {v : Value}

/-- An object lists each of its keys once. -/
def Keyed : Value → Prop
  | .obj members => (members.map Prod.fst).Nodup
  | _ => True

lemma keys_insertMember_perm (k : String) (v : Value) (ms : List (String × Value)) :
    ((insertMember k v ms).map Prod.fst).Perm (k :: ms.map Prod.fst) := by
  induction ms with
  | nil => exact List.Perm.refl _
  | cons m ms ih =>
    obtain ⟨l, w⟩ := m
    rw [insertMember]
    split
    · exact List.Perm.refl _
    · exact (ih.cons l).trans (List.Perm.swap k l _)

lemma keys_sortedMembers_perm (ms : List (String × Value)) :
    ((sortedMembers ms).map Prod.fst).Perm (ms.map Prod.fst) := by
  induction ms with
  | nil => exact List.Perm.refl _
  | cons m ms ih => exact (keys_insertMember_perm m.1 m.2.sorted _).trans (ih.cons m.1)

lemma mem_of_lookup (h : ms.lookup k = some v) : (k, v) ∈ ms := by
  induction ms with
  | nil => cases h
  | cons m ms ih =>
    rw [List.lookup_cons] at h
    split at h
    · rename_i hk
      obtain rfl := Option.some.inj h
      rw [eq_of_beq hk]
      exact List.mem_cons_self
    · exact List.mem_cons_of_mem m (ih h)

lemma lookup_eq_some_iff (h : (ms.map Prod.fst).Nodup) : ms.lookup k = some v ↔ (k, v) ∈ ms :=
  ⟨mem_of_lookup, lookup_of_nodup h⟩

lemma lookup_eq_none_iff : ms.lookup k = none ↔ k ∉ ms.map Prod.fst := by
  induction ms with
  | nil => simp
  | cons m ms ih =>
    rw [List.lookup_cons, List.map_cons, List.mem_cons, not_or]
    by_cases hk : k = m.1
    · simp [hk]
    · simp [hk, beq_false_of_ne hk, ih]

/-- Objects have one canonical form when they answer every lookup with values of one canonical form. -/
lemma sortedMembers_eq_iff (hms : (ms.map Prod.fst).Nodup) (hns : (ns.map Prod.fst).Nodup) :
    sortedMembers ms = sortedMembers ns ↔
      ∀ k, (ms.lookup k).map sorted = (ns.lookup k).map sorted := by
  constructor
  · intro h k
    rw [← lookup_sortedMembers, h, lookup_sortedMembers]
  · intro h
    have hms' : ((sortedMembers ms).map Prod.fst).Nodup := (keys_sortedMembers_perm ms).nodup_iff.mpr hms
    have hns' : ((sortedMembers ns).map Prod.fst).Nodup := (keys_sortedMembers_perm ns).nodup_iff.mpr hns
    have hmem : ∀ m, m ∈ sortedMembers ms ↔ m ∈ sortedMembers ns := by
      rintro ⟨k, v⟩
      rw [← lookup_eq_some_iff hms', ← lookup_eq_some_iff hns', lookup_sortedMembers,
        lookup_sortedMembers, h]
    have hperm := (List.perm_ext_iff_of_nodup (List.Nodup.of_map _ hms') (List.Nodup.of_map _ hns')).mpr hmem
    refine hperm.eq_of_pairwise ?_ (sortedMembers_inOrder ms) (sortedMembers_inOrder ns)
    intro m n hm hn hmn hnm
    have hn' := (hmem n).mpr hn
    exact List.inj_on_of_nodup_map hms' hm hn' (String.le_antisymm hmn hnm)

end SecScanMonitor.Foundations.Value
