import SecScanMonitor.Foundations.Table

/-! Dictionaries as tables of entries, with assignment that replaces. -/

namespace SecScanMonitor.Foundations

abbrev Dict (κ ν : Type) := Table (Prod.fst : κ × ν → κ)

namespace Dict

variable {κ ν : Type} [DecidableEq κ]

def find? (d : Dict κ ν) (k : κ) : Option ν := (Table.get? d k).map Prod.snd

def set (d : Dict κ ν) (k : κ) (v : ν) : Dict κ ν where
  rows := (k, v) :: d.rows.filter (fun e => decide (e.1 ≠ k))
  nodup := by
    refine List.nodup_cons.mpr ⟨by simp, ?_⟩
    exact d.nodup.sublist ((List.filter_sublist (l := d.rows)).map Prod.fst)

def values (d : Dict κ ν) : List ν := d.rows.map Prod.snd

/-- Assignment where the order of the keys counts: a key keeps its place, a new one comes last. -/
def put (d : Dict κ ν) (k : κ) (v : ν) : Dict κ ν :=
  if h : ∀ e ∈ d.rows, e.1 ≠ k then
    ⟨d.rows ++ [(k, v)], by
      rw [List.map_append, List.map_singleton]
      refine List.Nodup.append d.nodup (List.nodup_singleton k) ?_
      intro l hl hk
      obtain rfl := List.mem_singleton.mp hk
      obtain ⟨e, he, hek⟩ := List.mem_map.mp hl
      exact h e he hek⟩
  else d.modify k (fun e => (e.1, v)) (fun _ => rfl)

@[simp] lemma find?_empty (k : κ) : find? (Table.empty : Dict κ ν) k = none := rfl

lemma find?_eq_some_iff {d : Dict κ ν} {k : κ} {v : ν} : d.find? k = some v ↔ (k, v) ∈ d := by
  simp only [find?, Option.map_eq_some_iff, Table.get?_eq_some_iff]
  constructor
  · rintro ⟨⟨l, w⟩, ⟨hm, rfl⟩, rfl⟩
    exact hm
  · intro h
    exact ⟨(k, v), ⟨h, rfl⟩, rfl⟩

@[simp] lemma find?_set_self (d : Dict κ ν) (k : κ) (v : ν) : (d.set k v).find? k = some v :=
  find?_eq_some_iff.mpr List.mem_cons_self

lemma find?_set_of_ne (d : Dict κ ν) {k l : κ} (v : ν) (h : l ≠ k) :
    (d.set k v).find? l = d.find? l := by
  apply Option.ext
  intro w
  simp only [find?_eq_some_iff, Table.mem_def, set, List.mem_cons, List.mem_filter, Prod.mk.injEq,
    h, false_and, false_or, decide_eq_true_eq, ne_eq, not_false_eq_true, and_true]

lemma find?_set (d : Dict κ ν) (k l : κ) (v : ν) :
    (d.set k v).find? l = if l = k then some v else d.find? l := by
  by_cases h : l = k
  · subst h
    simp
  · simp [h, find?_set_of_ne d v h]

lemma find?_set_eq_some {d : Dict κ ν} {k l : κ} {v w : ν} (h : (d.set k v).find? l = some w) :
    (l = k ∧ w = v) ∨ d.find? l = some w := by
  rw [find?_set] at h
  by_cases hl : l = k
  · rw [if_pos hl] at h
    exact Or.inl ⟨hl, (Option.some.inj h).symm⟩
  · rw [if_neg hl] at h
    exact Or.inr h

lemma find?_eq_none_iff {d : Dict κ ν} {k : κ} : d.find? k = none ↔ ∀ e ∈ d.rows, e.1 ≠ k := by
  rw [find?, Option.map_eq_none_iff, Table.get?_eq_none_iff]
  rfl

lemma find?_put (d : Dict κ ν) (k l : κ) (v : ν) :
    (d.put k v).find? l = if l = k then some v else d.find? l := by
  by_cases h : ∀ e ∈ d.rows, e.1 ≠ k
  · rw [put, dif_pos h]
    apply Option.ext
    intro w
    rw [find?_eq_some_iff, Table.mem_def, List.mem_append, List.mem_singleton, Prod.mk.injEq]
    by_cases hl : l = k
    · subst hl
      simp only [if_true, true_and, Option.some.injEq]
      constructor
      · rintro (hw | rfl)
        · exact absurd rfl (h _ hw)
        · rfl
      · rintro rfl
        exact Or.inr rfl
    · simp only [hl, false_and, or_false, if_false, find?_eq_some_iff, Table.mem_def]
  · rw [put, dif_neg h]
    by_cases hl : l = k
    · subst hl
      rw [if_pos rfl, find?, Table.get?_modify_self, Option.map_map]
      cases hk : Table.get? d l with
      | none => exact absurd (Table.get?_eq_none_iff.mp hk) h
      | some e => rfl
    · rw [if_neg hl, find?, Table.get?_modify_of_ne hl]
      rfl

def keys (d : Dict κ ν) : List κ := d.rows.map Prod.fst

lemma mem_keys {d : Dict κ ν} {k : κ} : k ∈ d.keys ↔ ∃ v, d.find? k = some v := by
  simp only [keys, List.mem_map, find?_eq_some_iff, Table.mem_def, Prod.exists, exists_and_right,
    exists_eq_right]

lemma keys_put_of_mem {d : Dict κ ν} {k : κ} (h : k ∈ d.keys) (v : ν) : (d.put k v).keys = d.keys := by
  obtain ⟨w, hw⟩ := mem_keys.mp h
  have hrow : ¬ ∀ e ∈ d.rows, e.1 ≠ k := fun hnone => hnone _ (find?_eq_some_iff.mp hw) rfl
  rw [put, dif_neg hrow, keys, keys, Table.modify, Table.update, List.map_map, List.map_inj_left]
  intro e _
  simp only [Function.comp_apply]
  split
  · rfl
  · rfl

lemma mem_keys_put {d : Dict κ ν} {k l : κ} {v : ν} : l ∈ (d.put k v).keys ↔ l = k ∨ l ∈ d.keys := by
  rw [mem_keys, mem_keys]
  simp only [find?_put]
  by_cases hl : l = k
  · simp [hl]
  · simp [hl]

/-- Dictionaries with the same keys in the same order and the same entries are the same. -/
lemma eq_of_keys {d d' : Dict κ ν} (hkeys : d.keys = d'.keys) (h : ∀ k, d.find? k = d'.find? k) :
    d = d' := by
  have hread : ∀ t : Dict κ ν, t.rows.map some = t.keys.map fun k => (t.find? k).map (Prod.mk k) := by
    intro t
    rw [keys, List.map_map, List.map_inj_left]
    rintro ⟨k, v⟩ hrow
    rw [Function.comp_apply, find?_eq_some_iff.mpr hrow]
    rfl
  apply Table.ext
  have hrows : d.rows.map some = d'.rows.map some := by
    rw [hread, hread, hkeys]
    simp only [h]
  exact List.map_injective_iff.mpr (fun _ _ h => Option.some.inj h) hrows

lemma find?_of_extends {d d' : Dict κ ν} (h : Table.Extends d' d) {k : κ} {v : ν}
    (hv : d.find? k = some v) : d'.find? k = some v :=
  find?_eq_some_iff.mpr (h _ (find?_eq_some_iff.mp hv))

lemma extends_set {d : Dict κ ν} {k : κ} (h : d.find? k = none) (v : ν) :
    Table.Extends (d.set k v) d := by
  rintro ⟨l, w⟩ hw
  apply find?_eq_some_iff.mp
  have hne : l ≠ k := by
    rintro rfl
    rw [find?_eq_some_iff.mpr hw] at h
    cases h
  rw [find?_set_of_ne d v hne]
  exact find?_eq_some_iff.mpr hw

omit [DecidableEq κ] in
lemma mem_values {d : Dict κ ν} {v : ν} : v ∈ d.values ↔ ∃ k, (k, v) ∈ d := by
  simp [values, Table.mem_def]

lemma mem_values_iff_find? {d : Dict κ ν} {v : ν} : v ∈ d.values ↔ ∃ k, d.find? k = some v := by
  simp only [mem_values, find?_eq_some_iff]

end Dict

end SecScanMonitor.Foundations
