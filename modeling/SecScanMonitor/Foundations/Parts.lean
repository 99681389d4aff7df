import Mathlib.Data.List.Sort
import SecScanMonitor.Foundations.Dict

/-! The part of a dictionary that is one party's own, through a view that may hide some of each entry. -/

namespace SecScanMonitor.Foundations.Dict

variable {κ ν μ : Type} [DecidableEq κ]

def part (own : ν → Bool) (view : ν → μ) (d : Dict κ ν) (k : κ) : Option μ :=
  ((d.find? k).filter own).map view

variable {own : ν → Bool} {view : ν → μ} {d d' : Dict κ ν} {k : κ}

lemma part_eq_some {x : μ} :
    part own view d k = some x ↔ ∃ v, d.find? k = some v ∧ own v = true ∧ view v = x := by
  simp only [part, Option.map_eq_some_iff, Option.filter_eq_some_iff, and_assoc]

/-- Where no other party has an entry, the view of the entry is the part. -/
lemma part_of_own (h : ∀ v, d.find? k = some v → own v = true) :
    part own view d k = (d.find? k).map view := by
  cases hv : d.find? k with
  | none => rw [part, hv, Option.filter_none]
  | some v => rw [part, hv, Option.filter_some, if_pos (h v hv)]

lemma part_set_own {v : ν} (h : own v = true) :
    part own view (d.set k v) = Function.update (part own view d) k (some (view v)) := by
  funext l
  rw [part, find?_set]
  by_cases hl : l = k
  · subst hl
    rw [if_pos rfl, Option.filter_some, if_pos h, Function.update_self]
    rfl
  · rw [if_neg hl, Function.update_of_ne hl]
    rfl

lemma part_set_congr {v v' : ν} (h : part own view d = part own view d') (hv : own v = true)
    (hv' : own v' = true) (heq : view v = view v') :
    part own view (d.set k v) = part own view (d'.set k v') := by
  rw [part_set_own hv, part_set_own hv', h, heq]

/-- An entry of another party under a new key changes nothing. -/
lemma part_set_other {v : ν} (h : own v = false) (hk : d.find? k = none) :
    part own view (d.set k v) = part own view d := by
  funext l
  rw [part, part, find?_set]
  by_cases hl : l = k
  · subst hl
    rw [if_pos rfl, hk, Option.filter_some, h]
    rfl
  · rw [if_neg hl]

section Listing

variable {name : μ → κ} {r : ν → ν → Prop} [DecidableRel r] [Std.Total r] [IsTrans ν r]
  {q : μ → μ → Prop}

lemma part_names (hnames : ∀ k v, d.find? k = some v → own v = true → name (view v) = k) :
    (((d.values.filter own).map view).map name).Nodup := by
  have hkeys : ((d.values.filter own).map view).map name =
      (d.rows.filter fun e => own e.2).map Prod.fst := by
    have hfilter : d.values.filter own = (d.rows.filter fun e => own e.2).map Prod.snd := by
      rw [values, List.filter_map]
      rfl
    rw [hfilter, List.map_map, List.map_map, List.map_inj_left]
    rintro ⟨k, v⟩ hmem
    obtain ⟨hrow, hown⟩ := List.mem_filter.mp hmem
    exact hnames k v (find?_eq_some_iff.mpr hrow) hown
  rw [hkeys]
  exact d.nodup.sublist (List.filter_sublist.map _)

lemma mem_part_values {x : μ} :
    x ∈ (d.values.filter own).map view ↔ ∃ k, part own view d k = some x := by
  simp only [List.mem_map, List.mem_filter, mem_values_iff_find?, part_eq_some]
  constructor
  · rintro ⟨v, ⟨⟨k, hk⟩, hown⟩, rfl⟩
    exact ⟨k, v, hk, hown, rfl⟩
  · rintro ⟨k, v, hk, hown, rfl⟩
    exact ⟨v, ⟨⟨k, hk⟩, hown⟩, rfl⟩

/-- Dictionaries with the same part list it alike, if the names of the entries order them. -/
lemma listing_eq (hnames : ∀ k v, d.find? k = some v → own v = true → name (view v) = k)
    (hnames' : ∀ k v, d'.find? k = some v → own v = true → name (view v) = k)
    (hq : ∀ a b, r a b → q (view a) (view b))
    (hanti : ∀ x y, q x y → q y x → name x = name y)
    (h : part own view d = part own view d') :
    ((d.values.filter own).insertionSort r).map view =
      ((d'.values.filter own).insertionSort r).map view := by
  have hnodup := part_names hnames
  have hperm : ((d.values.filter own).map view).Perm ((d'.values.filter own).map view) := by
    refine (List.perm_ext_iff_of_nodup hnodup.of_map (part_names hnames').of_map).mpr ?_
    intro x
    rw [mem_part_values, mem_part_values, h]
  have hsort : ∀ l : List ν, ((l.insertionSort r).map view).Perm (l.map view) :=
    fun l => (List.perm_insertionSort r l).map view
  have hsorted : ∀ l : List ν, ((l.insertionSort r).map view).Pairwise q := fun l =>
    List.pairwise_map.mpr ((List.pairwise_insertionSort r l).imp (hq _ _))
  refine ((hsort _).trans (hperm.trans (hsort _).symm)).eq_of_pairwise ?_ (hsorted _) (hsorted _)
  intro x y hx hy hxy hyx
  have hx' := (hsort _).mem_iff.mp hx
  have hy' := hperm.mem_iff.mpr ((hsort _).mem_iff.mp hy)
  exact List.inj_on_of_nodup_map hnodup hx' hy' (hanti x y hxy hyx)

end Listing

/-- Entries that stand under their names, listed by name. -/
lemma listing_by_name {own : ν → Bool} {view : ν → μ} {d d' : Dict String ν} (id : ν → String)
    (name : μ → String) (h : part own view d = part own view d')
    (hview : ∀ v, name (view v) = id v) (hid : ∀ k v, d.find? k = some v → id v = k)
    (hid' : ∀ k v, d'.find? k = some v → id v = k) :
    ((d.values.filter own).insertionSort fun a b => id a ≤ id b).map view =
      ((d'.values.filter own).insertionSort fun a b => id a ≤ id b).map view := by
  have htotal : Std.Total fun a b : ν => id a ≤ id b := ⟨fun a b => String.le_total (id a) (id b)⟩
  have htrans : IsTrans ν fun a b => id a ≤ id b := ⟨fun _ _ _ => String.le_trans⟩
  refine @listing_eq _ _ _ _ own view d d' name _ _ htotal htrans (fun x y => name x ≤ name y)
    ?_ ?_ ?_ ?_ h
  · intro k v hv _
    exact (hview v).trans (hid k v hv)
  · intro k v hv _
    exact (hview v).trans (hid' k v hv)
  · intro a b hab
    rw [hview, hview]
    exact hab
  · intro a b hab hba
    exact String.le_antisymm hab hba

end SecScanMonitor.Foundations.Dict
