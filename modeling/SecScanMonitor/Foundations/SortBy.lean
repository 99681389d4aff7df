import Mathlib.Data.List.Sort
import Mathlib.Data.List.Lex
import Mathlib.Data.String.Basic

/-! Lists sorted by a key. Where no two entries share a key, the sorted list does not depend on the order of
the entries. -/

namespace SecScanMonitor.Foundations

variable {α κ : Type} [LinearOrder κ]

def sortBy (key : α → κ) (l : List α) : List α := l.insertionSort fun a b => key a ≤ key b

variable {key : α → κ} {l l' : List α}

lemma sortBy_perm : (sortBy key l).Perm l := List.perm_insertionSort _ l

@[simp] lemma mem_sortBy {a : α} : a ∈ sortBy key l ↔ a ∈ l := sortBy_perm.mem_iff

lemma sortBy_sorted : (sortBy key l).Pairwise fun a b => key a ≤ key b := by
  have htotal : Std.Total fun a b : α => key a ≤ key b := ⟨fun a b => le_total (key a) (key b)⟩
  have htrans : IsTrans α fun a b => key a ≤ key b := ⟨fun _ _ _ => le_trans⟩
  exact List.pairwise_insertionSort _ l

lemma sortBy_of_sorted (h : l.Pairwise fun a b => key a ≤ key b) : sortBy key l = l := by
  have htotal : Std.Total fun a b : α => key a ≤ key b := ⟨fun a b => le_total (key a) (key b)⟩
  have htrans : IsTrans α fun a b => key a ≤ key b := ⟨fun _ _ _ => le_trans⟩
  exact List.Pairwise.insertionSort_eq h

/-- Permutations of entries with different keys are sorted alike. -/
lemma sortBy_eq_of_perm (hkeys : (l.map key).Nodup) (h : l.Perm l') : sortBy key l = sortBy key l' := by
  refine ((sortBy_perm.trans h).trans sortBy_perm.symm).eq_of_pairwise ?_ sortBy_sorted sortBy_sorted
  intro a b ha hb hab hba
  have ha' := sortBy_perm.mem_iff.mp ha
  have hb' := h.mem_iff.mpr (sortBy_perm.mem_iff.mp hb)
  exact List.inj_on_of_nodup_map hkeys ha' hb' (le_antisymm hab hba)

section Last

variable {r : α → α → Prop} [DecidableRel r] [Std.Total r] [IsTrans α r]

lemma related_getLast? {m x : α} (hm : (l.insertionSort r).getLast? = some m) (hx : x ∈ l) : r x m := by
  obtain ⟨earlier, hsorted⟩ := List.getLast?_eq_some_iff.mp hm
  have hpairs := List.pairwise_insertionSort r l
  rw [hsorted, List.pairwise_append] at hpairs
  have hmem : x ∈ earlier ++ [m] := hsorted ▸ (List.mem_insertionSort r).mpr hx
  rcases List.mem_append.mp hmem with hx | hx
  · exact hpairs.2.2 x hx m List.mem_cons_self
  · rw [List.mem_singleton.mp hx]
    exact (Std.Total.total (r := r) m m).elim id id

/-- A stable sort: the first element ends up last only where it is below none of the others. -/
lemma getLast?_insertionSort_eq_head {a : α} (hnodup : (a :: l).Nodup) :
    ((a :: l).insertionSort r).getLast? = some a ↔ ∀ b ∈ l, ¬ r a b := by
  constructor
  · intro hlast b hb hab
    obtain ⟨earlier, hsorted⟩ := List.getLast?_eq_some_iff.mp hlast
    have hpair : [a, b].Sublist (earlier ++ [a]) := by
      rw [← hsorted]
      exact List.pair_sublist_insertionSort hab ((List.singleton_sublist.mpr hb).cons_cons a)
    have hearlier : a ∉ earlier := by
      have h := (List.perm_insertionSort r (a :: l)).nodup_iff.mpr hnodup
      rw [hsorted, List.nodup_append] at h
      exact fun ha => h.2.2 a ha a List.mem_cons_self rfl
    obtain ⟨c₁, c₂, hsplit, h₁, h₂⟩ := List.sublist_append_iff.mp hpair
    cases c₁ with
    | nil =>
      obtain rfl : [a, b] = c₂ := hsplit
      exact absurd h₂.length_le (by simp)
    | cons x c₁ =>
      obtain rfl := (List.cons.inj hsplit).1
      exact hearlier (h₁.subset List.mem_cons_self)
  · intro hbelow
    cases hlast : ((a :: l).insertionSort r).getLast? with
    | none =>
      have hmem : a ∈ (a :: l).insertionSort r := (List.mem_insertionSort r).mpr List.mem_cons_self
      rw [List.getLast?_eq_none_iff.mp hlast] at hmem
      cases hmem
    | some m =>
      rcases List.mem_cons.mp ((List.mem_insertionSort r).mp (List.mem_of_getLast? hlast)) with rfl | hm
      · rfl
      · exact absurd (related_getLast? hlast List.mem_cons_self) (hbelow m hm)

end Last

section Around

variable {β : Type} (k : κ)

lemma orderedInsert_around (b : κ × β) (l₁ l₂ : List (κ × β)) : ∃ l₁' l₂', ∀ a,
    (l₁ ++ (k, a) :: l₂).orderedInsert (fun b c => b.1 ≤ c.1) b = l₁' ++ (k, a) :: l₂' := by
  induction l₁ with
  | nil =>
    by_cases hk : b.1 ≤ k
    · refine ⟨[b], l₂, ?_⟩
      intro a
      exact List.orderedInsert_cons_of_le _ l₂ hk
    · refine ⟨[], l₂.orderedInsert (fun b c => b.1 ≤ c.1) b, ?_⟩
      intro a
      exact List.orderedInsert_of_not_le _ l₂ hk
  | cons c l₁ ih =>
    by_cases hc : b.1 ≤ c.1
    · refine ⟨b :: c :: l₁, l₂, ?_⟩
      intro a
      exact List.orderedInsert_cons_of_le _ _ hc
    · obtain ⟨l₁', l₂', hinsert⟩ := ih
      refine ⟨c :: l₁', l₂', ?_⟩
      intro a
      exact (List.orderedInsert_of_not_le (fun b c : κ × β => b.1 ≤ c.1) _ hc).trans (congrArg (c :: ·) (hinsert a))

/-- Where an entry of a key is put depends on nothing but its key. -/
lemma sortBy_around (before after : List (κ × β)) : ∃ l₁ l₂, ∀ a,
    sortBy Prod.fst (before ++ (k, a) :: after) = l₁ ++ (k, a) :: l₂ := by
  induction before with
  | nil =>
    refine ⟨(sortBy Prod.fst after).takeWhile fun b => ¬ k ≤ b.1,
      (sortBy Prod.fst after).dropWhile fun b => ¬ k ≤ b.1, ?_⟩
    intro a
    exact List.orderedInsert_eq_take_drop _ (k, a) (sortBy Prod.fst after)
  | cons b before ih =>
    obtain ⟨l₁, l₂, hsort⟩ := ih
    obtain ⟨l₁', l₂', hinsert⟩ := orderedInsert_around k b l₁ l₂
    refine ⟨l₁', l₂', ?_⟩
    intro a
    rw [← hinsert a, ← hsort a]
    rfl

end Around

end SecScanMonitor.Foundations
