import SecScanMonitor.Foundations.SortBy

/-! Stable sorting: the entries of one key stay in the order in which they were given, so that a sorted list
is known from the entries of each key. -/

namespace SecScanMonitor.Foundations

variable {α κ ι : Type} [LinearOrder κ]

/-- The entries of a key, as they follow each other. -/
def ofKey (key : α → κ) (k : κ) (l : List α) : List α := l.filter fun a => decide (key a = k)

/-- Entries of one key are the same entry. -/
def KeyedApart (key : α → κ) (l : List α) : Prop := ∀ a ∈ l, ∀ b ∈ l, key a = key b → a = b

variable {key : α → κ} {k : κ} {l l' : List α}

lemma mem_ofKey {a : α} : a ∈ ofKey key k l ↔ a ∈ l ∧ key a = k := by
  rw [ofKey, List.mem_filter, decide_eq_true_iff]

lemma ofKey_append : ofKey key k (l ++ l') = ofKey key k l ++ ofKey key k l' := List.filter_append l l'

lemma ofKey_cons_self {a : α} : ofKey key (key a) (a :: l) = a :: ofKey key (key a) l :=
  List.filter_cons_of_pos (decide_eq_true rfl)

lemma ofKey_cons {a : α} : ofKey key k (a :: l) = ofKey key k [a] ++ ofKey key k l :=
  ofKey_append (l := [a])

lemma ofKey_sortBy : ofKey key k (sortBy key l) = ofKey key k l := by
  have hsame : (ofKey key k l).Pairwise fun a b => key a ≤ key b := by
    refine List.pairwise_of_forall_mem_list ?_
    intro a ha b hb
    exact le_of_eq ((mem_ofKey.mp ha).2.trans (mem_ofKey.mp hb).2.symm)
  have htotal : Std.Total fun a b : α => key a ≤ key b := ⟨fun a b => le_total (key a) (key b)⟩
  have htrans : IsTrans α fun a b => key a ≤ key b := ⟨fun _ _ _ => le_trans⟩
  have hsub : (ofKey key k l).Sublist (sortBy key l) := List.sublist_insertionSort hsame List.filter_sublist
  have hkept := hsub.filter fun a => decide (key a = k)
  rw [ofKey, List.filter_filter] at hkept
  simp only [Bool.and_self] at hkept
  exact (hkept.eq_of_length ((sortBy_perm.filter _).length_eq).symm).symm

/-- Sorted lists with the same entries at every key are the same. -/
lemma eq_of_ofKey (h : l.Pairwise fun a b => key a ≤ key b) (h' : l'.Pairwise fun a b => key a ≤ key b)
    (hkeys : ∀ k, ofKey key k l = ofKey key k l') : l = l' := by
  have hmem : ∀ a, a ∈ l ↔ a ∈ l' := by
    intro a
    have hat := congrArg (a ∈ ·) (hkeys (key a))
    simpa only [mem_ofKey, and_true, eq_iff_iff] using hat
  induction l generalizing l' with
  | nil =>
    cases l' with
    | nil => rfl
    | cons b l' => exact absurd ((hmem b).mpr List.mem_cons_self) List.not_mem_nil
  | cons a l ih =>
    cases l' with
    | nil => exact absurd ((hmem a).mp List.mem_cons_self) List.not_mem_nil
    | cons b l' =>
      obtain ⟨hleast, hsorted⟩ := List.pairwise_cons.mp h
      obtain ⟨hleast', hsorted'⟩ := List.pairwise_cons.mp h'
      have hab : key a ≤ key b := by
        rcases List.mem_cons.mp ((hmem b).mpr List.mem_cons_self) with rfl | hb
        · exact le_refl _
        · exact hleast b hb
      have hba : key b ≤ key a := by
        rcases List.mem_cons.mp ((hmem a).mp List.mem_cons_self) with rfl | ha
        · exact le_refl _
        · exact hleast' a ha
      have hfirst := hkeys (key a)
      rw [ofKey_cons_self, le_antisymm hab hba, ofKey_cons_self] at hfirst
      obtain rfl := (List.cons.inj hfirst).1
      have hrest : ∀ k, ofKey key k l = ofKey key k l' := by
        intro k
        have hk := hkeys k
        rw [ofKey_cons, @ofKey_cons _ _ _ _ _ l'] at hk
        exact List.append_cancel_left hk
      rw [ih hsorted hsorted' hrest fun c => by
        simpa only [mem_ofKey, and_true, eq_iff_iff] using congrArg (c ∈ ·) (hrest (key c))]

theorem sortBy_eq_iff : sortBy key l = sortBy key l' ↔ ∀ k, ofKey key k l = ofKey key k l' := by
  constructor
  · intro h k
    rw [← ofKey_sortBy, h, ofKey_sortBy]
  · intro h
    refine eq_of_ofKey sortBy_sorted sortBy_sorted ?_
    intro k
    rw [ofKey_sortBy, ofKey_sortBy, h k]

lemma ofKey_eq_of_perm (hperm : l.Perm l') (h : KeyedApart key l) : ofKey key k l = ofKey key k l' := by
  have hany : ∀ m : List α, m.Pairwise fun _ _ => True := fun m => List.pairwise_of_forall fun _ _ => trivial
  refine (hperm.filter _).eq_of_pairwise ?_ (hany _) (hany _)
  intro a b ha hb _ _
  obtain ⟨ha, hka⟩ := mem_ofKey.mp ha
  obtain ⟨hb, hkb⟩ := mem_ofKey.mp hb
  exact h a ha b (hperm.mem_iff.mpr hb) (hka.trans hkb.symm)

omit [LinearOrder κ] in
lemma keyedApart_filterMap {f : ι → Option α} {sources : List ι} : KeyedApart key (sources.filterMap f) ↔
    ∀ x ∈ sources, ∀ y ∈ sources, ∀ a b, f x = some a → f y = some b → key a = key b → a = b := by
  constructor
  · intro h x hx y hy a b ha hb
    exact h a (List.mem_filterMap.mpr ⟨x, hx, ha⟩) b (List.mem_filterMap.mpr ⟨y, hy, hb⟩)
  · intro h a ha b hb
    obtain ⟨x, hx, hfx⟩ := List.mem_filterMap.mp ha
    obtain ⟨y, hy, hfy⟩ := List.mem_filterMap.mp hb
    exact h x hx y hy a b hfx hfy

/-- The sorted list does not depend on the order of some of its sources exactly where those of one key give
the same entry. -/
theorem sortBy_reorder_iff {f : ι → Option α} {sources : List ι} (before after : List α) :
    (∀ sources' : List ι, sources.Perm sources' →
      sortBy key (before ++ (sources'.filterMap f ++ after)) =
        sortBy key (before ++ (sources.filterMap f ++ after))) ↔
      KeyedApart key (sources.filterMap f) := by
  have hcancel : ∀ sources' : List ι, sortBy key (before ++ (sources'.filterMap f ++ after)) =
      sortBy key (before ++ (sources.filterMap f ++ after)) ↔
      ∀ k, ofKey key k (sources'.filterMap f) = ofKey key k (sources.filterMap f) := by
    intro sources'
    rw [sortBy_eq_iff]
    simp only [ofKey_append, List.append_cancel_left_eq, List.append_cancel_right_eq]
  simp only [hcancel]
  constructor
  · -- A source moved to the front leads the entries of its key, and so does every other source of the key.
    intro h
    have hleads : ∀ a ∈ sources.filterMap f, (ofKey key (key a) (sources.filterMap f)).head? = some a := by
      intro a ha
      obtain ⟨x, hx, hfx⟩ := List.mem_filterMap.mp ha
      obtain ⟨s, t, rfl⟩ := List.append_of_mem hx
      rw [← h (x :: (s ++ t)) List.perm_middle, List.filterMap_cons_some hfx, ofKey_cons_self]
      rfl
    intro a ha b hb hab
    have hlead := hleads a ha
    rw [hab, hleads b hb] at hlead
    exact (Option.some.inj hlead).symm
  · intro h sources' hperm k
    exact (ofKey_eq_of_perm (hperm.filterMap f) h).symm

end SecScanMonitor.Foundations
