import SecScanMonitor.Foundations.Cuts

/-! Four fields joined by a bar, of which the first three must not be blank. A field may hold bars itself, so
that the joined text can be read in other ways; those that cannot are characterised. -/

namespace SecScanMonitor.Foundations.Joined

variable {α : Type} {bar : α} {blank : α → Prop}

def Blank (blank : α → Prop) (l : List α) : Prop := ∀ a ∈ l, blank a

def joined (bar : α) (t c g k : List α) : List α := t ++ bar :: (c ++ bar :: (g ++ bar :: k))

/-- No bar can be moved from one field to another without a field becoming blank. -/
structure Unmistakable (bar : α) (blank : α → Prop) (t c g k : List α) : Prop where
  first : ∀ x y, t = x ++ bar :: y → Blank blank x ∧ bar ∉ y
  second : ∀ x y, c = x ++ bar :: y → Blank blank x ∧ Blank blank y
  third : ∀ x y, g = x ++ bar :: y → Blank blank x ∧ Blank blank y
  last : bar ∉ k

lemma not_blank_of_bar {x y : List α} (hbar : ¬ blank bar) : ¬ Blank blank (x ++ bar :: y) :=
  fun h => hbar (h bar (List.mem_append_right x List.mem_cons_self))

section Reading

variable {t c g k t' c' g' k' : List α}

/-- The bar that ends what is blank is not the bar that ends what is not, if no bar follows. -/
lemma last_ne {v : List α} (hbar : ¬ blank bar) (hv : Blank blank v) (hk : bar ∉ k)
    (hg' : ¬ Blank blank g') : g' ++ bar :: k' ≠ v ++ bar :: k := by
  intro h
  rcases cut_cases h with ⟨rfl, -⟩ | ⟨z, rfl, -⟩ | ⟨z, -, rfl⟩
  · exact hg' hv
  · exact not_blank_of_bar hbar hv
  · exact hk (List.mem_append_right z List.mem_cons_self)

/-- What is left after the third field holds no bar, so a cut before it lies in that field. -/
lemma third_cut {w r : List α} (h : Unmistakable bar blank t c g k) (hr : bar ∈ r)
    (heq : g ++ bar :: k = w ++ bar :: r) :
    ∃ v, r = v ++ bar :: k ∧ Blank blank w ∧ Blank blank v := by
  rcases cut_cases heq with ⟨-, rfl⟩ | ⟨z, -, rfl⟩ | ⟨v, hg, rfl⟩
  · exact absurd hr h.last
  · exact absurd (List.mem_append_right z List.mem_cons_self) h.last
  · exact ⟨v, rfl, h.third w v hg⟩

/-- The joined text of unmistakable fields can be read in one way. -/
theorem joined_inj (hbar : ¬ blank bar) (h : Unmistakable bar blank t c g k) (ht' : ¬ Blank blank t')
    (hc' : ¬ Blank blank c') (hg' : ¬ Blank blank g')
    (heq : joined bar t' c' g' k' = joined bar t c g k) : t' = t ∧ c' = c ∧ g' = g ∧ k' = k := by
  have hmem : ∀ x y : List α, bar ∈ x ++ bar :: y := fun x y => List.mem_append_right x List.mem_cons_self
  rcases cut_cases heq.symm with ⟨rfl, hc⟩ | ⟨x, rfl, hc⟩ | ⟨x, htx, -⟩
  · rcases cut_cases hc with ⟨rfl, hg⟩ | ⟨x, rfl, hg⟩ | ⟨x, hcx, -⟩
    · rcases cut_cases hg with ⟨rfl, rfl⟩ | ⟨y, -, rfl⟩ | ⟨y, hgy, -⟩
      · exact ⟨rfl, rfl, rfl, rfl⟩
      · exact absurd (hmem y k') h.last
      · exact absurd (h.third g' y hgy).1 hg'
    · obtain ⟨v, hv, -, hblank⟩ := third_cut h (hmem g' k') hg
      exact absurd hv (last_ne hbar hblank h.last hg')
    · exact absurd (h.second c' x hcx).1 hc'
  · -- the first field of the other reading has taken a bar
    rcases cut_cases hc with ⟨rfl, hg⟩ | ⟨z, rfl, hg⟩ | ⟨z, hcz, hrest⟩
    · obtain ⟨v, hv, hblank, -⟩ := third_cut h (hmem g' k') hg
      exact absurd hblank hc'
    · obtain ⟨v, hv, -, hblank⟩ := third_cut h (hmem c' _) hg
      rcases cut_cases hv with ⟨rfl, -⟩ | ⟨u, rfl, -⟩ | ⟨u, -, rfl⟩
      · exact absurd hblank hc'
      · exact absurd hblank (not_blank_of_bar hbar)
      · exact absurd (hmem u _) h.last
    · have hblank := (h.second x z hcz).2
      rcases cut_cases hrest with ⟨rfl, -⟩ | ⟨u, rfl, -⟩ | ⟨u, -, hg⟩
      · exact absurd hblank hc'
      · exact absurd hblank (not_blank_of_bar hbar)
      · obtain ⟨v, hv, -, hv'⟩ := third_cut h (hmem g' k') hg
        exact absurd hv (last_ne hbar hv' h.last hg')
  · exact absurd (h.first t' x htx).1 ht'

/-- Exactly the unmistakable fields are told apart by their joined text from all other ones. -/
theorem told_apart_iff (hbar : ¬ blank bar) (ht : ¬ Blank blank t) (hc : ¬ Blank blank c)
    (hg : ¬ Blank blank g) :
    (∀ t' c' g' k', ¬ Blank blank t' → ¬ Blank blank c' → ¬ Blank blank g' →
      joined bar t' c' g' k' = joined bar t c g k → t' = t ∧ c' = c ∧ g' = g ∧ k' = k) ↔
    Unmistakable bar blank t c g k := by
  have hlonger : ∀ x y : List α, x ≠ x ++ bar :: y := by
    intro x y h
    have hlength := congrArg List.length h
    simp at hlength
  constructor
  · intro h
    have hfull : ∀ x y : List α, ¬ Blank blank (x ++ bar :: y) := fun _ _ => not_blank_of_bar hbar
    constructor
    · rintro x y rfl
      refine ⟨by_contra fun hx => ?_, fun hy => ?_⟩
      · have hsame := h x (y ++ bar :: c) g k hx (hfull y c) hg (by simp [joined])
        exact hlonger x y hsame.1
      · obtain ⟨y, y', rfl⟩ := List.append_of_mem hy
        have hsame := h (x ++ bar :: y) (y' ++ bar :: c) g k (hfull x y) (hfull y' c) hg (by simp [joined])
        have hlength := congrArg List.length hsame.1
        simp at hlength
    · rintro x y rfl
      refine ⟨by_contra fun hx => ?_, by_contra fun hy => ?_⟩
      · have hsame := h t x (y ++ bar :: g) k ht hx (hfull y g) (by simp [joined])
        exact hlonger x y hsame.2.1
      · have hsame := h (t ++ bar :: x) y g k (hfull t x) hy hg (by simp [joined])
        exact hlonger t x hsame.1.symm
    · rintro x y rfl
      refine ⟨by_contra fun hx => ?_, by_contra fun hy => ?_⟩
      · have hsame := h t c x (y ++ bar :: k) ht hc hx (by simp [joined])
        exact hlonger x y hsame.2.2.1
      · have hsame := h t (c ++ bar :: x) y k ht (hfull c x) hy (by simp [joined])
        exact hlonger c x hsame.2.1.symm
    · intro hk
      obtain ⟨x, y, rfl⟩ := List.append_of_mem hk
      have hsame := h t c (g ++ bar :: x) y ht hc (hfull g x) (by simp [joined])
      exact hlonger g x hsame.2.2.1.symm
  · intro h t' c' g' k' ht' hc' hg' heq
    exact joined_inj hbar h ht' hc' hg' heq

end Reading

end SecScanMonitor.Foundations.Joined
