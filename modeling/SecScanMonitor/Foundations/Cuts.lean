import Mathlib.Data.List.Basic

/-! Lists cut at a separator. -/

namespace SecScanMonitor.Foundations

variable {α : Type} {bar : α}

/-- Two cuts of one list are the same, or one of them lies within what is left of the other. -/
lemma cut_cases {a b x y : List α} (h : a ++ bar :: x = b ++ bar :: y) :
    (a = b ∧ x = y) ∨ (∃ z, b = a ++ bar :: z ∧ x = z ++ bar :: y) ∨
      ∃ z, a = b ++ bar :: z ∧ y = z ++ bar :: x := by
  induction a generalizing b with
  | nil =>
    cases b with
    | nil => exact Or.inl ⟨rfl, List.tail_eq_of_cons_eq h⟩
    | cons d b =>
      obtain ⟨rfl, rfl⟩ := List.cons.inj h
      exact Or.inr (Or.inl ⟨b, rfl, rfl⟩)
  | cons d a ih =>
    cases b with
    | nil =>
      obtain ⟨rfl, rfl⟩ := List.cons.inj h
      exact Or.inr (Or.inr ⟨a, rfl, rfl⟩)
    | cons e b =>
      obtain ⟨rfl, hrest⟩ := List.cons.inj h
      rcases ih hrest with ⟨rfl, rfl⟩ | ⟨z, rfl, rfl⟩ | ⟨z, rfl, rfl⟩
      · exact Or.inl ⟨rfl, rfl⟩
      · exact Or.inr (Or.inl ⟨z, rfl, rfl⟩)
      · exact Or.inr (Or.inr ⟨z, rfl, rfl⟩)

/-- Where the separator occurs in neither head, the first one ends both. -/
lemma first_cut {a b x y : List α} (ha : bar ∉ a) (hb : bar ∉ b) (h : a ++ bar :: x = b ++ bar :: y) :
    a = b ∧ x = y := by
  rcases cut_cases h with hsame | ⟨z, rfl, -⟩ | ⟨z, rfl, -⟩
  · exact hsame
  · exact absurd (List.mem_append_right a List.mem_cons_self) hb
  · exact absurd (List.mem_append_right b List.mem_cons_self) ha

end SecScanMonitor.Foundations
