import SecScanMonitor.Foundations.Regex

/-! Substitution in lists of things that an expression sees as characters. What is seen of the result is the
substituted text. -/

namespace SecScanMonitor.Foundations

namespace Regex

variable {α : Type} (view : α → Char) (r : Regex) (new : List α)

/-- `substFrom`, for what is seen. -/
def substFromBy : ℕ → Option Char → List α → List α
  | _, _, [] => []
  | skip + 1, _, x :: xs => substFromBy skip (some (view x)) xs
  | 0, l, x :: xs =>
    match (ends r ⟨l, (x :: xs).map view⟩).head? with
    | some e =>
      if e.ahead.length ≤ xs.length then
        new ++ substFromBy (xs.length - e.ahead.length) (some (view x)) xs
      else x :: substFromBy 0 (some (view x)) xs
    | none => x :: substFromBy 0 (some (view x)) xs

def substBy (t : List α) : List α := substFromBy view r new 0 none t

def searchBy (t : List α) : Bool := r.search (t.map view)

variable {view r new}

lemma map_substFromBy (skip : ℕ) (l : Option Char) (t : List α) :
    (substFromBy view r new skip l t).map view = substFrom r (new.map view) skip l (t.map view) := by
  induction t generalizing skip l with
  | nil => cases skip <;> rfl
  | cons x xs ih =>
    cases skip with
    | succ skip => exact ih skip _
    | zero =>
      rw [substFromBy, List.map_cons, substFrom]
      cases (ends r ⟨l, view x :: xs.map view⟩).head? with
      | none => exact congrArg (view x :: ·) (ih 0 _)
      | some e =>
        simp only [List.length_map]
        split
        · rw [List.map_append, ih]
        · rw [List.map_cons, ih]

/-- What is seen of a substitution is the substitution in what is seen. -/
theorem map_substBy (t : List α) : (substBy view r new t).map view = subst r (new.map view) (t.map view) :=
  map_substFromBy 0 none t

lemma substBy_nil : substBy view r new [] = [] := rfl

lemma searchBy_iff {t : List α} : searchBy view r t = true ↔ Occurs r (t.map view) := search_iff

end Regex

end SecScanMonitor.Foundations
