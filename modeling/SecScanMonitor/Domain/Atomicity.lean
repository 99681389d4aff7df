import Mathlib.Tactic.Common
import SecScanMonitor.Domain.Common

/-! What a computation over a mutable state leaves behind when it raises. -/

namespace SecScanMonitor.Domain

namespace Effect

variable {σ α : Type} {same : σ → σ → Prop} {m : Effect σ α} {s s' : σ}

/-- If the computation raises, the state is the same as before. -/
def Unharmed (same : σ → σ → Prop) (m : Effect σ α) (s : σ) : Prop :=
  ∀ x, (m s).1 = .error x → same (m s).2 s

lemma unharmed_of_ok {a : α} (h : m s = (.ok a, s')) : Unharmed same m s := by
  intro x hx
  rw [h] at hx
  cases hx

lemma unharmed_error {x : Raised} (h : m s = (.error x, s')) : Unharmed same m s ↔ same s' s := by
  rw [Unharmed, h]
  exact ⟨fun hsame => hsame x rfl, fun hsame _ _ => hsame⟩

/-- Where nothing was stored before the exception, nothing has to be undone. -/
lemma unharmed_of_kept (hrefl : ∀ s, same s s) {x : Raised} (h : m s = (.error x, s)) : Unharmed same m s :=
  (unharmed_error h).mpr (hrefl s)

end Effect

end SecScanMonitor.Domain
