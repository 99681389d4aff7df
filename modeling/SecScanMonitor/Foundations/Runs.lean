import Mathlib.Logic.Relation

/-! Runs of a transition system, and the two rules by which facts about one step become facts about
runs: an inductive invariant holds in every reachable state, a stable fact survives every later
step. -/

namespace SecScanMonitor.Foundations

universe u

variable {σ : Type u}

abbrev Run (step : σ → σ → Prop) : σ → σ → Prop := Relation.ReflTransGen step

def Reachable (initial : σ → Prop) (step : σ → σ → Prop) (s : σ) : Prop :=
  ∃ s₀, initial s₀ ∧ Run step s₀ s

structure Inductive (initial : σ → Prop) (step : σ → σ → Prop) (inv : σ → Prop) : Prop where
  start : ∀ s, initial s → inv s
  next : ∀ s t, inv s → step s t → inv t

variable {initial inv p : σ → Prop} {step : σ → σ → Prop} {s t : σ}

lemma Reachable.start (h : initial s) : Reachable initial step s := ⟨s, h, .refl⟩

lemma Reachable.next (h : Reachable initial step s) (hs : step s t) : Reachable initial step t := by
  obtain ⟨s₀, h₀, hr⟩ := h
  exact ⟨s₀, h₀, hr.tail hs⟩

lemma Reachable.run (h : Reachable initial step s) (hr : Run step s t) :
    Reachable initial step t := by
  obtain ⟨s₀, h₀, hr₀⟩ := h
  exact ⟨s₀, h₀, hr₀.trans hr⟩

lemma run_stable (hp : ∀ s t, p s → step s t → p t) (hr : Run step s t) (hs : p s) : p t := by
  induction hr with
  | refl => exact hs
  | tail _ he ih => exact hp _ _ ih he

lemma Inductive.reachable (h : Inductive initial step inv) (hs : Reachable initial step s) :
    inv s := by
  obtain ⟨s₀, h₀, hr⟩ := hs
  exact run_stable h.next hr (h.start s₀ h₀)

lemma Inductive.stable (h : Inductive initial step inv)
    (hp : ∀ s t, inv s → p s → step s t → p t) (hs : Reachable initial step s)
    (hr : Run step s t) (h₀ : p s) : p t := by
  have hi := h.reachable hs
  have hboth := run_stable (p := fun u => inv u ∧ p u)
    (fun u w hu he => ⟨h.next u w hu.1 he, hp u w hu.1 hu.2 he⟩) hr ⟨hi, h₀⟩
  exact hboth.2

end SecScanMonitor.Foundations
