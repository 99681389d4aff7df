import SecScanMonitor.Foundations.Runs
import Mathlib.Order.Lattice

/-! Work handed out under expiring leases. An item is free, held by a worker until a deadline, or
done for good; it is acquired, given back or finished, and only its holder does the last two. -/

namespace SecScanMonitor.Foundations

universe u v w

inductive Lease (W : Type u) (T : Type v) (R : Type w) where
  | free
  | held (worker : W) (expiry : T)
  | done (outcome : R)

namespace Lease

variable {W : Type u} {T : Type v} {R : Type w} [LinearOrder T]

def HeldBy (l : Lease W T R) (now : T) (a : W) : Prop :=
  ∃ expiry, l = .held a expiry ∧ now < expiry

inductive Event (W : Type u) (T : Type v) (R : Type w) where
  | acquire (worker : W) (expiry : T)
  | release (worker : W)
  | finish (worker : W) (outcome : R)

inductive Step (now : T) : Lease W T R → Event W T R → Lease W T R → Prop
  | acquire {a : W} {e : T} : Step now .free (.acquire a e) (.held a e)
  | renew {a : W} {e e' : T} : Step now (.held a e) (.acquire a e') (.held a e')
  | retake {a b : W} {e e' : T} : e ≤ now → Step now (.held b e) (.acquire a e') (.held a e')
  | release {a : W} {e : T} : now < e → Step now (.held a e) (.release a) .free
  | finish {a : W} {e : T} {r : R} : now < e → Step now (.held a e) (.finish a r) (.done r)

def Moves (l l' : Lease W T R) : Prop := l' = l ∨ ∃ now ev, Step now l ev l'

variable {l l' : Lease W T R} {now : T} {a b : W}

lemma Step.acquire_excludes {e : T} (h : Step now l (.acquire a e) l')
    (hb : l.HeldBy now b) : b = a := by
  obtain ⟨e', rfl, hlt⟩ := hb
  cases h with
  | renew => rfl
  | retake he => exact absurd hlt (not_lt.mpr he)

lemma Step.holder_of_release (h : Step now l (.release a) l') : l.HeldBy now a := by
  cases h with
  | release he => exact ⟨_, rfl, he⟩

lemma Step.holder_of_finish {r : R} (h : Step now l (.finish a r) l') : l.HeldBy now a := by
  cases h with
  | finish he => exact ⟨_, rfl, he⟩

lemma Moves.done {r : R} (h : Moves (.done r) l') : l' = .done r := by
  rcases h with rfl | ⟨now, ev, hs⟩
  · rfl
  · cases hs

lemma run_done {r : R} (h : Run Moves l l') (hl : l = .done r) : l' = .done r :=
  run_stable (p := fun m => m = .done r) (fun _ _ hm hs => (hm ▸ hs).done) h hl

end Lease

end SecScanMonitor.Foundations
