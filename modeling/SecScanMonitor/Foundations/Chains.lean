import Mathlib.Data.List.Nodup
import Mathlib.Data.List.Induction

/-! Records that name their predecessor. Where each record names the one before it, following the names
from the last record meets every record once. -/

namespace SecScanMonitor.Foundations.Chains

universe u v

variable {κ : Type u} {ρ : Type v} (id : ρ → κ) (previous : ρ → Option κ)

/-- Each record names the one before it, and the first names `start`. -/
def Linked : Option κ → List ρ → Prop
  | _, [] => True
  | start, r :: rs => previous r = start ∧ Linked (some (id r)) rs

instance [DecidableEq κ] : ∀ (start : Option κ) (rs : List ρ), Decidable (Linked id previous start rs)
  | _, [] => isTrue trivial
  | start, r :: rs =>
    have := instDecidableLinkedOfDecidableEq (some (id r)) rs
    inferInstanceAs (Decidable (previous r = start ∧ Linked id previous (some (id r)) rs))

/-- The record that the next one has to name. -/
def tip (start : Option κ) (rs : List ρ) : Option κ := (rs.getLast?.map id).or start

@[simp] lemma tip_nil (start : Option κ) : tip id start [] = start := rfl

@[simp] lemma tip_concat (start : Option κ) (rs : List ρ) (r : ρ) :
    tip id start (rs ++ [r]) = some (id r) := by
  simp [tip]

lemma tip_none (rs : List ρ) : tip id none rs = rs.getLast?.map id := by
  simp [tip]

lemma tip_cons (start : Option κ) (r : ρ) (rs : List ρ) :
    tip id start (r :: rs) = tip id (some (id r)) rs := by
  cases rs with
  | nil => rfl
  | cons s rs => simp [tip, List.getLast?_cons]

variable {id previous}

lemma linked_append {start : Option κ} {rs ss : List ρ} :
    Linked id previous start (rs ++ ss) ↔
      Linked id previous start rs ∧ Linked id previous (tip id start rs) ss := by
  induction rs generalizing start with
  | nil => exact ⟨fun h => ⟨trivial, h⟩, fun h => h.2⟩
  | cons r rs ih =>
    rw [List.cons_append, Linked, Linked, ih, tip_cons, and_assoc]

lemma linked_concat {start : Option κ} {rs : List ρ} {r : ρ} :
    Linked id previous start (rs ++ [r]) ↔
      Linked id previous start rs ∧ previous r = tip id start rs := by
  rw [linked_append, Linked, Linked, and_true]

section Walk

variable [DecidableEq κ] (id previous)

/-- Follow the names from one of them, at most so many times. -/
def walk (rows : List ρ) : ℕ → Option κ → List ρ
  | 0, _ => []
  | _ + 1, none => []
  | n + 1, some k =>
    match rows.find? fun r => decide (id r = k) with
    | none => []
    | some r => r :: walk rows n (previous r)

variable {id previous}

@[simp] lemma walk_none (rows : List ρ) (n : ℕ) : walk id previous rows n none = [] := by
  cases n <;> rfl

lemma walk_mem {rows : List ρ} (hnodup : (rows.map id).Nodup) {r : ρ} (hr : r ∈ rows) (n : ℕ) :
    walk id previous rows (n + 1) (some (id r)) = r :: walk id previous rows n (previous r) := by
  have hfind : (rows.find? fun s => decide (id s = id r)) = some r := by
    cases hs : rows.find? fun s => decide (id s = id r) with
    | none =>
      have hn := List.find?_eq_none.mp hs r hr
      simp at hn
    | some s =>
      have hid := List.find?_some hs
      have heq := List.inj_on_of_nodup_map hnodup (List.mem_of_find?_eq_some hs) hr
        (of_decide_eq_true hid)
      rw [heq]
  rw [walk, hfind]

/-- The walk from the end of a part of the records goes back through that part. -/
lemma walk_part {rows : List ρ} (hnodup : (rows.map id).Nodup) {rs : List ρ}
    (hlinked : Linked id previous none rs) (hrows : ∀ r ∈ rs, r ∈ rows) {n : ℕ}
    (hn : rs.length ≤ n) : walk id previous rows n (tip id none rs) = rs.reverse := by
  induction rs using List.reverseRecOn generalizing n with
  | nil => exact walk_none rows n
  | append_singleton rs r ih =>
    obtain ⟨hrs, hr⟩ := linked_concat.mp hlinked
    rw [List.length_append, List.length_singleton] at hn
    obtain ⟨m, rfl⟩ : ∃ m, n = m + 1 := ⟨n - 1, by omega⟩
    rw [tip_concat, walk_mem hnodup (hrows r (by simp)), hr,
      ih hrs (fun s hs => hrows s (by simp [hs])) (by omega), List.reverse_append]
    rfl

lemma walk_linked {rows : List ρ} (hnodup : (rows.map id).Nodup)
    (hlinked : Linked id previous none rows) {n : ℕ} (hn : rows.length ≤ n) :
    walk id previous rows n (rows.getLast?.map id) = rows.reverse := by
  rw [← tip_none]
  exact walk_part hnodup hlinked (fun _ hr => hr) hn

end Walk

end SecScanMonitor.Foundations.Chains
