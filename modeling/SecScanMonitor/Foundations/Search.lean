import Mathlib.Logic.Relation
import Mathlib.Data.List.Nodup
import Mathlib.Data.List.Perm.Subperm

/-! Exploring a space of states from a queue. An item that has been reached is queued unless an item of its state
has been queued before; whatever the order of the queue, each state that can be reached is met exactly once. -/

namespace SecScanMonitor.Foundations.Search

open Relation

variable {π σ : Type} [DecidableEq σ] (expand : π → List π) (state : π → σ)

/-- The items of new states, in their order, and the states that have been seen with them. -/
def enqueue : List π → List σ → List π × List σ
  | [], seen => ([], seen)
  | x :: xs, seen =>
    if state x ∈ seen then enqueue xs seen
    else
      let rest := enqueue xs (state x :: seen)
      (x :: rest.1, rest.2)

/-- The items in the order in which they are taken from the queue; `none` where the fuel runs out. -/
def search : ℕ → List π → List σ → Option (List π)
  | _, [], _ => some []
  | 0, _ :: _, _ => none
  | fuel + 1, x :: queue, seen =>
    let fresh := enqueue state (expand x) seen
    (search fuel (queue ++ fresh.1) fresh.2).map (x :: ·)

variable {expand state}

lemma mem_enqueue_seen {xs : List π} {seen : List σ} {s : σ} :
    s ∈ (enqueue state xs seen).2 ↔ s ∈ seen ∨ s ∈ (enqueue state xs seen).1.map state := by
  induction xs generalizing seen with
  | nil => simp [enqueue]
  | cons x xs ih =>
    rw [enqueue]
    split
    · exact ih
    · rw [ih, List.mem_cons, List.map_cons, List.mem_cons, or_assoc, or_left_comm]

lemma enqueue_sublist (xs : List π) (seen : List σ) : (enqueue state xs seen).1.Sublist xs := by
  induction xs generalizing seen with
  | nil => exact List.Sublist.slnil
  | cons x xs ih =>
    rw [enqueue]
    split
    · exact (ih seen).cons x
    · exact (ih _).cons_cons x

lemma enqueue_seen {xs : List π} {seen : List σ} {x : π} (hx : x ∈ xs) :
    state x ∈ (enqueue state xs seen).2 := by
  induction xs generalizing seen with
  | nil => cases hx
  | cons y xs ih =>
    rw [enqueue]
    split
    · rename_i hseen
      rcases List.mem_cons.mp hx with rfl | hx
      · exact mem_enqueue_seen.mpr (Or.inl hseen)
      · exact ih hx
    · rcases List.mem_cons.mp hx with rfl | hx
      · exact mem_enqueue_seen.mpr (Or.inl List.mem_cons_self)
      · exact ih hx

lemma enqueue_fresh (xs : List π) (seen : List σ) :
    ((enqueue state xs seen).1.map state).Nodup ∧ ∀ s ∈ seen, s ∉ (enqueue state xs seen).1.map state := by
  induction xs generalizing seen with
  | nil => exact ⟨List.nodup_nil, fun _ _ => List.not_mem_nil⟩
  | cons x xs ih =>
    rw [enqueue]
    split
    · exact ih seen
    · rename_i hnew
      obtain ⟨hnodup, hfresh⟩ := ih (state x :: seen)
      rw [List.map_cons]
      refine ⟨List.nodup_cons.mpr ⟨hfresh _ List.mem_cons_self, hnodup⟩, fun s hs hmem => ?_⟩
      rcases List.mem_cons.mp hmem with rfl | hmem
      · exact hnew hs
      · exact hfresh s (List.mem_cons_of_mem _ hs) hmem

/-- The state of a search that began with one item: what has been taken, what waits, and what has been seen. -/
structure Progress (expand : π → List π) (state : π → σ) (start : π) (taken queue : List π)
    (seen : List σ) : Prop where
  seen_iff : ∀ s, s ∈ seen ↔ s ∈ (taken ++ queue).map state
  distinct : ((taken ++ queue).map state).Nodup
  derived : ∀ x ∈ taken ++ queue, ReflTransGen (fun x y => y ∈ expand x) start x
  expanded : ∀ x ∈ taken, ∀ y ∈ expand x, state y ∈ seen
  started : state start ∈ seen

omit [DecidableEq σ] in
lemma Progress.start (x : π) : Progress expand state x [] [x] [state x] where
  seen_iff := fun _ => Iff.rfl
  distinct := List.nodup_singleton _
  derived := by
    intro y hy
    obtain rfl := List.mem_singleton.mp hy
    exact .refl
  expanded := nofun
  started := List.mem_cons_self

variable {start x : π} {taken queue : List π} {seen : List σ}

lemma Progress.next (h : Progress expand state start taken (x :: queue) seen) :
    Progress expand state start (taken ++ [x]) (queue ++ (enqueue state (expand x) seen).1)
      (enqueue state (expand x) seen).2 := by
  have hassoc : taken ++ [x] ++ (queue ++ (enqueue state (expand x) seen).1) =
      taken ++ x :: queue ++ (enqueue state (expand x) seen).1 := by simp
  obtain ⟨hnodup, hfresh⟩ := @enqueue_fresh _ _ _ state (expand x) seen
  refine ⟨fun s => ?_, ?_, fun y hy => ?_, fun y hy z hz => ?_, ?_⟩
  · have hsplit : (taken ++ x :: queue ++ (enqueue state (expand x) seen).1).map state =
        (taken ++ x :: queue).map state ++ (enqueue state (expand x) seen).1.map state := List.map_append
    rw [hassoc, hsplit, mem_enqueue_seen, h.seen_iff, List.mem_append]
  · rw [hassoc, List.map_append, List.nodup_append']
    exact ⟨h.distinct, hnodup, fun s hs hmem => hfresh s ((h.seen_iff s).mpr hs) hmem⟩
  · rw [hassoc] at hy
    rcases List.mem_append.mp hy with hy | hy
    · exact h.derived y hy
    · have hx := h.derived x (List.mem_append_right taken List.mem_cons_self)
      exact hx.tail ((enqueue_sublist _ _).subset hy)
  · rcases List.mem_append.mp hy with hy | hy
    · exact mem_enqueue_seen.mpr (Or.inl (h.expanded y hy z hz))
    · obtain rfl := List.mem_singleton.mp hy
      exact enqueue_seen hz
  · exact mem_enqueue_seen.mpr (Or.inl h.started)

lemma search_progress {fuel : ℕ} {found : List π} (hs : search expand state fuel queue seen = some found)
    (h : Progress expand state start taken queue seen) :
    ∃ seen', Progress expand state start (taken ++ found) [] seen' := by
  induction fuel generalizing taken queue seen found with
  | zero =>
    cases queue with
    | nil =>
      obtain rfl := Option.some.inj hs
      exact ⟨seen, by rwa [List.append_nil]⟩
    | cons x queue => cases hs
  | succ fuel ih =>
    cases queue with
    | nil =>
      obtain rfl := Option.some.inj hs
      exact ⟨seen, by rwa [List.append_nil]⟩
    | cons x queue =>
      obtain ⟨rest, hrest, rfl⟩ := Option.map_eq_some_iff.mp hs
      obtain ⟨seen', hseen'⟩ := ih hrest h.next
      refine ⟨seen', ?_⟩
      rwa [List.append_assoc, List.singleton_append] at hseen'

/-- As many steps as there are states suffice. -/
lemma search_total {states : List σ} {fuel : ℕ}
    (hstates : ∀ y, ReflTransGen (fun x y => y ∈ expand x) start y → state y ∈ states)
    (h : Progress expand state start taken queue seen) (hfuel : states.length ≤ fuel + taken.length) :
    ∃ found, search expand state fuel queue seen = some found := by
  induction fuel generalizing taken queue seen with
  | zero =>
    cases queue with
    | nil => exact ⟨[], rfl⟩
    | cons x queue =>
      have hsub : (taken ++ x :: queue).map state ⊆ states := by
        intro s hs
        obtain ⟨y, hy, rfl⟩ := List.mem_map.mp hs
        exact hstates y (h.derived y hy)
      have hlength := (List.subperm_of_subset h.distinct hsub).length_le
      simp only [List.length_map, List.length_append, List.length_cons] at hlength
      omega
  | succ fuel ih =>
    cases queue with
    | nil => exact ⟨[], rfl⟩
    | cons x queue =>
      obtain ⟨found, hfound⟩ := ih h.next (by simp only [List.length_append, List.length_singleton]; omega)
      refine ⟨x :: found, ?_⟩
      rw [search, hfound]
      rfl

omit [DecidableEq σ] in
/-- Whatever can be derived from the start, an item of its state has been taken when the queue is empty. -/
lemma Progress.complete (h : Progress expand state start taken [] seen)
    (hstate : ∀ x y, state x = state y → ∀ x' ∈ expand x, ∃ y' ∈ expand y, state y' = state x') {x : π}
    (hx : ReflTransGen (fun x y => y ∈ expand x) start x) : ∃ y ∈ taken, state y = state x := by
  have htaken : ∀ s ∈ seen, ∃ y ∈ taken, state y = s := by
    intro s hs
    have hmem := (h.seen_iff s).mp hs
    rw [List.append_nil] at hmem
    exact List.mem_map.mp hmem
  induction hx with
  | refl => exact htaken _ h.started
  | @tail x x' _ hexpand ih =>
    obtain ⟨y, hy, hsame⟩ := ih
    obtain ⟨y', hy', hsame'⟩ := hstate x y hsame.symm x' hexpand
    obtain ⟨z, hz, hzs⟩ := htaken _ (h.expanded y hy y' hy')
    exact ⟨z, hz, hzs.trans hsame'⟩

/-- What a search from one item finds: each state that can be reached once, by an item that derives it. -/
structure Explored (expand : π → List π) (state : π → σ) (start : π) (found : List π) : Prop where
  distinct : (found.map state).Nodup
  derived : ∀ x ∈ found, ReflTransGen (fun x y => y ∈ expand x) start x
  complete : ∀ x, ReflTransGen (fun x y => y ∈ expand x) start x → ∃ y ∈ found, state y = state x

theorem search_explored {states : List σ}
    (hstates : ∀ y, ReflTransGen (fun x y => y ∈ expand x) start y → state y ∈ states)
    (hstate : ∀ x y, state x = state y → ∀ x' ∈ expand x, ∃ y' ∈ expand y, state y' = state x') :
    ∃ found, search expand state states.length [start] [state start] = some found ∧
      Explored expand state start found := by
  have hprogress : Progress expand state start [] [start] [state start] := Progress.start start
  obtain ⟨found, hfound⟩ := search_total hstates hprogress (Nat.le_refl _)
  obtain ⟨seen, hdone⟩ := search_progress hfound hprogress
  rw [List.nil_append] at hdone
  refine ⟨found, hfound, ?_, fun x hx => hdone.derived x (List.mem_append_left _ hx),
    fun x hx => hdone.complete hstate hx⟩
  have hdistinct := hdone.distinct
  rwa [List.append_nil] at hdistinct

end SecScanMonitor.Foundations.Search
