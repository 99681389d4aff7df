import Mathlib.Data.List.Basic
import Mathlib.Logic.Relation

/-! Recursion over a finite graph that remembers the path it came along. A node that stands on its own
path closes a cycle. -/

namespace SecScanMonitor.Foundations.Paths

universe u v

variable {α : Type u} {β : Type v} [DecidableEq α]

/-- Visit a node, given the answers for its successors; a node of the path answers `cycle`. The first
argument bounds the length of the path. -/
def along (cycle : β) (visit : α → (α → β) → β) : ℕ → List α → α → β
  | 0, _, _ => cycle
  | n + 1, seen, a => if a ∈ seen then cycle else visit a (along cycle visit n (a :: seen))

/-- How many nodes a path can still take. -/
def room (nodes seen : List α) : ℕ := (nodes.filter fun a => decide (a ∉ seen)).length

lemma room_le (nodes seen : List α) : room nodes seen ≤ nodes.length :=
  List.length_filter_le _ _

lemma room_cons {nodes seen : List α} {a : α} (ha : a ∈ nodes) (hseen : a ∉ seen) :
    room nodes (a :: seen) < room nodes seen := by
  have hsplit : (nodes.filter fun b => decide (b ∉ a :: seen)) =
      (nodes.filter fun b => decide (b ∉ seen)).filter fun b => decide (b ≠ a) := by
    rw [List.filter_filter]
    apply List.filter_congr
    intro b _
    simp [List.mem_cons, not_or]
  rw [room, room, hsplit]
  apply List.length_filter_lt_length_iff_exists.mpr
  exact ⟨a, List.mem_filter.mpr ⟨ha, by simpa using hseen⟩, by simp⟩

variable {cycle : β} {visit : α → (α → β) → β} (nodes : List α)

/-- Where only the listed nodes have successors, a bound that exceeds their number is no bound. -/
lemma along_succ (hvisit : ∀ a, a ∉ nodes → ∀ f g, visit a f = visit a g) {n : ℕ} {seen : List α}
    (hn : room nodes seen < n) (a : α) :
    along cycle visit (n + 1) seen a = along cycle visit n seen a := by
  induction n generalizing seen a with
  | zero => exact absurd hn (Nat.not_lt_zero _)
  | succ n ih =>
    rw [along, along]
    by_cases hseen : a ∈ seen
    · rw [if_pos hseen, if_pos hseen]
    · rw [if_neg hseen, if_neg hseen]
      by_cases ha : a ∈ nodes
      · have hroom : room nodes (a :: seen) < n := by
          have hlt := room_cons ha hseen
          omega
        have hsame : along cycle visit (n + 1) (a :: seen) = along cycle visit n (a :: seen) := by
          funext b
          exact ih hroom b
        rw [hsame]
      · exact hvisit a ha _ _

section Success

variable {next : α → List α} {good : β → Prop} {nodes}

/-- A visit that succeeds has visited every successor with success. -/
lemma along_path (hcycle : ¬ good cycle) (hvisit : ∀ a f, good (visit a f) → ∀ b ∈ next a, good (f b))
    {n : ℕ} {seen : List α} {a b : α} (h : good (along cycle visit n seen a))
    (hpath : Relation.ReflTransGen (fun x y => y ∈ next x) a b) :
    b ∉ seen ∧ ∃ m path, good (along cycle visit m path b) := by
  induction n generalizing seen a with
  | zero => exact absurd h hcycle
  | succ n ih =>
    rw [along] at h
    by_cases hseen : a ∈ seen
    · rw [if_pos hseen] at h
      exact absurd h hcycle
    rw [if_neg hseen] at h
    rcases hpath.cases_head with rfl | ⟨c, hc, hpath⟩
    · refine ⟨hseen, n + 1, seen, ?_⟩
      rw [along, if_neg hseen]
      exact h
    · obtain ⟨hb, hrest⟩ := ih (hvisit a _ h c hc) hpath
      exact ⟨fun hin => hb (List.mem_cons_of_mem a hin), hrest⟩

/-- Where a visit succeeds no path leads back to where it started. -/
lemma along_acyclic (hcycle : ¬ good cycle)
    (hvisit : ∀ a f, good (visit a f) → ∀ b ∈ next a, good (f b)) {n : ℕ} {seen : List α} {a b : α}
    (h : good (along cycle visit n seen a))
    (hpath : Relation.ReflTransGen (fun x y => y ∈ next x) a b) :
    ¬ Relation.TransGen (fun x y => y ∈ next x) b b := by
  obtain ⟨-, m, path, hb⟩ := along_path hcycle hvisit h hpath
  intro hloop
  obtain ⟨c, hc, hback⟩ := Relation.TransGen.head'_iff.mp hloop
  cases m with
  | zero => exact hcycle hb
  | succ m =>
    rw [along] at hb
    by_cases hseen : b ∈ path
    · rw [if_pos hseen] at hb
      exact hcycle hb
    rw [if_neg hseen] at hb
    exact (along_path hcycle hvisit (hvisit b _ hb c hc) hback).1 List.mem_cons_self

/-- What a visit collects from a node and its successors, it collects from all that the node leads to. -/
lemma along_collects {γ : Type u} {holds : β → γ → Prop} {own : α → γ → Prop} (hcycle : ¬ good cycle)
    (hvisit : ∀ a f, good (visit a f) → ∀ b ∈ next a, good (f b))
    (hcollect : ∀ a f, good (visit a f) →
      ∀ c, holds (visit a f) c ↔ own a c ∨ ∃ b ∈ next a, holds (f b) c)
    {n : ℕ} {seen : List α} {a : α} (h : good (along cycle visit n seen a)) (c : γ) :
    holds (along cycle visit n seen a) c ↔
      ∃ b, Relation.ReflTransGen (fun x y => y ∈ next x) a b ∧ own b c := by
  induction n generalizing seen a with
  | zero => exact absurd h hcycle
  | succ n ih =>
    rw [along] at h ⊢
    by_cases hseen : a ∈ seen
    · rw [if_pos hseen] at h
      exact absurd h hcycle
    rw [if_neg hseen] at h ⊢
    rw [hcollect a _ h c]
    constructor
    · rintro (hown | ⟨b, hb, hc⟩)
      · exact ⟨a, .refl, hown⟩
      · obtain ⟨d, hd, hown⟩ := (ih (hvisit a _ h b hb)).mp hc
        exact ⟨d, hd.head hb, hown⟩
    · rintro ⟨d, hd, hown⟩
      rcases hd.cases_head with rfl | ⟨b, hb, hd⟩
      · exact Or.inl hown
      · exact Or.inr ⟨b, hb, (ih (hvisit a _ h b hb)).mpr ⟨d, hd, hown⟩⟩

/-- Without a cycle a visit succeeds, where it does so given that it does for the successors. -/
lemma along_good {a : α} {n : ℕ} {seen : List α}
    (hstep : ∀ b f, Relation.ReflTransGen (fun x y => y ∈ next x) a b → (∀ c ∈ next b, good (f c)) →
      good (visit b f))
    (hnodes : ∀ b, Relation.ReflTransGen (fun x y => y ∈ next x) a b → b ∈ nodes)
    (hacyclic : ∀ b, Relation.ReflTransGen (fun x y => y ∈ next x) a b →
      ¬ Relation.TransGen (fun x y => y ∈ next x) b b)
    (hseen : ∀ b ∈ seen, Relation.TransGen (fun x y => y ∈ next x) b a)
    (hn : room nodes seen < n) : good (along cycle visit n seen a) := by
  induction n generalizing seen a with
  | zero => exact absurd hn (Nat.not_lt_zero _)
  | succ n ih =>
    have hfree : a ∉ seen := fun hin => hacyclic a .refl (hseen a hin)
    rw [along, if_neg hfree]
    refine hstep a _ .refl fun c hc => ?_
    have hroom : room nodes (a :: seen) < n := by
      have hlt := room_cons (hnodes a .refl) hfree
      omega
    refine ih (fun b f hb => hstep b f (hb.head hc)) (fun b hb => hnodes b (hb.head hc))
      (fun b hb => hacyclic b (hb.head hc)) (fun b hb => ?_) hroom
    rcases List.mem_cons.mp hb with rfl | hb
    · exact .single hc
    · exact (hseen b hb).tail hc

end Success

end SecScanMonitor.Foundations.Paths
