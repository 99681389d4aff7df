import SecScanMonitor.Foundations.Paths
import Mathlib.Data.List.Chain
import Mathlib.Data.Set.Finite.Lattice
import Mathlib.Data.Set.Finite.Lemmas

/-! The unfolding of a graph from a node: every walk that starts there. It is finite exactly where the node
leads to no cycle and to finitely many nodes. -/

namespace SecScanMonitor.Foundations.Paths

universe u v

variable {α : Type u} {next : α → List α} {a b : α} {l : List α}

/-- The walks from a node, each as the nodes after it. -/
def walks (next : α → List α) (a : α) : Set (List α) := {l | List.IsChain (fun x y => y ∈ next x) (a :: l)}

lemma nil_mem_walks : [] ∈ walks next a := List.isChain_singleton a

lemma cons_mem_walks : b :: l ∈ walks next a ↔ b ∈ next a ∧ l ∈ walks next b := List.isChain_cons_cons

lemma walks_eq (next : α → List α) (a : α) :
    walks next a = {[]} ∪ ⋃ b ∈ {b | b ∈ next a}, (b :: ·) '' walks next b := by
  ext l
  simp only [Set.mem_union, Set.mem_singleton_iff, Set.mem_iUnion, Set.mem_image, Set.mem_ofPred_eq, exists_prop]
  cases l with
  | nil => exact iff_of_true nil_mem_walks (Or.inl rfl)
  | cons b l =>
    rw [cons_mem_walks]
    constructor
    · rintro ⟨hb, hl⟩
      exact Or.inr ⟨b, hb, l, hl, rfl⟩
    · rintro (h | ⟨c, hc, m, hm, h⟩)
      · cases h
      · cases h
        exact ⟨hc, hm⟩

/-- A node stands on a walk from another. -/
def Unfolds (next : α → List α) (a b : α) : Prop := ∃ l ∈ walks next a, b ∈ a :: l

lemma unfolds_iff : Unfolds next a b ↔ Relation.ReflTransGen (fun x y => y ∈ next x) a b := by
  constructor
  · rintro ⟨l, hl, hb⟩
    induction l generalizing a with
    | nil =>
      obtain rfl := List.mem_singleton.mp hb
      exact .refl
    | cons c l ih =>
      obtain ⟨hc, hl⟩ := cons_mem_walks.mp hl
      rcases List.mem_cons.mp hb with rfl | hb
      · exact .refl
      · exact (ih hl hb).head hc
  · intro h
    induction h using Relation.ReflTransGen.head_induction_on with
    | refl => exact ⟨[], nil_mem_walks, List.mem_cons_self⟩
    | @head a c hc _ ih =>
      obtain ⟨l, hl, hb⟩ := ih
      exact ⟨c :: l, cons_mem_walks.mpr ⟨hc, hl⟩, List.mem_cons_of_mem a hb⟩

/-- A walk to a node is gone on from there. -/
lemma exists_walks_append (h : Relation.ReflTransGen (fun x y => y ∈ next x) a b) :
    ∃ path, ∀ l ∈ walks next b, path ++ l ∈ walks next a := by
  induction h using Relation.ReflTransGen.head_induction_on with
  | refl => exact ⟨[], fun l hl => hl⟩
  | @head a c hc _ ih =>
    obtain ⟨path, hpath⟩ := ih
    exact ⟨c :: path, fun l hl => cons_mem_walks.mpr ⟨hc, hpath l hl⟩⟩

lemma walks_finite_of_reached (h : (walks next a).Finite)
    (hpath : Relation.ReflTransGen (fun x y => y ∈ next x) a b) : (walks next b).Finite := by
  obtain ⟨path, happend⟩ := exists_walks_append hpath
  exact Set.Finite.of_finite_image (h.subset (Set.image_subset_iff.mpr happend))
    (List.append_right_injective path).injOn

/-- A cycle has no longest walk. -/
lemma acyclic_of_walks_finite (h : (walks next a).Finite)
    (hpath : Relation.ReflTransGen (fun x y => y ∈ next x) a b) :
    ¬ Relation.TransGen (fun x y => y ∈ next x) b b := by
  intro hloop
  obtain ⟨c, hc, hback⟩ := Relation.TransGen.head'_iff.mp hloop
  obtain ⟨path, happend⟩ := exists_walks_append hback
  obtain ⟨l, hl, hlongest⟩ :=
    Set.exists_max_image (walks next b) List.length (walks_finite_of_reached h hpath) ⟨[], nil_mem_walks⟩
  have hlonger := hlongest (c :: path ++ l) (cons_mem_walks.mpr ⟨hc, happend l hl⟩)
  rw [List.length_append, List.length_cons] at hlonger
  omega

variable {β : Type v} [DecidableEq α] {cycle : β} {visit : α → (α → β) → β} {good : β → Prop}

/-- Where a visit succeeds the unfolding is finite. -/
lemma walks_finite_of_along (hcycle : ¬ good cycle) (hvisit : ∀ a f, good (visit a f) → ∀ b ∈ next a, good (f b))
    {n : ℕ} {seen : List α} (h : good (along cycle visit n seen a)) : (walks next a).Finite := by
  induction n generalizing seen a with
  | zero => exact absurd h hcycle
  | succ n ih =>
    rw [along] at h
    by_cases hseen : a ∈ seen
    · rw [if_pos hseen] at h
      exact absurd h hcycle
    rw [if_neg hseen] at h
    rw [walks_eq]
    refine (Set.finite_singleton _).union ?_
    refine Set.Finite.biUnion (List.finite_toSet (next a)) fun b hb => ?_
    exact (ih (hvisit a _ h b hb)).image _

/-- A visit that succeeds where the node itself is good and every successor does: it succeeds exactly where the
unfolding is finite and good throughout. -/
theorem along_iff (good : β → Prop) {own : α → Prop} {nodes : List α} {n : ℕ} (hcycle : ¬ good cycle)
    (hvisit : ∀ a f, good (visit a f) ↔ own a ∧ ∀ b ∈ next a, good (f b)) (hnodes : ∀ a, own a → a ∈ nodes)
    (hn : room nodes [] < n) :
    good (along cycle visit n [] a) ↔ (walks next a).Finite ∧ ∀ b, Unfolds next a b → own b := by
  have hnext : ∀ a f, good (visit a f) → ∀ b ∈ next a, good (f b) := fun a f h => ((hvisit a f).mp h).2
  simp only [unfolds_iff]
  constructor
  · intro h
    refine ⟨walks_finite_of_along hcycle hnext h, fun b hpath => ?_⟩
    obtain ⟨-, m, path, hb⟩ := along_path hcycle hnext h hpath
    cases m with
    | zero => exact absurd hb hcycle
    | succ m =>
      rw [along] at hb
      by_cases hseen : b ∈ path
      · rw [if_pos hseen] at hb
        exact absurd hb hcycle
      rw [if_neg hseen] at hb
      exact ((hvisit b _).mp hb).1
  · rintro ⟨hfinite, hown⟩
    exact along_good (fun b f hpath hf => (hvisit b f).mpr ⟨hown b hpath, hf⟩)
      (fun b hpath => hnodes b (hown b hpath)) (fun b hpath => acyclic_of_walks_finite hfinite hpath)
      (fun b hb => absurd hb List.not_mem_nil) hn

end SecScanMonitor.Foundations.Paths
