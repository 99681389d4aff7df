import Mathlib.Data.List.Infix
import Mathlib.Data.List.Perm.Subperm
import Mathlib.Order.Defs.Unbundled
import Mathlib.Tactic.Common

/-! Sliding windows over an ordered list: for each item the window that ends at it, and when one of them holds a
given number of items. -/

namespace SecScanMonitor.Foundations.Windows

variable {α : Type} (before : α → α → Prop) [DecidableRel before] (time : α → Int) (width : Int)

/-- The trailing windows of a list, one for each of its items. -/
def trailing (l : List α) : List (List α) :=
  l.inits.filterMap fun lead => lead.getLast?.map fun a => lead.filter fun b => time a - time b ≤ width

/-- The window that ends at an item, whatever the order of the list. -/
def windowAt (l : List α) (a : α) : List α :=
  l.filter fun b => before b a ∧ time a - time b ≤ width

variable {before time width}

lemma mem_windowAt {l : List α} {a b : α} :
    b ∈ windowAt before time width l a ↔ b ∈ l ∧ before b a ∧ time a - time b ≤ width := by
  rw [windowAt, List.mem_filter, decide_eq_true_eq]

lemma trailing_concat (l : List α) (a : α) : trailing time width (l ++ [a]) =
    trailing time width l ++ [(l ++ [a]).filter fun b => time a - time b ≤ width] := by
  have hinits : (l ++ [a]).inits = l.inits ++ [l ++ [a]] := by
    rw [List.inits_append]
    rfl
  simp [trailing, hinits, List.filterMap_append]

/-- Of a list in order, told apart by the order, the trailing windows are those that end at its items. -/
lemma trailing_eq_map [Std.Refl before] {l : List α} (hsorted : l.Pairwise before)
    (hstrict : l.Pairwise fun a b => ¬ before b a) :
    trailing time width l = l.map (windowAt before time width l) := by
  induction l using List.reverseRecOn with
  | nil => rfl
  | append_singleton l a ih =>
    obtain ⟨hl, -, hbefore⟩ := List.pairwise_append.mp hsorted
    obtain ⟨hl', -, hafter⟩ := List.pairwise_append.mp hstrict
    have hlast : ∀ b ∈ l, before b a ∧ ¬ before a b := fun b hb =>
      ⟨hbefore b hb a (List.mem_singleton_self a), hafter b hb a (List.mem_singleton_self a)⟩
    have hearlier : ∀ b ∈ l, windowAt before time width (l ++ [a]) b = windowAt before time width l b := by
      intro b hb
      simp [windowAt, List.filter_append, (hlast b hb).2]
    have hwhole : ((l ++ [a]).filter fun b => time a - time b ≤ width) =
        windowAt before time width (l ++ [a]) a := by
      refine List.filter_congr fun b hb => ?_
      have hb' : before b a := by
        rcases List.mem_append.mp hb with hb | hb
        · exact (hlast b hb).1
        · obtain rfl := List.mem_singleton.mp hb
          exact refl b
      simp [hb']
    rw [trailing_concat, ih hl hl', hwhole, List.map_append, List.map_congr_left hearlier]
    rfl

variable (before) in
omit [DecidableRel before] in
lemma exists_last [Std.Total before] [IsTrans α before] {l : List α} (hl : l ≠ []) :
    ∃ a ∈ l, ∀ b ∈ l, before b a := by
  induction l with
  | nil => exact absurd rfl hl
  | cons x l ih =>
    have hrefl : before x x := (Std.Total.total (r := before) x x).elim id id
    by_cases hne : l = []
    · subst hne
      exact ⟨x, List.mem_cons_self, by simpa using hrefl⟩
    · obtain ⟨a, ha, hlast⟩ := ih hne
      rcases Std.Total.total (r := before) x a with hxa | hax
      · refine ⟨a, List.mem_cons_of_mem _ ha, fun b hb => ?_⟩
        rcases List.mem_cons.mp hb with rfl | hb
        · exact hxa
        · exact hlast b hb
      · refine ⟨x, List.mem_cons_self, fun b hb => ?_⟩
        rcases List.mem_cons.mp hb with rfl | hb
        · exact hrefl
        · exact IsTrans.trans _ _ _ (hlast b hb) hax

/-- A window of `n` items is there exactly when some `n` items of the list lie within the width. -/
lemma reaches_iff [Std.Total before] [IsTrans α before] (htime : ∀ a b, before a b → time a ≤ time b)
    {l : List α} (hl : l.Nodup) {n : ℕ} (hn : 0 < n) :
    (∃ a ∈ l, n ≤ (windowAt before time width l a).length) ↔
      ∃ es : List α, es.Nodup ∧ n ≤ es.length ∧ (∀ e ∈ es, e ∈ l) ∧
        ∀ a ∈ es, ∀ b ∈ es, time a - time b ≤ width := by
  constructor
  · rintro ⟨a, -, hlength⟩
    refine ⟨windowAt before time width l a, hl.filter _, hlength, fun e he => (mem_windowAt.mp he).1, ?_⟩
    intro b hb c hc
    have hba := htime b a (mem_windowAt.mp hb).2.1
    have hca := (mem_windowAt.mp hc).2.2
    omega
  · rintro ⟨es, hes, hlength, hsub, hspan⟩
    obtain ⟨a, ha, hlast⟩ := exists_last before (List.ne_nil_of_length_pos (by omega : 0 < es.length))
    refine ⟨a, hsub a ha, hlength.trans ?_⟩
    exact (List.subperm_of_subset hes fun b hb =>
      mem_windowAt.mpr ⟨hsub b hb, hlast b hb, hspan a ha b hb⟩).length_le

end SecScanMonitor.Foundations.Windows
