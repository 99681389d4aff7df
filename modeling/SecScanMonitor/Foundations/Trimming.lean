import Mathlib.Data.List.DropRight

/-! Words that are cut out of a line: what a predicate trims from its ends, and what is read up to where a
predicate stops. -/

namespace SecScanMonitor.Foundations.Trimming

variable {α : Type} {p q : α → Bool} {l m : List α} {a : α}

/-- Nothing at the front of the list satisfies the predicate. -/
def Stops (p : α → Bool) (l : List α) : Prop := ∀ a, l.head? = some a → p a = false

lemma stops_nil : Stops p [] := nofun

lemma stops_cons : Stops p (a :: l) ↔ p a = false := by
  constructor
  · exact fun h => h a rfl
  · rintro h b hb
    rwa [← Option.some.inj hb]

lemma Stops.prepend (hm : Stops p m) (hl : ∀ a ∈ l, p a = false) : Stops p (l ++ m) := by
  cases l with
  | nil => exact hm
  | cons a l => exact stops_cons.mpr (hl a List.mem_cons_self)

lemma takeWhile_of_stops (hl : ∀ a ∈ l, p a = true) (hm : Stops p m) : (l ++ m).takeWhile p = l := by
  rw [List.takeWhile_append_of_pos hl]
  cases m with
  | nil => exact List.append_nil l
  | cons a m => rw [List.takeWhile_cons_of_neg (by rw [stops_cons.mp hm]; exact Bool.false_ne_true), List.append_nil]

lemma dropWhile_of_stops (hl : ∀ a ∈ l, p a = true) (hm : Stops p m) : (l ++ m).dropWhile p = m := by
  rw [List.dropWhile_append_of_pos hl]
  cases m with
  | nil => rfl
  | cons a m => rw [List.dropWhile_cons_of_neg (by rw [stops_cons.mp hm]; exact Bool.false_ne_true)]

lemma stops_dropWhile : Stops p (l.dropWhile p) := by
  intro a ha
  have hne : l.dropWhile p ≠ [] := fun hnil => by rw [hnil] at ha; cases ha
  have hlast := List.head_dropWhile_not p hne
  rw [List.head?_eq_some_head hne] at ha
  rwa [Option.some.inj ha] at hlast

/-- What a list is read as up to where the predicate stops. -/
lemma exists_takeWhile : ∃ rest, l = l.takeWhile p ++ rest ∧ Stops p rest :=
  ⟨l.dropWhile p, List.takeWhile_append_dropWhile.symm, stops_dropWhile⟩

lemma exists_rdropWhile : ∃ rest, l = l.rdropWhile p ++ rest ∧ ∀ a ∈ rest, p a = true := by
  refine ⟨l.rtakeWhile p, List.rdropWhile_append_rtakeWhile.symm, ?_⟩
  exact fun a ha => List.mem_rtakeWhile_imp ha

lemma rdropWhile_append_of_pos (h : ∀ a ∈ m, p a = true) : (l ++ m).rdropWhile p = l.rdropWhile p := by
  rw [List.rdropWhile, List.reverse_append, List.dropWhile_append_of_pos, ← List.rdropWhile]
  exact fun a ha => h a (List.mem_reverse.mp ha)

lemma rdropWhile_append_cons (h : p a = false) : (l ++ a :: m).rdropWhile p = l ++ a :: m.rdropWhile p := by
  have hstop : Stops p (a :: l.reverse) := stops_cons.mpr h
  have hdrop : (m.reverse ++ (a :: l.reverse)).dropWhile p = m.reverse.dropWhile p ++ (a :: l.reverse) := by
    rw [List.dropWhile_append]
    split
    · rename_i hall
      rw [List.isEmpty_iff.mp hall]
      exact dropWhile_of_stops (l := []) nofun hstop
    · rfl
  rw [List.rdropWhile, List.reverse_append, List.reverse_cons, List.append_assoc, List.singleton_append, hdrop,
    List.reverse_append, List.reverse_cons, List.reverse_reverse, List.append_assoc]
  rfl

lemma rdropWhile_of_neg (h : ∀ a ∈ l, p a = false) : l.rdropWhile p = l := by
  rw [List.rdropWhile_eq_self_iff]
  intro hne
  rw [h _ (List.getLast_mem hne)]
  exact Bool.false_ne_true

/-- The list without what the predicate holds of at either end. -/
def trim (p : α → Bool) (l : List α) : List α := (l.dropWhile p).rdropWhile p

lemma stops_trim : Stops p (trim p l) := by
  intro a ha
  obtain ⟨rest, hl, -⟩ : ∃ rest, l.dropWhile p = trim p l ++ rest ∧ _ := exists_rdropWhile
  refine stops_dropWhile (l := l) a ?_
  rw [hl, List.head?_append, ha]
  rfl

lemma exists_trim : ∃ lead trail, l = lead ++ (trim p l ++ trail) ∧
    (∀ a ∈ lead, p a = true) ∧ ∀ a ∈ trail, p a = true := by
  obtain ⟨trail, hl, htrail⟩ : ∃ rest, l.dropWhile p = trim p l ++ rest ∧ _ := exists_rdropWhile
  refine ⟨l.takeWhile p, trail, ?_, fun a ha => List.mem_takeWhile_imp ha, htrail⟩
  rw [← hl]
  exact List.takeWhile_append_dropWhile.symm

lemma trim_eq {lead trail : List α} (hlead : ∀ a ∈ lead, p a = true) (htrail : ∀ a ∈ trail, p a = true)
    (hl : Stops p l) (hne : l ≠ []) : trim p (lead ++ (l ++ trail)) = l.rdropWhile p := by
  have hstop : Stops p (l ++ trail) := by
    obtain ⟨a, l, rfl⟩ := List.exists_cons_of_ne_nil hne
    exact stops_cons.mpr (stops_cons.mp hl)
  rw [trim, dropWhile_of_stops hlead hstop, rdropWhile_append_of_pos htrail]

/-- A list that the predicate stops at starts with what is trimmed out of it. -/
lemma exists_trim_of_stops (hl : Stops p l) : ∃ trail, l = trim p l ++ trail ∧ ∀ a ∈ trail, p a = true := by
  obtain ⟨trail, h, htrail⟩ : ∃ rest, l.dropWhile p = trim p l ++ rest ∧ _ := exists_rdropWhile
  refine ⟨trail, ?_, htrail⟩
  rw [← h]
  exact (dropWhile_of_stops (l := []) nofun hl).symm

end SecScanMonitor.Foundations.Trimming
