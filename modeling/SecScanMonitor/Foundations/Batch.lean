import Mathlib.Data.List.Basic

/-! Items processed one after the other over a state, until one of them fails. What an item left in the state before it
failed stays there, and no item after it is processed. -/

namespace SecScanMonitor.Foundations.Batch

universe u v w x

variable {σ : Type u} {α : Type v} {β : Type w} {ε : Type x} (step : α → σ → Except ε β × σ)

def runEach : List α → σ → Except ε (List β) × σ
  | [], s => (.ok [], s)
  | a :: l, s =>
    match step a s with
    | (.error e, s) => (.error e, s)
    | (.ok b, s) =>
      match runEach l s with
      | (.error e, s) => (.error e, s)
      | (.ok bs, s) => (.ok (b :: bs), s)

/-- The first item that fails when its turn comes. -/
structure FailsAt (l : List α) (s : σ) (before : List α) (bad : α) (rest : List α) : Prop where
  split : l = before ++ bad :: rest
  ran : ∃ bs, (runEach step before s).1 = .ok bs
  fails : ∃ e, (step bad (runEach step before s).2).1 = .error e

variable {step} {l m : List α} {s : σ} {a : α}

lemma runEach_cons_ok {b : β} (h : (step a s).1 = .ok b) :
    (runEach step (a :: l) s).2 = (runEach step l (step a s).2).2 ∧
      ((∃ bs, (runEach step (a :: l) s).1 = .ok bs) ↔ ∃ bs, (runEach step l (step a s).2).1 = .ok bs) := by
  rw [runEach]
  rcases hstep : step a s with ⟨r, t⟩
  rw [hstep] at h
  obtain rfl : r = .ok b := h
  rcases hrest : runEach step l t with ⟨r | bs, t'⟩
  · simp [hrest]
  · simp [hrest]

lemma runEach_cons_error {e : ε} (h : (step a s).1 = .error e) :
    (runEach step (a :: l) s).2 = (step a s).2 ∧ (runEach step (a :: l) s).1 = .error e := by
  rw [runEach]
  rcases hstep : step a s with ⟨r, t⟩
  rw [hstep] at h
  obtain rfl : r = .error e := h
  exact ⟨rfl, rfl⟩

/-- After items that do not fail, the rest runs as a batch of its own. -/
lemma runEach_append (h : ∃ bs, (runEach step l s).1 = .ok bs) :
    (runEach step (l ++ m) s).2 = (runEach step m (runEach step l s).2).2 ∧
      ((∃ bs, (runEach step (l ++ m) s).1 = .ok bs) ↔
        ∃ bs, (runEach step m (runEach step l s).2).1 = .ok bs) := by
  induction l generalizing s with
  | nil => exact ⟨rfl, Iff.rfl⟩
  | cons a l ih =>
    cases hstep : (step a s).1 with
    | error e =>
      obtain ⟨bs, hbs⟩ := h
      rw [(runEach_cons_error hstep).2] at hbs
      cases hbs
    | ok b =>
      obtain ⟨hstate, hok⟩ := runEach_cons_ok (l := l) hstep
      obtain ⟨hstate', hok'⟩ := runEach_cons_ok (l := l ++ m) hstep
      obtain ⟨hrest, hrestOk⟩ := ih (hok.mp h)
      rw [List.cons_append, hstate, hstate', hok']
      exact ⟨hrest, hrestOk⟩

/-- What every step keeps, the batch keeps. -/
lemma runEach_preserves {p : σ → Prop} (h : ∀ a ∈ l, ∀ s, p s → p (step a s).2) (hs : p s) :
    p (runEach step l s).2 := by
  induction l generalizing s with
  | nil => exact hs
  | cons a l ih =>
    have ha := h a List.mem_cons_self s hs
    cases hstep : (step a s).1 with
    | error e =>
      rw [(runEach_cons_error hstep).1]
      exact ha
    | ok b =>
      rw [(runEach_cons_ok hstep).1]
      exact ih (fun b hb => h b (List.mem_cons_of_mem a hb)) ha

/-- A batch runs to its end, or one of its items is the first to fail. -/
theorem runEach_cases (step : α → σ → Except ε β × σ) (l : List α) (s : σ) :
    (∃ bs, (runEach step l s).1 = .ok bs) ∨ ∃ before bad rest, FailsAt step l s before bad rest := by
  induction l generalizing s with
  | nil => exact Or.inl ⟨[], rfl⟩
  | cons a l ih =>
    cases hstep : (step a s).1 with
    | error e => exact Or.inr ⟨[], a, l, rfl, ⟨[], rfl⟩, e, hstep⟩
    | ok b =>
      rcases ih (step a s).2 with hok | ⟨before, bad, rest, hfails⟩
      · exact Or.inl ((runEach_cons_ok hstep).2.mpr hok)
      · obtain ⟨hstate, hok⟩ := runEach_cons_ok (l := before) hstep
        refine Or.inr ⟨a :: before, bad, rest, ?_, hok.mpr hfails.ran, ?_⟩
        · rw [hfails.split, List.cons_append]
        · rw [hstate]
          exact hfails.fails

lemma FailsAt.state {before rest : List α} {bad : α} (h : FailsAt step l s before bad rest) :
    (runEach step l s).2 = (step bad (runEach step before s).2).2 := by
  obtain ⟨e, he⟩ := h.fails
  rw [h.split, (runEach_append h.ran).1, (runEach_cons_error he).1]

/-- What holds of an item after its turn, whatever it answers, and is kept by all others, holds in the end. -/
lemma settled {p : σ → Prop} {before rest : List α} (hl : l = before ++ a :: rest)
    (hran : ∃ bs, (runEach step before s).1 = .ok bs) (hp : p (step a (runEach step before s).2).2)
    (hkept : ∀ b ∈ rest, ∀ t, p t → p (step b t).2) : p (runEach step l s).2 := by
  rw [hl, (runEach_append hran).1]
  cases hstep : (step a (runEach step before s).2).1 with
  | error e =>
    rw [(runEach_cons_error hstep).1]
    exact hp
  | ok b =>
    rw [(runEach_cons_ok hstep).1]
    exact runEach_preserves hkept hp

lemma ran_of_ran_append (h : ∃ bs, (runEach step (l ++ m) s).1 = .ok bs) :
    ∃ bs, (runEach step l s).1 = .ok bs := by
  rcases runEach_cases step l s with hok | ⟨before, bad, rest, hfails⟩
  · exact hok
  · obtain ⟨bs, hbs⟩ := h
    obtain ⟨e, he⟩ := hfails.fails
    rw [hfails.split, List.append_assoc] at hbs
    have hrest := (runEach_append (m := bad :: rest ++ m) hfails.ran).2.mp ⟨bs, hbs⟩
    rw [List.cons_append, (runEach_cons_error he).2] at hrest
    obtain ⟨_, hrest⟩ := hrest
    cases hrest

/-- An item has its turn, or it comes after the first item that fails. -/
lemma reached_or_missed (step : α → σ → Except ε β × σ) (s : σ) (ha : a ∈ l) :
    (∃ before rest, l = before ++ a :: rest ∧ ∃ bs, (runEach step before s).1 = .ok bs) ∨
      ∃ before bad rest, FailsAt step l s before bad rest ∧ a ∈ rest := by
  rcases runEach_cases step l s with hok | ⟨before, bad, rest, hfails⟩
  · obtain ⟨before, rest, rfl⟩ := List.append_of_mem ha
    exact Or.inl ⟨before, rest, rfl, ran_of_ran_append hok⟩
  · have hmem : a ∈ before ++ bad :: rest := hfails.split ▸ ha
    rcases List.mem_append.mp hmem with hbefore | hlater
    · obtain ⟨front, back, rfl⟩ := List.append_of_mem hbefore
      refine Or.inl ⟨front, back ++ bad :: rest, ?_, ran_of_ran_append hfails.ran⟩
      rw [hfails.split, List.append_assoc]
      rfl
    · rcases List.mem_cons.mp hlater with rfl | hrest
      · exact Or.inl ⟨before, rest, hfails.split, hfails.ran⟩
      · exact Or.inr ⟨before, bad, rest, hfails, hrest⟩

/-- What the items up to the one that fails keep, holds in the end. -/
lemma FailsAt.kept {p : σ → Prop} {before rest : List α} {bad : α} (h : FailsAt step l s before bad rest)
    (hs : p s) (hkept : ∀ b, b ∈ before ∨ b = bad → ∀ t, p t → p (step b t).2) :
    p (runEach step l s).2 := by
  rw [h.state]
  exact hkept bad (Or.inr rfl) _ (runEach_preserves (fun b hb => hkept b (Or.inl hb)) hs)

/-- Where no two items share a key, an item shares its key with none before or after it. -/
lemma apart {κ : Type w} {key : α → κ} {before rest : List α} (h : (l.map key).Nodup)
    (hl : l = before ++ a :: rest) : ∀ b, b ∈ before ∨ b ∈ rest → key a ≠ key b := by
  rw [hl, List.map_append, List.map_cons, List.perm_middle.nodup_iff, List.nodup_cons,
    ← List.map_append] at h
  intro b hb hkey
  exact h.1 (List.mem_map.mpr ⟨b, List.mem_append.mpr hb, hkey.symm⟩)

lemma FailsAt.apart {κ : Type w} {key : α → κ} {before rest : List α} {bad : α}
    (h : FailsAt step l s before bad rest) (hkeys : (l.map key).Nodup) (ha : a ∈ rest) :
    ∀ b, b ∈ before ∨ b = bad → key a ≠ key b := by
  obtain ⟨front, back, rfl⟩ := List.append_of_mem ha
  have hsplit : l = (before ++ bad :: front) ++ a :: back := by
    rw [h.split, List.append_assoc]
    rfl
  have hne := Batch.apart hkeys hsplit
  rintro b (hb | rfl)
  · exact hne b (Or.inl (List.mem_append_left _ hb))
  · exact hne b (Or.inl (List.mem_append_right _ List.mem_cons_self))

end SecScanMonitor.Foundations.Batch
