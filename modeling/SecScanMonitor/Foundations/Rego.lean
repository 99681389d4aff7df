import SecScanMonitor.Foundations.Value

/-! Rego over a JSON input document: references that may be undefined (`none`), negation as failure,
and complete rules given by several clauses, whose evaluation stops on two different values. -/

namespace SecScanMonitor.Foundations.Rego

abbrev Term := Option Value

def Term.at (t : Term) (key : String) : Term := t.bind (Value.member? key)

def Term.nth (t : Term) (i : ℕ) : Term := t.bind (Value.item? i)

def ref (input : Value) (path : List String) : Term := path.foldl Term.at (some input)

def Term.holds : Term → Bool
  | none => false
  | some (.bool b) => b
  | some _ => true

def eq : Term → Term → Bool
  | some v, some w => v.jsonEq w
  | _, _ => false

def neq : Term → Term → Bool
  | some v, some w => !v.jsonEq w
  | _, _ => false

def Term.among (names : List String) : Term → Bool
  | some (.str s) => names.contains s
  | _ => false

def member : Term → Term → Bool
  | some v, some (.arr items) => items.any (Value.jsonEq v)
  | some v, some (.obj members) => members.any (fun m => v.jsonEq m.2)
  | _, _ => false

def count : Term → Term
  | some (.arr items) => some (.int items.length)
  | some (.obj members) => some (.int members.length)
  | some (.str s) => some (.int s.length)
  | _ => none

def derived {α : Type} (clauses : List (α × Bool)) : List α :=
  (clauses.filter Prod.snd).map Prod.fst

inductive Conflict where
  | completeRule
  deriving Repr, DecidableEq

def complete {α : Type} [DecidableEq α] (fallback : α) (clauses : List (α × Bool)) :
    Except Conflict α :=
  match derived clauses with
  | [] => .ok fallback
  | v :: vs => if vs.all (fun w => decide (w = v)) then .ok v else .error .completeRule

lemma eq_neq_exclusive (t u : Term) (h : eq t u = true) : neq t u = false := by
  cases t <;> cases u <;> simp_all [eq, neq]

lemma neq_of_defined {t u : Term} (ht : t.isSome) (hu : u.isSome) : neq t u = !eq t u := by
  cases t <;> cases u <;> simp_all [eq, neq]

section Complete

variable {α : Type} {fallback : α} {clauses : List (α × Bool)}

lemma mem_derived {v : α} : v ∈ derived clauses ↔ (v, true) ∈ clauses := by
  simp [derived]

variable [DecidableEq α]

lemma complete_of_derived_nil (h : derived clauses = []) :
    complete fallback clauses = .ok fallback := by
  simp only [complete, h]

lemma complete_eq_ok_of_mem {v : α} (hv : v ∈ derived clauses)
    (hu : ∀ w ∈ derived clauses, w = v) : complete fallback clauses = .ok v := by
  cases hd : derived clauses with
  | nil => simp [hd] at hv
  | cons u us =>
    rw [hd] at hu
    obtain rfl : u = v := hu u List.mem_cons_self
    have hall : us.all (fun w => decide (w = u)) = true := by
      simpa using fun w hw => hu w (List.mem_cons_of_mem _ hw)
    simp only [complete, hd, hall, if_true]

lemma mem_derived_of_complete {v : α} (h : complete fallback clauses = .ok v)
    (hne : derived clauses ≠ []) : v ∈ derived clauses ∧ ∀ w ∈ derived clauses, w = v := by
  cases hd : derived clauses with
  | nil => exact absurd hd hne
  | cons u us =>
    simp only [complete, hd] at h
    split at h
    · rename_i hall
      obtain rfl : u = v := Except.ok.inj h
      refine ⟨List.mem_cons_self, fun w hw => ?_⟩
      rcases List.mem_cons.mp hw with rfl | hw
      · rfl
      · simpa using List.all_eq_true.mp hall w hw
    · cases h

/-- A value other than the default is the outcome exactly when some clause gives it and no clause
gives another. -/
lemma complete_eq_ok_iff {v : α} (hv : v ≠ fallback) :
    complete fallback clauses = .ok v ↔
      v ∈ derived clauses ∧ ∀ w ∈ derived clauses, w = v := by
  constructor
  · intro h
    refine mem_derived_of_complete h fun hn => hv ?_
    rw [complete_of_derived_nil hn] at h
    exact (Except.ok.inj h).symm
  · rintro ⟨hm, hu⟩
    exact complete_eq_ok_of_mem hm hu

lemma complete_ok_iff : (∃ v, complete fallback clauses = .ok v) ↔
    ∀ v ∈ derived clauses, ∀ w ∈ derived clauses, v = w := by
  constructor
  · rintro ⟨u, hu⟩ v hv w hw
    obtain ⟨-, hall⟩ := mem_derived_of_complete hu (List.ne_nil_of_mem hv)
    rw [hall v hv, hall w hw]
  · intro h
    cases hd : derived clauses with
    | nil => exact ⟨fallback, complete_of_derived_nil hd⟩
    | cons u us =>
      have hu : u ∈ derived clauses := hd ▸ List.mem_cons_self
      exact ⟨u, complete_eq_ok_of_mem hu fun w hw => h w hw u hu⟩

end Complete

end SecScanMonitor.Foundations.Rego
