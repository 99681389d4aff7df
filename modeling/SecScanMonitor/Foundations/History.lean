import SecScanMonitor.Foundations.Runs

/-! Histories of the calls on an object with state. An entry records a call, the state that the call
found and what it answered; the latest entry comes first. -/

namespace SecScanMonitor.Foundations

universe u v w

structure Entry (γ : Type u) (σ : Type v) (ω : Type w) where
  call : γ
  before : σ
  outcome : ω

variable {γ : Type u} {σ : Type v} {ω : Type w} {exec : γ → σ → ω × σ} {start s : σ}
  {es : List (Entry γ σ ω)}

inductive History (exec : γ → σ → ω × σ) (start : σ) : List (Entry γ σ ω) → σ → Prop
  | nil : History exec start [] start
  | call {es : List (Entry γ σ ω)} {s : σ} (c : γ) : History exec start es s →
      History exec start (⟨c, s, (exec c s).1⟩ :: es) (exec c s).2

namespace History

lemma outcome_eq (h : History exec start es s) {e : Entry γ σ ω} (he : e ∈ es) :
    e.outcome = (exec e.call e.before).1 := by
  induction h with
  | nil => cases he
  | call c h ih =>
    rcases List.mem_cons.mp he with rfl | he
    · rfl
    · exact ih he

/-- What every call keeps holds of every state of a history. -/
lemma invariant {p : σ → Prop} (hstep : ∀ c s, p s → p (exec c s).2) (hstart : p start)
    (h : History exec start es s) : p s := by
  induction h with
  | nil => exact hstart
  | call c h ih => exact hstep c _ ih

/-- A history up to an entry, and the history from the state after it. -/
lemma split (h : History exec start es s) {e : Entry γ σ ω} (he : e ∈ es) :
    ∃ earlier, History exec start earlier e.before ∧
      ∃ later, History exec (exec e.call e.before).2 later s := by
  induction h with
  | nil => cases he
  | @call es s c h ih =>
    rcases List.mem_cons.mp he with rfl | he
    · exact ⟨es, h, [], .nil⟩
    · obtain ⟨earlier, hearlier, later, hlater⟩ := ih he
      exact ⟨earlier, hearlier, _, hlater.call c⟩

/-- The history of a list of calls, the latest first, and the state after it. -/
def ofCalls (exec : γ → σ → ω × σ) (start : σ) : List γ → List (Entry γ σ ω) × σ
  | [] => ([], start)
  | c :: cs =>
    let earlier := ofCalls exec start cs
    (⟨c, earlier.2, (exec c earlier.2).1⟩ :: earlier.1, (exec c earlier.2).2)

lemma ofCalls_history (cs : List γ) :
    History exec start (ofCalls exec start cs).1 (ofCalls exec start cs).2 := by
  induction cs with
  | nil => exact .nil
  | cons c cs ih => exact ih.call c

lemma ofCalls_call {cs : List γ} {e : Entry γ σ ω} (he : e ∈ (ofCalls exec start cs).1) :
    e.call ∈ cs := by
  induction cs with
  | nil => cases he
  | cons c cs ih =>
    rcases List.mem_cons.mp he with rfl | he
    · exact List.mem_cons_self
    · exact List.mem_cons_of_mem c (ih he)

end History

end SecScanMonitor.Foundations
