import Mathlib.Data.List.Basic
import Mathlib.Tactic.Common

/-! Regular expressions as a backtracking matcher tries them, with substitution for every match of a text. -/

namespace SecScanMonitor.Foundations

/-- Assertions look at the character before and at the character after. -/
inductive Regex (α : Type := Char) where
  | empty
  | one (p : α → Bool)
  | look (q : Option α → Option α → Bool)
  | seq (r s : Regex α)
  | alt (r s : Regex α)
  | star (greedy : Bool) (r : Regex α)

/-- A place in a text: the character before it and the text ahead. -/
structure Place (α : Type := Char) where
  last : Option α
  ahead : List α

namespace Regex

variable {α : Type}

section Syntax

def opt (r : Regex α) : Regex α := alt r empty

def plus (r : Regex α) : Regex α := seq r (star true r)

def times : ℕ → Regex α → Regex α
  | 0, _ => empty
  | n + 1, r => seq r (times n r)

/-- `r{n,}` -/
def atLeast (n : ℕ) (r : Regex α) : Regex α := seq (times n r) (star true r)

/-- `r{0,n}` -/
def upTo : ℕ → Regex α → Regex α
  | 0, _ => empty
  | n + 1, r => opt (seq r (upTo n r))

def sequence : List (Regex α) → Regex α
  | [] => empty
  | [r] => r
  | r :: rs => seq r (sequence rs)

def oneOf : List (Regex α) → Regex α
  | [] => one fun _ => false
  | [r] => r
  | r :: rs => alt r (oneOf rs)

end Syntax

section Matching

def starEnds (f : Place α → List (Place α)) (greedy : Bool) : ℕ → Place α → List (Place α)
  | 0, p => [p]
  | n + 1, p =>
    let further := ((f p).filter fun q => q.ahead.length < p.ahead.length).flatMap (starEnds f greedy n)
    if greedy then further ++ [p] else p :: further

/-- The places where a match can end, in the order in which they are tried. -/
def ends : Regex α → Place α → List (Place α)
  | empty, p => [p]
  | one c, ⟨_, x :: xs⟩ => if c x then [⟨some x, xs⟩] else []
  | one _, ⟨_, []⟩ => []
  | look q, p => if q p.last p.ahead.head? then [p] else []
  | seq r s, p => (ends r p).flatMap (ends s)
  | alt r s, p => ends r p ++ ends s p
  | star greedy r, p => starEnds (ends r) greedy p.ahead.length p

/-- `r.search` in the text ahead -/
def searchFrom (r : Regex α) : Option α → List α → Bool
  | l, [] => !(ends r ⟨l, []⟩).isEmpty
  | l, x :: xs => !(ends r ⟨l, x :: xs⟩).isEmpty || searchFrom r (some x) xs

def search (r : Regex α) (t : List α) : Bool := searchFrom r none t

/-- The substitution goes on after `skip` characters. A match of no characters replaces nothing. -/
def substFrom (r : Regex α) (new : List α) : ℕ → Option α → List α → List α
  | _, _, [] => []
  | skip + 1, _, x :: xs => substFrom r new skip (some x) xs
  | 0, l, x :: xs =>
    match (ends r ⟨l, x :: xs⟩).head? with
    | some e =>
      if e.ahead.length ≤ xs.length then
        new ++ substFrom r new (xs.length - e.ahead.length) (some x) xs
      else x :: substFrom r new 0 (some x) xs
    | none => x :: substFrom r new 0 (some x) xs

/-- `r.sub(new, t)` -/
def subst (r : Regex α) (new t : List α) : List α := substFrom r new 0 none t

end Matching

/-- An expression reads a word between two characters. -/
inductive Reads : Regex α → Option α → List α → Option α → Prop
  | empty {l n : Option α} : Reads .empty l [] n
  | one {c : α → Bool} {x : α} {l n : Option α} : c x = true → Reads (.one c) l [x] n
  | look {q : Option α → Option α → Bool} {l n : Option α} :
      q l n = true → Reads (.look q) l [] n
  | seq {r s : Regex α} {l n : Option α} {u v : List α} : Reads r l u (v.head?.or n) →
      Reads s (u.getLast?.or l) v n → Reads (.seq r s) l (u ++ v) n
  | left {r s : Regex α} {l n : Option α} {w : List α} : Reads r l w n → Reads (.alt r s) l w n
  | right {r s : Regex α} {l n : Option α} {w : List α} : Reads s l w n → Reads (.alt r s) l w n
  | stop {g : Bool} {r : Regex α} {l n : Option α} : Reads (.star g r) l [] n
  | step {g : Bool} {r : Regex α} {l n : Option α} {u v : List α} : u ≠ [] →
      Reads r l u (v.head?.or n) → Reads (.star g r) (u.getLast?.or l) v n →
      Reads (.star g r) l (u ++ v) n

/-- An expression occurs in a text that follows a character. -/
def OccursFrom (r : Regex α) (l : Option α) (t : List α) : Prop :=
  ∃ u w v, t = u ++ w ++ v ∧ Reads r (u.getLast?.or l) w v.head?

def Occurs (r : Regex α) (t : List α) : Prop := OccursFrom r none t

section Ends

lemma getLast?_append_or (u v : List α) (l : Option α) :
    (u ++ v).getLast?.or l = v.getLast?.or (u.getLast?.or l) := by
  rw [List.getLast?_append, Option.or_assoc]

lemma getLast?_cons_or (x : α) (w : List α) (l : Option α) :
    (x :: w).getLast?.or l = w.getLast?.or (some x) := by
  rw [← List.singleton_append (x := x), getLast?_append_or]
  rfl

lemma starEnds_sound {r : Regex α} {g : Bool} {n : ℕ} {l : Option α} {t : List α} {q : Place α}
    (ih : ∀ l t q, q ∈ ends r ⟨l, t⟩ →
      ∃ w rest, t = w ++ rest ∧ q = ⟨w.getLast?.or l, rest⟩ ∧ Reads r l w rest.head?)
    (h : q ∈ starEnds (ends r) g n ⟨l, t⟩) :
    ∃ w rest, t = w ++ rest ∧ q = ⟨w.getLast?.or l, rest⟩ ∧ Reads (.star g r) l w rest.head? := by
  induction n generalizing l t with
  | zero =>
    obtain rfl := List.mem_singleton.mp h
    exact ⟨[], t, rfl, rfl, .stop⟩
  | succ n ihn =>
    have hcases : q = ⟨l, t⟩ ∨ ∃ m ∈ ends r ⟨l, t⟩, m.ahead.length < t.length ∧
        q ∈ starEnds (ends r) g n m := by
      rw [starEnds] at h
      cases g with
      | true =>
        simpa [List.mem_flatMap, and_assoc, or_comm] using h
      | false =>
        simpa [List.mem_flatMap, and_assoc] using h
    rcases hcases with rfl | ⟨m, hm, hlt, hq⟩
    · exact ⟨[], t, rfl, rfl, .stop⟩
    · obtain ⟨u, rest, rfl, rfl, hu⟩ := ih l t m hm
      obtain ⟨v, rest', rfl, rfl, hv⟩ := ihn hq
      refine ⟨u ++ v, rest', by rw [List.append_assoc], by rw [getLast?_append_or], ?_⟩
      refine .step ?_ (by rw [← List.head?_append]; exact hu) hv
      rintro rfl
      simp at hlt

lemma starEnds_complete {r : Regex α} {g : Bool} {n : ℕ} {l : Option α} {w rest : List α}
    (ih : ∀ l w rest, Reads r l w rest.head? → ⟨w.getLast?.or l, rest⟩ ∈ ends r ⟨l, w ++ rest⟩)
    (h : Reads (.star g r) l w rest.head?) (hn : (w ++ rest).length ≤ n) :
    ⟨w.getLast?.or l, rest⟩ ∈ starEnds (ends r) g n ⟨l, w ++ rest⟩ := by
  induction n generalizing l w with
  | zero =>
    have hw : w = [] := by
      rw [Nat.le_zero, List.length_eq_zero_iff, List.append_eq_nil_iff] at hn
      exact hn.1
    subst hw
    exact List.mem_singleton_self _
  | succ n ihn =>
    have hcases : w = [] ∨ ∃ m ∈ ends r ⟨l, w ++ rest⟩, m.ahead.length < (w ++ rest).length ∧
        ⟨w.getLast?.or l, rest⟩ ∈ starEnds (ends r) g n m := by
      cases h with
      | stop => exact Or.inl rfl
      | @step _ _ _ _ u v hu hread hstar =>
        refine Or.inr ⟨⟨u.getLast?.or l, v ++ rest⟩, ?_, ?_, ?_⟩
        · rw [List.append_assoc]
          refine ih l u (v ++ rest) ?_
          rw [List.head?_append]
          exact hread
        · have := List.length_pos_iff.mpr hu
          simp only [List.length_append]
          omega
        · rw [getLast?_append_or]
          refine ihn hstar ?_
          have := List.length_pos_iff.mpr hu
          simp only [List.length_append] at hn ⊢
          omega
    rw [starEnds]
    rcases hcases with rfl | ⟨m, hm, hlt, hq⟩
    · cases g with
      | true => exact List.mem_append_right _ (List.mem_singleton_self _)
      | false => exact List.mem_cons_self
    · have hfurther : ⟨w.getLast?.or l, rest⟩ ∈ ((ends r ⟨l, w ++ rest⟩).filter fun q =>
          q.ahead.length < (w ++ rest).length).flatMap (starEnds (ends r) g n) :=
        List.mem_flatMap.mpr ⟨m, List.mem_filter.mpr ⟨hm, by simpa using hlt⟩, hq⟩
      cases g with
      | true => exact List.mem_append_left _ hfurther
      | false => exact List.mem_cons_of_mem _ hfurther

lemma ends_sound {r : Regex α} {l : Option α} {t : List α} {q : Place α} (h : q ∈ ends r ⟨l, t⟩) :
    ∃ w rest, t = w ++ rest ∧ q = ⟨w.getLast?.or l, rest⟩ ∧ Reads r l w rest.head? := by
  induction r generalizing l t q with
  | empty =>
    obtain rfl := List.mem_singleton.mp h
    exact ⟨[], t, rfl, rfl, .empty⟩
  | one c =>
    cases t with
    | nil => cases h
    | cons x xs =>
      rw [ends] at h
      split at h
      · rename_i hx
        obtain rfl := List.mem_singleton.mp h
        exact ⟨[x], xs, rfl, rfl, .one hx⟩
      · cases h
  | look a =>
    rw [ends] at h
    split at h
    · rename_i ha
      obtain rfl := List.mem_singleton.mp h
      exact ⟨[], t, rfl, rfl, .look ha⟩
    · cases h
  | seq r s ihr ihs =>
    obtain ⟨m, hm, hq⟩ := List.mem_flatMap.mp h
    obtain ⟨u, rest, rfl, rfl, hu⟩ := ihr hm
    obtain ⟨v, rest', rfl, rfl, hv⟩ := ihs hq
    refine ⟨u ++ v, rest', by rw [List.append_assoc], by rw [getLast?_append_or], ?_⟩
    exact .seq (by rw [← List.head?_append]; exact hu) hv
  | alt r s ihr ihs =>
    rcases List.mem_append.mp h with h | h
    · obtain ⟨w, rest, ht, hq, hw⟩ := ihr h
      exact ⟨w, rest, ht, hq, .left hw⟩
    · obtain ⟨w, rest, ht, hq, hw⟩ := ihs h
      exact ⟨w, rest, ht, hq, .right hw⟩
  | star g r ih => exact starEnds_sound (fun l t q hq => ih hq) h

lemma ends_complete {r : Regex α} {l : Option α} {w rest : List α} (h : Reads r l w rest.head?) :
    ⟨w.getLast?.or l, rest⟩ ∈ ends r ⟨l, w ++ rest⟩ := by
  induction r generalizing l w rest with
  | empty =>
    cases h
    exact List.mem_singleton_self _
  | one c =>
    cases h with
    | one hx =>
      rw [List.singleton_append, ends, if_pos hx]
      exact List.mem_singleton_self _
  | look a =>
    cases h with
    | look ha =>
      rw [List.nil_append, ends, if_pos ha]
      exact List.mem_singleton_self _
  | seq r s ihr ihs =>
    cases h with
    | @seq _ _ _ _ u v hu hv =>
      rw [List.append_assoc, getLast?_append_or]
      refine List.mem_flatMap.mpr ⟨⟨u.getLast?.or l, v ++ rest⟩, ihr ?_, ihs hv⟩
      rw [List.head?_append]
      exact hu
  | alt r s ihr ihs =>
    cases h with
    | left h => exact List.mem_append_left _ (ihr h)
    | right h => exact List.mem_append_right _ (ihs h)
  | star g r ih =>
    exact starEnds_complete (fun l w rest hw => ih hw) h (Nat.le_refl _)

lemma ends_eq_nil {r : Regex α} {l : Option α} {t : List α} :
    ends r ⟨l, t⟩ = [] ↔ ∀ w rest, t = w ++ rest → ¬ Reads r l w rest.head? := by
  constructor
  · rintro h w rest rfl hw
    have hmem := ends_complete hw
    rw [h] at hmem
    cases hmem
  · intro h
    rw [List.eq_nil_iff_forall_not_mem]
    intro q hq
    obtain ⟨w, rest, ht, -, hw⟩ := ends_sound hq
    exact h w rest ht hw

end Ends

section Search

variable {r : Regex α} {l : Option α} {t : List α}

lemma OccursFrom.of_tail {x : α} (h : OccursFrom r (some x) t) : OccursFrom r l (x :: t) := by
  obtain ⟨u, w, v, rfl, hw⟩ := h
  refine ⟨x :: u, w, v, rfl, ?_⟩
  rw [getLast?_cons_or]
  exact hw

lemma searchFrom_iff : searchFrom r l t = true ↔ OccursFrom r l t := by
  induction t generalizing l with
  | nil =>
    rw [searchFrom, Bool.not_eq_true', List.isEmpty_eq_false_iff, ne_eq, ends_eq_nil]
    constructor
    · intro h
      push Not at h
      obtain ⟨w, rest, ht, hw⟩ := h
      exact ⟨[], w, rest, ht, hw⟩
    · rintro ⟨u, w, v, ht, hw⟩ h
      obtain ⟨rfl, rfl, rfl⟩ : u = [] ∧ w = [] ∧ v = [] := by simpa using ht.symm
      exact h [] [] rfl hw
  | cons x xs ih =>
    rw [searchFrom, Bool.or_eq_true, Bool.not_eq_true', List.isEmpty_eq_false_iff, ne_eq, ends_eq_nil,
      ih]
    constructor
    · rintro (h | h)
      · push Not at h
        obtain ⟨w, rest, ht, hw⟩ := h
        exact ⟨[], w, rest, ht, hw⟩
      · exact h.of_tail
    · rintro ⟨u, w, v, ht, hw⟩
      cases u with
      | nil => exact Or.inl fun h => h w v ht hw
      | cons y u =>
        obtain ⟨rfl, rfl⟩ := List.cons.inj ht
        rw [getLast?_cons_or] at hw
        exact Or.inr ⟨u, w, v, rfl, hw⟩

lemma search_iff : search r t = true ↔ Occurs r t := searchFrom_iff

instance : Decidable (Occurs r t) := decidable_of_iff _ search_iff

end Search

section Subst

/-- The expression reads no empty word. -/
def Solid (r : Regex α) : Prop := ∀ l n, ¬ Reads r l [] n

variable {r : Regex α} {new : List α} {l : Option α}

lemma substFrom_skip (w v : List α) :
    substFrom r new w.length l (w ++ v) = substFrom r new 0 (w.getLast?.or l) v := by
  induction w generalizing l with
  | nil => rfl
  | cons x w ih =>
    rw [List.length_cons, List.cons_append, substFrom, ih, getLast?_cons_or]

variable (new) in
/-- Either nothing matches at a place, or the first match is replaced. -/
lemma substFrom_cases (hr : Solid r) (l : Option α) (x : α) (xs : List α) :
    ((∀ w v, x :: xs = w ++ v → ¬ Reads r l w v.head?) ∧
      substFrom r new 0 l (x :: xs) = x :: substFrom r new 0 (some x) xs) ∨
    ∃ w v, w ≠ [] ∧ x :: xs = w ++ v ∧ Reads r l w v.head? ∧
      (ends r ⟨l, x :: xs⟩).head? = some ⟨w.getLast?.or l, v⟩ ∧
      substFrom r new 0 l (x :: xs) = new ++ substFrom r new 0 (w.getLast?.or l) v := by
  cases hhead : (ends r ⟨l, x :: xs⟩).head? with
  | none =>
    rw [List.head?_eq_none_iff] at hhead
    refine Or.inl ⟨ends_eq_nil.mp hhead, ?_⟩
    rw [substFrom, hhead]
    rfl
  | some e =>
    obtain ⟨w, v, ht, rfl, hw⟩ := ends_sound (List.mem_of_mem_head? hhead)
    cases w with
    | nil => exact absurd hw (hr _ _)
    | cons y w =>
      obtain rfl : x = y := (List.cons.inj ht).1
      obtain rfl : xs = w ++ v := (List.cons.inj ht).2
      refine Or.inr ⟨x :: w, v, List.cons_ne_nil _ _, rfl, hw, rfl, ?_⟩
      have hle : v.length ≤ (w ++ v).length := by simp
      have hskip : (w ++ v).length - v.length = w.length := by simp
      rw [substFrom, hhead]
      simp only [hle, if_true, hskip, substFrom_skip, getLast?_cons_or]

lemma substFrom_eq_self (hr : Solid r) {t : List α} (h : ¬ OccursFrom r l t) :
    substFrom r new 0 l t = t := by
  induction t generalizing l with
  | nil => rfl
  | cons x xs ih =>
    rcases substFrom_cases new hr l x xs with ⟨-, hsubst⟩ | ⟨w, v, -, ht, hw, -⟩
    · rw [hsubst, ih fun hxs => h hxs.of_tail]
    · exact absurd ⟨[], w, v, ht, hw⟩ h

lemma subst_eq_self (hr : Solid r) {t : List α} (h : ¬ Occurs r t) : subst r new t = t :=
  substFrom_eq_self hr h

end Subst

end Regex

end SecScanMonitor.Foundations
