import SecScanMonitor.Foundations.Regex

/-! Which words an expression can read, as far as its syntax tells: how they can begin and end, which
characters can stand side by side in them, and how short they can be. -/

namespace SecScanMonitor.Foundations

namespace Regex

variable {α : Type}

section Shape

variable (xs ys : List α)

def nullable : Regex α → Bool
  | empty | look _ | star _ _ => true
  | one _ => false
  | seq r s => nullable r && nullable s
  | alt r s => nullable r || nullable s

/-- May a word start with one of the characters? -/
def starts : Regex α → Bool
  | empty | look _ => false
  | one p => xs.any p
  | seq r s => starts r || (nullable r && starts s)
  | alt r s => starts r || starts s
  | star _ r => starts r

/-- May a word stop with one of the characters? -/
def stops : Regex α → Bool
  | empty | look _ => false
  | one p => xs.any p
  | seq r s => stops s || (nullable s && stops r)
  | alt r s => stops r || stops s
  | star _ r => stops r

/-- May one of the first characters stand directly before one of the second in a word? -/
def joins : Regex α → Bool
  | empty | look _ | one _ => false
  | seq r s => joins r || joins s || (stops xs r && starts ys s)
  | alt r s => joins r || joins s
  | star _ r => joins r || (stops xs r && starts ys r)

/-- May a word have one of the characters? -/
def uses : Regex α → Bool
  | empty | look _ => false
  | one p => xs.any p
  | seq r s | alt r s => uses r || uses s
  | star _ r => uses r

/-- No word is shorter. -/
def least : Regex α → ℕ
  | empty | look _ | star _ _ => 0
  | one _ => 1
  | seq r s => least r + least s
  | alt r s => min (least r) (least s)

/-- Nothing is asserted of the characters around a word. -/
def free : Regex α → Bool
  | empty | one _ => true
  | look _ => false
  | seq r s | alt r s => free r && free s
  | star _ r => free r

end Shape

section Sound

variable {r : Regex α} {l n : Option α} {w : List α} {xs ys : List α} {x y : α}

lemma any_of {p : α → Bool} (hx : x ∈ xs) (h : p x = true) : xs.any p = true :=
  List.any_eq_true.mpr ⟨x, hx, h⟩

lemma nullable_of_reads (h : Reads r l w n) (hw : w = []) : nullable r = true := by
  induction h with
  | empty | look _ | stop | step _ _ _ => rfl
  | one _ => cases hw
  | seq _ _ ihr ihs =>
    obtain ⟨rfl, rfl⟩ := List.append_eq_nil_iff.mp hw
    rw [nullable, ihr rfl, ihs rfl, Bool.and_self]
  | left _ ih => rw [nullable, ih hw, Bool.true_or]
  | right _ ih => rw [nullable, ih hw, Bool.or_true]

lemma solid_of (h : nullable r = false) : Solid r := by
  intro l n hr
  rw [nullable_of_reads hr rfl] at h
  cases h

lemma starts_of_reads (h : Reads r l w n) (hw : w.head? = some x) (hx : x ∈ xs) :
    starts xs r = true := by
  induction h with
  | empty | look _ | stop => cases hw
  | one hc =>
    obtain rfl := Option.some.inj hw
    exact any_of hx hc
  | @seq r s l n u v hu _ ihr ihs =>
    cases u with
    | nil => rw [starts, nullable_of_reads hu rfl, ihs hw, Bool.true_and, Bool.or_true]
    | cons z u => rw [starts, ihr hw, Bool.true_or]
  | left _ ih => rw [starts, ih hw, Bool.true_or]
  | right _ ih => rw [starts, ih hw, Bool.or_true]
  | @step g r l n u v hu _ _ ihr _ =>
    cases u with
    | nil => exact absurd rfl hu
    | cons z u => exact ihr hw

lemma stops_of_reads (h : Reads r l w n) (hw : w.getLast? = some x) (hx : x ∈ xs) :
    stops xs r = true := by
  induction h with
  | empty | look _ | stop => cases hw
  | one hc =>
    obtain rfl := Option.some.inj hw
    exact any_of hx hc
  | @seq r s l n u v _ hv ihr ihs =>
    rw [List.getLast?_append] at hw
    cases hlast : v.getLast? with
    | none =>
      rw [hlast] at hw
      rw [stops, nullable_of_reads hv (List.getLast?_eq_none_iff.mp hlast), ihr hw, Bool.true_and,
        Bool.or_true]
    | some z =>
      rw [hlast] at hw
      rw [stops, ihs (hlast.trans hw), Bool.true_or]
  | left _ ih => rw [stops, ih hw, Bool.true_or]
  | right _ ih => rw [stops, ih hw, Bool.or_true]
  | @step g r l n u v hu _ _ ihr ihs =>
    rw [List.getLast?_append] at hw
    cases hlast : v.getLast? with
    | none =>
      rw [hlast] at hw
      exact ihr hw
    | some z =>
      rw [hlast] at hw
      exact ihs (hlast.trans hw)

/-- Two characters that are neighbours in a word of two parts. -/
lemma pair_append {u v : List α} (h : [x, y] <:+: u ++ v) :
    [x, y] <:+: u ∨ [x, y] <:+: v ∨ u.getLast? = some x ∧ v.head? = some y := by
  rcases List.infix_append_iff_ne_nil.mp h with h | h | ⟨a, b, ha, hb, hab, hu, hv⟩
  · exact Or.inl h
  · exact Or.inr (Or.inl h)
  · obtain ⟨rfl, rfl⟩ : a = [x] ∧ b = [y] := by
      cases a with
      | nil => exact absurd rfl ha
      | cons x' a =>
        cases a with
        | nil => simpa [eq_comm] using hab
        | cons y' a =>
          cases b with
          | nil => exact absurd rfl hb
          | cons z b => simp at hab
    obtain ⟨t, rfl⟩ := hu
    obtain ⟨t', rfl⟩ := hv
    exact Or.inr (Or.inr ⟨by simp, rfl⟩)

lemma joins_of_reads (h : Reads r l w n) (hw : [x, y] <:+: w) (hx : x ∈ xs) (hy : y ∈ ys) :
    joins xs ys r = true := by
  induction h with
  | empty | look _ | stop => exact absurd (List.infix_nil.mp hw) (List.cons_ne_nil _ _)
  | one _ =>
    have hlength := hw.length_le
    simp at hlength
  | seq hu hv ihr ihs =>
    rw [joins]
    rcases pair_append hw with h | h | ⟨hlast, hhead⟩
    · rw [ihr h, Bool.true_or, Bool.true_or]
    · rw [ihs h, Bool.or_true, Bool.true_or]
    · rw [stops_of_reads hu hlast hx, starts_of_reads hv hhead hy, Bool.true_and, Bool.or_true]
  | left _ ih => rw [joins, ih hw, Bool.true_or]
  | right _ ih => rw [joins, ih hw, Bool.or_true]
  | @step g r l n u v _ hu hv ihr ihs =>
    rcases pair_append hw with h | h | ⟨hlast, hhead⟩
    · rw [joins, ihr h, Bool.true_or]
    · exact ihs h
    · rw [joins, stops_of_reads hu hlast hx,
        show starts ys r = true from starts_of_reads (r := star g r) hv hhead hy, Bool.true_and,
        Bool.or_true]

lemma uses_of_reads (h : Reads r l w n) (hw : x ∈ w) (hx : x ∈ xs) : uses xs r = true := by
  induction h with
  | empty | look _ | stop => cases hw
  | one hc =>
    obtain rfl := List.mem_singleton.mp hw
    exact any_of hx hc
  | seq _ _ ihr ihs =>
    rcases List.mem_append.mp hw with h | h
    · rw [uses, ihr h, Bool.true_or]
    · rw [uses, ihs h, Bool.or_true]
  | left _ ih => rw [uses, ih hw, Bool.true_or]
  | right _ ih => rw [uses, ih hw, Bool.or_true]
  | step _ _ _ ihr ihs =>
    rcases List.mem_append.mp hw with h | h
    · exact ihr h
    · exact ihs h

lemma least_le (h : Reads r l w n) : least r ≤ w.length := by
  induction h with
  | empty | look _ | stop | step _ _ _ => exact Nat.zero_le _
  | one _ => exact Nat.le_refl 1
  | seq _ _ ihr ihs =>
    rw [List.length_append]
    exact Nat.add_le_add ihr ihs
  | left _ ih => exact Nat.le_trans (Nat.min_le_left _ _) ih
  | right _ ih => exact Nat.le_trans (Nat.min_le_right _ _) ih

lemma Reads.of_free (h : Reads r l w n) (hr : free r = true) (l' n' : Option α) :
    Reads r l' w n' := by
  induction h generalizing l' n' with
  | empty => exact .empty
  | one hc => exact .one hc
  | look _ => cases hr
  | seq _ _ ihr ihs =>
    obtain ⟨hr, hs⟩ := Bool.and_eq_true_iff.mp hr
    exact .seq (ihr hr _ _) (ihs hs _ _)
  | left _ ih => exact .left (ih (Bool.and_eq_true_iff.mp hr).1 _ _)
  | right _ ih => exact .right (ih (Bool.and_eq_true_iff.mp hr).2 _ _)
  | stop => exact .stop
  | step hu _ _ ihr ihs => exact .step hu (ihr hr _ _) (ihs hr _ _)

end Sound

section Unseen

/-- No assertion tells a character from no character. -/
def Unseen (x : α) : Regex α → Prop
  | empty | one _ => True
  | look q => (∀ n, q (some x) n = q none n) ∧ ∀ l, q l (some x) = q l none
  | seq r s | alt r s => Unseen x r ∧ Unseen x s
  | star _ r => Unseen x r

lemma unseen_of_free {x : α} {r : Regex α} (h : free r = true) : Unseen x r := by
  induction r with
  | empty | one _ => trivial
  | look _ => cases h
  | seq r s ihr ihs | alt r s ihr ihs =>
    obtain ⟨hr, hs⟩ := Bool.and_eq_true_iff.mp h
    exact ⟨ihr hr, ihs hs⟩
  | star _ r ih => exact ih h

/-- The same, or each the character or no character. -/
def Alike (x : α) (l l' : Option α) : Prop :=
  l = l' ∨ (l = some x ∨ l = none) ∧ (l' = some x ∨ l' = none)

lemma Alike.or {x : α} {l l' : Option α} (h : Alike x l l') (o : Option α) :
    Alike x (o.or l) (o.or l') := by
  cases o with
  | none => exact h
  | some y => exact Or.inl rfl

lemma Alike.symm {x : α} {l l' : Option α} (h : Alike x l l') : Alike x l' l :=
  Or.imp Eq.symm And.symm h

lemma Alike.eq {x : α} {l l' : Option α} (h : Alike x l l') {β : Type} {f : Option α → β}
    (hf : f (some x) = f none) : f l = f l' := by
  rcases h with rfl | ⟨rfl | rfl, rfl | rfl⟩
  · rfl
  · rfl
  · exact hf
  · exact hf.symm
  · rfl

/-- An expression that cannot tell a character from none reads as before where one stands for the other. -/
lemma Reads.alike {x : α} {r : Regex α} {l n : Option α} {w : List α} (h : Reads r l w n)
    (hr : Unseen x r) {l' n' : Option α} (hl : Alike x l l') (hn : Alike x n n') : Reads r l' w n' := by
  induction h generalizing l' n' with
  | empty => exact .empty
  | one hc => exact .one hc
  | @look q l n hq =>
    refine .look ?_
    rw [← hn.eq (hr.2 l'), ← hl.eq (f := fun l => q l n) (hr.1 n), hq]
  | seq _ _ ihr ihs => exact .seq (ihr hr.1 hl (hn.or _)) (ihs hr.2 (hl.or _) hn)
  | left _ ih => exact .left (ih hr.1 hl hn)
  | right _ ih => exact .right (ih hr.2 hl hn)
  | stop => exact .stop
  | step hu _ _ ihr ihs => exact .step hu (ihr hr hl (hn.or _)) (ihs hr (hl.or _) hn)

/-- The same, or the character and no character. -/
def Like (x : α) (l l' : Option α) : Prop := l = l' ∨ l = some x ∧ l' = none

lemma Like.alike {x : α} {l l' : Option α} (h : Like x l l') : Alike x l l' :=
  h.imp id fun h => ⟨Or.inl h.1, Or.inr h.2⟩

lemma Reads.like {x : α} {r : Regex α} {l n : Option α} {w : List α} (h : Reads r l w n)
    (hr : Unseen x r) {l' n' : Option α} (hl : Like x l l') (hn : Like x n n') : Reads r l' w n' :=
  h.alike hr hl.alike hn.alike

end Unseen

section Words

variable {r : Regex α} {l n : Option α} {w : List α}

lemma reads_empty : Reads empty l w n ↔ w = [] := by
  constructor
  · rintro ⟨⟩
    rfl
  · rintro rfl
    exact .empty

lemma reads_one {p : α → Bool} : Reads (one p) l w n ↔ ∃ x, w = [x] ∧ p x = true := by
  constructor
  · rintro (_ | h)
    exact ⟨_, rfl, h⟩
  · rintro ⟨x, rfl, h⟩
    exact .one h

lemma reads_look {p : Option α → Option α → Bool} : Reads (look p) l w n ↔ w = [] ∧ p l n = true := by
  constructor
  · rintro (_ | _ | h)
    exact ⟨rfl, h⟩
  · rintro ⟨rfl, h⟩
    exact .look h

lemma reads_seq {s : Regex α} : Reads (seq r s) l w n ↔
    ∃ u v, w = u ++ v ∧ Reads r l u (v.head?.or n) ∧ Reads s (u.getLast?.or l) v n := by
  constructor
  · intro h
    cases h with
    | seq hu hv => exact ⟨_, _, rfl, hu, hv⟩
  · rintro ⟨u, v, rfl, hu, hv⟩
    exact .seq hu hv

lemma reads_alt {s : Regex α} : Reads (alt r s) l w n ↔ Reads r l w n ∨ Reads s l w n := by
  constructor
  · intro h
    cases h with
    | left h => exact Or.inl h
    | right h => exact Or.inr h
  · rintro (h | h)
    · exact .left h
    · exact .right h

lemma reads_oneOf {rs : List (Regex α)} : Reads (oneOf rs) l w n ↔ ∃ r ∈ rs, Reads r l w n := by
  fun_induction oneOf rs with
  | case1 => simp [reads_one]
  | case2 r => simp
  | case3 r rs _ ih => rw [reads_alt, ih, List.exists_mem_cons_iff]

lemma reads_star_one {g : Bool} {p : α → Bool} : Reads (star g (one p)) l w n ↔ ∀ x ∈ w, p x = true := by
  constructor
  · intro h
    generalize hs : star g (one p) = s at h
    induction h with
    | empty | one | look | seq | left | right => cases hs
    | stop => simp
    | step _ hu _ _ ih =>
      cases hs
      obtain ⟨x, rfl, hx⟩ := reads_one.mp hu
      exact List.forall_mem_cons.mpr ⟨hx, ih rfl⟩
  · intro h
    induction w generalizing l with
    | nil => exact .stop
    | cons x w ih =>
      obtain ⟨hx, h⟩ := List.forall_mem_cons.mp h
      exact .step (List.cons_ne_nil x []) (.one hx) (ih h)

lemma reads_plus_one {p : α → Bool} : Reads (plus (one p)) l w n ↔ w ≠ [] ∧ ∀ x ∈ w, p x = true := by
  rw [plus, reads_seq]
  constructor
  · rintro ⟨u, v, rfl, hu, hv⟩
    obtain ⟨x, rfl, hx⟩ := reads_one.mp hu
    exact ⟨List.cons_ne_nil x v, List.forall_mem_cons.mpr ⟨hx, reads_star_one.mp hv⟩⟩
  · rintro ⟨hw, h⟩
    cases w with
    | nil => exact absurd rfl hw
    | cons x w =>
      obtain ⟨hx, h⟩ := List.forall_mem_cons.mp h
      exact ⟨[x], w, rfl, .one hx, reads_star_one.mpr h⟩

end Words

end Regex

end SecScanMonitor.Foundations
