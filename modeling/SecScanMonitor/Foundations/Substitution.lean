import SecScanMonitor.Foundations.RegexShape

/-! What a substitution leaves of a text: words that keep clear of the replacement were there before, no
match is left of an expression that looks at nothing around it, and a part that no match can touch stays. -/

namespace SecScanMonitor.Foundations

namespace Regex

variable {r s : Regex} {new : List Char} {l : Option Char}

section Words

/-- A word that does not begin as the replacement does starts a substituted text only if it started the text. -/
lemma prefix_of_substFrom (hr : Solid r) {w t : List Char} (hnew : new ≠ [])
    (hhead : ∀ x, new.head? = some x → x ∉ w) (h : w <+: substFrom r new 0 l t) : w <+: t := by
  induction t generalizing l w with
  | nil => exact h
  | cons x xs ih =>
    cases w with
    | nil => exact List.nil_prefix
    | cons y w =>
      rcases substFrom_cases new hr l x xs with ⟨-, hsubst⟩ | ⟨u, v, -, -, -, -, hsubst⟩
      · rw [hsubst] at h
        obtain ⟨rfl, h⟩ := List.cons_prefix_cons.mp h
        refine List.cons_prefix_cons.mpr ⟨rfl, ih ?_ h⟩
        intro z hz hmem
        exact hhead z hz (List.mem_cons_of_mem y hmem)
      · cases new with
        | nil => exact absurd rfl hnew
        | cons z new =>
          rw [hsubst, List.cons_append] at h
          obtain ⟨rfl, -⟩ := List.cons_prefix_cons.mp h
          exact absurd List.mem_cons_self (hhead y rfl)

/-- A word keeps clear of a replacement. -/
structure Clear (new w : List Char) : Prop where
  head : ∀ x, new.head? = some x → x ∉ w
  last : ∀ x, new.getLast? = some x → x ∉ w
  outside : ¬ w <:+: new

lemma Clear.nonempty {w : List Char} (h : Clear new w) : w ≠ [] := by
  rintro rfl
  exact h.outside List.nil_infix

/-- Words of a text with a replacement before it. -/
lemma Clear.append {w v : List Char} (h : Clear new w) (hw : w <:+: new ++ v) : w <:+: v := by
  rcases List.infix_append_iff_ne_nil.mp hw with hw | hw | ⟨a, b, ha, -, rfl, ⟨t, rfl⟩, -⟩
  · exact absurd hw h.outside
  · exact hw
  · exfalso
    obtain ⟨x, hx⟩ : ∃ x, a.getLast? = some x := ⟨_, List.getLast?_eq_some_getLast ha⟩
    refine h.last x ?_ (List.mem_append_left _ (List.mem_of_getLast? hx))
    rw [List.getLast?_append, hx]
    rfl

lemma infix_of_substFrom (hr : Solid r) {w t : List Char} (hnew : new ≠ []) (hw : Clear new w)
    (h : w <:+: substFrom r new 0 l t) : w <:+: t := by
  induction hn : t.length using Nat.strongRecOn generalizing l t with
  | ind n ih =>
    subst hn
    cases t with
    | nil => exact h
    | cons x xs =>
      rcases substFrom_cases new hr l x xs with
        ⟨-, hsubst⟩ | ⟨u, v, hu, ht, -, -, hsubst⟩
      · rw [hsubst] at h
        rcases List.infix_cons_iff.mp h with h | h
        · rw [← hsubst] at h
          exact (prefix_of_substFrom hr hnew hw.head h).isInfix
        · exact (ih xs.length (by simp) h rfl).trans (List.suffix_cons x xs).isInfix
      · rw [hsubst] at h
        have hlt : v.length < (x :: xs).length := by
          rw [ht, List.length_append]
          have := List.length_pos_iff.mpr hu
          omega
        rw [ht]
        exact (ih v.length hlt (hw.append h) rfl).trans (List.suffix_append u v).isInfix

/-- Nothing that the expression matches is left, clear of the replacement. -/
lemma not_reads_substFrom (hr : Solid r) (hfree : free r = true) {w t : List Char} (hnew : new ≠ [])
    (hw : Clear new w) (h : w <:+: substFrom r new 0 l t) : ¬ Reads r none w none := by
  intro hread
  induction hn : t.length using Nat.strongRecOn generalizing l t with
  | ind n ih =>
    subst hn
    cases t with
    | nil => exact hw.nonempty (List.infix_nil.mp h)
    | cons x xs =>
      rcases substFrom_cases new hr l x xs with
        ⟨hnone, hsubst⟩ | ⟨u, v, hu, ht, -, -, hsubst⟩
      · rw [hsubst] at h
        rcases List.infix_cons_iff.mp h with h | h
        · rw [← hsubst] at h
          obtain ⟨v, hv⟩ := prefix_of_substFrom hr hnew hw.head h
          exact hnone w v hv.symm (hread.of_free hfree _ _)
        · exact ih xs.length (by simp) h rfl
      · rw [hsubst] at h
        refine ih v.length ?_ (hw.append h) rfl
        rw [ht, List.length_append]
        have := List.length_pos_iff.mpr hu
        omega

end Words

section Occurrences

lemma occurs_of_part (hfree : free s = true) {w t : List Char} (h : w <:+: t)
    (hw : Reads s none w none) : Occurs s t := by
  obtain ⟨u, v, rfl⟩ := h
  exact ⟨u, w, v, rfl, hw.of_free hfree _ _⟩

/-- The words of an expression keep clear of a replacement. -/
structure Apart (s : Regex) (new : List Char) : Prop where
  nonempty : new ≠ []
  free : free s = true
  head : ∀ x, new.head? = some x → uses [x] s = false
  last : ∀ x, new.getLast? = some x → uses [x] s = false
  outside : ¬ Occurs s new

lemma Apart.clear (h : Apart s new) {w : List Char} (hw : Reads s none w none) : Clear new w := by
  have huse : ∀ x, uses [x] s = false → x ∉ w := by
    intro x hx hmem
    rw [uses_of_reads hw hmem (List.mem_singleton_self x)] at hx
    cases hx
  refine ⟨fun x hx => huse x (h.head x hx), fun x hx => huse x (h.last x hx), ?_⟩
  intro hinfix
  exact h.outside (occurs_of_part h.free hinfix hw)

/-- A substitution makes no occurrence. -/
lemma not_occurs_subst (hr : Solid r) (hs : Apart s new) {t : List Char} (h : ¬ Occurs s t) :
    ¬ Occurs s (subst r new t) := by
  rintro ⟨u, w, v, ht, hw⟩
  have hw' := hw.of_free hs.free none none
  have hinfix : w <:+: subst r new t := ⟨u, v, ht.symm⟩
  exact h (occurs_of_part hs.free (infix_of_substFrom hr hs.nonempty (hs.clear hw') hinfix) hw')

/-- An expression does not occur once it is substituted. -/
lemma not_occurs_subst_self (hr : Solid r) (hs : Apart r new) (t : List Char) :
    ¬ Occurs r (subst r new t) := by
  rintro ⟨u, w, v, ht, hw⟩
  have hw' := hw.of_free hs.free none none
  exact not_reads_substFrom hr hs.free hs.nonempty (hs.clear hw') ⟨u, v, ht.symm⟩ hw'

end Occurrences

section Kept

variable {a b : Char} {n : Option Char}

/-- A match does not leave a text whose last character cannot be a neighbour of the next one. -/
lemma within_of_not_joins (hab : joins [a] [b] r = false) {t w v rest : List Char}
    (ht : t.getLast? = some a) (hw : Reads r l w n) (heq : t ++ b :: rest = w ++ v) :
    ∃ t', t = w ++ t' ∧ v = t' ++ b :: rest := by
  obtain ⟨t, rfl⟩ := List.getLast?_eq_some_iff.mp ht
  rcases List.append_eq_append_iff.mp heq with ⟨w', rfl, hrest⟩ | h
  · cases w' with
    | nil => exact ⟨[], by simp, hrest.symm⟩
    | cons b' w' =>
      exfalso
      obtain ⟨rfl, -⟩ := List.cons.inj hrest
      have hjoin : joins [a] [b] r = true := joins_of_reads hw ⟨t, w', by simp⟩
        (List.mem_singleton_self a) (List.mem_singleton_self b)
      rw [hab] at hjoin
      cases hjoin
  · exact h

/-- What stands before such a place is substituted by itself. -/
lemma substFrom_through (hr : Solid r) (hnew : new ≠ []) (hab : joins [a] [b] r = false)
    {t : List Char} (rest : List Char) (ht : t.getLast? = some a) :
    ∃ t', substFrom r new 0 l (t ++ b :: rest) = t' ++ substFrom r new 0 (some a) (b :: rest) ∧
      ∃ z, t'.getLast? = some z ∧ (z = a ∨ new.getLast? = some z) := by
  induction hn : t.length using Nat.strongRecOn generalizing l t with
  | ind n ih =>
    subst hn
    cases t with
    | nil => cases ht
    | cons x xs =>
      rcases substFrom_cases new hr l x (xs ++ b :: rest) with
        ⟨-, hsubst⟩ | ⟨w, v, hw, heq, hread, -, hsubst⟩
      · rw [List.cons_append, hsubst]
        cases xs with
        | nil =>
          obtain rfl := Option.some.inj ht
          exact ⟨[x], rfl, x, rfl, Or.inl rfl⟩
        | cons y ys =>
          rw [List.getLast?_cons_cons] at ht
          obtain ⟨t', ht', z, hz, hlast⟩ := ih (y :: ys).length (by simp) (l := some x) ht rfl
          refine ⟨x :: t', by rw [ht', List.cons_append], z, ?_, hlast⟩
          rw [List.getLast?_cons, hz]
          rfl
      · obtain ⟨t', hxs, rfl⟩ := within_of_not_joins hab ht hread heq
        rw [List.cons_append, hsubst]
        rw [hxs, List.getLast?_append] at ht
        cases hlast : t'.getLast? with
        | none =>
          rw [List.getLast?_eq_none_iff] at hlast
          subst hlast
          rw [List.getLast?_nil, Option.none_or] at ht
          refine ⟨new, by rw [ht]; rfl, ?_⟩
          obtain ⟨z, hz⟩ : ∃ z, new.getLast? = some z := ⟨_, List.getLast?_eq_some_getLast hnew⟩
          exact ⟨z, hz, Or.inr hz⟩
        | some z =>
          rw [hlast, Option.some_or] at ht
          have hlt : t'.length < (x :: xs).length := by
            rw [hxs, List.length_append]
            have := List.length_pos_iff.mpr hw
            omega
          obtain ⟨t'', ht'', z', hz', hlast'⟩ := ih t'.length hlt (l := w.getLast?.or l)
            (hlast.trans ht) rfl
          refine ⟨new ++ t'', by rw [ht'', List.append_assoc], z', ?_, hlast'⟩
          rw [List.getLast?_append, hz']
          rfl

/-- No word starts with the first character before the second one. -/
def Skips (r : Regex) (x y : Char) : Prop := starts [x] r = false ∨ joins [x] [y] r = false

/-- A part where no word starts is left as it is. -/
lemma substFrom_part (hr : Solid r) (hleast : 2 ≤ least r) {part rest : List Char}
    (hpart : (part ++ [b]).IsChain (Skips r)) :
    substFrom r new 0 l (part ++ b :: rest) =
      part ++ substFrom r new 0 (part.getLast?.or l) (b :: rest) := by
  induction part generalizing l with
  | nil => rfl
  | cons x part ih =>
    obtain ⟨y, ys, hy, hys⟩ : ∃ y ys, part ++ [b] = y :: ys ∧ ∃ zs, part ++ b :: rest = y :: zs := by
      cases part with
      | nil => exact ⟨b, [], rfl, rest, rfl⟩
      | cons y part => exact ⟨y, part ++ [b], rfl, part ++ b :: rest, rfl⟩
    obtain ⟨zs, hzs⟩ := hys
    rw [List.cons_append, hy, List.isChain_cons_cons, ← hy] at hpart
    rcases substFrom_cases new hr l x (part ++ b :: rest) with
      ⟨-, hsubst⟩ | ⟨w, v, -, heq, hread, -, -⟩
    · rw [List.cons_append, hsubst, ih hpart.2, List.cons_append, getLast?_cons_or]
    · exfalso
      have hlength := least_le hread
      rw [hzs] at heq
      -- the match has two characters at least, which are neighbours here
      match w with
      | [] | [_] =>
        simp only [List.length_nil, List.length_singleton] at hlength
        omega
      | x' :: y' :: w =>
        obtain ⟨rfl, hys⟩ := List.cons.inj heq
        obtain ⟨rfl, -⟩ := List.cons.inj hys
        have hstart : starts [x] r = true := starts_of_reads hread rfl (List.mem_singleton_self x)
        have hjoin : joins [x] [y] r = true := joins_of_reads hread ⟨[], w, rfl⟩
          (List.mem_singleton_self x) (List.mem_singleton_self y)
        rcases hpart.1 with h | h
        · rw [h] at hstart
          cases hstart
        · rw [h] at hjoin
          cases hjoin

lemma head?_substFrom (hr : Solid r) (hnew : new ≠ []) (rest : List Char) :
    ∃ z, (substFrom r new 0 l (b :: rest)).head? = some z ∧ (z = b ∨ new.head? = some z) := by
  rcases substFrom_cases new hr l b rest with ⟨-, hsubst⟩ | ⟨w, v, -, -, -, -, hsubst⟩
  · rw [hsubst]
    exact ⟨b, rfl, Or.inl rfl⟩
  · cases new with
    | nil => exact absurd rfl hnew
    | cons z new =>
      rw [hsubst]
      exact ⟨z, rfl, Or.inr rfl⟩

end Kept

end Regex

end SecScanMonitor.Foundations
