import SecScanMonitor.Foundations.Splice

/-! Texts that differ in one place. An expression that occurs beside the place occurs whatever stands there, if
its words cannot reach into it, or if they can only span it. -/

namespace SecScanMonitor.Foundations

namespace Regex

variable {r h f : Regex} {x : Char} {s t m : List Char}

section Separated

/-- A word without a character lies on one side of it. -/
lemma word_beside {α : Type} {x : α} {u w v s t : List α} (hx : x ∉ w) (heq : s ++ x :: t = u ++ w ++ v) :
    (∃ v', s = u ++ w ++ v' ∧ v = v' ++ x :: t) ∨ ∃ u', t = u' ++ w ++ v ∧ u = s ++ x :: u' := by
  rcases List.append_eq_append_iff.mp heq with ⟨c, huw, hrest⟩ | ⟨v', hs, hv⟩
  · cases c with
    | nil =>
      rw [List.append_nil] at huw
      exact Or.inl ⟨[], by rw [List.append_nil, huw], hrest.symm⟩
    | cons y c =>
      obtain ⟨rfl, rfl⟩ := List.cons.inj hrest
      rcases List.append_eq_append_iff.mp huw with ⟨d, rfl, hd⟩ | ⟨u', rfl, hd⟩
      · exact absurd (hd ▸ List.mem_append_right d List.mem_cons_self) hx
      · cases u' with
        | nil =>
          rw [List.nil_append] at hd
          exact absurd (hd ▸ List.mem_cons_self) hx
        | cons z u' =>
          obtain ⟨rfl, rfl⟩ := List.cons.inj hd
          exact Or.inr ⟨u', rfl, rfl⟩
  · exact Or.inl ⟨v', hs, hv⟩

/-- An expression whose words lack a character that it cannot tell from none occurs on one side of it. -/
lemma occurs_separated (hx : uses [x] r = false) (hunseen : Unseen x r) :
    Occurs r (s ++ x :: t) ↔ Occurs r s ∨ Occurs r t := by
  have hword : ∀ {l n : Option Char} {w : List Char}, Reads r l w n → x ∉ w := by
    intro l n w hw hmem
    rw [uses_of_reads hw hmem (List.mem_singleton_self x)] at hx
    cases hx
  constructor
  · rintro ⟨u, w, v, heq, hw⟩
    rcases word_beside (hword hw) heq with ⟨v', rfl, rfl⟩ | ⟨u', rfl, rfl⟩
    · refine Or.inl ⟨u, w, v', rfl, hw.like hunseen (.inl rfl) ?_⟩
      cases v' with
      | nil => exact Or.inr ⟨rfl, rfl⟩
      | cons y v' => exact Or.inl rfl
    · refine Or.inr ⟨u', w, v, rfl, hw.like hunseen ?_ (.inl rfl)⟩
      rw [Option.or_none, Option.or_none, List.getLast?_append, List.getLast?_cons]
      cases u'.getLast? with
      | none => exact Or.inr ⟨rfl, rfl⟩
      | some y => exact Or.inl rfl
  · have halike : Alike x none (some x) := Or.inr ⟨Or.inr rfl, Or.inl rfl⟩
    rintro (⟨u, w, v, rfl, hw⟩ | ⟨u, w, v, rfl, hw⟩)
    · refine ⟨u, w, v ++ x :: t, by simp only [List.append_assoc], hw.alike hunseen (.inl rfl) ?_⟩
      cases v with
      | nil => exact halike
      | cons y v => exact Or.inl rfl
    · refine ⟨s ++ x :: u, w, v, by simp only [List.append_assoc, List.cons_append],
        hw.alike hunseen ?_ (.inl rfl)⟩
      rw [Option.or_none, Option.or_none, List.getLast?_append, List.getLast?_cons]
      cases u.getLast? with
      | none => exact halike
      | some y => exact Or.inl rfl

end Separated

section Between

/-- What occurs beside two characters that no word has at an end or side by side, occurs whatever is put between
them. -/
lemma occurs_between (hnull : nullable r = false) (hstart : starts [x] r = false) (hstop : stops [x] r = false)
    (hjoin : joins [x] [x] r = false) (hoccurs : Occurs r (s ++ x :: x :: t)) (m : List Char) :
    Occurs r (s ++ x :: (m ++ x :: t)) := by
  have hne : ∀ {l n : Option Char} {w : List Char}, Reads r l w n → w ≠ [] := by
    rintro l n w hw rfl
    exact solid_of hnull l n hw
  rw [show s ++ x :: x :: t = (s ++ [x]) ++ x :: t by simp] at hoccurs
  rcases occursFrom_append.mp hoccurs with ⟨u, w, v, heq, hw⟩ | ⟨u, a, b, v, ha, hb, hane, hbne, hw⟩ |
    ⟨u, w, v, heq, hw⟩
  · rcases List.eq_nil_or_concat v with rfl | ⟨v, y, rfl⟩
    · -- the word would end in the character
      obtain ⟨w, y, rfl⟩ := (List.eq_nil_or_concat w).resolve_left (hne hw)
      have hy : s ++ [x] = (u ++ w) ++ [y] := by simpa using heq
      obtain ⟨-, hlast⟩ := List.append_inj' hy rfl
      obtain rfl := List.head_eq_of_cons_eq hlast
      have hstops : stops [x] r = true :=
        stops_of_reads hw (by simp) (List.mem_singleton_self x)
      rw [hstop] at hstops
      cases hstops
    · have hy : s ++ [x] = (u ++ w ++ v) ++ [y] := by simpa using heq
      obtain ⟨rfl, hlast⟩ := List.append_inj' hy rfl
      obtain rfl := List.head_eq_of_cons_eq hlast
      refine ⟨u, w, v ++ x :: (m ++ x :: t), by simp only [List.append_assoc], ?_⟩
      cases v with
      | nil => exact hw
      | cons z v => exact hw
  · obtain ⟨a, y, rfl⟩ := (List.eq_nil_or_concat a).resolve_left hane
    cases b with
    | nil => exact absurd rfl hbne
    | cons z b =>
      obtain rfl : x = z := (List.cons.inj hb).1
      have hy : s ++ [x] = (u ++ a) ++ [y] := by simpa using ha
      obtain ⟨-, hlast⟩ := List.append_inj' hy rfl
      obtain rfl := List.head_eq_of_cons_eq hlast
      have hjoins : joins [x] [x] r = true :=
        joins_of_reads hw ⟨a, b, by simp⟩ (List.mem_singleton_self x) (List.mem_singleton_self x)
      rw [hjoin] at hjoins
      cases hjoins
  · cases u with
    | nil =>
      cases w with
      | nil => exact absurd rfl (hne hw)
      | cons z w =>
        obtain rfl : x = z := (List.cons.inj heq).1
        have hstarts : starts [x] r = true := starts_of_reads hw rfl (List.mem_singleton_self x)
        rw [hstart] at hstarts
        cases hstarts
    | cons z u =>
      obtain ⟨rfl, rfl⟩ := List.cons.inj heq
      refine ⟨s ++ x :: (m ++ x :: u), w, v, by simp, ?_⟩
      rw [getLast?_cons_or] at hw
      rw [getLast?_append_or, getLast?_cons_or, getLast?_append_or, getLast?_cons_or]
      cases hlast : u.getLast? with
      | none =>
        rw [hlast, Option.none_or] at hw
        exact hw
      | some y =>
        rw [hlast, Option.some_or] at hw
        exact hw

end Between

section Span

/-- One expression occurs, and after it another one. -/
def Spans (h f : Regex) (t : List Char) : Prop :=
  ∃ u a c b v, t = u ++ a ++ c ++ b ++ v ∧ Reads h none a none ∧ Reads f none b none

variable (g : Bool) in
lemma occurs_span {hs fs : List Regex} (hhead : free (sequence hs) = true) (hfoot : free (sequence fs) = true) :
    Occurs (sequence (hs ++ star g (one fun _ => true) :: fs)) t ↔ Spans (sequence hs) (sequence fs) t := by
  constructor
  · rintro ⟨u, w, v, rfl, hw⟩
    obtain ⟨a, w', rfl, ha, hw'⟩ := (reads_sequence_append hs _).mp hw
    obtain ⟨c, b, rfl, -, hb⟩ := (reads_sequence_cons fs).mp hw'
    exact ⟨u, a, c, b, v, by simp only [List.append_assoc], ha.of_free hhead _ _, hb.of_free hfoot _ _⟩
  · rintro ⟨u, a, c, b, v, rfl, ha, hb⟩
    refine ⟨u, a ++ (c ++ b), v, by simp only [List.append_assoc], (reads_sequence_append hs _).mpr ?_⟩
    refine ⟨a, c ++ b, rfl, ha.of_free hhead _ _, (reads_sequence_cons fs).mpr ⟨c, b, rfl, ?_, hb.of_free hfoot _ _⟩⟩
    exact reads_star_one.mpr fun _ _ => rfl

lemma spans_of_eq {u a c b v : List Char} (ha : Reads h none a none) (hb : Reads f none b none)
    (heq : t = u ++ a ++ c ++ b ++ v) : Spans h f t :=
  ⟨u, a, c, b, v, heq, ha, hb⟩

variable {y : Char}

/-- Two expressions that do not occur in a place between two characters that their words lack span the same with
anything else there. -/
lemma spans_around (hh : uses [x] h = false ∧ uses [y] h = false) (hf : uses [x] f = false ∧ uses [y] f = false)
    (hhout : ∀ a, Reads h none a none → ¬ a <:+: m) (hfout : ∀ b, Reads f none b none → ¬ b <:+: m)
    (hspans : Spans h f (s ++ x :: (m ++ y :: t))) (m' : List Char) : Spans h f (s ++ x :: (m' ++ y :: t)) := by
  have hlack : ∀ {r : Regex} {z : Char} {w : List Char}, uses [z] r = false → Reads r none w none → z ∉ w := by
    intro r z w hz hw hmem
    rw [uses_of_reads hw hmem (List.mem_singleton_self z)] at hz
    cases hz
  obtain ⟨u, a, c, b, v, heq, ha, hb⟩ := hspans
  have heq₁ : s ++ x :: (m ++ y :: t) = u ++ a ++ (c ++ b ++ v) := by simpa only [List.append_assoc] using heq
  rcases word_beside (hlack hh.1 ha) heq₁ with ⟨s', rfl, hrest⟩ | ⟨u', hrest, rfl⟩
  · rcases word_beside (hlack hf.1 hb) hrest.symm with ⟨v', rfl, -⟩ | ⟨c', hafter, rfl⟩
    · exact spans_of_eq ha hb (u := u) (c := c) (v := v' ++ x :: (m' ++ y :: t)) (by simp only [List.append_assoc])
    · rcases word_beside (hlack hf.2 hb) hafter with ⟨v', hm, -⟩ | ⟨c'', rfl, -⟩
      · exact absurd ⟨c', v', hm.symm⟩ (hfout b hb)
      · exact spans_of_eq ha hb (u := u) (c := s' ++ x :: (m' ++ y :: c'')) (v := v)
          (by simp only [List.append_assoc, List.cons_append])
  · have hrest' : m ++ y :: t = u' ++ a ++ (c ++ b ++ v) := by simpa only [List.append_assoc] using hrest
    rcases word_beside (hlack hh.2 ha) hrest' with ⟨v', hm, -⟩ | ⟨u'', rfl, -⟩
    · exact absurd ⟨u', v', hm.symm⟩ (hhout a ha)
    · exact spans_of_eq ha hb (u := s ++ x :: (m' ++ y :: u'')) (c := c) (v := v)
        (by simp only [List.append_assoc, List.cons_append])

end Span

end Regex

end SecScanMonitor.Foundations
