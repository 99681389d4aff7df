import SecScanMonitor.Foundations.RegexShape

/-! Occurrences in a text that is put together from others: where a part ends, a match lies on one side or
goes across. -/

namespace SecScanMonitor.Foundations

namespace Regex

section Sequence

variable {r s : Regex} {l n : Option Char} {w : List Char}

lemma reads_sequence_cons (rs : List Regex) : Reads (sequence (r :: rs)) l w n ↔
    ∃ u v, w = u ++ v ∧ Reads r l u (v.head?.or n) ∧ Reads (sequence rs) (u.getLast?.or l) v n := by
  cases rs with
  | nil =>
    constructor
    · intro h
      exact ⟨w, [], (List.append_nil w).symm, h, .empty⟩
    · rintro ⟨u, v, rfl, hu, hv⟩
      cases hv
      rw [List.append_nil]
      exact hu
  | cons s rs => exact reads_seq

lemma reads_sequence_append (rs ss : List Regex) : Reads (sequence (rs ++ ss)) l w n ↔
    ∃ u v, w = u ++ v ∧ Reads (sequence rs) l u (v.head?.or n) ∧
      Reads (sequence ss) (u.getLast?.or l) v n := by
  induction rs generalizing l w with
  | nil =>
    constructor
    · intro h
      exact ⟨[], w, rfl, .empty, h⟩
    · rintro ⟨u, v, rfl, hu, hv⟩
      cases hu
      exact hv
  | cons r rs ih =>
    rw [List.cons_append, reads_sequence_cons]
    constructor
    · rintro ⟨a, w', rfl, ha, hw'⟩
      obtain ⟨b, v, rfl, hb, hv⟩ := ih.mp hw'
      refine ⟨a ++ b, v, (List.append_assoc a b v).symm, ?_, ?_⟩
      · refine (reads_sequence_cons rs).mpr ⟨a, b, rfl, ?_, hb⟩
        rw [← Option.or_assoc, ← List.head?_append]
        exact ha
      · rw [getLast?_append_or]
        exact hv
    · rintro ⟨u, v, rfl, hu, hv⟩
      obtain ⟨a, b, rfl, ha, hb⟩ := (reads_sequence_cons rs).mp hu
      refine ⟨a, b ++ v, List.append_assoc a b v, ?_, ih.mpr ⟨b, v, rfl, hb, ?_⟩⟩
      · rw [List.head?_append, Option.or_assoc]
        exact ha
      · rw [← getLast?_append_or]
        exact hv

end Sequence

section Loose

/-- The expression with nothing asserted. -/
def loosen : Regex → Regex
  | empty => empty
  | one p => one p
  | look _ => empty
  | seq r s => seq (loosen r) (loosen s)
  | alt r s => alt (loosen r) (loosen s)
  | star g r => star g (loosen r)

lemma free_loosen (r : Regex) : free (loosen r) = true := by
  induction r with
  | empty | one _ | look _ => rfl
  | seq r s ihr ihs | alt r s ihr ihs => rw [loosen, free, ihr, ihs, Bool.and_self]
  | star g r ih => exact ih

lemma Reads.loosen {r : Regex} {l n : Option Char} {w : List Char} (h : Reads r l w n) :
    Reads (loosen r) l w n := by
  induction h with
  | empty | look _ => exact .empty
  | one hc => exact .one hc
  | seq _ _ ihr ihs => exact .seq ihr ihs
  | left _ ih => exact .left ih
  | right _ ih => exact .right ih
  | stop => exact .stop
  | step hu _ _ ihr ihs => exact .step hu ihr ihs

lemma OccursFrom.loosen {r : Regex} {l : Option Char} {t : List Char} (h : OccursFrom r l t) :
    Occurs (loosen r) t := by
  obtain ⟨u, w, v, ht, hw⟩ := h
  exact ⟨u, w, v, ht, hw.loosen.of_free (free_loosen r) _ _⟩

/-- May a word have no characters but these? -/
def readable (xs : List Char) : Regex → Bool
  | empty | look _ | star _ _ => true
  | one p => xs.any p
  | seq r s => readable xs r && readable xs s
  | alt r s => readable xs r || readable xs s

lemma readable_of_reads {r : Regex} {l n : Option Char} {w xs : List Char} (h : Reads r l w n)
    (hw : ∀ x ∈ w, x ∈ xs) : readable xs r = true := by
  induction h with
  | empty | look _ | stop | step _ _ _ => rfl
  | one hc => exact any_of (hw _ List.mem_cons_self) hc
  | seq _ _ ihr ihs =>
    rw [readable, ihr fun x hx => hw x (List.mem_append_left _ hx),
      ihs fun x hx => hw x (List.mem_append_right _ hx), Bool.and_self]
  | left _ ih => rw [readable, ih hw, Bool.true_or]
  | right _ ih => rw [readable, ih hw, Bool.or_true]

lemma not_occurs_of_readable {r : Regex} {t xs : List Char} (hr : readable xs r = false)
    (ht : ∀ x ∈ t, x ∈ xs) : ¬ Occurs r t := by
  rintro ⟨u, w, v, rfl, hw⟩
  have hwords : ∀ x ∈ w, x ∈ xs := fun x hx => ht x (by simp [hx])
  rw [readable_of_reads hw hwords] at hr
  cases hr

end Loose

section Append

variable {r : Regex} {l : Option Char} {t rest : List Char}

/-- A match begins in a text and ends in what follows it. -/
def Crosses (r : Regex) (l : Option Char) (t rest : List Char) : Prop :=
  ∃ u a b v, t = u ++ a ∧ rest = b ++ v ∧ a ≠ [] ∧ b ≠ [] ∧ Reads r (u.getLast?.or l) (a ++ b) v.head?

/-- A match lies in a text before some characters. -/
def OccursBefore (r : Regex) (l : Option Char) (t : List Char) (n : Option Char) : Prop :=
  ∃ u w v, t = u ++ w ++ v ∧ Reads r (u.getLast?.or l) w (v.head?.or n)

lemma occursFrom_append : OccursFrom r l (t ++ rest) ↔ OccursBefore r l t rest.head? ∨
    Crosses r l t rest ∨ OccursFrom r (t.getLast?.or l) rest := by
  constructor
  · rintro ⟨u, w, v, heq, hw⟩
    rcases List.append_eq_append_iff.mp heq with ⟨b, huw, rfl⟩ | ⟨c, rfl, rfl⟩
    · rcases List.append_eq_append_iff.mp huw with ⟨a, rfl, rfl⟩ | ⟨c, rfl, rfl⟩
      · by_cases ha : a = []
        · subst ha
          refine Or.inr (Or.inr ⟨[], b, v, rfl, ?_⟩)
          rw [List.append_nil]
          exact hw
        · by_cases hb : b = []
          · subst hb
            refine Or.inl ⟨u, a, [], (List.append_nil _).symm, ?_⟩
            rw [List.append_nil] at hw
            exact hw
          · exact Or.inr (Or.inl ⟨u, a, b, v, rfl, rfl, ha, hb, hw⟩)
      · refine Or.inr (Or.inr ⟨c, w, v, rfl, ?_⟩)
        rw [← getLast?_append_or]
        exact hw
    · refine Or.inl ⟨u, w, c, rfl, ?_⟩
      rw [← List.head?_append]
      exact hw
  · rintro (⟨u, w, v, rfl, hw⟩ | ⟨u, a, b, v, rfl, rfl, -, -, hw⟩ | ⟨u, w, v, rfl, hw⟩)
    · refine ⟨u, w, v ++ rest, List.append_assoc (u ++ w) v rest, ?_⟩
      rw [List.head?_append]
      exact hw
    · exact ⟨u, a ++ b, v, by simp only [List.append_assoc], hw⟩
    · refine ⟨t ++ u, w, v, by simp only [List.append_assoc], ?_⟩
      rw [getLast?_append_or]
      exact hw

lemma occursBefore_iff {x y : Char} (hx : Unseen x r) (hy : Unseen y r) :
    OccursBefore r (some x) t (some y) ↔ Occurs r t := by
  have hbefore : ∀ u : List Char, Alike x (u.getLast?.or (some x)) (u.getLast?.or none) := fun u =>
    Alike.or (Or.inr ⟨Or.inl rfl, Or.inr rfl⟩) u.getLast?
  have hafter : ∀ v : List Char, Alike y (v.head?.or (some y)) v.head? := fun v => by
    have h : Alike y (some y) none := Or.inr ⟨Or.inl rfl, Or.inr rfl⟩
    simpa using h.or v.head?
  constructor
  · rintro ⟨u, w, v, rfl, hw⟩
    exact ⟨u, w, v, rfl, (hw.alike hx (hbefore u) (.inl rfl)).alike hy (.inl rfl) (hafter v)⟩
  · rintro ⟨u, w, v, rfl, hw⟩
    exact ⟨u, w, v, rfl, (hw.alike hx (hbefore u).symm (.inl rfl)).alike hy (.inl rfl) (hafter v).symm⟩

/-- Every word of an expression begins with a word of another one. -/
def Opens (f r : Regex) : Prop := ∀ l w n, Reads r l w n → ∃ a b, w = a ++ b ∧ Reads f none a none

lemma Opens.trans {f g : Regex} (h : Opens f g) (hr : Opens g r) : Opens f r := by
  intro l w n hw
  obtain ⟨a, b, rfl, ha⟩ := hr l w n hw
  obtain ⟨c, d, rfl, hc⟩ := h _ _ _ ha
  exact ⟨c, d ++ b, List.append_assoc c d b, hc⟩

lemma opens_sequence (fs rs : List Regex) (hfree : free (sequence fs) = true) :
    Opens (sequence fs) (sequence (fs ++ rs)) := by
  intro l w n h
  obtain ⟨u, v, rfl, hu, -⟩ := (reads_sequence_append fs rs).mp h
  exact ⟨u, v, rfl, hu.of_free hfree none none⟩

lemma Opens.look {f : Regex} {q : Option Char → Option Char → Bool} (h : Opens f r) :
    Opens f (seq (look q) r) := by
  rintro l w n hw
  obtain ⟨u, v, rfl, hu, hv⟩ := reads_seq.mp hw
  cases hu
  exact h _ _ _ hv

/-- No match begins in a label, which ends in a character that no beginning of a match has. -/
lemma occursFrom_label {f : Regex} {x : Char} (hopens : Opens f r) (hfree : free f = true)
    (huses : uses [x] f = false) (hlast : t.getLast? = some x) (hout : ¬ Occurs f t) :
    OccursFrom r l (t ++ rest) ↔ OccursFrom r (some x) rest := by
  have hbefore : ∀ u w v, t = u ++ w ++ v → ¬ Reads f none w none := fun u w v ht hw =>
    hout ⟨u, w, v, ht, hw.of_free hfree _ _⟩
  rw [occursFrom_append, hlast, Option.some_or]
  refine ⟨fun h => h.resolve_left ?_ |>.resolve_left ?_, fun h => Or.inr (Or.inr h)⟩
  · rintro ⟨u, w, v, rfl, hw⟩
    obtain ⟨a, b, rfl, ha⟩ := hopens _ _ _ hw
    exact hbefore u a (b ++ v) (by simp only [List.append_assoc]) ha
  · rintro ⟨u, c, b, v, rfl, rfl, hc, -, hw⟩
    obtain ⟨a, e, heq, ha⟩ := hopens _ _ _ hw
    rcases List.append_eq_append_iff.mp heq with ⟨d, rfl, -⟩ | ⟨d, rfl, -⟩
    · -- the beginning of the match goes on after the label
      rw [List.getLast?_append_of_ne_nil u hc] at hlast
      have hmem : x ∈ c ++ d := List.mem_append_left d (List.mem_of_getLast? hlast)
      rw [uses_of_reads ha hmem (List.mem_singleton_self x)] at huses
      cases huses
    · exact hbefore u a d (by simp only [List.append_assoc]) ha

end Append

section Splice

/-- Labels, each with the text that it is for, and what comes after them. -/
def splice : List (List Char × List Char) → List Char → List Char
  | [], tail => tail
  | (label, t) :: parts, tail => label ++ t ++ splice parts tail

variable {r : Regex} {x : Char} {parts : List (List Char × List Char)} {tail : List Char}

/-- An expression occurs where it occurs in one of the texts, or where a text and what follows it meet. -/
lemma occursFrom_splice (spills follows : List Char → Prop)
    (hpart : ∀ p ∈ parts, ∀ l rest, follows rest → (OccursFrom r l (p.1 ++ p.2 ++ rest) ↔
      (Occurs r p.2 ∨ spills p.2) ∨ OccursFrom r (p.2.getLast?.or (some x)) rest))
    (hfollows : ∀ p ∈ parts.tail, ∀ rest, follows (p.1 ++ rest)) (htail : follows tail)
    (hclean : ∀ l, ¬ OccursFrom r l tail) (l : Option Char) :
    OccursFrom r l (splice parts tail) ↔ ∃ p ∈ parts, Occurs r p.2 ∨ spills p.2 := by
  induction parts generalizing l with
  | nil => exact ⟨fun h => absurd h (hclean l), fun ⟨p, hp, _⟩ => absurd hp List.not_mem_nil⟩
  | cons p parts ih =>
    have hnext : follows (splice parts tail) := by
      cases parts with
      | nil => exact htail
      | cons q parts =>
        rw [splice, List.append_assoc]
        exact hfollows q List.mem_cons_self _
    rw [splice, hpart p List.mem_cons_self l _ hnext,
      ih (fun q hq => hpart q (List.mem_cons_of_mem p hq)) (fun q hq => hfollows q (List.mem_of_mem_tail hq))]
    simp only [List.mem_cons, exists_eq_or_imp]

end Splice

end Regex

end SecScanMonitor.Foundations
