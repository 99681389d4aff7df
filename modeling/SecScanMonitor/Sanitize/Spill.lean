import SecScanMonitor.Foundations.Splice
import SecScanMonitor.Sanitize.Filters

/-! Forbidden values in a text that is put together from labelled parts. Each part may have one by itself;
and an assignment without a value at the end of a part takes what follows for its value. -/

namespace SecScanMonitor.Sanitize

open Foundations Domain Foundations.Regex

section Assignment

variable (u : UnicodeTables)

def keyword : Regex :=
  oneOf [anyCase "password", anyCase "passwd", anyCase "pwd", apiKey, anyCase "apikey", anyCase "secret",
    anyCase "token", anyCase "authorization"]

def named : List Regex := [edge u, star true (alnumOr "_"), keyword, quote]

/-- The parts of a credential up to its sign. -/
def assignment : List Regex := named u ++ [star true space, one (among ":=")]

def valueChar (c : Char) : Bool := !(among ",\\\x7d\"'" c || isSpace c)

def assigned : List Regex := [quote, plus (one valueChar), quote]

/-- An assignment that a text ends with, before it has a value. -/
def unfinished : Regex := sequence (assignment u ++ [star true space, look fun _ n => n.isNone])

lemma credential_eq : credential u = sequence (assignment u ++ star true space :: assigned) := rfl

end Assignment

section Unseen

variable {u : UnicodeTables} {x : Char}

lemma unseen_assignment (hx : isWord u x = false) : Unseen x (sequence (assignment u)) :=
  ⟨unseen_edge hx, unseen_of_free rfl⟩

lemma isWord_space : isWord u ' ' = false := rfl

lemma isWord_newline : isWord u '\n' = false := rfl

end Unseen

section Labels

/-- How the forbidden values begin, up to the first character that a label may end with. -/
def openings : List Regex :=
  [text "-----", text "AIza", anyCase "github_pat_", anyCase "sk-", anyCase "bitlocker",
    sequence [star true (alnumOr "_"), keyword]]

/-- A label ends in a blank, and no forbidden value begins in it. -/
def isLabel (label : Text) : Bool :=
  decide (label.getLast? = some ' ') && openings.all fun f => !f.search label

variable {u : UnicodeTables} {label rest : Text} {l : Option Char}

lemma opens_forbidden {r : Regex} (hr : r ∈ forbiddenValuePatterns u) : ∃ f ∈ openings, Opens f r := by
  simp only [forbiddenValuePatterns, List.mem_cons, List.not_mem_nil, or_false] at hr
  rcases hr with rfl | rfl | rfl | rfl | rfl | rfl
  · have hfirst : Opens (text "-----") (text "-----BEGIN ") :=
      opens_sequence ("-----".toList.map fun x => one fun c => c = x)
        ("BEGIN ".toList.map fun x => one fun c => c = x) rfl
    exact ⟨text "-----", by simp [openings],
      hfirst.trans (opens_sequence [text "-----BEGIN "] _ rfl)⟩
  · exact ⟨text "AIza", by simp [openings], opens_sequence [text "AIza"] [times 35 (exactAlnumOr "-_")] rfl⟩
  · exact ⟨anyCase "github_pat_", by simp [openings], opens_sequence [anyCase "github_pat_"]
      [atLeast 20 (alnumOr "_")] rfl⟩
  · exact ⟨anyCase "sk-", by simp [openings],
      Opens.look (opens_sequence [anyCase "sk-"] [atLeast 20 (alnumOr "")] rfl)⟩
  · exact ⟨anyCase "bitlocker", by simp [openings], opens_sequence [anyCase "bitlocker"] _ rfl⟩
  · exact ⟨sequence [star true (alnumOr "_"), keyword], by simp [openings],
      Opens.look (opens_sequence [star true (alnumOr "_"), keyword] _ rfl)⟩

lemma openings_plain : ∀ f ∈ openings, free f = true ∧ uses [' '] f = false := by decide

lemma occursFrom_after_label {r : Regex} (hr : r ∈ forbiddenValuePatterns u) (hlabel : isLabel label = true) :
    OccursFrom r l (label ++ rest) ↔ OccursFrom r (some ' ') rest := by
  rw [isLabel, Bool.and_eq_true, decide_eq_true_eq, List.all_eq_true] at hlabel
  obtain ⟨f, hf, hopens⟩ := opens_forbidden hr
  obtain ⟨hfree, huses⟩ := openings_plain f hf
  refine occursFrom_label hopens hfree huses hlabel.1 ?_
  have hout := hlabel.2 f hf
  rw [Bool.not_eq_true'] at hout
  rw [← search_iff, hout]
  exact Bool.false_ne_true

end Labels

section Follows

/-- A line begins with what can be read as a value. -/
def Follows (t : Text) : Prop :=
  ∃ blanks c rest, t = '\n' :: blanks ++ c :: rest ∧ (∀ s ∈ blanks, isSpace s = true) ∧
    valueChar c = true ∧ among ":=" c = false

/-- The test for it. -/
def leads : Text → Bool
  | '\n' :: t => (t.dropWhile isSpace).head?.any fun c => valueChar c && !among ":=" c
  | _ => false

lemma follows_of_leads {t : Text} (h : leads t = true) : Follows t := by
  unfold leads at h
  split at h
  · rename_i t
    rw [Option.any_eq_true] at h
    obtain ⟨c, hc, htest⟩ := h
    rw [Bool.and_eq_true, Bool.not_eq_true'] at htest
    obtain ⟨rest, hrest⟩ := List.head?_eq_some_iff.mp hc
    refine ⟨t.takeWhile isSpace, c, rest, ?_, List.all_eq_true.mp List.all_takeWhile, htest.1, htest.2⟩
    rw [List.cons_append, ← hrest, List.takeWhile_append_dropWhile]
  · cases h

variable {u : UnicodeTables} {t rest : Text} {l : Option Char}

lemma Follows.append (h : Follows t) (rest : Text) : Follows (t ++ rest) := by
  obtain ⟨blanks, c, tail, rfl, hblanks, hvalue, hsign⟩ := h
  exact ⟨blanks, c, tail ++ rest, by simp, hblanks, hvalue, hsign⟩

lemma not_space_of_value {c : Char} (h : valueChar c = true) : isSpace c = false := by
  rw [valueChar, Bool.not_eq_true', Bool.or_eq_false_iff] at h
  exact h.2

lemma head_unique {blanks blanks' t t' : Text} {c c' : Char} (h : blanks ++ c :: t = blanks' ++ c' :: t')
    (hblanks : ∀ s ∈ blanks, isSpace s = true) (hblanks' : ∀ s ∈ blanks', isSpace s = true)
    (hc : isSpace c = false) (hc' : isSpace c' = false) : c = c' := by
  have hdrop : ∀ {bs t : Text} {x : Char}, (∀ s ∈ bs, isSpace s = true) → isSpace x = false →
      ((bs ++ x :: t).dropWhile isSpace).head? = some x := by
    intro bs t x hbs hx
    rw [List.dropWhile_append_of_pos hbs, List.dropWhile_cons_of_neg (by rw [hx]; exact Bool.false_ne_true)]
    rfl
  have hsame := hdrop (t := t) hblanks hc
  rw [h, hdrop hblanks' hc'] at hsame
  exact (Option.some.inj hsame).symm

lemma not_space_of_sign {c : Char} (h : among ":=" c = true) : isSpace c = false := by
  have hsign : c = ':' ∨ c = '=' := by simpa [among] using h
  rcases hsign with rfl | rfl <;> rfl

lemma reads_space {l n : Option Char} {w : Text} :
    Reads (star true space) l w n ↔ ∀ c ∈ w, isSpace c = true := reads_star_one

lemma split_of_not_mem {x : Char} {w v a b : Text} (hx : x ∉ w) (h : w ++ v = a ++ x :: b) :
    ∃ d, a = w ++ d ∧ v = d ++ x :: b := by
  rcases List.append_eq_append_iff.mp h with ⟨d, rfl, rfl⟩ | ⟨d, rfl, hd⟩
  · exact ⟨d, rfl, rfl⟩
  · cases d with
    | nil => exact ⟨[], by simp, hd.symm⟩
    | cons y d =>
      obtain ⟨rfl, -⟩ := List.cons.inj hd
      exact absurd (List.mem_append_right a List.mem_cons_self) hx

/-- A sign does not stand behind a line break before a value. -/
lemma assignment_closed {n : Option Char} {w a b v : Text} (hw : Reads (sequence (assignment u)) l w n)
    (heq : w = a ++ '\n' :: b) : ¬ Follows ('\n' :: b ++ v) := by
  rintro ⟨blanks, c', tail, hrest, hblanks, hvalue, hnosign⟩
  rw [assignment, reads_sequence_append] at hw
  obtain ⟨w₁, w₂, rfl, h₁, h₂⟩ := hw
  obtain ⟨s₁, w₃, rfl, hs₁, h₃⟩ := (reads_sequence_cons _).mp h₂
  obtain ⟨c, rfl, hc⟩ := reads_one.mp h₃
  rw [reads_space] at hs₁
  have huses : uses ['\n'] (sequence (named u)) = false := rfl
  have hnamed : '\n' ∉ w₁ := fun hmem =>
    Bool.false_ne_true (huses.symm.trans (uses_of_reads h₁ hmem (List.mem_singleton_self _)))
  -- the break is among the blanks before the sign
  have hblank : ∃ y, b = y ++ [c] ∧ ∀ s ∈ y, isSpace s = true := by
    obtain ⟨d, -, hd⟩ := split_of_not_mem hnamed heq
    rcases List.eq_nil_or_concat b with rfl | ⟨y, z, rfl⟩
    · obtain ⟨-, hlast⟩ := List.append_inj' hd rfl
      obtain rfl := (List.cons.inj hlast).1
      exact absurd hc (by decide)
    · rw [List.concat_eq_append, ← List.cons_append, ← List.append_assoc] at hd
      obtain ⟨rfl, hlast⟩ := List.append_inj' hd rfl
      obtain rfl := (List.cons.inj hlast).1
      exact ⟨y, List.concat_eq_append, fun s hs => hs₁ s (List.mem_append_right d (List.mem_cons_of_mem _ hs))⟩
  obtain ⟨y, rfl, hy⟩ := hblank
  have hsame : y ++ c :: v = blanks ++ c' :: tail := by simpa using hrest
  have hcc := head_unique hsame hy hblanks (not_space_of_sign hc) (not_space_of_value hvalue)
  rw [hcc, hnosign] at hc
  cases hc

lemma unfinished_of_crosses (hfollows : Follows rest)
    (h : Crosses (credential u) (some ' ') t rest) : Occurs (unfinished u) t := by
  obtain ⟨v₀, a, b, v, rfl, hrest, -, hb, hw⟩ := h
  obtain ⟨b, rfl⟩ : ∃ b', b = '\n' :: b' := by
    obtain ⟨blanks, c, tail, rfl, -⟩ := hfollows
    cases b with
    | nil => exact absurd rfl hb
    | cons x b => exact ⟨b, by rw [(List.cons.inj hrest).1]⟩
  rw [credential_eq, reads_sequence_append] at hw
  obtain ⟨w₁, w₂, heq, h₁, h₂⟩ := hw
  obtain ⟨s₂, w₃, rfl, hs₂, h₃⟩ := (reads_sequence_cons _).mp h₂
  rw [reads_space] at hs₂
  have huses : uses ['\n'] (sequence assigned) = false := rfl
  have hassigned : '\n' ∉ w₃ := fun hmem =>
    Bool.false_ne_true (huses.symm.trans (uses_of_reads h₃ hmem (List.mem_singleton_self _)))
  have hafter : ∃ e, a = w₁ ++ e ∧ s₂ ++ w₃ = e ++ '\n' :: b := by
    rcases List.append_eq_append_iff.mp heq with ⟨d, hd, hd'⟩ | ⟨e, rfl, he⟩
    · cases d with
      | nil => exact ⟨[], by simpa using hd.symm, hd'.symm⟩
      | cons x d =>
        obtain ⟨rfl, rfl⟩ := List.cons.inj hd'
        refine absurd ?_ (assignment_closed (v := s₂ ++ w₃ ++ v) h₁ hd)
        rw [hrest] at hfollows
        simpa using hfollows
    · exact ⟨e, rfl, he⟩
  obtain ⟨e, rfl, he⟩ := hafter
  have hblank : ∀ s ∈ e, isSpace s = true := by
    rcases List.append_eq_append_iff.mp he with ⟨d, -, rfl⟩ | ⟨d, rfl, -⟩
    · exact absurd (List.mem_append_right d List.mem_cons_self) hassigned
    · exact fun s hs => hs₂ s (List.mem_append_left d hs)
  refine ⟨v₀, w₁ ++ e, [], (List.append_nil _).symm, ?_⟩
  refine (reads_sequence_append (assignment u) _).mpr ⟨w₁, e, rfl, ?_, ?_⟩
  · rw [he] at h₁
    refine (h₁.alike (unseen_assignment isWord_space) ?_ (.inl rfl)).alike
      (unseen_assignment isWord_newline) (.inl rfl) ?_
    · exact Alike.or (Or.inr ⟨Or.inl rfl, Or.inr rfl⟩) v₀.getLast?
    · cases e with
      | nil => exact Or.inr ⟨Or.inl rfl, Or.inr rfl⟩
      | cons x e => exact Or.inl rfl
  · exact (reads_sequence_cons _).mpr ⟨e, [], (List.append_nil e).symm, reads_space.mpr hblank, .look rfl⟩

lemma crosses_of_unfinished (hfollows : Follows rest) (h : Occurs (unfinished u) t) :
    Crosses (credential u) (some ' ') t rest := by
  obtain ⟨blanks, c, tail, rfl, hblanks, hvalue, -⟩ := hfollows
  obtain ⟨v₀, w, v₁, rfl, hw⟩ := h
  obtain ⟨w₁, w₂, rfl, h₁, h₂⟩ := (reads_sequence_append (assignment u) _).mp hw
  obtain ⟨e, w₃, rfl, he, h₃⟩ := (reads_sequence_cons _).mp h₂
  rw [reads_space] at he
  obtain ⟨rfl, rfl⟩ : w₃ = [] ∧ v₁ = [] := by
    rw [Regex.sequence] at h₃
    cases h₃ with
    | look hnone => exact ⟨rfl, by simpa using hnone⟩
  have hsolid : Solid (sequence (assignment u)) := solid_of rfl
  have hw₁ : w₁ ≠ [] := by
    rintro rfl
    exact hsolid _ _ h₁
  refine ⟨v₀, w₁ ++ e, '\n' :: blanks ++ [c], tail, by simp, by simp, by simp [hw₁], by simp, ?_⟩
  rw [credential_eq, reads_sequence_append]
  refine ⟨w₁, e ++ ('\n' :: blanks ++ [c]), by simp, ?_, ?_⟩
  · refine (h₁.alike (unseen_assignment isWord_space) ?_ (.inl rfl)).alike
      (unseen_assignment isWord_newline) (.inl rfl) ?_
    · exact Alike.or (Or.inr ⟨Or.inr rfl, Or.inl rfl⟩) v₀.getLast?
    · cases e with
      | nil => exact Or.inr ⟨Or.inr rfl, Or.inl rfl⟩
      | cons x e => exact Or.inl rfl
  · refine (reads_sequence_cons _).mpr ⟨e ++ '\n' :: blanks, [c], by simp, reads_space.mpr ?_, ?_⟩
    · intro s hs
      rcases List.mem_append.mp hs with hs | hs
      · exact he s hs
      · rcases List.mem_cons.mp hs with rfl | hs
        · rfl
        · exact hblanks s hs
    · refine (reads_sequence_cons _).mpr ⟨[], [c], rfl, .right .empty, ?_⟩
      refine (reads_sequence_cons _).mpr ⟨[c], [], rfl, ?_, .right .empty⟩
      exact .seq (u := [c]) (v := []) (.one hvalue) .stop

end Follows

section Parts

variable {u : UnicodeTables} {parts : List (Text × Text)} {tail t label rest : Text} {l : Option Char}

/-- Only a credential goes across a line break. -/
lemma crosses_iff {r : Regex} (hr : r ∈ forbiddenValuePatterns u) (hfollows : Follows rest) :
    Crosses r (some ' ') t rest ↔ uses ['\n'] r = true ∧ Occurs (unfinished u) t := by
  have hstay : uses ['\n'] r = false → ¬ Crosses r (some ' ') t rest := by
    rintro huses ⟨v₀, a, b, v, -, hrest, -, hb, hw⟩
    obtain ⟨blanks, c, tail, rfl, -⟩ := hfollows
    cases b with
    | nil => exact hb rfl
    | cons x b =>
      obtain ⟨rfl, -⟩ := List.cons.inj hrest
      have hmem : '\n' ∈ a ++ '\n' :: b := List.mem_append_right a List.mem_cons_self
      rw [uses_of_reads hw hmem (List.mem_singleton_self _)] at huses
      cases huses
  have hfive : uses ['\n'] r = false → (Crosses r (some ' ') t rest ↔
      uses ['\n'] r = true ∧ Occurs (unfinished u) t) := fun huses =>
    ⟨fun h => absurd h (hstay huses), fun h => Bool.noConfusion (huses.symm.trans h.1)⟩
  simp only [forbiddenValuePatterns, List.mem_cons, List.not_mem_nil, or_false] at hr
  rcases hr with rfl | rfl | rfl | rfl | rfl | rfl
  · exact hfive rfl
  · exact hfive rfl
  · exact hfive rfl
  · exact hfive rfl
  · exact hfive rfl
  · exact ⟨fun h => ⟨rfl, unfinished_of_crosses hfollows h⟩, fun h => crosses_of_unfinished hfollows h.2⟩

lemma occursFrom_part {r : Regex} (hr : r ∈ forbiddenValuePatterns u) (hlabel : isLabel label = true)
    (hfollows : Follows rest) : OccursFrom r l (label ++ t ++ rest) ↔
      (Occurs r t ∨ uses ['\n'] r = true ∧ Occurs (unfinished u) t) ∨
        OccursFrom r (t.getLast?.or (some ' ')) rest := by
  have hhead : rest.head? = some '\n' := by
    obtain ⟨blanks, c, tail, rfl, -⟩ := hfollows
    rfl
  rw [List.append_assoc, occursFrom_after_label hr hlabel, occursFrom_append, hhead,
    occursBefore_iff (unseen_forbidden isWord_space hr) (unseen_forbidden isWord_newline hr),
    crosses_iff hr hfollows, or_assoc]

/-- A text of labelled parts has a forbidden value exactly if a part has one by itself, or ends in an
assignment without a value. -/
theorem textContainsSecret_splice (hlabels : ∀ p ∈ parts, isLabel p.1 = true)
    (hfollows : ∀ p ∈ parts.tail, Follows p.1) (htail : Follows tail)
    (hclean : ∀ r ∈ forbiddenValuePatterns u, ∀ l, ¬ OccursFrom r l tail) :
    textContainsSecret u (splice parts tail) = true ↔
      ∃ p ∈ parts, textContainsSecret u p.2 = true ∨ Occurs (unfinished u) p.2 := by
  have hpattern : ∀ r ∈ forbiddenValuePatterns u, search r (splice parts tail) = true ↔
      ∃ p ∈ parts, Occurs r p.2 ∨ uses ['\n'] r = true ∧ Occurs (unfinished u) p.2 := fun r hr =>
    search_iff.trans (occursFrom_splice (fun t => uses ['\n'] r = true ∧ Occurs (unfinished u) t) Follows
      (fun p hp l rest hrest => occursFrom_part hr (hlabels p hp) hrest)
      (fun p hp rest => (hfollows p hp).append rest) htail (hclean r hr) none)
  have hcredential : credential u ∈ forbiddenValuePatterns u := by simp [forbiddenValuePatterns]
  simp only [textContainsSecret, List.any_eq_true]
  constructor
  · rintro ⟨r, hr, hsearch⟩
    obtain ⟨p, hp, hoccurs | ⟨-, hunfinished⟩⟩ := (hpattern r hr).mp hsearch
    · exact ⟨p, hp, Or.inl ⟨r, hr, search_iff.mpr hoccurs⟩⟩
    · exact ⟨p, hp, Or.inr hunfinished⟩
  · rintro ⟨p, hp, ⟨r, hr, hsearch⟩ | hunfinished⟩
    · exact ⟨r, hr, (hpattern r hr).mpr ⟨p, hp, Or.inl (search_iff.mp hsearch)⟩⟩
    · exact ⟨_, hcredential, (hpattern _ hcredential).mpr ⟨p, hp, Or.inr ⟨rfl, hunfinished⟩⟩⟩

end Parts

end SecScanMonitor.Sanitize
