import Mathlib.Data.List.TakeWhile
import SecScanMonitor.Application.SupplyChainSecurity
import SecScanMonitor.Foundations.Cuts

/-! The permission lines of a workflow: each of them is read, but only the last of its key is reported
(`_analyze_workflows` of `application/security_services.py`). -/

namespace SecScanMonitor.Application.SupplyChainSecurityService

open Foundations Domain

section Words

variable {α : Type} {p : α → Bool}

/-- A word ends at the first character that is none of its own. -/
lemma takeWhile_word {w rest : List α} (hw : ∀ c ∈ w, p c = true) (hrest : ∀ c ∈ rest.head?, p c = false) :
    (w ++ rest).takeWhile p = w := by
  rw [List.takeWhile_append_of_pos hw]
  cases rest with
  | nil => rw [List.takeWhile_nil, List.append_nil]
  | cons c rest => rw [List.takeWhile_cons_of_neg (by simp [hrest c rfl]), List.append_nil]

lemma exists_word (p : α → Bool) (s : List α) :
    ∃ w rest, s = w ++ rest ∧ s.takeWhile p = w ∧ ∀ c ∈ w, p c = true :=
  ⟨s.takeWhile p, s.dropWhile p, List.takeWhile_append_dropWhile.symm, rfl, fun _ hc => List.mem_takeWhile_imp hc⟩

/-- Two texts that begin with a word begin with the same one. -/
lemma first_word {w v rest rest' : List α} (hw : ∀ c ∈ w, p c = true) (hv : ∀ c ∈ v, p c = true)
    (hrest : ∀ c ∈ rest.head?, p c = false) (hrest' : ∀ c ∈ rest'.head?, p c = false)
    (h : w ++ rest = v ++ rest') : w = v ∧ rest = rest' := by
  have hword : w = v := by
    rw [← takeWhile_word hw hrest, h, takeWhile_word hv hrest']
  subst hword
  exact ⟨rfl, List.append_cancel_left h⟩

lemma last_word {w v lead lead' : List α} (hw : ∀ c ∈ w, p c = true) (hv : ∀ c ∈ v, p c = true)
    (hlead : ∀ c ∈ lead.getLast?, p c = false) (hlead' : ∀ c ∈ lead'.getLast?, p c = false)
    (h : lead ++ w = lead' ++ v) : w = v := by
  have hreverse := congrArg List.reverse h
  rw [List.reverse_append, List.reverse_append] at hreverse
  refine List.reverse_injective (first_word (p := p) (fun c hc => hw c (List.mem_reverse.mp hc))
    (fun c hc => hv c (List.mem_reverse.mp hc)) ?_ ?_ hreverse).1
  · rw [List.head?_reverse]
    exact hlead
  · rw [List.head?_reverse]
    exact hlead'

end Words

section Classes

variable {c : CodePoint}

lemma isBlankPoint_permissionChar (h : isPermissionChar c = true) : isBlankPoint c = false := by
  cases c with
  | surrogate n => rfl
  | scalar c =>
    obtain ⟨-, h⟩ := (Bool.and_eq_true _ _).mp h
    rw [Bool.or_eq_true, Bool.or_eq_true, decide_eq_true_eq, decide_eq_true_eq] at h
    rcases h with (h | rfl) | rfl
    · exact isSpace_of_isAlphanum h
    · rfl
    · rfl

lemma isPermissionChar_alpha (h : isAscii Char.isAlpha c = true) : isPermissionChar c = true := by
  cases c with
  | surrogate n => cases h
  | scalar c =>
    obtain ⟨hascii, h⟩ := (Bool.and_eq_true _ _).mp h
    simp only [isPermissionChar, isAscii, hascii, Char.isAlphanum, h, Bool.true_or, Bool.true_and]

lemma ne_of_class {p : CodePoint → Bool} {d : CodePoint} (h : p c = true) (hd : p d = false) : c ≠ d := by
  rintro rfl
  rw [h] at hd
  cases hd

end Classes

/-- The blanks that `\s*$` takes. They end at the text's end or before a line's. -/
def lineEnd (behind : Str) : Option ℕ :=
  let trail := behind.takeWhile isBlankPoint
  let kept := trail.reverse.dropWhile fun c => decide (c ≠ .scalar '\n')
  if behind.length = trail.length then some trail.length
  else if kept.isEmpty then none
  else some (kept.length - 1)

/-- A permission entry at the beginning of a text. -/
structure EntryAt (s indent key blanks value behind : Str) : Prop where
  text : s = indent ++ (key ++ CodePoint.scalar ':' :: (blanks ++ (value ++ behind)))
  indented : (∀ c ∈ indent, isBlankPoint c = true) ∧ 2 ≤ indent.length
  named : (∀ c ∈ key, isPermissionChar c = true) ∧ key ≠ []
  spaced : ∀ c ∈ blanks, isBlankPoint c = true
  valued : (∀ c ∈ value, isAscii Char.isAlpha c = true) ∧ value ≠ []

section Entries

variable {s indent key blanks value behind : Str}

lemma head?_append_word {α : Type} {w rest : List α} (hw : w ≠ []) {c : α} (hc : c ∈ (w ++ rest).head?) : c ∈ w := by
  cases w with
  | nil => exact absurd rfl hw
  | cons d w =>
    obtain rfl := Option.some.inj hc
    exact List.mem_cons_self

/-- A value goes up to the blanks at the end of its line. -/
lemma not_alpha_of_lineEnd {k : ℕ} (h : lineEnd behind = some k) :
    ∀ c ∈ behind.head?, isAscii Char.isAlpha c = false := by
  intro c hc
  cases behind with
  | nil => cases hc
  | cons d behind =>
    obtain rfl := Option.some.inj hc
    rw [Bool.eq_false_iff]
    intro halpha
    have hblank := isBlankPoint_permissionChar (isPermissionChar_alpha halpha)
    rw [lineEnd, List.takeWhile_cons_of_neg (by simp [hblank])] at h
    simp at h

lemma EntryAt.read (h : EntryAt s indent key blanks value behind) {last : Option CodePoint} {k : ℕ}
    (hlast : last.all (· = .scalar '\n') = true) (hend : lineEnd behind = some k) :
    readPermission last s =
      some ((key, value), indent.length + key.length + 1 + blanks.length + value.length + k) := by
  obtain ⟨rfl, ⟨hindent, htwo⟩, ⟨hkey, hkey'⟩, hblanks, hvalue, hvalue'⟩ := h
  have hindented : (indent ++ (key ++ CodePoint.scalar ':' :: (blanks ++ (value ++ behind)))).takeWhile
      isBlankPoint = indent :=
    takeWhile_word hindent fun c hc => isBlankPoint_permissionChar (hkey c (head?_append_word hkey' hc))
  have hnamed : (key ++ CodePoint.scalar ':' :: (blanks ++ (value ++ behind))).takeWhile
      isPermissionChar = key := by
    refine takeWhile_word hkey fun c hc => ?_
    obtain rfl := Option.some.inj hc
    decide
  have hspaced : (blanks ++ (value ++ behind)).takeWhile isBlankPoint = blanks :=
    takeWhile_word hblanks fun c hc =>
      isBlankPoint_permissionChar (isPermissionChar_alpha (hvalue c (head?_append_word hvalue' hc)))
  have hvalued : (value ++ behind).takeWhile (isAscii Char.isAlpha) = value :=
    takeWhile_word hvalue (not_alpha_of_lineEnd hend)
  have hdrop : (indent ++ (key ++ CodePoint.scalar ':' :: (blanks ++ (value ++ behind)))).drop
      (indent.length + key.length) = CodePoint.scalar ':' :: (blanks ++ (value ++ behind)) := by
    rw [← List.drop_drop, List.drop_left, List.drop_left]
  have hbehind : (blanks ++ (value ++ behind)).drop (blanks.length + value.length) = behind := by
    rw [← List.drop_drop, List.drop_left, List.drop_left]
  simp only [readPermission, hindented, List.drop_left, hnamed, hdrop, hspaced, hvalued, hbehind, hlast,
    decide_eq_true htwo, List.isEmpty_eq_false_iff.mpr hkey', List.isEmpty_eq_false_iff.mpr hvalue', Bool.not_false,
    Bool.and_self, if_true]
  rw [lineEnd] at hend
  split at hend
  · rename_i hall
    rw [if_pos hall, ← Option.some.inj hend]
  · rename_i hall
    rw [if_neg hall]
    split at hend
    · cases hend
    · rename_i hkept
      rw [if_neg hkept, ← Option.some.inj hend]

/-- What is read at a place begins there. -/
lemma entryAt_of_read {last : Option CodePoint} {n : ℕ}
    (h : readPermission last s = some ((key, value), n)) :
    ∃ indent blanks behind k, EntryAt s indent key blanks value behind ∧ lineEnd behind = some k ∧
      n = indent.length + key.length + 1 + blanks.length + value.length + k := by
  obtain ⟨indent, named, rfl, hindent, hindented⟩ := exists_word isBlankPoint s
  obtain ⟨key', marked, rfl, hkey, hnamed⟩ := exists_word isPermissionChar named
  have hdrop : (indent ++ (key' ++ marked)).drop (indent.length + key'.length) = marked := by
    rw [← List.drop_drop, List.drop_left, List.drop_left]
  simp only [readPermission, hindent, List.drop_left, hkey, hdrop] at h
  split at h
  · rename_i rest
    obtain ⟨blanks, valued, rfl, hblank, hblanks⟩ := exists_word isBlankPoint rest
    obtain ⟨value', behind, rfl, hvalue, hvalued⟩ := exists_word (isAscii Char.isAlpha) valued
    have hbehind : (blanks ++ (value' ++ behind)).drop (blanks.length + value'.length) = behind := by
      rw [← List.drop_drop, List.drop_left, List.drop_left]
    simp only [hblank, List.drop_left, hvalue, hbehind] at h
    split at h
    · rename_i hall
      simp only [Bool.and_eq_true, decide_eq_true_eq, Bool.not_eq_true', List.isEmpty_eq_false_iff] at hall
      obtain ⟨⟨⟨-, htwo⟩, hkey'⟩, hvalue'⟩ := hall
      split at h
      · rename_i hall
        obtain ⟨hpair, rfl⟩ := Prod.mk.inj (Option.some.inj h)
        obtain ⟨rfl, rfl⟩ := Prod.mk.inj hpair
        refine ⟨indent, blanks, behind, _, ⟨rfl, ⟨hindented, htwo⟩, ⟨hnamed, hkey'⟩, hblanks, hvalued, hvalue'⟩, ?_, rfl⟩
        rw [lineEnd, if_pos hall]
      split at h
      · cases h
      · rename_i hall hkept
        obtain ⟨hpair, rfl⟩ := Prod.mk.inj (Option.some.inj h)
        obtain ⟨rfl, rfl⟩ := Prod.mk.inj hpair
        refine ⟨indent, blanks, behind, _, ⟨rfl, ⟨hindented, htwo⟩, ⟨hnamed, hkey'⟩, hblanks, hvalued, hvalue'⟩, ?_, rfl⟩
        rw [lineEnd, if_neg hall, if_neg hkept]
    · cases h
  · cases h

/-- The blanks at a line's end, and what comes after them. -/
lemma lineEnd_spec {k : ℕ} (h : lineEnd behind = some k) : ∃ trail rest, behind = trail ++ rest ∧
    trail.length = k ∧ (∀ c ∈ trail, isBlankPoint c = true) ∧ (rest = [] ∨ ∃ r, rest = .scalar '\n' :: r) := by
  obtain ⟨trail, rest, rfl, htrail, hblank⟩ := exists_word isBlankPoint behind
  rw [lineEnd, htrail] at h
  split at h
  · rename_i hall
    have hrest : rest = [] := by
      rw [List.length_append] at hall
      exact List.length_eq_zero_iff.mp (by omega)
    exact ⟨trail, rest, rfl, Option.some.inj h, hblank, Or.inl hrest⟩
  split at h
  · cases h
  · rename_i hkept
    cases hdrop : trail.reverse.dropWhile fun c => decide (c ≠ CodePoint.scalar '\n') with
    | nil => exact absurd (by rw [hdrop]; rfl) hkept
    | cons c kept =>
      have hc := List.head_dropWhile_not (fun c => decide (c ≠ CodePoint.scalar '\n')) (l := trail.reverse)
        (by rw [hdrop]; exact List.cons_ne_nil _ _)
      simp only [hdrop, List.head_cons, decide_eq_false_iff_not, not_not] at hc
      subst hc
      obtain ⟨w, hw⟩ : ∃ w, w ++ CodePoint.scalar '\n' :: kept = trail.reverse :=
        ⟨_, hdrop ▸ List.takeWhile_append_dropWhile⟩
      have htrail : trail = kept.reverse ++ CodePoint.scalar '\n' :: w.reverse := by
        rw [← List.reverse_reverse trail, ← hw]
        simp only [List.reverse_append, List.reverse_cons, List.append_assoc, List.cons_append, List.nil_append]
      rw [hdrop] at h
      subst htrail
      refine ⟨kept.reverse, CodePoint.scalar '\n' :: (w.reverse ++ rest), ?_, ?_, fun c hc => hblank c ?_,
        Or.inr ⟨_, rfl⟩⟩
      · rw [List.append_assoc, List.cons_append]
      · rw [List.length_reverse]
        exact Option.some.inj h
      · exact List.mem_append_left _ hc

lemma exists_lineEnd (h : behind = [] ∨ behind.head? = some (.scalar '\n')) : ∃ k, lineEnd behind = some k := by
  rcases h with rfl | h
  · exact ⟨0, rfl⟩
  obtain ⟨r, rfl⟩ := List.head?_eq_some_iff.mp h
  rw [lineEnd, List.takeWhile_cons_of_pos rfl]
  split
  · exact ⟨_, rfl⟩
  rw [if_neg]
  · exact ⟨_, rfl⟩
  · rw [List.isEmpty_iff, List.dropWhile_eq_nil_iff]
    intro hall
    exact absurd (hall (.scalar '\n') (List.mem_reverse.mpr List.mem_cons_self)) (by decide)

end Entries

/-- A word without colons that goes up to a line's end, before the colon of a later line. -/
lemma cut_at_line {α : Type} {colon newline : α} (hne : newline ≠ colon) {b r t p tail : List α}
    (hb : colon ∉ b) (hp : newline ∉ p) (h : b ++ newline :: r = t ++ (p ++ colon :: tail)) :
    ∃ w, t = b ++ w ∧ newline :: r = w ++ (p ++ colon :: tail) := by
  rcases List.append_eq_append_iff.mp h with ⟨w, rfl, hw⟩ | ⟨w, rfl, hw⟩
  · exact ⟨w, rfl, hw⟩
  rcases List.append_eq_append_iff.mp hw with ⟨q, rfl, hq⟩ | ⟨q, rfl, hq⟩
  · cases q with
    | nil => exact absurd (List.cons.inj hq).1.symm hne
    | cons c q =>
      obtain ⟨rfl, -⟩ := List.cons.inj hq
      exact absurd (List.mem_append_right t (List.mem_append_right p List.mem_cons_self)) hb
  · cases q with
    | nil => exact absurd (List.cons.inj hq).1 hne
    | cons c q =>
      obtain ⟨rfl, -⟩ := List.cons.inj hq
      exact absurd (List.mem_append_right w List.mem_cons_self) hp

section Lines

/-- A line that grants a permission. -/
def writeLine (n : ℕ) (key : Str) : Str :=
  List.replicate n (.scalar ' ') ++ (key ++ Str.ofString ": write")

variable {n k : ℕ} {key : Str} {u after indent key' blanks value behind : Str}

/-- A reading that begins before a line is that of the line, or it ends before it. -/
lemma entry_on_line (hkey : ∀ c ∈ key, isPermissionChar c = true) (hn : 2 ≤ n)
    (hu : u = [] ∨ u.getLast? = some (.scalar '\n'))
    (hafter : after = [] ∨ after.head? = some (.scalar '\n'))
    (h : EntryAt (u ++ (writeLine n key ++ after)) indent key' blanks value behind)
    (hend : lineEnd behind = some k) :
    (key' = key ∧ value = Str.ofString "write" ∧ behind = after) ∨
      ∃ w, w ≠ [] ∧ w <:+ u ∧ behind.drop k = w ++ (writeLine n key ++ after) := by
  have hcolon : ∀ c : CodePoint, isPermissionChar c = true ∨ isBlankPoint c = true → c ≠ .scalar ':' := by
    rintro c (hc | hc)
    · exact ne_of_class hc rfl
    · exact ne_of_class hc rfl
  have hline : u ++ (writeLine n key ++ after) = (u ++ (List.replicate n (.scalar ' ') ++ key)) ++
      CodePoint.scalar ':' :: (.scalar ' ' :: (Str.ofString "write" ++ after)) := by
    rw [writeLine]
    simp only [List.append_assoc]
    rfl
  have htext := h.text
  rw [hline, ← List.append_assoc indent] at htext
  rcases cut_cases htext with ⟨hhead, htail⟩ | ⟨z, hz, -⟩ | ⟨z, hz, hrest⟩
  · left
    have hspaces : ∀ c ∈ (u ++ List.replicate n (CodePoint.scalar ' ')).getLast?, isPermissionChar c = false := by
      intro c hc
      rw [List.getLast?_append, List.getLast?_replicate, if_neg (by omega), Option.some_or] at hc
      rw [← Option.some.inj hc]
      rfl
    have hindent : ∀ c ∈ indent.getLast?, isPermissionChar c = false := by
      intro c hc
      rw [Bool.eq_false_iff]
      intro hword
      have hblank := h.indented.1 c (List.mem_of_getLast? hc)
      rw [isBlankPoint_permissionChar hword] at hblank
      cases hblank
    have hwrite : ∀ c ∈ Str.ofString "write", isAscii Char.isAlpha c = true := by decide
    have hletters : ∀ {w rest : Str}, w ≠ [] → (∀ c ∈ w, isAscii Char.isAlpha c = true) →
        ∀ c ∈ (w ++ rest).head?, isBlankPoint c = false := fun hne hw c hc =>
      isBlankPoint_permissionChar (isPermissionChar_alpha (hw c (head?_append_word hne hc)))
    have hafter' : ∀ c ∈ after.head?, isAscii Char.isAlpha c = false := by
      intro c hc
      rcases hafter with rfl | hafter
      · cases hc
      · rw [hafter] at hc
        rw [← Option.some.inj hc]
        rfl
    obtain ⟨-, hvalue⟩ := first_word (w := [CodePoint.scalar ' ']) (by decide) h.spaced
      (hletters (by decide) hwrite) (hletters h.valued.2 h.valued.1) htail
    obtain ⟨rfl, rfl⟩ := first_word hwrite h.valued.1 hafter' (not_alpha_of_lineEnd hend) hvalue
    rw [← List.append_assoc] at hhead
    exact ⟨(last_word hkey h.named.1 hspaces hindent hhead).symm, rfl, rfl⟩
  · -- the head of the reading has no colon
    have hin : CodePoint.scalar ':' ∈ indent ++ key' := by
      rw [hz]
      exact List.mem_append_right _ List.mem_cons_self
    rcases List.mem_append.mp hin with hin | hin
    · exact absurd rfl (hcolon _ (Or.inr (h.indented.1 _ hin)))
    · exact absurd rfl (hcolon _ (Or.inl (h.named.1 _ hin)))
  · right
    have hplain : ∀ c ∈ List.replicate n (CodePoint.scalar ' ') ++ key, c ≠ .scalar ':' ∧ c ≠ .scalar '\n' := by
      intro c hc
      rcases List.mem_append.mp hc with hc | hc
      · rw [List.eq_of_mem_replicate hc]
        decide
      · exact ⟨ne_of_class (hkey c hc) rfl, ne_of_class (hkey c hc) rfl⟩
    -- the colon of the reading stands before the line
    obtain ⟨t, rfl, rfl⟩ : ∃ t, u = (indent ++ key') ++ CodePoint.scalar ':' :: t ∧
        z = t ++ (List.replicate n (.scalar ' ') ++ key) := by
      rw [List.append_cons] at hz
      rcases List.append_eq_append_iff.mp hz with ⟨t, ht, hspaces⟩ | ⟨t, rfl, rfl⟩
      · rcases List.eq_nil_or_concat t with rfl | ⟨t, c, rfl⟩
        · rw [List.append_nil] at ht
          rw [← ht, List.getLast?_concat] at hu
          rcases hu with hu | hu
          · exact absurd hu (List.append_ne_nil_of_right_ne_nil _ (List.cons_ne_nil _ _))
          · cases hu
        · rw [List.concat_eq_append, ← List.append_assoc] at ht
          obtain ⟨-, hc⟩ := List.append_inj' ht rfl
          obtain rfl := (List.cons.inj hc).1
          refine absurd rfl (hplain (.scalar ':') ?_).1
          rw [hspaces, List.concat_eq_append]
          exact List.mem_append_left _ (List.mem_append_right _ List.mem_cons_self)
      · exact ⟨t, by rw [List.append_assoc, List.singleton_append], rfl⟩
    obtain ⟨trail, rest, rfl, rfl, htrail, hnewline⟩ := lineEnd_spec hend
    have hwords : CodePoint.scalar ':' ∉ blanks ++ (value ++ trail) := by
      intro hin
      rcases List.mem_append.mp hin with hin | hin
      · exact absurd rfl (hcolon _ (Or.inr (h.spaced _ hin)))
      rcases List.mem_append.mp hin with hin | hin
      · exact absurd rfl (hcolon _ (Or.inl (isPermissionChar_alpha (h.valued.1 _ hin))))
      · exact absurd rfl (hcolon _ (Or.inr (htrail _ hin)))
    rw [List.append_assoc t] at hrest
    rcases hnewline with rfl | ⟨r, rfl⟩
    · rw [List.append_nil] at hrest
      rw [hrest] at hwords
      exact absurd (List.mem_append_right t (List.mem_append_right _ List.mem_cons_self)) hwords
    rw [← List.append_assoc value, ← List.append_assoc] at hrest
    obtain ⟨w, rfl, hw⟩ := cut_at_line (by decide) hwords (fun hin => (hplain _ hin).2 rfl) hrest
    refine ⟨w, ?_, ⟨(indent ++ key') ++ CodePoint.scalar ':' :: (blanks ++ (value ++ trail)), ?_⟩, ?_⟩
    · rintro rfl
      obtain ⟨m, rfl⟩ := Nat.exists_eq_add_of_le' hn
      rw [List.nil_append, List.replicate_succ] at hw
      exact absurd (List.cons.inj hw).1 (by decide)
    · simp only [List.append_assoc, List.cons_append]
    · rw [List.drop_left, hw, writeLine]
      simp only [List.append_assoc]
      rfl

lemma writeLine_entry (hkey : (∀ c ∈ key, isPermissionChar c = true) ∧ key ≠ []) (hn : 2 ≤ n) :
    EntryAt (writeLine n key ++ after) (List.replicate n (.scalar ' ')) key [.scalar ' ']
      (Str.ofString "write") after where
  text := by
    rw [writeLine]
    simp only [List.append_assoc]
    rfl
  indented := by
    refine ⟨fun c hc => ?_, by rw [List.length_replicate]; exact hn⟩
    rw [List.eq_of_mem_replicate hc]
    rfl
  named := hkey
  spaced := by decide
  valued := by decide

end Lines

section Scan

variable {α : Type} {read : Option CodePoint → Str → Option (α × ℕ)}

lemma getLast?_cons_or (c : CodePoint) (w : Str) (last : Option CodePoint) :
    (c :: w).getLast?.or last = w.getLast?.or (some c) := by
  rw [List.getLast?_cons]
  cases w.getLast? with
  | none => rfl
  | some d => rfl

lemma findIter_skip (w v : Str) (last : Option CodePoint) :
    findIter read w.length last (w ++ v) = findIter read 0 (w.getLast?.or last) v := by
  induction w generalizing last with
  | nil => rfl
  | cons c w ih =>
    rw [List.length_cons, List.cons_append, findIter, ih, getLast?_cons_or]

/-- The scan goes on after what was read. -/
lemma findIter_read {w v : Str} {last : Option CodePoint} {a : α} (hw : w ≠ [])
    (h : read last (w ++ v) = some (a, w.length)) :
    findIter read 0 last (w ++ v) = a :: findIter read 0 (w.getLast?.or last) v := by
  cases w with
  | nil => exact absurd rfl hw
  | cons c w =>
    rw [← findIter_skip (c :: w) v last, List.length_cons, List.cons_append, findIter, findIter]
    rw [List.cons_append, List.length_cons] at h
    rw [h]

end Scan

/-- The entries that are read after a line. The line's own reading takes blanks that follow it. -/
def entriesAfter (after : Str) : List (Str × Str) :=
  match lineEnd after with
  | some k =>
    findIter readPermission 0 ((after.take k).getLast?.or (some (.scalar 'e'))) (after.drop k)
  | none => []

/-- A line that grants a permission is read, whatever stands before it. -/
lemma findIter_line {n : ℕ} {key after : Str} (hkey : (∀ c ∈ key, isPermissionChar c = true) ∧ key ≠ [])
    (hn : 2 ≤ n) (hafter : after = [] ∨ after.head? = some (.scalar '\n')) (u : Str)
    (last : Option CodePoint) (hu : (u.getLast?.or last).all (· = .scalar '\n') = true) :
    ∃ es, findIter readPermission 0 last (u ++ (writeLine n key ++ after)) =
      es ++ (key, Str.ofString "write") :: entriesAfter after := by
  induction hlength : u.length using Nat.strong_induction_on generalizing u last with
  | _ m ih =>
    subst hlength
    obtain ⟨k, hk⟩ := exists_lineEnd hafter
    cases hread : readPermission last (u ++ (writeLine n key ++ after)) with
    | none =>
      cases u with
      | nil =>
        have hplace : last.all (· = .scalar '\n') = true := hu
        rw [List.nil_append, (writeLine_entry hkey hn).read hplace hk] at hread
        cases hread
      | cons c u =>
        rw [getLast?_cons_or] at hu
        obtain ⟨es, hes⟩ := ih u.length (Nat.lt_succ_self _) u (some c) hu rfl
        refine ⟨es, ?_⟩
        rw [List.cons_append] at hread ⊢
        rw [findIter, hread, hes]
    | some found =>
      obtain ⟨⟨key', value⟩, m⟩ := found
      obtain ⟨indent, blanks, behind, k', hentry, hend, rfl⟩ := entryAt_of_read hread
      have hu' : u = [] ∨ u.getLast? = some (.scalar '\n') := by
        rcases List.eq_nil_or_concat u with rfl | ⟨v, c, rfl⟩
        · exact Or.inl rfl
        · rw [List.concat_eq_append, List.getLast?_concat] at hu ⊢
          rw [Option.some_or, Option.all_some, decide_eq_true_eq] at hu
          exact Or.inr (congrArg some hu)
      obtain ⟨trail, rest, hbehind, hlength, -, -⟩ := lineEnd_spec hend
      have htext : u ++ (writeLine n key ++ after) =
          (indent ++ (key' ++ CodePoint.scalar ':' :: (blanks ++ (value ++ trail)))) ++ rest := by
        rw [hentry.text, hbehind]
        simp only [List.append_assoc, List.cons_append]
      have hsome : indent ++ (key' ++ CodePoint.scalar ':' :: (blanks ++ (value ++ trail))) ≠ [] := by
        intro hnil
        have hindent := (List.append_eq_nil_iff.mp hnil).1
        have htwo := hentry.indented.2
        rw [hindent] at htwo
        exact absurd htwo (by decide)
      have hcount : indent.length + key'.length + 1 + blanks.length + value.length + k' =
          (indent ++ (key' ++ CodePoint.scalar ':' :: (blanks ++ (value ++ trail)))).length := by
        simp only [List.length_append, List.length_cons]
        omega
      have hscan := findIter_read hsome (htext ▸ hcount ▸ hread)
      rw [htext, hscan]
      have hdrop : behind.drop k' = rest := by rw [hbehind, ← hlength, List.drop_left]
      rcases entry_on_line hkey.1 hn hu' hafter hentry hend with ⟨rfl, rfl, rfl⟩ | ⟨w, hw, ⟨v, rfl⟩, hrest⟩
      · refine ⟨[], ?_⟩
        have htake : behind.take k' = trail := by rw [hbehind, ← hlength, List.take_left]
        have hlast : (indent ++ (key' ++ CodePoint.scalar ':' :: (blanks ++ (Str.ofString "write" ++ trail)))).getLast?.or
            last = trail.getLast?.or (some (.scalar 'e')) := by
          have hwrite : indent ++ (key' ++ CodePoint.scalar ':' :: (blanks ++ (Str.ofString "write" ++ trail))) =
              ((indent ++ (key' ++ CodePoint.scalar ':' :: (blanks ++ Str.ofString "writ"))) ++ [.scalar 'e']) ++ trail := by
            simp only [List.append_assoc, List.cons_append]
            rfl
          rw [hwrite, List.getLast?_append, List.getLast?_concat, Option.or_assoc, Option.some_or]
        rw [hlast, entriesAfter, hend]
        simp only [htake, hdrop, List.nil_append]
      · have hlast : w.getLast? = some (.scalar '\n') := by
          rcases hu' with hnil | hu'
          · exact absurd (List.append_eq_nil_iff.mp hnil).2 hw
          · obtain ⟨x, c, rfl⟩ := (List.eq_nil_or_concat w).resolve_left hw
            rw [List.concat_eq_append, ← List.append_assoc, List.getLast?_concat] at hu'
            rw [List.concat_eq_append, List.getLast?_concat, hu']
        have hless : w.length < (v ++ w).length := by
          have htotal := congrArg List.length htext
          rw [← hdrop, hrest] at htotal
          have hpos := List.length_pos_iff.mpr hsome
          simp only [List.length_append] at htotal hpos ⊢
          omega
        obtain ⟨es, hes⟩ := ih w.length hless w
          ((indent ++ (key' ++ CodePoint.scalar ':' :: (blanks ++ (value ++ trail)))).getLast?.or last)
          (by rw [hlast]; rfl) rfl
        refine ⟨(key', value) :: es, ?_⟩
        rw [← hdrop, hrest, hes, List.cons_append]
/-- The value of a key that is read last. -/
def lastOf (key : Str) (entries : List (Str × Str)) : Option Str :=
  (entries.filter fun e => decide (e.1 = key)).getLast?.map Prod.snd

section Reported

variable {key value : Str}

lemma lastOf_append (entries later : List (Str × Str)) :
    lastOf key (entries ++ later) = (lastOf key later).or (lastOf key entries) := by
  simp only [lastOf, List.filter_append, List.getLast?_append, Option.map_or]

lemma permissionsOf_find? (hkey : key ∈ sensitivePermissions) (content : Str) :
    (permissionsOf content).find? key = lastOf key (findIter readPermission 0 none content) := by
  rw [permissionsOf]
  generalize findIter readPermission 0 none content = entries
  induction entries using List.reverseRecOn with
  | nil => rfl
  | append_singleton entries m ih =>
    rw [List.foldl_append, List.foldl_cons, List.foldl_nil, lastOf_append, ← ih]
    by_cases hm : m.1 = key
    · have hlast : lastOf key [m] = some m.2 := by
        rw [lastOf, List.filter_cons_of_pos (by simpa using hm)]
        rfl
      rw [if_pos (hm ▸ hkey), Dict.find?_put, if_pos hm.symm, hlast, Option.some_or]
    · have hlast : lastOf key [m] = none := by
        rw [lastOf, List.filter_cons_of_neg (by simpa using hm)]
        rfl
      rw [hlast, Option.none_or]
      split
      · rw [Dict.find?_put, if_neg (Ne.symm hm)]
      · rfl

/-- Only sensitive permissions are kept. -/
lemma permissionsOf_sensitive {content : Str} (h : (permissionsOf content).find? key = some value) :
    key ∈ sensitivePermissions := by
  rw [permissionsOf] at h
  generalize findIter readPermission 0 none content = entries at h
  induction entries using List.reverseRecOn with
  | nil => cases h
  | append_singleton entries m ih =>
    rw [List.foldl_append, List.foldl_cons, List.foldl_nil] at h
    split at h
    · rename_i hm
      rw [Dict.find?_put] at h
      split at h
      · rename_i hkey
        rw [hkey]
        exact hm
      · exact ih h
    · exact ih h

variable {py : Interpreter} {snapshot : RepositorySnapshot} {path content : Str}

/-- A key is reported with the value that was read last, where that grants the permission. -/
lemma mem_dangerous (hkey : key ∈ sensitivePermissions)
    (hlower : py.lower (Str.ofString "write") = Str.ofString "write") :
    key ++ Str.ofString ":write" ∈ (workflowAssessment py path content).dangerousPermissions ↔
      lastOf key (findIter readPermission 0 none content) = some (Str.ofString "write") := by
  have hnone : ∀ k ∈ sensitivePermissions, CodePoint.scalar ':' ∉ k := by decide
  rw [← permissionsOf_find? hkey, Dict.find?_eq_some_iff]
  simp only [workflowAssessment, List.mem_filterMap]
  constructor
  · rintro ⟨⟨k, v⟩, hrow, hreported⟩
    split at hreported
    · have hreported := Option.some.inj hreported
      have hk := permissionsOf_sensitive (Dict.find?_eq_some_iff.mpr hrow)
      have hsplit : k ++ CodePoint.scalar ':' :: v = key ++ CodePoint.scalar ':' :: Str.ofString "write" := by
        rw [List.append_assoc] at hreported
        exact hreported
      obtain ⟨rfl, rfl⟩ := first_cut (hnone k hk) (hnone key hkey) hsplit
      exact hrow
    · cases hreported
  · intro hrow
    refine ⟨(key, Str.ofString "write"), hrow, ?_⟩
    simp only [hlower, if_true]
    rw [List.append_assoc]
    rfl

/-- A line of a workflow that grants a permission is reported exactly where the last entry of its key after it, if
there is one, grants the permission too. -/
theorem writeLine_reported_iff {n : ℕ} {before after : Str} (hworkflow : isWorkflow py path = true)
    (hfile : snapshot.files.find? path = some (before ++ (writeLine n key ++ after)))
    (hkey : key ∈ sensitivePermissions) (hn : 2 ≤ n)
    (hbefore : before = [] ∨ before.getLast? = some (.scalar '\n'))
    (hafter : after = [] ∨ after.head? = some (.scalar '\n'))
    (hlower : py.lower (Str.ofString "write") = Str.ofString "write") :
    workflowAssessment py path (before ++ (writeLine n key ++ after)) ∈ analyzeWorkflows py snapshot ∧
      (key ++ Str.ofString ":write" ∈
          (workflowAssessment py path (before ++ (writeLine n key ++ after))).dangerousPermissions ↔
        ∀ value, lastOf key (entriesAfter after) = some value → value = Str.ofString "write") := by
  have hwords : ∀ k ∈ sensitivePermissions, (∀ c ∈ k, isPermissionChar c = true) ∧ k ≠ [] := by decide
  have hstart : (before.getLast?.or none).all (· = .scalar '\n') = true := by
    rcases hbefore with rfl | hbefore
    · rfl
    · rw [hbefore]
      rfl
  obtain ⟨es, hes⟩ := findIter_line (hwords key hkey) hn hafter before none hstart
  constructor
  · have hsorted := Dict.mem_sortedItems.mpr (Dict.find?_eq_some_iff.mp hfile)
    exact List.mem_map.mpr ⟨_, List.mem_filter.mpr ⟨hsorted, hworkflow⟩, rfl⟩
  have hline : lastOf key ((key, Str.ofString "write") :: entriesAfter after) =
      (lastOf key (entriesAfter after)).or (some (Str.ofString "write")) := by
    rw [← List.singleton_append, lastOf_append]
    congr 1
    rw [lastOf, List.filter_cons_of_pos (by simp)]
    rfl
  rw [mem_dangerous hkey hlower, hes, lastOf_append, hline]
  cases lastOf key (entriesAfter after) with
  | none => simp
  | some value => simp

end Reported

section Example

def workflowPath : Str := ".github/workflows/release.yml"

/-- Every job may write the contents. -/
def granted : Str := "permissions:\n"

/-- One job takes the permission back for itself. -/
def restricted : Str := "\njobs:\n  test:\n    permissions:\n      contents: read"

def releaseWorkflow (after : Str) : Str := granted ++ (writeLine 2 "contents" ++ after)

lemma restricted_last : lastOf "contents" (findIter readPermission 0 none (releaseWorkflow restricted)) =
    some (Str.ofString "read") := by
  decide

/-- A later entry hides the line. -/
theorem earlier_line_unreported :
    isWorkflow documentInterpreter workflowPath = true ∧
      (documentSnapshot workflowPath (releaseWorkflow restricted)).files.find? workflowPath =
        some (releaseWorkflow restricted) ∧
      Str.ofString "contents" ++ Str.ofString ":write" ∉
        (workflowAssessment documentInterpreter workflowPath (releaseWorkflow restricted)).dangerousPermissions := by
  refine ⟨by decide, rfl, fun hreported => ?_⟩
  rw [mem_dangerous (by decide) (by decide), restricted_last] at hreported
  exact absurd hreported (by decide)

theorem last_line_reported :
    Str.ofString "contents" ++ Str.ofString ":write" ∈
      (workflowAssessment documentInterpreter workflowPath (releaseWorkflow [])).dangerousPermissions := by
  have hworkflow : isWorkflow documentInterpreter workflowPath = true := by decide
  have hfile : (documentSnapshot workflowPath (releaseWorkflow [])).files.find? workflowPath =
      some (granted ++ (writeLine 2 "contents" ++ [])) := rfl
  have hnone : lastOf (Str.ofString "contents") (entriesAfter []) = none := rfl
  refine (writeLine_reported_iff hworkflow hfile (by decide) (le_refl 2) (Or.inr rfl) (Or.inl rfl)
    (by decide)).2.mpr fun value hvalue => ?_
  rw [hnone] at hvalue
  cases hvalue

end Example

end SecScanMonitor.Application.SupplyChainSecurityService
