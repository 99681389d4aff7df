import Mathlib.Algebra.Group.Nat.Defs
import Mathlib.Data.List.DropRight

/-! Integers and their decimal texts, as the language writes and reads them: no more than 4300 digits, underscores
between digits, and whitespace around. -/

namespace SecScanMonitor.Foundations.Numerals

/-- The most digits that an integer is written with or read from. -/
def maxDigits : ℕ := 4300

/-- `str(n)` of a natural number -/
def write (n : ℕ) : Option (List Char) :=
  if (Nat.toDigits 10 n).length ≤ maxDigits then some (Nat.toDigits 10 n) else none

/-- The digits of a numeral without the underscores between them. -/
def ungrouped : List Char → Option (List Char)
  | [] => none
  | [c] => if c.isDigit then some [c] else none
  | c :: '_' :: text => if c.isDigit then (ungrouped text).map (c :: ·) else none
  | c :: d :: text => if c.isDigit then (ungrouped (d :: text)).map (c :: ·) else none

def readDigits (text : List Char) : Option ℕ :=
  (ungrouped text).bind fun digits =>
    if digits.length ≤ maxDigits then some (Nat.ofDigitChars 10 digits 0) else none

def isSpace (c : Char) : Bool := decide (c = ' ' ∨ '\t' ≤ c ∧ c ≤ '\r')

def trimmed (text : List Char) : List Char := (text.dropWhile isSpace).rdropWhile isSpace

/-- `int(s)` of a text in ASCII -/
def read (text : List Char) : Option ℤ :=
  match trimmed text with
  | '-' :: digits => (readDigits digits).map fun n => -(n : ℤ)
  | '+' :: digits => (readDigits digits).map Int.ofNat
  | digits => (readDigits digits).map Int.ofNat

lemma ungrouped_of_digits {text : List Char} (hne : text ≠ []) (h : ∀ c ∈ text, c.isDigit = true) :
    ungrouped text = some text := by
  induction text with
  | nil => exact absurd rfl hne
  | cons c text ih =>
    obtain ⟨hc, htext⟩ := List.forall_mem_cons.mp h
    cases text with
    | nil => rw [ungrouped, if_pos hc]
    | cons d text =>
      have hd : d ≠ '_' := by
        rintro rfl
        exact absurd (htext _ List.mem_cons_self) (by decide)
      rw [ungrouped.eq_4 _ _ _ (by simpa using hd), if_pos hc, ih (List.cons_ne_nil _ _) htext]
      rfl

lemma digit_ne {c d : Char} (hc : c.isDigit = true) (hd : d.isDigit = false) : c ≠ d := by
  rintro rfl
  exact absurd (hc.symm.trans hd) nofun

lemma isSpace_of_digit {c : Char} (h : c.isDigit = true) : isSpace c = false := by
  rw [Char.isDigit, Bool.and_eq_true, decide_eq_true_eq, decide_eq_true_eq] at h
  rw [isSpace, decide_eq_false_iff_not]
  rintro (rfl | hspace)
  · exact absurd h.1 (by decide)
  · have hleft : '0'.toNat ≤ c.toNat := h.1
    have hright : c.toNat ≤ '\r'.toNat := hspace.2
    exact absurd (hleft.trans hright) (by decide)

lemma trimmed_of_digits {text : List Char} (h : ∀ c ∈ text, c.isDigit = true) : trimmed text = text := by
  have hfree : ∀ c ∈ text, ¬ isSpace c = true := fun c hc => by
    rw [isSpace_of_digit (h c hc)]
    exact Bool.false_ne_true
  have hhead : text.dropWhile isSpace = text := by
    cases text with
    | nil => rfl
    | cons c text => exact List.dropWhile_cons_of_neg (hfree c List.mem_cons_self)
  rw [trimmed, hhead, List.rdropWhile_eq_self_iff]
  exact fun hne => hfree _ (List.getLast_mem hne)

/-- An integer that is written is read again. -/
theorem read_write {n : ℕ} {text : List Char} (h : write n = some text) : read text = some (n : ℤ) := by
  rw [write] at h
  split at h
  · rename_i hlength
    obtain rfl := Option.some.inj h
    have hdigits : ∀ c ∈ Nat.toDigits 10 n, c.isDigit = true :=
      fun c hc => Nat.isDigit_of_mem_toDigits (by decide) (by decide) hc
    have hread : readDigits (Nat.toDigits 10 n) = some n := by
      rw [readDigits, ungrouped_of_digits Nat.toDigits_ne_nil hdigits, Option.bind_some, if_pos hlength,
        Nat.ofDigitChars_ten_toDigits]
    rw [read, trimmed_of_digits hdigits]
    split
    · rename_i digits heq
      refine absurd rfl (digit_ne (hdigits '-' ?_) (by decide : '-'.isDigit = false))
      rw [heq]
      exact List.mem_cons_self
    · rename_i digits heq
      refine absurd rfl (digit_ne (hdigits '+' ?_) (by decide : '+'.isDigit = false))
      rw [heq]
      exact List.mem_cons_self
    · rw [hread]
      rfl
  · cases h

lemma write_isSome {n : ℕ} (h : n < 10 ^ maxDigits) : ∃ text, write n = some text := by
  refine ⟨Nat.toDigits 10 n, if_pos ?_⟩
  exact (Nat.length_toDigits_le_iff (by decide) (by decide)).mpr h

/-- The text of an integer is in ASCII. -/
lemma ascii_of_write {n : ℕ} {text : List Char} (h : write n = some text) : ∀ c ∈ text, c.toNat < 128 := by
  rw [write] at h
  split at h
  · obtain rfl := Option.some.inj h
    intro c hc
    have hdigit := Nat.isDigit_of_mem_toDigits (by decide) (by decide) hc
    rw [Char.isDigit, Bool.and_eq_true, decide_eq_true_eq, decide_eq_true_eq] at hdigit
    have hle : c.toNat ≤ '9'.toNat := hdigit.2
    exact lt_of_le_of_lt hle (by decide)
  · cases h

end SecScanMonitor.Foundations.Numerals
