import Mathlib.Data.List.DropRight

/-! Base64 with the alphabet for URLs. The decoder passes over what is no letter, and takes the other alphabet
too; the padding of an encoded text can be left out, and put back by the length. -/

namespace SecScanMonitor.Foundations.Base64

/-- The letter of six bits. -/
def letter (n : ℕ) : Char :=
  if n < 26 then Char.ofNat (65 + n)
  else if n < 52 then Char.ofNat (71 + n)
  else if n < 62 then Char.ofNat (n - 4)
  else if n = 62 then '-' else '_'

/-- The six bits of a letter. -/
def sextet (c : Char) : Option ℕ :=
  if 'A' ≤ c ∧ c ≤ 'Z' then some (c.toNat - 65)
  else if 'a' ≤ c ∧ c ≤ 'z' then some (c.toNat - 71)
  else if '0' ≤ c ∧ c ≤ '9' then some (c.toNat + 4)
  else if c = '-' ∨ c = '+' then some 62
  else if c = '_' ∨ c = '/' then some 63
  else none

lemma sextet_letter {n : ℕ} (h : n < 64) : sextet (letter n) = some n := by
  have hall : ∀ m < 64, sextet (letter m) = some m := by decide
  exact hall n h

lemma letter_ne {n : ℕ} (h : n < 64) : letter n ≠ '=' := by
  have hall : ∀ m < 64, letter m ≠ '=' := by decide
  exact hall n h

lemma letter_ascii {n : ℕ} (h : n < 64) : (letter n).toNat < 128 := by
  have hall : ∀ m < 64, (letter m).toNat < 128 := by decide
  exact hall n h

section Encode

variable (a b c : UInt8)

def firstLetter : Char := letter (a.toNat / 4)

def secondLetter : Char := letter (a.toNat % 4 * 16 + b.toNat / 16)

def thirdLetter : Char := letter (b.toNat % 16 * 4 + c.toNat / 64)

def lastLetter : Char := letter (c.toNat % 64)

/-- `base64.urlsafe_b64encode` -/
def encode : List UInt8 → List Char
  | [] => []
  | [a] => [firstLetter a, secondLetter a 0, '=', '=']
  | [a, b] => [firstLetter a, secondLetter a b, thirdLetter b 0, '=']
  | a :: b :: c :: bytes => firstLetter a :: secondLetter a b :: thirdLetter b c :: lastLetter c :: encode bytes

end Encode

/-- `binascii.a2b_base64`: the bits that are left over from the letters of a group, and the pads that it has. -/
def decodeFrom (position left pads : ℕ) : List Char → Option (List UInt8)
  | [] => if position = 0 then some [] else none
  | c :: text =>
    if c = '=' then
      if position < 2 then decodeFrom position left pads text
      -- enough pads end the text, whatever comes after them
      else if 4 ≤ position + (pads + 1) then some [] else decodeFrom position left (pads + 1) text
    else
      match sextet c with
      | none => decodeFrom position left pads text
      | some n =>
        match position with
        | 0 => decodeFrom 1 n 0 text
        | 1 => (decodeFrom 2 (n % 16) 0 text).map (UInt8.ofNat (left * 4 + n / 16) :: ·)
        | 2 => (decodeFrom 3 (n % 4) 0 text).map (UInt8.ofNat (left * 16 + n / 4) :: ·)
        | _ => (decodeFrom 0 0 0 text).map (UInt8.ofNat (left * 64 + n) :: ·)

/-- `base64.urlsafe_b64decode` -/
def decode (text : List Char) : Option (List UInt8) := decodeFrom 0 0 0 text

lemma decodeFrom_letter {n : ℕ} (h : n < 64) (position left pads : ℕ) (text : List Char) :
    decodeFrom position left pads (letter n :: text) =
      match position with
      | 0 => decodeFrom 1 n 0 text
      | 1 => (decodeFrom 2 (n % 16) 0 text).map (UInt8.ofNat (left * 4 + n / 16) :: ·)
      | 2 => (decodeFrom 3 (n % 4) 0 text).map (UInt8.ofNat (left * 16 + n / 4) :: ·)
      | _ => (decodeFrom 0 0 0 text).map (UInt8.ofNat (left * 64 + n) :: ·) := by
  rw [decodeFrom, if_neg (letter_ne h), sextet_letter h]

lemma byte_of {n : ℕ} {a : UInt8} (h : n = a.toNat) : UInt8.ofNat n = a := by
  rw [h, UInt8.ofNat_toNat]

/-- The letters of a group are read to its bytes. -/
lemma decodeFrom_two (a b : UInt8) (text : List Char) :
    decodeFrom 0 0 0 (firstLetter a :: secondLetter a b :: text) =
      (decodeFrom 2 (b.toNat / 16) 0 text).map (a :: ·) := by
  have ha := a.toNat_lt
  have hb := b.toNat_lt
  rw [firstLetter, decodeFrom_letter (by omega), secondLetter]
  simp only
  rw [decodeFrom_letter (by omega)]
  simp only
  rw [byte_of (by omega : a.toNat / 4 * 4 + (a.toNat % 4 * 16 + b.toNat / 16) / 16 = a.toNat),
    show (a.toNat % 4 * 16 + b.toNat / 16) % 16 = b.toNat / 16 by omega]

lemma decodeFrom_third (b c : UInt8) (text : List Char) :
    decodeFrom 2 (b.toNat / 16) 0 (thirdLetter b c :: text) =
      (decodeFrom 3 (c.toNat / 64) 0 text).map (b :: ·) := by
  have hb := b.toNat_lt
  have hc := c.toNat_lt
  rw [thirdLetter, decodeFrom_letter (by omega)]
  simp only
  rw [byte_of (by omega : b.toNat / 16 * 16 + (b.toNat % 16 * 4 + c.toNat / 64) / 4 = b.toNat),
    show (b.toNat % 16 * 4 + c.toNat / 64) % 4 = c.toNat / 64 by omega]

/-- What is encoded is decoded again. -/
theorem decode_encode (bytes : List UInt8) : decode (encode bytes) = some bytes := by
  induction bytes using encode.induct with
  | case1 => rfl
  | case2 a =>
    rw [decode, encode, decodeFrom_two]
    rfl
  | case3 a b =>
    rw [decode, encode, decodeFrom_two, decodeFrom_third]
    rfl
  | case4 a b c bytes ih =>
    have hc := c.toNat_lt
    rw [decode] at ih
    rw [decode, encode, decodeFrom_two, decodeFrom_third, lastLetter, decodeFrom_letter (by omega), ih,
      byte_of (by omega : c.toNat / 64 * 64 + c.toNat % 64 = c.toNat)]
    rfl

/-- `text.rstrip("=")` -/
def unpadded (text : List Char) : List Char := text.rdropWhile fun c => decide (c = '=')

/-- The padding that the length of a text asks for. -/
def padded (text : List Char) : List Char := text ++ List.replicate ((4 - text.length % 4) % 4) '='

lemma unpadded_append {text : List Char} (h : ∀ c ∈ text.getLast?, c ≠ '=') (n : ℕ) :
    unpadded (text ++ List.replicate n '=') = text := by
  induction n with
  | zero =>
    rw [List.replicate_zero, List.append_nil, unpadded, List.rdropWhile_eq_self_iff]
    intro hne
    simpa using h _ (List.getLast?_eq_some_getLast hne)
  | succ n ih =>
    rw [List.replicate_succ', ← List.append_assoc, unpadded, List.rdropWhile_concat_pos _ _ _ (by simp)]
    exact ih

/-- An encoded text is its letters and the padding of their number. -/
lemma encode_eq_padded (bytes : List UInt8) :
    ∃ text, encode bytes = padded text ∧ ∀ c ∈ text.getLast?, c ≠ '=' := by
  induction bytes using encode.induct with
  | case1 => exact ⟨[], rfl, nofun⟩
  | case2 a =>
    refine ⟨[firstLetter a, secondLetter a 0], rfl, ?_⟩
    rintro _ ⟨⟩
    exact letter_ne (by have := a.toNat_lt; simp; omega)
  | case3 a b =>
    refine ⟨[firstLetter a, secondLetter a b, thirdLetter b 0], rfl, ?_⟩
    rintro _ ⟨⟩
    exact letter_ne (by have := b.toNat_lt; simp; omega)
  | case4 a b c bytes ih =>
    obtain ⟨text, htext, hlast⟩ := ih
    refine ⟨firstLetter a :: secondLetter a b :: thirdLetter b c :: lastLetter c :: text, ?_, ?_⟩
    · rw [encode, htext, padded, padded]
      simp only [List.length_cons, List.cons_append]
      rw [show (text.length + 1 + 1 + 1 + 1) % 4 = text.length % 4 by omega]
    · cases text with
      | nil =>
        rintro _ ⟨⟩
        exact letter_ne (by omega)
      | cons d text => simpa using hlast

/-- The padding of an encoded text can be left out. -/
theorem padded_unpadded_encode (bytes : List UInt8) : padded (unpadded (encode bytes)) = encode bytes := by
  obtain ⟨text, htext, hlast⟩ := encode_eq_padded bytes
  have hletters : unpadded (padded text) = text := unpadded_append hlast _
  rw [htext, hletters]

/-- An encoded text is in ASCII. -/
lemma ascii_of_encode {bytes : List UInt8} {c : Char} (h : c ∈ encode bytes) : c.toNat < 128 := by
  have hfirst : ∀ a, (firstLetter a).toNat < 128 := fun a => letter_ascii (by have := a.toNat_lt; omega)
  have hsecond : ∀ a b, (secondLetter a b).toNat < 128 := fun a b => letter_ascii (by have := b.toNat_lt; omega)
  have hthird : ∀ b c, (thirdLetter b c).toNat < 128 := fun b c => letter_ascii (by have := c.toNat_lt; omega)
  have hlast : ∀ c, (lastLetter c).toNat < 128 := fun c => letter_ascii (by omega)
  induction bytes using encode.induct with
  | case1 => cases h
  | case2 a =>
    simp only [encode, List.mem_cons, List.not_mem_nil, or_false] at h
    rcases h with rfl | rfl | rfl | rfl
    exacts [hfirst _, hsecond _ _, by decide, by decide]
  | case3 a b =>
    simp only [encode, List.mem_cons, List.not_mem_nil, or_false] at h
    rcases h with rfl | rfl | rfl | rfl
    exacts [hfirst _, hsecond _ _, hthird _ _, by decide]
  | case4 a b d bytes ih =>
    simp only [encode, List.mem_cons] at h
    rcases h with rfl | rfl | rfl | rfl | h
    exacts [hfirst _, hsecond _ _, hthird _ _, hlast _, ih h]

end SecScanMonitor.Foundations.Base64
