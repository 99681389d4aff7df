import Mathlib.Data.List.Lex
import Mathlib.Data.String.Basic
import Mathlib.Order.Basic

/-! Texts as sequences of code points, lone surrogates among them, and their UTF-8 bytes. -/

namespace SecScanMonitor.Foundations

inductive CodePoint where
  | scalar (c : Char)
  | surrogate (n : Fin 0x800)
  deriving DecidableEq

namespace CodePoint

def val : CodePoint → ℕ
  | scalar c => c.toNat
  | surrogate n => 0xD800 + n

lemma val_injective : Function.Injective val := by
  rintro (c | n) (d | m) h
  · exact congrArg scalar (Char.toNat_inj.mp h)
  · exfalso
    simp only [val] at h
    have hvalid : c.toNat < 0xD800 ∨ 0xDFFF < c.toNat ∧ c.toNat < 0x110000 := c.valid
    omega
  · exfalso
    simp only [val] at h
    have hvalid : d.toNat < 0xD800 ∨ 0xDFFF < d.toNat ∧ d.toNat < 0x110000 := d.valid
    omega
  · simp only [val] at h
    rw [Fin.ext (by omega : (n : ℕ) = m)]

instance : LinearOrder CodePoint := LinearOrder.lift' val val_injective

def nul : CodePoint := scalar '\x00'

def question : CodePoint := scalar '?'

/-- The bytes of a code point; a lone surrogate has none of its own and is written as a question mark. -/
def encodeReplace : CodePoint → List UInt8
  | scalar c => String.utf8EncodeChar c
  | surrogate _ => [0x3F]

/-- The scalar that is written in the place of a code point. -/
def replaced : CodePoint → CodePoint
  | scalar c => scalar c
  | surrogate _ => question

lemma encodeReplace_replaced (p : CodePoint) : p.replaced.encodeReplace = p.encodeReplace := by
  cases p with
  | scalar c => rfl
  | surrogate n => rfl

/-- What follows the bytes of a character does not change which character they are. -/
lemma utf8_append_inj {c d : Char} {x y : List UInt8}
    (h : String.utf8EncodeChar c ++ x = String.utf8EncodeChar d ++ y) : c = d ∧ x = y := by
  have hread : ∀ (e : Char) (z : List UInt8),
      ByteArray.utf8DecodeChar? (String.utf8EncodeChar e ++ z).toByteArray 0 = some e := by
    intro e z
    rw [List.toByteArray_append]
    exact ByteArray.utf8DecodeChar?_utf8EncodeChar_append
  have hsame := hread c x
  rw [h, hread d y] at hsame
  obtain rfl := Option.some.inj hsame
  exact ⟨rfl, List.append_cancel_left h⟩

lemma zero_ne_ofNat {n : ℕ} (hpos : 0 < n) (hlt : n < 256) : (0 : UInt8) ≠ UInt8.ofNat n := by
  intro h
  have hzero := congrArg UInt8.toNat h
  simp only [UInt8.toNat_ofNat', UInt8.toNat_zero] at hzero
  omega

/-- Only the bytes of the NUL character hold a zero. -/
lemma nul_of_zero_mem {c : Char} (h : (0 : UInt8) ∈ String.utf8EncodeChar c) : c = '\x00' := by
  by_contra hne
  have hpos : 0 < c.val.toNat := by
    rw [Nat.pos_iff_ne_zero]
    exact fun hzero => hne (Char.toNat_inj.mp hzero)
  have hlt : c.val.toNat < 0x110000 := by
    have hvalid : c.toNat < 0xD800 ∨ 0xDFFF < c.toNat ∧ c.toNat < 0x110000 := c.valid
    change c.toNat < 0x110000
    omega
  rw [String.utf8EncodeChar] at h
  split at h
  · rw [List.mem_singleton] at h
    exact zero_ne_ofNat hpos (by omega) h
  split at h
  · simp only [List.mem_cons, List.not_mem_nil, or_false] at h
    rcases h with h | h
    all_goals exact zero_ne_ofNat (by omega) (by omega) h
  split at h
  · simp only [List.mem_cons, List.not_mem_nil, or_false] at h
    rcases h with h | h | h
    all_goals exact zero_ne_ofNat (by omega) (by omega) h
  · simp only [List.mem_cons, List.not_mem_nil, or_false] at h
    rcases h with h | h | h | h
    all_goals exact zero_ne_ofNat (by omega) (by omega) h

lemma zero_notMem_of_ne_nul {p : CodePoint} (hp : p ≠ nul) : (0 : UInt8) ∉ p.encodeReplace := by
  cases p with
  | scalar c => exact fun h => hp (congrArg scalar (nul_of_zero_mem h))
  | surrogate n => exact List.not_mem_cons_of_ne_of_not_mem (by decide) List.not_mem_nil

lemma encodeReplace_ne_nil (p : CodePoint) : p.encodeReplace ≠ [] := by
  cases p with
  | scalar c => exact String.utf8EncodeChar_ne_nil
  | surrogate n => exact List.cons_ne_nil _ _

def isScalar : CodePoint → Bool
  | scalar _ => true
  | surrogate _ => false

/-- The code point is written as itself, and no other is written in its way. -/
def Faithful (p : CodePoint) : Prop := p.isScalar = true ∧ p ≠ question

instance (p : CodePoint) : Decidable p.Faithful := inferInstanceAs (Decidable (_ ∧ _))

/-- Another code point with the same bytes, where there is one. -/
def swap : CodePoint → CodePoint
  | scalar c => if c = '?' then surrogate 0x4FF else scalar c
  | surrogate _ => question

lemma encodeReplace_swap (p : CodePoint) : p.swap.encodeReplace = p.encodeReplace := by
  cases p with
  | scalar c =>
    rw [swap]
    split
    · rename_i hc
      rw [hc]
      rfl
    · rfl
  | surrogate n => rfl

lemma swap_ne_iff {p : CodePoint} : p.swap ≠ p ↔ ¬ p.Faithful := by
  cases p with
  | scalar c =>
    rw [swap, Faithful, question]
    by_cases hc : c = '?'
    · simp [hc]
    · simp [hc, isScalar]
  | surrogate n => simp [swap, Faithful, question, isScalar]

/-- A code point that has no other of the same bytes is no other's replacement. -/
lemma swap_eq_iff {p q : CodePoint} (hq : q.Faithful) : p.swap = q ↔ p = q := by
  cases p with
  | scalar c =>
    rw [swap]
    split
    · rename_i hc
      constructor
      · rintro rfl
        cases hq.1
      · rintro rfl
        exact absurd (congrArg scalar hc) hq.2
    · exact Iff.rfl
  | surrogate n =>
    constructor
    · rintro rfl
      exact absurd rfl hq.2
    · rintro rfl
      cases hq.1

lemma nul_faithful : nul.Faithful := by decide

end CodePoint

abbrev Str := List CodePoint

instance : LawfulBEq Str := inferInstance

namespace Str

open CodePoint

def ofString (s : String) : Str := s.toList.map .scalar

instance : Coe String Str := ⟨ofString⟩

lemma ofString_injective : Function.Injective ofString := by
  intro s t h
  have hchars := List.map_injective_iff.mpr (fun _ _ => CodePoint.scalar.inj) h
  exact String.toList_inj.mp hchars

/-- `encode("utf-8", errors="replace")` -/
def encodeReplace (s : Str) : List UInt8 := s.flatMap CodePoint.encodeReplace

/-- `encode("utf-8")`; a text with a lone surrogate has no bytes. -/
def encode? (s : Str) : Option (List UInt8) :=
  if s.all isScalar then some s.encodeReplace else none

@[simp] lemma encodeReplace_nil : encodeReplace [] = [] := rfl

@[simp] lemma encodeReplace_cons (p : CodePoint) (s : Str) :
    encodeReplace (p :: s) = p.encodeReplace ++ encodeReplace s := rfl

@[simp] lemma encodeReplace_append (s t : Str) :
    encodeReplace (s ++ t) = encodeReplace s ++ encodeReplace t := List.flatMap_append

lemma encodeReplace_nul_cons (s : Str) : encodeReplace (nul :: s) = 0 :: encodeReplace s := rfl

lemma encodeReplace_map {f : CodePoint → CodePoint}
    (hf : ∀ p, (f p).encodeReplace = p.encodeReplace) (s : Str) :
    encodeReplace (s.map f) = encodeReplace s := by
  rw [encodeReplace, encodeReplace, List.flatMap_map]
  congr 1
  funext p
  exact hf p

lemma zero_notMem {s : Str} (hs : nul ∉ s) : (0 : UInt8) ∉ s.encodeReplace := by
  intro h
  obtain ⟨p, hp, hzero⟩ := List.mem_flatMap.mp h
  refine zero_notMem_of_ne_nul ?_ hzero
  rintro rfl
  exact hs hp

/-- A zero byte is the NUL character. -/
lemma cut {s : Str} {x y : List UInt8} (h : s.encodeReplace = x ++ 0 :: y) :
    ∃ t u, s = t ++ nul :: u ∧ encodeReplace t = x ∧ encodeReplace u = y := by
  induction s generalizing x with
  | nil => exact absurd h (by simp)
  | cons p s ih =>
    rw [encodeReplace_cons] at h
    by_cases hp : p = nul
    · subst hp
      cases x with
      | nil => exact ⟨[], s, rfl, rfl, List.tail_eq_of_cons_eq h⟩
      | cons b x =>
        obtain ⟨hb, h⟩ := List.cons.inj h
        obtain ⟨t, u, rfl, ht, hu⟩ := ih h
        refine ⟨nul :: t, u, rfl, ?_, hu⟩
        rw [encodeReplace_nul_cons, ht, ← hb]
        rfl
    · -- the zero lies behind the bytes of `p`
      rcases List.append_eq_append_iff.mp h with ⟨x', rfl, hrest⟩ | ⟨y', hy', hrest⟩
      · obtain ⟨t, u, rfl, ht, hu⟩ := ih hrest
        exact ⟨p :: t, u, rfl, by rw [encodeReplace_cons, ht], hu⟩
      · cases y' with
        | nil =>
          rw [List.append_nil] at hy'
          obtain ⟨t, u, rfl, ht, hu⟩ := ih (x := []) hrest.symm
          refine ⟨p :: t, u, rfl, ?_, hu⟩
          rw [encodeReplace_cons, ht, hy', List.append_nil]
        | cons b y' =>
          obtain ⟨rfl, -⟩ := List.cons.inj hrest
          refine absurd ?_ (zero_notMem_of_ne_nul hp)
          rw [hy']
          exact List.mem_append_right _ List.mem_cons_self

/-- Texts without lone surrogates are told apart by their bytes. -/
lemma encodeReplace_injOn {s t : Str} (hs : ∀ p ∈ s, p.isScalar = true)
    (ht : ∀ p ∈ t, p.isScalar = true) (h : s.encodeReplace = t.encodeReplace) : s = t := by
  induction s generalizing t with
  | nil =>
    cases t with
    | nil => rfl
    | cons q t => exact absurd (List.append_eq_nil_iff.mp h.symm).1 q.encodeReplace_ne_nil
  | cons p s ih =>
    cases t with
    | nil => exact absurd (List.append_eq_nil_iff.mp h).1 p.encodeReplace_ne_nil
    | cons q t =>
      rw [List.forall_mem_cons] at hs ht
      cases p with
      | surrogate n => cases hs.1
      | scalar c =>
        cases q with
        | surrogate n => cases ht.1
        | scalar d =>
          obtain ⟨rfl, hrest⟩ := utf8_append_inj h
          rw [ih hs.2 ht.2 hrest]

/-- A faithful text is the only one of its bytes. -/
lemma eq_of_faithful {s t : Str} (hs : ∀ p ∈ s, p.Faithful) (h : t.encodeReplace = s.encodeReplace) :
    t = s := by
  have hplain : t.map replaced = s := by
    apply encodeReplace_injOn
    · intro p hp
      obtain ⟨q, -, rfl⟩ := List.mem_map.mp hp
      cases q with
      | scalar c => rfl
      | surrogate n => rfl
    · exact fun p hp => (hs p hp).1
    · rw [encodeReplace_map encodeReplace_replaced, h]
  rw [← hplain]
  symm
  calc t.map replaced = t.map id := by
        rw [List.map_inj_left]
        intro p hp
        cases p with
        | scalar c => rfl
        | surrogate n =>
          have hmem : question ∈ s := by
            rw [← hplain]
            exact List.mem_map.mpr ⟨_, hp, rfl⟩
          exact absurd rfl (hs _ hmem).2
    _ = t := List.map_id t

lemma swap_ne {s : Str} (hs : ¬ ∀ p ∈ s, p.Faithful) : s.map swap ≠ s := by
  intro h
  apply hs
  intro p hp
  have hsame : s.map swap = s.map id := by rw [h, List.map_id]
  by_contra hp'
  exact swap_ne_iff.mpr hp' (List.map_inj_left.mp hsame p hp)

lemma map_swap_eq_iff {s t : Str} (ht : ∀ p ∈ t, p.Faithful) : s.map swap = t ↔ s = t := by
  induction s generalizing t with
  | nil => exact Iff.rfl
  | cons p s ih =>
    cases t with
    | nil => exact ⟨nofun, nofun⟩
    | cons q t =>
      rw [List.forall_mem_cons] at ht
      rw [List.map_cons, List.cons.injEq, List.cons.injEq, swap_eq_iff ht.1, ih ht.2]

lemma mem_map_swap_iff {s : Str} {p : CodePoint} (hp : p.Faithful) : p ∈ s.map swap ↔ p ∈ s := by
  simp only [List.mem_map, swap_eq_iff hp, exists_eq_right]

end Str

end SecScanMonitor.Foundations
