import SecScanMonitor.Domain.Errors

/-! Shared value objects (`domain/common.py`) and blank text as `str.strip` sees it. -/

namespace SecScanMonitor.Domain

def isSpace (c : Char) : Bool :=
  let n := c.toNat
  (9 ≤ n && n ≤ 13) || (28 ≤ n && n ≤ 32) || n = 0x85 || n = 0xA0 || n = 0x1680 ||
    (0x2000 ≤ n && n ≤ 0x200A) || n = 0x2028 || n = 0x2029 || n = 0x202F || n = 0x205F || n = 0x3000

lemma isSpace_of_isAlphanum {c : Char} (h : c.isAlphanum = true) : isSpace c = false := by
  have hrange : 48 ≤ c.toNat ∧ c.toNat ≤ 57 ∨ 65 ≤ c.toNat ∧ c.toNat ≤ 90 ∨ 97 ≤ c.toNat ∧ c.toNat ≤ 122 := by
    unfold Char.isAlphanum Char.isAlpha Char.isUpper Char.isLower Char.isDigit at h
    simp only [Bool.or_eq_true, Bool.and_eq_true, decide_eq_true_eq, ge_iff_le, UInt32.le_iff_toNat_le] at h
    rcases h with (⟨h, h'⟩ | ⟨h, h'⟩) | ⟨h, h'⟩
    · exact .inr (.inl ⟨h, h'⟩)
    · exact .inr (.inr ⟨h, h'⟩)
    · exact .inl ⟨h, h'⟩
  simp only [isSpace, Bool.or_eq_false_iff, Bool.and_eq_false_iff, decide_eq_false_iff_not]
  omega

/-- `not s.strip()` -/
def isBlank (s : String) : Bool := s.toList.all isSpace

inductive Severity where
  | critical
  | high
  | medium
  | low
  deriving Repr, DecidableEq

def Severity.value : Severity → String
  | .critical => "critical"
  | .high => "high"
  | .medium => "medium"
  | .low => "low"

inductive Confidence where
  | high
  | medium
  | low
  | unknown
  deriving Repr, DecidableEq

def Confidence.value : Confidence → String
  | .high => "high"
  | .medium => "medium"
  | .low => "low"
  | .unknown => "unknown"

/-- A computation over a mutable state: an exception leaves behind what was stored before it. -/
abbrev Effect (σ α : Type) := σ → Except Raised α × σ

def Effect.discard {σ α : Type} (m : Effect σ α) : Effect σ Unit := fun s =>
  ((m s).1.map fun _ => (), (m s).2)

end SecScanMonitor.Domain
