import SecScanMonitor.Domain.Errors
import SecScanMonitor.Sanitize.Serialization

/-! The metadata that live ingestion accepts with an event (`application/live_ingest.py`), and what its
serialized text can hold. -/

namespace SecScanMonitor.Application

open Foundations Domain Sanitize Foundations.Regex

namespace LiveIngest

def maxEventMetadataBytes : ℕ := 16384

def maxEventMetadataDepth : ℕ := 5

def maxEventMetadataItems : ℕ := 128

def maxEventMetadataStringBytes : ℕ := 1024

def forbiddenEventMetadataKeys : List String := ["body", "bytes", "content", "data", "payload", "raw"]

/-- `str.casefold`, and the text of a fractional number. -/
structure Tooling where
  casefold : String → String
  floatText : Rat → Text

variable (tooling : Tooling)

def checkKey (key : String) : Except Raised Unit := do
  raiseIf (key.utf8ByteSize > maxEventMetadataStringBytes) .valueError
    "event metadata keys are invalid or too large"
  raiseIf (tooling.casefold key ∈ forbiddenEventMetadataKeys) .valueError
    "raw event payload fields are not accepted"

mutual

def visit : Value → ℕ → Except Raised Unit
  | item, depth => do
    raiseIf (depth > maxEventMetadataDepth) .valueError "event metadata nesting is too deep"
    match item with
    | .obj members =>
      raiseIf (members.length > maxEventMetadataItems) .valueError
        "event metadata has too many fields"
      visitMembers members (depth + 1)
    | .arr items =>
      raiseIf (items.length > maxEventMetadataItems) .valueError "event metadata has too many items"
      visitItems items (depth + 1)
    | .str s =>
      raiseIf (s.utf8ByteSize > maxEventMetadataStringBytes) .valueError
        "event metadata strings are too large"
    | _ => .ok ()

def visitMembers : List (String × Value) → ℕ → Except Raised Unit
  | [], _ => .ok ()
  | (key, child) :: members, depth => do
    checkKey tooling key
    visit child depth
    visitMembers members depth

def visitItems : List Value → ℕ → Except Raised Unit
  | [], _ => .ok ()
  | child :: items, depth => do
    visit child depth
    visitItems items depth

end

variable (u : UnicodeTables)

/-- `_bounded_metadata` -/
def boundedMetadata (members : List (String × Value)) : Except Raised (List (String × Value)) := do
  visit tooling (.obj members) 0
  raiseIf ((dumps true tooling.floatText (.obj members)).length > maxEventMetadataBytes) .valueError
    "event metadata exceeds its size bound"
  raiseIf (payloadContainsSecretLikeContent u (.obj members)) .valueError
    "secret-like event metadata is not accepted"
  return members

/-- A payload that the scan passes has no forbidden value in its serialized text. -/
def ScansAgree (ensureAscii : Bool) (v : Value) : Prop :=
  payloadContainsSecretLikeContent u v = false → Clean u (dumps ensureAscii tooling.floatText v)

/-- Metadata that ingestion accepts has none in its serialized text. -/
def StoredClean (members : List (String × Value)) : Prop :=
  boundedMetadata tooling u members = .ok members →
    Clean u (dumps true tooling.floatText (.obj members))

variable {tooling u}

lemma scan_of_boundedMetadata {members : List (String × Value)}
    (h : boundedMetadata tooling u members = .ok members) :
    payloadContainsSecretLikeContent u (.obj members) = false := by
  obtain ⟨-, -, h⟩ := bind_eq_ok.mp h
  obtain ⟨-, h⟩ := raiseIf_bind_eq_ok.mp h
  obtain ⟨hscan, -⟩ := raiseIf_bind_eq_ok.mp h
  rwa [Bool.not_eq_true] at hscan

variable (tooling u)

/-- The scan of a payload and of its text agree exactly where every match stays inside one string value that
is written as it is, and so for the metadata that ingestion accepts. -/
theorem scans_agree_iff (ensureAscii : Bool) (v : Value) (members : List (String × Value)) :
    (ScansAgree tooling u ensureAscii v ↔ (payloadContainsSecretLikeContent u v = false →
      Confined u ensureAscii tooling.floatText v)) ∧
    (StoredClean tooling u members ↔ (boundedMetadata tooling u members = .ok members →
      Confined u true tooling.floatText (.obj members))) := by
  constructor
  · exact forall_congr' fun hscan => clean_iff_confined hscan
  · exact forall_congr' fun hok => clean_iff_confined (scan_of_boundedMetadata hok)

section Example

def plainTooling : Tooling := ⟨String.toLower, fun _ => []⟩

def plainTables : UnicodeTables := ⟨fun _ => false, fun _ => false⟩

/-- A password under its name passes the scan and is stored. -/
theorem password_key_stored :
    ¬ (ScansAgree plainTooling plainTables true (.obj [("password", .str "hunter2")]) ∨
      StoredClean plainTooling plainTables [("password", .str "hunter2")]) := by
  have hscan : payloadContainsSecretLikeContent plainTables (.obj [("password", .str "hunter2")]) =
      false := by decide +kernel
  have hok : boundedMetadata plainTooling plainTables [("password", .str "hunter2")] =
      .ok [("password", .str "hunter2")] := by decide +kernel
  have hoccurs : Occurs (credential plainTables)
      (dumps true plainTooling.floatText (.obj [("password", .str "hunter2")])) := by decide +kernel
  have hmem : credential plainTables ∈ forbiddenValuePatterns plainTables := by
    simp [forbiddenValuePatterns]
  rintro (hagree | hstored)
  · exact hagree hscan _ hmem hoccurs
  · exact hstored hok _ hmem hoccurs

end Example

end LiveIngest

end SecScanMonitor.Application
