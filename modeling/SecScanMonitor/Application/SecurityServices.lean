import SecScanMonitor.Application.RepositorySnapshot
import SecScanMonitor.Domain.Common
import SecScanMonitor.Domain.Parsed

/-! What the security services answer with (`application/security_services.py`), and the language's functions on
paths and texts that they read a snapshot with. -/

namespace SecScanMonitor.Application

open Foundations Domain

inductive ServiceRunStatus where
  | planned
  | refused
  | notQualified
  | running
  | degraded
  | inconclusive
  | completed
  | failed
  deriving Repr, DecidableEq

structure ServiceObservation where
  serviceId : Str
  code : Str
  statement : Str
  evidenceRefs : List Str
  confidence : Confidence
  suggestedSeverity : Option Severity
  standardReferences : List Str
  status : Str := "OBSERVED"

structure ClaimCandidate where
  serviceId : Str
  dedupeKey : Str
  statement : Str
  evidenceRefs : List Str
  severity : Severity
  confidence : Confidence
  affectedComponent : Str
  preconditions : List Str := []
  impact : Str
  remediation : Str
  verification : Str
  standardReferences : List Str

structure ServiceResult (Outputs : Type) where
  serviceId : Str
  status : ServiceRunStatus
  observations : List ServiceObservation
  claimCandidates : List ClaimCandidate
  limitations : List Str
  outputs : Outputs

def resultStatus (limitations : List Str) : ServiceRunStatus :=
  if limitations = [] then .completed else .degraded

/-- `_evidence_id` -/
def evidenceId (py : Interpreter) (snapshot : RepositorySnapshot) (path kind : Str) :
    Except Raised Str := do
  let bytes ← encode
    (snapshot.snapshotId ++ CodePoint.nul :: (path ++ CodePoint.nul :: kind))
  return "EVD-" ++ (py.sha256 bytes).take 20

/-- `PurePosixPath(path).name` -/
def pathName (path : Str) : Str :=
  ((path.splitOn (.scalar '/')).filter fun part =>
    decide (part ≠ [] ∧ part ≠ Str.ofString ".")).getLast?.getD []

def startsWith (lead s : Str) : Bool := lead.isPrefixOf s

def endsWith (tail s : Str) : Bool := tail.isSuffixOf s

/-- `part in s` -/
def contains (part : Str) : Str → Bool
  | [] => part.isEmpty
  | c :: s => part.isPrefixOf (c :: s) || contains part s

/-- `separator.join(parts)` -/
def join (separator : String) (parts : List Str) : Str :=
  (Str.ofString separator).intercalate parts

/-- What a pattern reads at the places of a text, each place after the end of the reading before it: `read` is
given the character before the place, and answers with the groups and the number of characters. -/
def findIter {α : Type} (read : Option CodePoint → Str → Option (α × ℕ)) :
    ℕ → Option CodePoint → Str → List α
  | _, _, [] => []
  | skip + 1, _, c :: s => findIter read skip (some c) s
  | 0, last, c :: s =>
    match read last (c :: s) with
    | some (a, n + 1) => a :: findIter read n (some c) s
    | _ => findIter read 0 (some c) s

def isAscii (p : Char → Bool) : CodePoint → Bool
  | .scalar c => decide (c.toNat < 128) && p c
  | .surrogate _ => false

variable {py : Interpreter} {snapshot : RepositorySnapshot}

lemma encode_isOk {s : Str} : (∃ bytes, encode s = .ok bytes) ↔ ∀ c ∈ s, c.isScalar = true := by
  rw [encode, Str.encode?]
  by_cases hs : s.all CodePoint.isScalar = true
  · rw [if_pos hs]
    exact ⟨fun _ => List.all_eq_true.mp hs, fun _ => ⟨_, rfl⟩⟩
  · rw [if_neg hs]
    refine ⟨nofun, fun h => absurd (List.all_eq_true.mpr h) hs⟩

lemma ofString_isScalar (s : String) : ∀ c ∈ Str.ofString s, c.isScalar = true := by
  intro c hc
  obtain ⟨d, -, rfl⟩ := List.mem_map.mp hc
  rfl

/-- A file has an evidence id exactly where neither its path nor the snapshot's id has a lone surrogate. -/
lemma evidenceId_isOk {path : Str} {kind : String} :
    (∃ id, evidenceId py snapshot path kind = .ok id) ↔
      ∀ c ∈ snapshot.snapshotId ++ path, c.isScalar = true := by
  have hkind := ofString_isScalar kind
  have hparts : (∀ c ∈ snapshot.snapshotId ++ CodePoint.nul :: (path ++ CodePoint.nul :: Str.ofString kind),
      c.isScalar = true) ↔ ∀ c ∈ snapshot.snapshotId ++ path, c.isScalar = true := by
    simp only [List.forall_mem_append, List.forall_mem_cons]
    constructor
    · exact fun h => ⟨h.1, h.2.2.1⟩
    · exact fun h => ⟨h.1, rfl, h.2, rfl, hkind⟩
  rw [← hparts, ← encode_isOk, evidenceId]
  constructor
  · rintro ⟨id, h⟩
    obtain ⟨bytes, hbytes, -⟩ := bind_eq_ok.mp h
    exact ⟨bytes, hbytes⟩
  · rintro ⟨bytes, hbytes⟩
    exact ⟨_, bind_eq_ok.mpr ⟨bytes, hbytes, rfl⟩⟩

end SecScanMonitor.Application
