import SecScanMonitor.Domain.Authority
import SecScanMonitor.Domain.Errors
import SecScanMonitor.Foundations.Table
import Mathlib.Data.List.Lex
import Mathlib.Data.List.Sort

/-! Capability manifests and their registry (`domain/capability.py`, `capabilities/__init__.py`). Of a
manifest, the fields that authorization reads are kept. -/

namespace SecScanMonitor.Domain

open Foundations

inductive RiskClass where
  | info
  | low
  | medium
  | high
  | critical
  deriving Repr, DecidableEq

def RiskClass.value : RiskClass → String
  | .info => "info"
  | .low => "low"
  | .medium => "medium"
  | .high => "high"
  | .critical => "critical"

structure CapabilityManifest where
  capabilityId : String
  version : String
  riskClass : RiskClass
  requiredAuthority : String
  requiresApproval : Bool := false
  deriving Repr, DecidableEq

def CapabilityManifest.key (m : CapabilityManifest) : String × String := (m.capabilityId, m.version)

def foundationCapabilities : List CapabilityManifest :=
  [⟨"CAP-REPO-INVENTORY", "1.0.0", .info, Action.inspect.value, false⟩,
    ⟨"CAP-REPO-READONLY-INSPECTION", "1.0.0", .low, Action.inspect.value, false⟩,
    ⟨"CAP-FIRM-REPORT-RENDER", "1.0.0", .info, Action.inspect.value, false⟩,
    ⟨"CAP-EVIDENCE-NORMALIZE", "1.0.0", .info, Action.collect.value, false⟩]

def responseControlCapabilities : List CapabilityManifest :=
  [⟨"CAP-V03-RESPONSE-PROPOSAL", "1.0.0", .high, Action.remediate.value, true⟩]

def f200ScannerCapabilities : List CapabilityManifest :=
  [⟨"CAP-SAST-SEMGREP", "1.0.0", .medium, Action.inspect.value, false⟩,
    ⟨"CAP-SCA-OSV", "1.0.0", .medium, Action.inspect.value, false⟩,
    ⟨"CAP-SECRETS-GITLEAKS", "1.0.0", .medium, Action.inspect.value, false⟩,
    ⟨"CAP-REPO-TRIVY", "1.0.0", .medium, Action.inspect.value, false⟩]

/-- Manifests by (id, version), the latest registration first. -/
abbrev CapabilityRegistry := Table CapabilityManifest.key

namespace CapabilityRegistry

def register (r : CapabilityRegistry) (manifest : CapabilityManifest) :
    Except Raised CapabilityRegistry :=
  match r.insert? (fun _ => false) manifest with
  | some r' => .ok r'
  | none => raise .valueError
      ("capability " ++ manifest.capabilityId ++ "@" ++ manifest.version ++ " already registered")

def ofManifests (manifests : List CapabilityManifest) : Except Raised CapabilityRegistry :=
  manifests.foldlM register Table.empty

def canonical : CapabilityRegistry where
  rows := (foundationCapabilities ++ responseControlCapabilities ++ f200ScannerCapabilities).reverse
  nodup := by decide

example : ofManifests
    (foundationCapabilities ++ responseControlCapabilities ++ f200ScannerCapabilities) =
      .ok canonical := rfl

def isDigits (part : List Char) : Bool := !part.isEmpty && part.all Char.isDigit

/-- `_version_key`, for versions written in ASCII. -/
def versionKey (version : String) : List ℕ :=
  ((version.toList.splitOn '.').filter isDigits).map fun part =>
    part.foldl (fun n c => 10 * n + (c.toNat - '0'.toNat)) 0

def versions (r : CapabilityRegistry) (capabilityId : String) : List CapabilityManifest :=
  r.rows.reverse.filter fun m => decide (m.capabilityId = capabilityId)

def get (r : CapabilityRegistry) (capabilityId : String) (version : Option String := none) :
    Except Raised CapabilityManifest :=
  match version with
  | some v =>
    match r.get? (capabilityId, v) with
    | some m => .ok m
    | none => raise .unknownCapabilityError
        ("capability " ++ capabilityId ++ "@" ++ v ++ " is not registered")
  | none =>
    let byVersion := (r.versions capabilityId).insertionSort
      (fun m n => versionKey m.version ≤ versionKey n.version)
    match byVersion.getLast? with
    | some m => .ok m
    | none => raise .unknownCapabilityError
        ("capability " ++ capabilityId ++ " is not registered")

lemma mem_of_get {r : CapabilityRegistry} {capabilityId : String} {m : CapabilityManifest}
    (h : r.get capabilityId = .ok m) : m ∈ r ∧ m.capabilityId = capabilityId := by
  simp only [get] at h
  split at h
  · rename_i n hlast
    obtain rfl : n = m := Except.ok.inj h
    have hm := (List.mem_insertionSort _).mp (List.mem_of_getLast? hlast)
    simp only [versions, List.mem_filter, List.mem_reverse, decide_eq_true_eq] at hm
    exact hm
  · cases h

end CapabilityRegistry

end SecScanMonitor.Domain
