import SecScanMonitor.Capabilities.ScannerRedaction

/-! The schema checks of the scanners' outputs and the count of their results (`capabilities/scanner_adapters.py`). -/

namespace SecScanMonitor.Capabilities

open Foundations Domain Sanitize

section Members

/-- `key in members` -/
def hasMember (members : Payload) (key : String) : Bool := (members.lookup (Str.ofString key)).isSome

/-- `members[key] = value` -/
def setMember (key : String) (value : Parsed) : Payload → Payload
  | [] => [(Str.ofString key, value)]
  | (k, v) :: members => if k = Str.ofString key then (k, value) :: members else (k, v) :: setMember key value members

end Members

section Normalization

def malformedResult {α : Type} (message : String) : Except Raised α := raise .valueError message

def normalizeGitleaks : Parsed → Except Raised Parsed
  | .list items => do
    raiseIf ((items.mapM Parsed.members?) = none) .valueError "Gitleaks output must be a list of objects"
    return .list items
  | _ => malformedResult "Gitleaks output must be a list of objects"

def trivyLists : List String := ["Vulnerabilities", "Misconfigurations", "Secrets", "Licenses"]

def trivyEnvelope : List String :=
  ["SchemaVersion", "Trivy", "ReportID", "CreatedAt", "ArtifactName", "ArtifactType"]

/-- The lists of a report of Trivy, where missing ones and nulls become empty. -/
def normalizeReport : List String → Payload → Except Raised Payload
  | [], report => .ok report
  | key :: keys, report =>
    match report.lookup (Str.ofString key) with
    | none | some .none => normalizeReport keys (setMember key (.list []) report)
    | some (.list _) => normalizeReport keys report
    | some _ => malformedResult ("Trivy " ++ key ++ " must be a list")

/-- A list that may be missing or null. -/
def listOrEmpty (message : String) : Option Parsed → Except Raised (List Parsed)
  | none | some .none => .ok []
  | some (.list items) => .ok items
  | some _ => malformedResult message

/-- The objects of a list under a key, each made canonical. -/
def normalizeObjects (key message : String) (f : Payload → Except Raised Payload) (members : Payload) :
    Except Raised Parsed := do
  let items ← listOrEmpty message (members.lookup (Str.ofString key))
  let objects ← orRaise (items.mapM Parsed.members?) .valueError message
  let normalized ← objects.mapM f
  return .dict (setMember key (.list (normalized.map .dict)) members)

def normalizeTrivy : Parsed → Except Raised Parsed
  | .dict members => do
    raiseIf (hasMember members "Results" = false ∧ (trivyEnvelope.any (hasMember members)) = false) .valueError
      "Trivy output lacks a recognized clean-result envelope"
    normalizeObjects "Results" "Trivy Results must be a list of objects" (normalizeReport trivyLists) members
  | _ => malformedResult "Trivy output must be an object"

def normalizePackage : Parsed → Except Raised Parsed
  | .dict package =>
    match package.lookup (Str.ofString "vulnerabilities") with
    | some .none => .ok (.dict (setMember "vulnerabilities" (.list []) package))
    | none | some (.list _) => .ok (.dict package)
    | some _ => malformedResult "OSV vulnerabilities must be a list"
  | _ => malformedResult "OSV packages must contain objects"

def normalizeGroup (group : Payload) : Except Raised Payload :=
  match group.lookup (Str.ofString "packages") with
  | none => .ok group
  | some .none => .ok (setMember "packages" (.list []) group)
  | some (.list packages) => do
    let normalized ← packages.mapM normalizePackage
    return setMember "packages" (.list normalized) group
  | some _ => malformedResult "OSV packages must be a list"

def normalizeOsv : Parsed → Except Raised Parsed
  | .dict members => do
    raiseIf (hasMember members "results" = false) .valueError "OSV output must contain results"
    normalizeObjects "results" "OSV results must be a list of objects" normalizeGroup members
  | _ => malformedResult "OSV output must contain results"

def normalizeSemgrep : Parsed → Except Raised Parsed
  | .dict members =>
    match members.lookup (Str.ofString "results") with
    | none => malformedResult "Semgrep output must contain results"
    | some .none => .ok (.dict (setMember "results" (.list []) members))
    | some (.list _) => .ok (.dict members)
    | some _ => malformedResult "Semgrep results must be a list"
  | _ => malformedResult "Semgrep output must contain results"

/-- `_normalize_scanner_result` -/
def normalizeScannerResult : String → Parsed → Except Raised Parsed
  | "CAP-SECRETS-GITLEAKS", result => normalizeGitleaks result
  | "CAP-REPO-TRIVY", result => normalizeTrivy result
  | "CAP-SCA-OSV", result => normalizeOsv result
  | "CAP-SAST-SEMGREP", result => normalizeSemgrep result
  | _, result => .ok result

def supportedScanners : List String :=
  ["CAP-SECRETS-GITLEAKS", "CAP-REPO-TRIVY", "CAP-SCA-OSV", "CAP-SAST-SEMGREP"]

end Normalization

section Count

/-- `len(v)` -/
def size : Parsed → Except Raised ℕ
  | .list items => .ok items.length
  | .dict members => .ok members.length
  | .str s => .ok s.length
  | v => raise .typeError s!"object of type '{v.typeName}' has no len()"

/-- `len(members.get(key) or [])` -/
def sizeAt (members : Payload) (key : String) : Except Raised ℕ :=
  let v := getMember members key .none
  if v.truthy then size v else .ok 0

/-- The sum of what a function gives for the items. -/
def sumOf {α : Type} (f : α → Except Raised ℕ) : List α → Except Raised ℕ
  | [] => .ok 0
  | a :: items => do
    let n ← f a
    let m ← sumOf f items
    return n + m

def packageCount : Parsed → Except Raised ℕ
  | .dict package => sizeAt package "vulnerabilities"
  | _ => .ok 0

def groupCount : Parsed → Except Raised ℕ
  | .dict group => do
    let packages := getMember group "packages" .none
    let items ← if packages.truthy then packages.iterate else .ok []
    sumOf packageCount items
  | _ => .ok 0

def reportCount : Parsed → Except Raised ℕ
  | .dict report => sumOf (sizeAt report) trivyLists
  | _ => .ok 0

/-- `isinstance(group, dict) and "packages" in group` -/
def isPackaged : Parsed → Bool
  | .dict group => hasMember group "packages"
  | _ => false

/-- `members[key]`, if it is a list -/
def listAt (members : Payload) (key : String) : Option (List Parsed) :=
  match members.lookup (Str.ofString key) with
  | some (.list items) => some items
  | _ => none

/-- `_result_count` -/
def resultCount : Parsed → Except Raised ℕ
  | .list items => .ok items.length
  | .dict members =>
    match listAt members "results" with
    | some results => if results.any isPackaged then sumOf groupCount results else .ok results.length
    | none =>
      match listAt members "findings" with
      | some findings => .ok findings.length
      | none =>
        match listAt members "Results" with
        | some results => sumOf reportCount results
        | none => .ok 0
  | _ => .ok 0

end Count

section Countable

/-- The length of what is missing or empty is zero, and texts, lists and objects have a length. -/
def measured (v : Parsed) : Bool :=
  !v.truthy || match v with
    | .str _ | .list _ | .dict _ => true
    | _ => false

def measuredAt (members : Payload) (key : String) : Bool := measured (getMember members key .none)

def packageMeasured : Parsed → Bool
  | .dict package => measuredAt package "vulnerabilities"
  | _ => true

def groupMeasured : Parsed → Bool
  | .dict group => measuredAt group "packages" &&
    match getMember group "packages" .none with
    | .list packages => packages.all packageMeasured
    | _ => true
  | _ => true

def reportMeasured : Parsed → Bool
  | .dict report => trivyLists.all (measuredAt report)
  | _ => true

/-- Whatever the count takes the length of has one. -/
def countable : Parsed → Bool
  | .dict members =>
    match listAt members "results" with
    | some results => !results.any isPackaged || results.all groupMeasured
    | none =>
      match listAt members "findings" with
      | some _ => true
      | none =>
        match listAt members "Results" with
        | some results => results.all reportMeasured
        | none => true
  | _ => true

lemma sumOf_isOk {α : Type} {f : α → Except Raised ℕ} {items : List α} :
    (∃ n, sumOf f items = .ok n) ↔ ∀ a ∈ items, ∃ n, f a = .ok n := by
  induction items with
  | nil => exact iff_of_true ⟨0, rfl⟩ nofun
  | cons a items ih =>
    rw [sumOf, bind_isOk, List.forall_mem_cons, ← ih]
    constructor
    · rintro ⟨n, hn, h⟩
      obtain ⟨m, hm, -⟩ := bind_isOk.mp h
      exact ⟨⟨n, hn⟩, m, hm⟩
    · rintro ⟨⟨n, hn⟩, m, hm⟩
      exact ⟨n, hn, bind_isOk.mpr ⟨m, hm, n + m, rfl⟩⟩

lemma sizeAt_isOk {members : Payload} {key : String} :
    (∃ n, sizeAt members key = .ok n) ↔ measuredAt members key = true := by
  unfold sizeAt measuredAt measured
  dsimp only
  by_cases htruthy : (getMember members key .none).truthy = true
  · rw [if_pos htruthy, htruthy, Bool.not_true, Bool.false_or]
    cases getMember members key .none with
    | str _ | list _ | dict _ => exact iff_of_true ⟨_, rfl⟩ rfl
    | none | bool _ | int _ | float _ | temporal _ _ => exact iff_of_false nofun nofun
  · rw [if_neg htruthy, Bool.eq_false_of_not_eq_true htruthy]
    exact iff_of_true ⟨0, rfl⟩ rfl

lemma packageCount_isOk {v : Parsed} : (∃ n, packageCount v = .ok n) ↔ packageMeasured v = true := by
  cases v with
  | dict package => exact sizeAt_isOk
  | _ => exact iff_of_true ⟨0, rfl⟩ rfl

lemma reportCount_isOk {v : Parsed} : (∃ n, reportCount v = .ok n) ↔ reportMeasured v = true := by
  cases v with
  | dict report =>
    rw [reportCount, sumOf_isOk, reportMeasured, List.all_eq_true]
    exact forall₂_congr fun key _ => sizeAt_isOk
  | _ => exact iff_of_true ⟨0, rfl⟩ rfl

/-- No key of an object and no character of a text is a package. -/
lemma sumOf_packageCount_strs {α : Type} (f : α → Str) (l : List α) :
    ∃ n, sumOf packageCount (l.map fun a => .str (f a)) = .ok n := by
  refine sumOf_isOk.mpr ?_
  intro v hv
  obtain ⟨a, -, rfl⟩ := List.mem_map.mp hv
  exact ⟨0, rfl⟩

lemma groupCount_isOk {v : Parsed} : (∃ n, groupCount v = .ok n) ↔ groupMeasured v = true := by
  cases v with
  | dict group =>
    unfold groupCount groupMeasured measuredAt measured
    dsimp only
    by_cases htruthy : (getMember group "packages" .none).truthy = true
    · rw [if_pos htruthy, htruthy, Bool.not_true, Bool.false_or]
      cases getMember group "packages" .none with
      | list packages =>
        rw [Parsed.iterate, ok_bind, sumOf_isOk, Bool.true_and, List.all_eq_true]
        exact forall₂_congr fun package _ => packageCount_isOk
      | str s => exact iff_of_true (sumOf_packageCount_strs (fun c => [c]) s) rfl
      | dict members => exact iff_of_true (sumOf_packageCount_strs Prod.fst members) rfl
      | none | bool _ | int _ | float _ | temporal _ _ => exact iff_of_false nofun nofun
    · rw [if_neg htruthy, Bool.eq_false_of_not_eq_true htruthy]
      refine iff_of_true ⟨0, rfl⟩ ?_
      cases hpackages : getMember group "packages" .none with
      | list packages =>
        cases packages with
        | nil => rfl
        | cons _ _ => exact absurd (hpackages ▸ rfl) htruthy
      | _ => rfl
  | _ => exact iff_of_true ⟨0, rfl⟩ rfl

/-- The count is a number exactly if the result is countable, and raises a TypeError otherwise. -/
theorem resultCount_isOk {v : Parsed} : (∃ n, resultCount v = .ok n) ↔ countable v = true := by
  cases v with
  | dict members =>
    rw [resultCount, countable]
    split
    · rename_i results _
      by_cases hpackaged : results.any isPackaged = true
      · rw [if_pos hpackaged, hpackaged, sumOf_isOk, Bool.not_true, Bool.false_or, List.all_eq_true]
        exact forall₂_congr fun group _ => groupCount_isOk
      · rw [if_neg hpackaged, Bool.eq_false_of_not_eq_true hpackaged]
        exact iff_of_true ⟨_, rfl⟩ rfl
    · split
      · exact iff_of_true ⟨_, rfl⟩ rfl
      · split
        · rw [sumOf_isOk, List.all_eq_true]
          exact forall₂_congr fun report _ => reportCount_isOk
        · exact iff_of_true ⟨0, rfl⟩ rfl
  | _ => exact iff_of_true ⟨_, rfl⟩ rfl

lemma lookup_setMember (key : String) (v : Parsed) (members : Payload) :
    (setMember key v members).lookup (Str.ofString key) = some v := by
  induction members with
  | nil => rw [setMember, List.lookup_cons, beq_self_eq_true]
  | cons m members ih =>
    obtain ⟨k, w⟩ := m
    rw [setMember]
    by_cases hkey : k = Str.ofString key
    · rw [if_pos hkey, List.lookup_cons, hkey, beq_self_eq_true]
    · rw [if_neg hkey, List.lookup_cons, beq_false_of_ne (Ne.symm hkey)]
      exact ih

lemma normalizePackage_measured {v w : Parsed} (h : normalizePackage v = .ok w) : packageMeasured w = true := by
  cases v with
  | dict package =>
    rw [normalizePackage] at h
    split at h
    · obtain rfl := Except.ok.inj h
      rw [packageMeasured, measuredAt, getMember, lookup_setMember]
      rfl
    · rename_i hmissing
      obtain rfl := Except.ok.inj h
      rw [packageMeasured, measuredAt, getMember, hmissing]
      rfl
    · rename_i items hlist
      obtain rfl := Except.ok.inj h
      rw [packageMeasured, measuredAt, getMember, hlist]
      exact Bool.or_true _
    · cases h
  | _ => cases h

lemma normalizeGroup_measured {group group' : Payload} (h : normalizeGroup group = .ok group') :
    groupMeasured (.dict group') = true := by
  rw [normalizeGroup] at h
  split at h
  · rename_i hmissing
    obtain rfl := Except.ok.inj h
    rw [groupMeasured, measuredAt, getMember, hmissing]
    rfl
  · obtain rfl := Except.ok.inj h
    rw [groupMeasured, measuredAt, getMember, lookup_setMember]
    rfl
  · rename_i packages hlist
    obtain ⟨normalized, hnormalized, h⟩ := bind_eq_ok.mp h
    obtain rfl := Except.ok.inj h
    rw [groupMeasured, measuredAt, getMember, lookup_setMember, Option.getD_some, measured, Bool.or_true, Bool.true_and]
    refine List.all_eq_true.mpr ?_
    intro w hw
    obtain ⟨v, -, hv⟩ := (mapM_eq_ok hnormalized).2 w hw
    exact normalizePackage_measured hv
  · cases h

/-- Every result that satisfies the schema of OSV is countable. -/
theorem normalizeOsv_countable {v w : Parsed} (h : normalizeOsv v = .ok w) : countable w = true := by
  cases v with
  | dict members =>
    obtain ⟨-, -, h⟩ := bind_eq_ok.mp h
    obtain ⟨items, -, h⟩ := bind_eq_ok.mp h
    obtain ⟨objects, -, h⟩ := bind_eq_ok.mp h
    obtain ⟨normalized, hnormalized, h⟩ := bind_eq_ok.mp h
    obtain rfl := Except.ok.inj h
    have hmeasured : (normalized.map Parsed.dict).all groupMeasured = true := by
      rw [List.all_map]
      refine List.all_eq_true.mpr ?_
      intro group hgroup
      obtain ⟨object, -, hobject⟩ := (mapM_eq_ok hnormalized).2 group hgroup
      exact normalizeGroup_measured hobject
    rw [countable, listAt, lookup_setMember]
    dsimp only
    rw [hmeasured, Bool.or_true]
  | _ => cases h

/-- Every list is countable, and so is every result that satisfies the schema of Gitleaks. -/
theorem normalizeGitleaks_countable {v w : Parsed} (h : normalizeGitleaks v = .ok w) : countable w = true := by
  cases v with
  | list items =>
    obtain ⟨-, -, h⟩ := bind_eq_ok.mp h
    obtain rfl := Except.ok.inj h
    rfl
  | _ => cases h

end Countable

section Exceptions

/-- What the schema checks raise. -/
def OfValue (e : Raised) : Prop := e.kind = .valueError

/-- What the count raises. -/
def OfType (e : Raised) : Prop := e.kind = .typeError

lemma malformedResult_raises {α : Type} (message : String) : Raises OfValue (malformedResult message : Except Raised α) :=
  Raises.raise rfl

lemma normalizeReport_raises (keys : List String) (report : Payload) : Raises OfValue (normalizeReport keys report) := by
  induction keys generalizing report with
  | nil => exact Raises.ok report
  | cons key keys ih =>
    rw [normalizeReport]
    split
    · exact ih _
    · exact ih _
    · exact ih _
    · exact malformedResult_raises _

lemma normalizePackage_raises (v : Parsed) : Raises OfValue (normalizePackage v) := by
  cases v with
  | dict package =>
    rw [normalizePackage]
    split
    · exact Raises.ok _
    · exact Raises.ok _
    · exact Raises.ok _
    · exact malformedResult_raises _
  | _ => exact malformedResult_raises _

lemma normalizeGroup_raises (group : Payload) : Raises OfValue (normalizeGroup group) := by
  rw [normalizeGroup]
  split
  · exact Raises.ok _
  · exact Raises.ok _
  · exact Raises.bind (Raises.mapM fun x _ => normalizePackage_raises x) fun _ _ => Raises.ok _
  · exact malformedResult_raises _

lemma normalizeObjects_raises {f : Payload → Except Raised Payload} (hf : ∀ object, Raises OfValue (f object))
    (key message : String) (members : Payload) : Raises OfValue (normalizeObjects key message f members) := by
  apply Raises.bind
  · unfold listOrEmpty
    split
    · exact Raises.ok _
    · exact Raises.ok _
    · exact Raises.ok _
    · exact malformedResult_raises _
  · intro items _
    exact Raises.bind (Raises.orRaise rfl) fun objects _ => Raises.bind (Raises.mapM fun x _ => hf x) fun _ _ => Raises.ok _

/-- The schema checks raise nothing but ValueErrors. -/
theorem normalizeScannerResult_raises (capabilityId : String) (v : Parsed) :
    Raises OfValue (normalizeScannerResult capabilityId v) := by
  unfold normalizeScannerResult
  split
  · cases v with
    | list items => exact Raises.bind (Raises.raiseIf rfl) fun _ _ => Raises.ok _
    | _ => exact malformedResult_raises _
  · cases v with
    | dict members =>
      exact Raises.bind (Raises.raiseIf rfl) fun _ _ => normalizeObjects_raises (normalizeReport_raises trivyLists) _ _ _
    | _ => exact malformedResult_raises _
  · cases v with
    | dict members =>
      exact Raises.bind (Raises.raiseIf rfl) fun _ _ => normalizeObjects_raises normalizeGroup_raises _ _ _
    | _ => exact malformedResult_raises _
  · cases v with
    | dict members =>
      rw [normalizeSemgrep]
      split
      · exact malformedResult_raises _
      · exact Raises.ok _
      · exact Raises.ok _
      · exact malformedResult_raises _
    | _ => exact malformedResult_raises _
  · exact Raises.ok v

lemma sumOf_raises {α : Type} {f : α → Except Raised ℕ} (h : ∀ a, Raises OfType (f a)) (items : List α) :
    Raises OfType (sumOf f items) := by
  induction items with
  | nil => exact Raises.ok 0
  | cons a items ih => exact Raises.bind (h a) fun n _ => Raises.bind ih fun m _ => Raises.ok (n + m)

lemma sizeAt_raises (members : Payload) (key : String) : Raises OfType (sizeAt members key) := by
  rw [sizeAt]
  split
  · unfold size
    split
    · exact Raises.ok _
    · exact Raises.ok _
    · exact Raises.ok _
    · exact Raises.raise rfl
  · exact Raises.ok 0

lemma packageCount_raises (v : Parsed) : Raises OfType (packageCount v) := by
  cases v with
  | dict package => exact sizeAt_raises package _
  | _ => exact Raises.ok 0

lemma groupCount_raises (v : Parsed) : Raises OfType (groupCount v) := by
  cases v with
  | dict group =>
    unfold groupCount
    dsimp only
    split
    · refine Raises.bind ?_ fun items _ => sumOf_raises packageCount_raises items
      unfold Parsed.iterate
      split
      · exact Raises.ok _
      · exact Raises.ok _
      · exact Raises.ok _
      · exact Raises.raise rfl
    · exact sumOf_raises packageCount_raises []
  | _ => exact Raises.ok 0

lemma reportCount_raises (v : Parsed) : Raises OfType (reportCount v) := by
  cases v with
  | dict report => exact sumOf_raises (sizeAt_raises report) trivyLists
  | _ => exact Raises.ok 0

/-- The count raises nothing but TypeErrors. -/
theorem resultCount_raises (v : Parsed) : Raises OfType (resultCount v) := by
  cases v with
  | dict members =>
    rw [resultCount]
    split
    · split
      · exact sumOf_raises groupCount_raises _
      · exact Raises.ok _
    · split
      · exact Raises.ok _
      · split
        · exact sumOf_raises reportCount_raises _
        · exact Raises.ok 0
  | _ => exact Raises.ok _

end Exceptions

end SecScanMonitor.Capabilities
