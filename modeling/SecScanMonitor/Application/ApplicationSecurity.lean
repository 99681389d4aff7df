import SecScanMonitor.Application.AttackSurface
import SecScanMonitor.Foundations.Cuts

/-! Findings in the lines of a snapshot's files (`ApplicationSecurityService` of
`application/security_services.py`). -/

namespace SecScanMonitor.Application.ApplicationSecurityService

open Foundations Domain Firm

def serviceId : Str := "APPSEC"

section Lines

/-- The names of `(api[_-]?key|password|secret|private[_-]?key)` -/
def secretValueNames : List String :=
  ["api_key", "api-key", "apikey", "password", "secret", "private_key", "private-key", "privatekey"]

/-- What follows a word at the start of a text, where case is ignored. -/
def afterWord (word : String) (s : Str) : Option Str :=
  if (s.take word.length).map foldPoint = Str.ofString word then some (s.drop word.length) else none

/-- What follows `\s*[:=]\s*`. -/
def afterSign (signs : String) (s : Str) : Option Str :=
  match s.dropWhile isBlankPoint with
  | c :: rest => if c ∈ Str.ofString signs then some (rest.dropWhile isBlankPoint) else none
  | [] => none

/-- `['\"]\S+`, at the start of a text -/
def startsQuoted : Str → Bool
  | quote :: c :: _ => decide (quote ∈ Str.ofString "'\"") && !isBlankPoint c
  | _ => false

/-- `(api[_-]?key|password|secret|private[_-]?key)\s*[:=]\s*['\"]\S+` -/
def isSecretAssignment (line : Str) : Bool :=
  line.tails.any fun s => secretValueNames.any fun name =>
    ((afterWord name s).bind (afterSign ":=")).any startsQuoted

variable (tooling : TextTooling)

def isTrustSignal (line : Str) : Bool :=
  mentionsAny ["verify=false", "skip_auth", "trust_client", "x-user-id"] (tooling.lower line)

/-- `DEBUG\s*=\s*True\b`, at the start of a text -/
def startsDebug (s : Str) : Bool :=
  (((afterWord "debug" s).bind (afterSign "=")).bind (afterWord "true")).any fun rest =>
    isWordEdge tooling (some (.scalar 'e')) rest.head?

/-- `\bDEBUG\s*=\s*True\b`, after a character -/
def enablesDebugFrom : Option CodePoint → Str → Bool
  | _, [] => false
  | last, c :: s =>
    (isWordEdge tooling last (some c) && startsDebug tooling (c :: s)) || enablesDebugFrom (some c) s

def enablesDebug (line : Str) : Bool := enablesDebugFrom tooling none line

end Lines

section Reports

/-- `f"{path}:{line_number}"` -/
def placeOf (path : Str) (line : ℕ) : Str := path ++ Str.ofString (":" ++ toString line)

variable (path : Str) (line : ℕ) (evidence : Str)

def secretObservation : ServiceObservation where
  serviceId := serviceId
  code := "SECRET_VALUE_IN_SOURCE"
  statement := "secret-like assignment observed at " ++ placeOf path line ++ "; value withheld"
  evidenceRefs := [evidence]
  confidence := .high
  suggestedSeverity := some .high
  standardReferences := ["ASVS v5.0.0-1.2.5"]

def secretCandidate : ClaimCandidate where
  serviceId := serviceId
  dedupeKey := "secret-source:" ++ placeOf path line
  statement := "A secret-like value is present in source at " ++ placeOf path line ++
    "; the value was not retained."
  evidenceRefs := [evidence]
  severity := .high
  confidence := .high
  affectedComponent := path
  impact := "A repository reader may obtain credential material from source history or artifacts."
  remediation := "Remove the value, rotate it outside the repository, and add a secret-prevention check."
  verification := "Re-scan the final snapshot and repository history with a redacting detector."
  standardReferences := ["ASVS v5.0.0-1.2.5"]

def trustObservation : ServiceObservation where
  serviceId := serviceId
  code := "TRUST_BOUNDARY_SIGNAL"
  statement := "security-sensitive trust signal observed at " ++ placeOf path line ++
    "; runtime exploitability not established"
  evidenceRefs := [evidence]
  confidence := .medium
  suggestedSeverity := some .medium
  standardReferences := ["ASVS 5.0.0", "NIST SSDF 1.1"]

def trustCandidate : ClaimCandidate where
  serviceId := serviceId
  dedupeKey := "trust-signal:" ++ placeOf path line
  statement := "The implementation contains a security-sensitive trust-boundary signal at " ++ placeOf path line ++
    "; runtime enforcement is not established."
  evidenceRefs := [evidence]
  severity := .medium
  confidence := .medium
  affectedComponent := path
  preconditions := ["the signal is reachable in the deployed path"]
  impact := "An attacker may bypass an intended trust boundary if the signal is active in deployment."
  remediation := "Replace implicit trust with explicit authenticated and authorized request context."
  verification := "Exercise the relevant boundary under an authorized test plan and inspect deployed configuration."
  standardReferences := ["ASVS 5.0.0"]

def debugCandidate : ClaimCandidate where
  serviceId := serviceId
  dedupeKey := "debug-enabled:" ++ placeOf path line
  statement := "Debug mode is configured true at " ++ placeOf path line ++ "; deployment state is not established."
  evidenceRefs := [evidence]
  severity := .medium
  confidence := .high
  affectedComponent := path
  impact := "Verbose errors or debug behavior may disclose implementation details if enabled in deployment."
  remediation := "Disable debug mode in release configuration and add a deployment assertion."
  verification := "Inspect release configuration and verify the running service reports debug disabled."
  standardReferences := ["ASVS 5.0.0"]

end Reports

section Assess

variable (tooling : TextTooling) (snapshot : RepositorySnapshot)

/-- What is reported of one line; every line asks for the evidence id of its file. -/
def lineReport (path : Str) (line : Str × ℕ) : Except Raised (List ServiceObservation × List ClaimCandidate) := do
  let evidence ← evidenceId tooling.toInterpreter snapshot path "appsec"
  let secret := isSecretAssignment line.1
  let trust := isTrustSignal tooling line.1
  let debug ← SupplyChainSecurityService.reportedWhen tooling.toInterpreter snapshot (enablesDebug tooling line.1) path
    "debug" (debugCandidate path line.2)
  return ((if secret then [secretObservation path line.2 evidence] else []) ++
      (if trust then [trustObservation path line.2 evidence] else []),
    (if secret then [secretCandidate path line.2 evidence] else []) ++
      (if trust then [trustCandidate path line.2 evidence] else []) ++ debug)

/-- The lines of all files, with their paths. -/
def linesOf : List (Str × (Str × ℕ)) :=
  snapshot.files.sortedItems.flatMap fun file => (numberedLines file.2).map fun line => (file.1, line)

def limitations : List Str := ["external scanner adapters are not qualified in this deterministic slice"]

def outputs : List (String × Value) :=
  [("scanner_states", .obj (["Semgrep", "Gitleaks", "OSV-Scanner", "Trivy"].map fun name =>
      (name, .str "NOT_QUALIFIED"))),
    ("control_status", .str "NOT_ASSESSED where evidence is absent")]

def assess : Except Raised (ServiceResult (List (String × Value))) := do
  let reports ← (linesOf snapshot).mapM fun p => lineReport tooling snapshot p.1 p.2
  return {
    serviceId := serviceId
    status := resultStatus limitations
    observations := reports.flatMap Prod.fst
    claimCandidates := reports.flatMap Prod.snd
    limitations
    outputs }

end Assess

section Keys

variable {tooling : TextTooling} {snapshot : RepositorySnapshot}

/-- A place is that of one line of one file. -/
lemma placeOf_inj {path path' : Str} {line line' : ℕ} (h : placeOf path line = placeOf path' line') :
    path = path' ∧ line = line' := by
  have hplace : ∀ (p : Str) (n : ℕ), placeOf p n = p ++ .scalar ':' :: (Nat.toDigits 10 n).map .scalar := by
    intro p n
    have hlist : (":" ++ toString n).toList = ':' :: Nat.toDigits 10 n := by
      rw [String.toList_append, Nat.toString_eq_ofList_toDigits, String.toList_ofList, String.toList_ofList]
      rfl
    rw [placeOf, Str.ofString, hlist]
    rfl
  have hdigits : ∀ n : ℕ, CodePoint.scalar ':' ∉ (Nat.toDigits 10 n).map .scalar := by
    intro n hmem
    obtain ⟨c, hc, heq⟩ := List.mem_map.mp hmem
    obtain rfl := CodePoint.scalar.inj heq
    exact absurd (Nat.isDigit_of_mem_toDigits (by decide) (by decide) hc) (by decide)
  rw [hplace, hplace] at h
  rcases cut_cases h with ⟨hpath, hline⟩ | ⟨z, -, hline⟩ | ⟨z, -, hline⟩
  · refine ⟨hpath, ?_⟩
    have hlist := List.map_injective_iff.mpr (fun _ _ => CodePoint.scalar.inj) hline
    rw [← @Nat.ofDigitChars_ten_toDigits line, hlist, Nat.ofDigitChars_ten_toDigits]
  · exact absurd (hline ▸ List.mem_append_right z List.mem_cons_self) (hdigits line)
  · exact absurd (hline ▸ List.mem_append_right z List.mem_cons_self) (hdigits line')

def kinds : List String := ["secret-source:", "trust-signal:", "debug-enabled:"]

variable (tooling) in
/-- What is found in a line. -/
def foundKinds (line : Str) : List String :=
  (if isSecretAssignment line then ["secret-source:"] else []) ++
    (if isTrustSignal tooling line then ["trust-signal:"] else []) ++
    if enablesDebug tooling line then ["debug-enabled:"] else []

variable (tooling) in
/-- The keys of what is found in a line. -/
def lineKeys (path : Str) (line : Str × ℕ) : List Str :=
  (foundKinds tooling line.1).map fun kind => Str.ofString kind ++ placeOf path line.2

lemma reportedWhen_map {α β : Type} {condition : Bool} {path : Str} {kind : String} {report : Str → α} {r : List α}
    (f : α → β) {b : β} (hf : ∀ evidence, f (report evidence) = b)
    (h : SupplyChainSecurityService.reportedWhen tooling.toInterpreter snapshot condition path kind report = .ok r) :
    r.map f = if condition then [b] else [] := by
  unfold SupplyChainSecurityService.reportedWhen at h
  cases condition with
  | true =>
    obtain ⟨evidence, -, hok⟩ := bind_eq_ok.mp h
    obtain rfl := Except.ok.inj hok
    exact congrArg (fun b => [b]) (hf evidence)
  | false =>
    obtain rfl := Except.ok.inj h
    rfl

lemma lineReport_keys {path : Str} {line : Str × ℕ} {r : List ServiceObservation × List ClaimCandidate}
    (h : lineReport tooling snapshot path line = .ok r) :
    r.2.map ClaimCandidate.dedupeKey = lineKeys tooling path line := by
  obtain ⟨evidence, -, h⟩ := bind_eq_ok.mp h
  obtain ⟨debug, hdebug, h⟩ := bind_eq_ok.mp h
  obtain rfl := Except.ok.inj h
  have hkeys : debug.map ClaimCandidate.dedupeKey =
      if enablesDebug tooling line.1 then [Str.ofString "debug-enabled:" ++ placeOf path line.2] else [] :=
    reportedWhen_map ClaimCandidate.dedupeKey (fun _ => rfl) hdebug
  rw [List.map_append, List.map_append, hkeys, lineKeys, foundKinds]
  cases isSecretAssignment line.1 <;> cases isTrustSignal tooling line.1 <;> cases enablesDebug tooling line.1 <;> rfl

/-- The first characters tell the kinds apart. -/
lemma kind_inj {kind kind' : String} (hkind : kind ∈ kinds) (hkind' : kind' ∈ kinds) {s t : Str}
    (h : Str.ofString kind ++ s = Str.ofString kind' ++ t) : kind = kind' := by
  have hheads : ∀ k ∈ kinds, ∀ k' ∈ kinds, (Str.ofString k).head? = (Str.ofString k').head? → k = k' := by decide
  have hne : ∀ k ∈ kinds, Str.ofString k ≠ [] := by decide
  refine hheads kind hkind kind' hkind' ?_
  have hhead := congrArg List.head? h
  rwa [List.head?_append_of_ne_nil _ (hne kind hkind), List.head?_append_of_ne_nil _ (hne kind' hkind')] at hhead

lemma foundKinds_sublist (line : Str) : (foundKinds tooling line).Sublist kinds := by
  unfold foundKinds
  cases isSecretAssignment line <;> cases isTrustSignal tooling line <;> cases enablesDebug tooling line <;> decide

lemma lineKeys_nodup {path : Str} {line : Str × ℕ} : (lineKeys tooling path line).Nodup := by
  have hkinds : (foundKinds tooling line.1).Nodup := (by decide : kinds.Nodup).sublist (foundKinds_sublist line.1)
  refine List.Nodup.map_on (fun kind hkind kind' hkind' h => ?_) hkinds
  have hsub := (@foundKinds_sublist tooling line.1).subset
  exact kind_inj (hsub hkind) (hsub hkind') h

/-- The keys of different lines are different. -/
lemma lineKeys_disjoint {path path' : Str} {line line' : Str × ℕ} (h : ¬ (path = path' ∧ line.2 = line'.2)) :
    List.Disjoint (lineKeys tooling path line) (lineKeys tooling path' line') := by
  intro key hkey hkey'
  obtain ⟨kind, hkind, rfl⟩ := List.mem_map.mp hkey
  obtain ⟨kind', hkind', heq⟩ := List.mem_map.mp hkey'
  have hsame := kind_inj ((foundKinds_sublist _).subset hkind') ((foundKinds_sublist _).subset hkind) heq
  rw [hsame] at heq
  obtain ⟨hpath, hline⟩ := placeOf_inj (List.append_cancel_left heq)
  exact h ⟨hpath.symm, hline.symm⟩

/-- No two lines have the same place. -/
lemma linesOf_pairwise : (linesOf snapshot).Pairwise fun p q => ¬ (p.1 = q.1 ∧ p.2.2 = q.2.2) := by
  rw [linesOf, List.pairwise_flatMap]
  constructor
  · intro file hfile
    rw [List.pairwise_map]
    have hnumbers : (numberedLines file.2).Pairwise fun l m => l.2 ≠ m.2 := by
      refine List.pairwise_map.mp ?_
      rw [numberedLines, List.zipIdx_map_snd]
      exact List.nodup_range'
    exact hnumbers.imp fun hne h => hne h.2
  · refine snapshot.files.sortedItems_strict.imp fun hlt p hp q hq h => ?_
    obtain ⟨l, -, rfl⟩ := List.mem_map.mp hp
    obtain ⟨m, -, rfl⟩ := List.mem_map.mp hq
    exact absurd h.1 (ne_of_lt hlt)

/-- What is found is reported once: the candidates' keys are those of the lines, in their order, and no two are
equal. -/
theorem assess_keys {r : ServiceResult (List (String × Value))} (h : assess tooling snapshot = .ok r) :
    r.claimCandidates.map ClaimCandidate.dedupeKey =
        (linesOf snapshot).flatMap (fun p => lineKeys tooling p.1 p.2) ∧
      (r.claimCandidates.map ClaimCandidate.dedupeKey).Nodup := by
  obtain ⟨reports, hreports, h⟩ := bind_eq_ok.mp h
  obtain rfl := Except.ok.inj h
  have hkeys : reports.map (fun r => r.2.map ClaimCandidate.dedupeKey) =
      (linesOf snapshot).map fun p => lineKeys tooling p.1 p.2 :=
    mapM_map_eq hreports fun p r hr => lineReport_keys hr
  have hall : (reports.flatMap Prod.snd).map ClaimCandidate.dedupeKey =
      (linesOf snapshot).flatMap fun p => lineKeys tooling p.1 p.2 := by
    rw [List.map_flatMap, List.flatMap_def, hkeys, ← List.flatMap_def]
  refine ⟨hall, ?_⟩
  rw [hall, List.nodup_flatMap]
  refine ⟨fun p _ => lineKeys_nodup, linesOf_pairwise.imp fun hne => ?_⟩
  exact lineKeys_disjoint hne

/-- An assessment returns where the paths have no lone surrogates. -/
lemma assess_isOk (h : ∀ p ∈ linesOf snapshot, ∀ c ∈ snapshot.snapshotId ++ p.1, c.isScalar = true) :
    ∃ r, assess tooling snapshot = .ok r := by
  have hlines : ∀ p ∈ linesOf snapshot, ∃ r, lineReport tooling snapshot p.1 p.2 = .ok r := by
    intro p hp
    obtain ⟨evidence, hevidence⟩ := (@evidenceId_isOk tooling.toInterpreter snapshot p.1 "appsec").mpr (h p hp)
    obtain ⟨debug, hdebug⟩ := (@SupplyChainSecurityService.reportedWhen_isOk tooling.toInterpreter snapshot _
      (enablesDebug tooling p.2.1) p.1 "debug" (debugCandidate p.1 p.2.2)).mpr fun _ => h p hp
    exact ⟨_, bind_eq_ok.mpr ⟨evidence, hevidence, bind_eq_ok.mpr ⟨debug, hdebug, rfl⟩⟩⟩
  obtain ⟨reports, hreports⟩ := mapM_isOk.mpr hlines
  exact ⟨_, bind_eq_ok.mpr ⟨reports, hreports, rfl⟩⟩

def sourceSnapshot : RepositorySnapshot :=
  documentSnapshot "app.py" "password = 'hunter2'\nDEBUG = True\n"

def sourceTooling : TextTooling where
  toInterpreter := { documentInterpreter with
    sha256 := fun bytes =>
      if bytes = "SNAP-1\x00app.py\x00debug".toUTF8.toList then
        "3881ac69ae6f27b8323f99469d957b6109cb2a291570de616b8b62204c21f230"
      else "e6622d13b34c729ab79bb7f88c4efc8018ab9415baec89ee4e3ad7c991fb5f22" }
  unicode := ⟨fun _ => false, fun _ => false⟩

theorem source_keys : ∃ r, assess sourceTooling sourceSnapshot = .ok r ∧
    (r.claimCandidates.map ClaimCandidate.dedupeKey).Nodup := by
  have hplain : ∀ p ∈ linesOf sourceSnapshot, ∀ c ∈ sourceSnapshot.snapshotId ++ p.1, c.isScalar = true := by
    decide
  obtain ⟨r, hr⟩ := @assess_isOk sourceTooling sourceSnapshot hplain
  exact ⟨r, hr, (assess_keys hr).2⟩

example : (linesOf sourceSnapshot).flatMap (fun p => lineKeys sourceTooling p.1 p.2) =
    ["secret-source:app.py:1", "debug-enabled:app.py:2"] := by
  decide

end Keys

end SecScanMonitor.Application.ApplicationSecurityService
