import Mathlib.Data.List.Dedup
import SecScanMonitor.Capabilities.RedactedResults
import SecScanMonitor.Capabilities.ScannerExecution

/-! Which outputs of a scanner end in an execution or in the refusal of what is left of a secret. -/

namespace SecScanMonitor.Capabilities

open Foundations Domain Sanitize

section Members

variable {members : Payload} {key : String} {v : Parsed}

lemma lookup_setMember_ne {other : String} (h : other ≠ key) :
    (setMember key v members).lookup (Str.ofString other) = members.lookup (Str.ofString other) := by
  have hkeys : Str.ofString other ≠ Str.ofString key := fun heq => h (Str.ofString_injective heq)
  induction members with
  | nil => rw [setMember, List.lookup_cons, beq_false_of_ne hkeys]
  | cons m members ih =>
    obtain ⟨k, w⟩ := m
    rw [setMember]
    split
    · rename_i hk
      rw [List.lookup_cons, List.lookup_cons, hk, beq_false_of_ne hkeys]
    · rw [List.lookup_cons, List.lookup_cons, ih]

/-- A new member is encoded beside the others. -/
lemma encodable_setMember_new (h : members.lookup (Str.ofString key) = none) :
    encodableMembers (setMember key v members) = (encodableMembers members && encodable v) := by
  induction members with
  | nil =>
    simp only [setMember, encodableMembers, isEncodable_ofString, Bool.true_and, Bool.and_true]
  | cons m members ih =>
    obtain ⟨k, w⟩ := m
    rw [List.lookup_cons] at h
    have hk : k ≠ Str.ofString key := by
      rintro rfl
      rw [beq_self_eq_true] at h
      cases h
    rw [beq_false_of_ne hk.symm] at h
    rw [setMember, if_neg hk, encodableMembers, encodableMembers, ih h]
    simp only [Bool.and_assoc]

lemma lookup_update {fields : List (String × Parsed)} {other : String} (h : other ∉ fields.map Prod.fst) :
    (update fields members).lookup (Str.ofString other) = members.lookup (Str.ofString other) := by
  induction fields generalizing members with
  | nil => rfl
  | cons field fields ih =>
    rw [List.map_cons, List.mem_cons, not_or] at h
    exact (ih h.2).trans (lookup_setMember_ne h.1)

lemma encodable_update {fields : List (String × Parsed)} (hnodup : (fields.map Prod.fst).Nodup)
    (hnew : ∀ field ∈ fields, members.lookup (Str.ofString field.1) = none) :
    encodableMembers (update fields members) = (encodableMembers members && fields.all fun field => encodable field.2) := by
  induction fields generalizing members with
  | nil => exact (Bool.and_true _).symm
  | cons field fields ih =>
    rw [List.map_cons, List.nodup_cons] at hnodup
    have hrest : ∀ other ∈ fields, (setMember field.1 field.2 members).lookup (Str.ofString other.1) = none := by
      intro other hother
      have hne : other.1 ≠ field.1 := fun heq => hnodup.1 (heq ▸ List.mem_map_of_mem hother)
      exact (lookup_setMember_ne hne).trans (hnew other (List.mem_cons_of_mem field hother))
    refine (ih hnodup.2 hrest).trans ?_
    rw [encodable_setMember_new (hnew field List.mem_cons_self), List.all_cons, Bool.and_assoc]

end Members

section Settled

variable {tooling : ExecutionTooling} {capabilityId : String} {stdout stderr : Str} {exitCode : ℤ}
  {read : Option Parsed}

/-- The result as the schema check leaves it, and as it was read if the check fails. -/
def canonical (capabilityId : String) (v : Parsed) : Parsed :=
  match normalizeScannerResult capabilityId v with
  | .ok w => w
  | .error _ => v

/-- Does the schema check accept the value? -/
def accepted (capabilityId : String) (v : Parsed) : Bool := (normalizeScannerResult capabilityId v).toOption.isSome

def payloadKeys : List String := ["result", "stdout", "stderr", "exit_code", "sanitization_notes"]

lemma lookup_payloadOf {key : String} (h : key ∉ payloadKeys) :
    (payloadOf (keptOutput tooling.toScannerTooling stdout stderr read) exitCode).lookup (Str.ofString key) = none := by
  have hne : ∀ k ∈ payloadKeys, (Str.ofString key == Str.ofString k) = false := by
    intro k hk
    apply beq_false_of_ne
    exact fun heq => h (Str.ofString_injective heq ▸ hk)
  have hresult := hne "result" (by decide)
  have hstdout := hne "stdout" (by decide)
  have hstderr := hne "stderr" (by decide)
  have hexit := hne "exit_code" (by decide)
  have hnotes := hne "sanitization_notes" (by decide)
  cases read with
  | none =>
    simp only [keptOutput, payloadOf, List.cons_append, List.nil_append, List.lookup_cons, List.lookup_nil, hstdout,
      hstderr, hexit, hnotes]
  | some v =>
    simp only [keptOutput, payloadOf, List.cons_append, List.lookup_cons, hresult]
    split
    · simp only [List.nil_append, List.lookup_cons, List.lookup_nil, hexit, hnotes]
    · simp only [List.cons_append, List.nil_append, List.lookup_cons, List.lookup_nil, hstderr, hexit, hnotes]

lemma getMember_result :
    getMember (payloadOf (keptOutput tooling.toScannerTooling stdout stderr read) exitCode) "result" .none =
      redactJson tooling.unicode (read.getD .none) := by
  cases read with
  | none =>
    simp only [Option.getD_none, redactJson]
    rfl
  | some v => rfl

lemma getMember_notes (default : Parsed) :
    getMember (payloadOf (keptOutput tooling.toScannerTooling stdout stderr read) exitCode) "sanitization_notes"
      default = noteList (keptOutput tooling.toScannerTooling stdout stderr read).2 := by
  cases read with
  | none => rfl
  | some v =>
    rw [getMember, keptOutput, payloadOf]
    split <;> rfl

lemma encodable_noteList (notes : List String) : encodable (noteList notes) = true := by
  rw [noteList, encodable, encodableItems_eq, List.all_map]
  exact List.all_eq_true.mpr fun note _ => isEncodable_ofString note

lemma encodable_noteMismatch (notes : List String) : encodable (noteMismatch (noteList notes)) = true := by
  rw [noteList, noteMismatch, encodable, encodableItems_eq, List.all_map]
  refine List.all_eq_true.mpr ?_
  intro s hs
  rw [mem_sortBy, List.mem_dedup, List.mem_append, List.filterMap_map, List.mem_filterMap, List.mem_singleton] at hs
  change isEncodable s = true
  rcases hs with ⟨note, -, hnote⟩ | rfl
  · obtain rfl := Option.some.inj hnote
    exact isEncodable_ofString note
  · exact isEncodable_ofString _

lemma encodable_payloadOf (kept : Payload × List String) :
    encodableMembers (payloadOf kept exitCode) = encodableMembers kept.1 := by
  rw [payloadOf, encodableMembers_append, encodableMembers, encodableMembers, encodableMembers, encodable_noteList,
    isEncodable_ofString, isEncodable_ofString]
  simp only [encodable, Bool.and_true]

lemma canonical_redact (u : UnicodeTables) (capabilityId : String) (v : Parsed) :
    canonical capabilityId (redactJson u v) = redactJson u (canonical capabilityId v) := by
  rw [canonical, canonical, normalizeScannerResult_redact capabilityId v]
  cases normalizeScannerResult capabilityId v <;> rfl

lemma accepted_redact (u : UnicodeTables) (capabilityId : String) (v : Parsed) :
    accepted capabilityId (redactJson u v) = accepted capabilityId v := by
  rw [accepted, accepted, normalizeScannerResult_redact capabilityId v]
  cases normalizeScannerResult capabilityId v <;> rfl

/-- The settled payload has the canonical result, the texts it had before and no other members. -/
lemma settle_spec (capabilityId : String) (stdout stderr : Str) (exitCode : ℤ) (malformed : Bool) {w : Parsed}
    (hcopy : tooling.deepcopy (redactJson tooling.unicode (read.getD .none)) = .ok w) :
    ∃ settled, settle tooling capabilityId
        (safeOutput (keptOutput tooling.toScannerTooling stdout stderr read) exitCode malformed) = .ok settled ∧
      settled.2 = (malformed || !accepted capabilityId (read.getD .none)) ∧
      getMember settled.1 "result" .none = redactJson tooling.unicode (canonical capabilityId (read.getD .none)) ∧
      encodableMembers settled.1 = encodableMembers (keptOutput tooling.toScannerTooling stdout stderr read).1 ∧
      ∀ key ∉ payloadKeys, settled.1.lookup (Str.ofString key) = none := by
  obtain rfl := tooling.deepcopy_eq _ _ hcopy
  rw [← accepted_redact tooling.unicode, ← canonical_redact, settle, safeOutput]
  dsimp only
  rw [getMember_result, hcopy, ok_bind, accepted, canonical]
  cases hnormal : normalizeScannerResult capabilityId (redactJson tooling.unicode (read.getD .none)) with
  | ok result =>
    refine ⟨_, rfl, (Bool.or_false _).symm, ?_, ?_, ?_⟩
    · rw [getMember, lookup_setMember]
      rfl
    · refine (encodable_setMember ?_).trans (encodable_payloadOf _)
      rw [getMember_result]
      exact normalizeScannerResult_encodable capabilityId _ _ hnormal
    · intro key hkey
      have hne : key ≠ "result" := fun heq => hkey (heq ▸ by decide)
      exact (lookup_setMember_ne hne).trans (lookup_payloadOf hkey)
  | error e =>
    have hkind : e.kind = .typeError ∨ e.kind = .valueError :=
      Or.inr (normalizeScannerResult_raises capabilityId _ e hnormal)
    dsimp only
    rw [if_pos hkind, getMember_notes]
    refine ⟨_, rfl, (Bool.or_true _).symm, ?_, ?_, ?_⟩
    · rw [getMember, lookup_setMember_ne (by decide)]
      exact getMember_result
    · refine (encodable_setMember ?_).trans (encodable_payloadOf _)
      rw [encodable_noteMismatch, getMember_notes, encodable_noteList]
    · intro key hkey
      have hne : key ≠ "sanitization_notes" := fun heq => hkey (heq ▸ by decide)
      exact (lookup_setMember_ne hne).trans (lookup_payloadOf hkey)

end Settled

section Totality

variable (tooling : ExecutionTooling)

/-- The scanner's schema check accepts what is read of the output. -/
def SchemaSatisfied (capabilityId : String) (stdout : Str) : Prop :=
  ∃ v w, readJson tooling.toScannerTooling (boundedText stdout) = .ok (some v) ∧
    normalizeScannerResult capabilityId v = .ok w

/-- The status that the outputs, the exit code and the time call for. -/
structure Classified (capabilityId : String) (result : SandboxExecutionResult) (status : ScanStatus) : Prop where
  timedOut : result.timedOut = true → status = .timedOut
  malformed : result.timedOut = false → ¬ SchemaSatisfied tooling capabilityId result.stdout →
    status = .malformedOutput
  settled : result.timedOut = false → SchemaSatisfied tooling capabilityId result.stdout →
    status ∈ [ScanStatus.succeeded, .succeededWithFindings, .notQualified]

/-- Either an execution with the status it should have, or the refusal of what is left of a secret. -/
def Total (capabilityId : String) (result : SandboxExecutionResult) : Except Raised ScannerExecution → Prop
  | .ok execution => Classified tooling capabilityId result execution.status
  | .error e => e = refusal

/-- The payload has a count and bytes. -/
structure Recordable (adapter : ScannerAdapter) (stdout stderr : Str) (read : Option Parsed) : Prop where
  copied : ∃ w, tooling.deepcopy (redactJson tooling.unicode (read.getD .none)) = .ok w
  counted : countable (canonical adapter.manifest.capabilityId (read.getD .none)) = true
  output : encodableMembers (keptOutput tooling.toScannerTooling stdout stderr read).1 = true
  digest : ∀ digest ∈ adapter.cacheManifestDigest, isEncodable digest = true
  provenance : isEncodable adapter.cacheProvenance = true

/-- What is read of the output is refused, or its payload has a count and bytes. -/
def Handled (adapter : ScannerAdapter) (result : SandboxExecutionResult) : Prop :=
  ∃ read, readJson tooling.toScannerTooling (boundedText result.stdout) = .ok read ∧
    (leaks tooling.toScannerTooling (payloadOf (keptOutput tooling.toScannerTooling (boundedText result.stdout)
        (boundedText result.stderr) read) result.exitCode) = true ∨
      Recordable tooling adapter (boundedText result.stdout) (boundedText result.stderr) read)

variable {tooling} {host : ScannerHost} {adapter : ScannerAdapter} {serviceRunId : String} {inputDigest : Str}
  {result : SandboxExecutionResult} {capabilityId : String} {read : Option Parsed}

lemma executionFields_encodable {status : ScanStatus} {count : ℕ} :
    ((executionFields adapter result status count).all fun field => encodable field.2) = true ↔
      (∀ digest ∈ adapter.cacheManifestDigest, isEncodable digest = true) ∧
        isEncodable adapter.cacheProvenance = true := by
  simp only [executionFields, List.all_cons, List.all_nil, encodable, isEncodable_ofString, Bool.true_and, Bool.and_true,
    Bool.and_eq_true]
  refine and_congr_left' ?_
  cases adapter.cacheManifestDigest with
  | none => exact iff_of_true rfl nofun
  | some digest =>
    simp only [Option.map_some, Option.getD_some, encodable, Option.mem_some_iff, forall_eq']

lemma scopeFields_encodable : ((scopeFields adapter).all fun field => encodable field.2) = true := by
  unfold scopeFields
  split
  · simp only [List.all_cons, List.all_nil, encodable, encodableItems, isEncodable_ofString, Bool.and_true]
  · rfl

def evidenceKeys : List String :=
  ["capability_id", "capability_version", "tool_identity", "tool_version", "artifact_ref", "sandbox_id",
    "sandbox_profile", "status", "result_count", "cache_manifest_digest", "cache_provenance", "scope_limitations"]

lemma evidence_keys {status : ScanStatus} {count : ℕ} :
    ((executionFields adapter result status count ++ scopeFields adapter).map Prod.fst).Sublist evidenceKeys := by
  have hscope : ((scopeFields adapter).map Prod.fst).Sublist ["scope_limitations"] := by
    unfold scopeFields
    split
    · exact List.Sublist.refl _
    · exact List.nil_sublist _
  rw [List.map_append]
  exact (List.Sublist.refl _).append hscope

/-- What is added to the payload has bytes if the cache has a digest and a provenance that have. -/
lemma encodable_evidencePayload {status : ScanStatus} {count : ℕ} {payload : Payload}
    (hnew : ∀ key ∉ payloadKeys, payload.lookup (Str.ofString key) = none) :
    encodableMembers (evidencePayload adapter result status count payload) = true ↔
      encodableMembers payload = true ∧ (∀ digest ∈ adapter.cacheManifestDigest, isEncodable digest = true) ∧
        isEncodable adapter.cacheProvenance = true := by
  have hkeys : ∀ key ∈ evidenceKeys, key ∉ payloadKeys := by decide
  have hnodup : ((executionFields adapter result status count ++ scopeFields adapter).map Prod.fst).Nodup :=
    evidence_keys.nodup (by decide)
  have hfields : ∀ field ∈ executionFields adapter result status count ++ scopeFields adapter,
      payload.lookup (Str.ofString field.1) = none := fun field hfield =>
    hnew field.1 (hkeys field.1 (evidence_keys.subset (List.mem_map_of_mem hfield)))
  have hupdate : evidencePayload adapter result status count payload =
      update (executionFields adapter result status count ++ scopeFields adapter) payload :=
    List.foldl_append.symm
  rw [hupdate, encodable_update hnodup hfields, List.all_append, scopeFields_encodable, Bool.and_true, Bool.and_eq_true,
    executionFields_encodable]

lemma statusOf_timedOut {malformed : Bool} {exitCode : ℤ} {count : ℕ} :
    statusOf true malformed exitCode count = .timedOut := rfl

lemma statusOf_malformed {exitCode : ℤ} {count : ℕ} : statusOf false true exitCode count = .malformedOutput := rfl

lemma statusOf_settled {exitCode : ℤ} {count : ℕ} :
    statusOf false false exitCode count ∈ [ScanStatus.succeeded, .succeededWithFindings, .notQualified] := by
  unfold statusOf
  split_ifs with htimeout hmalformed
  all_goals simp_all

/-- Nothing that is missing satisfies the schema of a supported scanner. -/
lemma accepted_none (h : capabilityId ∈ supportedScanners) : accepted capabilityId .none = false := by
  have hnone : ∀ id ∈ supportedScanners, accepted id .none = false := by decide
  exact hnone capabilityId h

lemma schemaSatisfied_iff {stdout : Str} (hsupported : capabilityId ∈ supportedScanners)
    (hread : readJson tooling.toScannerTooling (boundedText stdout) = .ok read) :
    SchemaSatisfied tooling capabilityId stdout ↔ accepted capabilityId (read.getD .none) = true := by
  cases read with
  | none =>
    rw [Option.getD_none, accepted_none hsupported]
    refine iff_of_false ?_ nofun
    rintro ⟨v, w, hv, -⟩
    cases hread.symm.trans hv
  | some v =>
    rw [Option.getD_some, accepted]
    constructor
    · rintro ⟨v', w, hv', hw⟩
      obtain rfl := Option.some.inj (Except.ok.inj (hread.symm.trans hv'))
      rw [hw]
      rfl
    · intro h
      cases hw : normalizeScannerResult capabilityId v with
      | ok w => exact ⟨v, w, hread, hw⟩
      | error e =>
        rw [hw] at h
        cases h

variable {malformed : Bool} {status : ScanStatus}

lemma settle_copied {settled : Payload × Bool} {stdout stderr : Str} {exitCode : ℤ}
    (h : settle tooling capabilityId
      (safeOutput (keptOutput tooling.toScannerTooling stdout stderr read) exitCode malformed) = .ok settled) :
    ∃ w, tooling.deepcopy (redactJson tooling.unicode (read.getD .none)) = .ok w := by
  obtain ⟨w, hw, -⟩ := bind_eq_ok.mp h
  rw [safeOutput] at hw
  dsimp only at hw
  rw [getMember_result] at hw
  exact ⟨w, hw⟩

/-- Nothing that is raised after the output has been sanitized is the refusal. -/
lemma conclude_raises (safe : SafeOutput) :
    Raises (· ≠ refusal) (conclude tooling host adapter serviceRunId inputDigest result safe) := by
  refine Raises.bind ?_ fun settled _ => Raises.bind ?_ fun count _ => Raises.bind ?_ fun bytes _ => Raises.ok _
  · apply Raises.bind
    · intro e he
      rintro rfl
      exact (tooling.deepcopy_raises _ _ he).2 rfl
    · intro copied _
      split
      · exact Raises.ok _
      · rename_i e _
        split
        · exact Raises.ok _
        · rename_i hkind
          intro x hx
          obtain rfl := Except.error.inj hx
          rintro rfl
          exact hkind (Or.inr rfl)
  · intro e he
    rintro rfl
    cases resultCount_raises _ _ he
  · exact Raises.orRaise nofun

/-- The sanitized output is recorded exactly if its payload has a count and bytes. -/
lemma conclude_isOk {stdout stderr : Str} : (∃ execution, conclude tooling host adapter serviceRunId inputDigest result
      (safeOutput (keptOutput tooling.toScannerTooling stdout stderr read) result.exitCode malformed) = .ok execution) ↔
    Recordable tooling adapter stdout stderr read := by
  rw [conclude, bind_isOk]
  constructor
  · rintro ⟨settled, hsettled, h⟩
    obtain ⟨w, hcopy⟩ := settle_copied hsettled
    obtain ⟨settled', hsettled', -, hresult, htexts, hnew⟩ := settle_spec adapter.manifest.capabilityId
      stdout stderr result.exitCode malformed hcopy
    obtain rfl := Except.ok.inj (hsettled.symm.trans hsettled')
    obtain ⟨count, hcount, h⟩ := bind_isOk.mp h
    obtain ⟨bytes, hbytes, -⟩ := bind_isOk.mp h
    have hencoded := encode_isOk.mp ⟨bytes, hbytes⟩
    rw [isEncodable_jsonText, encodable, encodable_evidencePayload hnew, htexts] at hencoded
    have hcountable := resultCount_isOk.mp ⟨count, hcount⟩
    rw [hresult, countable_redact] at hcountable
    exact ⟨⟨w, hcopy⟩, hcountable, hencoded.1, hencoded.2.1, hencoded.2.2⟩
  · rintro ⟨⟨w, hcopy⟩, hcounted, houtput, hdigest, hprovenance⟩
    obtain ⟨settled, hsettled, -, hresult, htexts, hnew⟩ := settle_spec adapter.manifest.capabilityId
      stdout stderr result.exitCode malformed hcopy
    have hcountable : countable (getMember settled.1 "result" .none) = true := by
      rw [hresult, countable_redact, hcounted]
    obtain ⟨count, hcount⟩ := resultCount_isOk.mpr hcountable
    let status := statusOf result.timedOut settled.2 result.exitCode count
    have hencodable : isEncodable (jsonText tooling.floatText
        (.dict (evidencePayload adapter result status count settled.1))) = true := by
      rw [isEncodable_jsonText, encodable, encodable_evidencePayload hnew, htexts]
      exact ⟨houtput, hdigest, hprovenance⟩
    obtain ⟨bytes, hbytes⟩ := encode_isOk.mpr hencodable
    exact ⟨settled, hsettled, bind_isOk.mpr ⟨count, hcount, bind_isOk.mpr ⟨bytes, hbytes, _, rfl⟩⟩⟩

/-- What is recorded has the status that it should have. -/
lemma conclude_classified {execution : ScannerExecution} {stdout stderr : Str}
    (hsupported : adapter.manifest.capabilityId ∈ supportedScanners)
    (hread : readJson tooling.toScannerTooling (boundedText result.stdout) = .ok read)
    (hmalformed : read ≠ none → malformed = false)
    (h : conclude tooling host adapter serviceRunId inputDigest result
      (safeOutput (keptOutput tooling.toScannerTooling stdout stderr read) result.exitCode malformed) = .ok execution) :
    Classified tooling adapter.manifest.capabilityId result execution.status := by
  obtain ⟨settled, hsettled, h⟩ := bind_eq_ok.mp h
  obtain ⟨w, hcopy⟩ := settle_copied hsettled
  obtain ⟨settled', hsettled', hsecond, -⟩ := settle_spec adapter.manifest.capabilityId stdout stderr result.exitCode
    malformed hcopy
  obtain rfl := Except.ok.inj (hsettled.symm.trans hsettled')
  obtain ⟨count, -, h⟩ := bind_eq_ok.mp h
  obtain ⟨bytes, -, h⟩ := bind_eq_ok.mp h
  obtain rfl := Except.ok.inj h
  have hschema := schemaSatisfied_iff hsupported hread
  refine ⟨?_, ?_, ?_⟩
  · intro htimeout
    change statusOf result.timedOut _ _ _ = _
    rw [htimeout]
    rfl
  · intro htimeout hrejected
    rw [hschema, Bool.not_eq_true] at hrejected
    change statusOf result.timedOut _ _ _ = _
    rw [htimeout, hsecond, hrejected, Bool.not_false, Bool.or_true]
    rfl
  · intro htimeout haccepted
    rw [hschema] at haccepted
    have hfound : read ≠ none := by
      rintro rfl
      rw [Option.getD_none, accepted_none hsupported] at haccepted
      cases haccepted
    change statusOf result.timedOut _ _ _ ∈ _
    rw [htimeout, hsecond, haccepted, hmalformed hfound]
    exact statusOf_settled

end Totality

section Law

variable {tooling : ExecutionTooling}

lemma readJson_raises (s : Str) : Raises (· ≠ refusal) (readJson tooling.toScannerTooling s) := by
  rw [readJson]
  split
  · exact Raises.ok _
  · refine Raises.bind ?_ fun read _ => Raises.ok _
    intro e he
    cases hloads : tooling.jsonLoads s with
    | ok v =>
      rw [hloads] at he
      cases he
    | error e' =>
      rw [hloads, excepting] at he
      split at he
      · cases he
      · obtain rfl := Except.error.inj he
        exact tooling.json_raises s e' hloads

lemma handled_iff {adapter : ScannerAdapter} {result : SandboxExecutionResult} {read : Option Parsed}
    (hread : readJson tooling.toScannerTooling (boundedText result.stdout) = .ok read) :
    Handled tooling adapter result ↔
      leaks tooling.toScannerTooling (payloadOf (keptOutput tooling.toScannerTooling (boundedText result.stdout)
          (boundedText result.stderr) read) result.exitCode) = true ∨
        Recordable tooling adapter (boundedText result.stdout) (boundedText result.stderr) read := by
  constructor
  · rintro ⟨read', hread', h⟩
    obtain rfl := Except.ok.inj (hread.symm.trans hread')
    exact h
  · exact fun h => ⟨read, hread, h⟩

/-- What is made of a sanitized output is as it should be exactly if there is a payload with a count and bytes. -/
lemma conclude_total_iff {host : ScannerHost} {adapter : ScannerAdapter} {serviceRunId : String} {inputDigest : Str}
    {result : SandboxExecutionResult} {read : Option Parsed} {malformed : Bool} {stdout stderr : Str}
    (hsupported : adapter.manifest.capabilityId ∈ supportedScanners)
    (hread : readJson tooling.toScannerTooling (boundedText result.stdout) = .ok read)
    (hmalformed : read ≠ none → malformed = false) :
    Total tooling adapter.manifest.capabilityId result
        (conclude tooling host adapter serviceRunId inputDigest result
          (safeOutput (keptOutput tooling.toScannerTooling stdout stderr read) result.exitCode malformed)) ↔
      Recordable tooling adapter stdout stderr read := by
  rw [← conclude_isOk]
  cases hconclude : conclude tooling host adapter serviceRunId inputDigest result
    (safeOutput (keptOutput tooling.toScannerTooling stdout stderr read) result.exitCode malformed) with
  | ok execution => exact iff_of_true (conclude_classified hsupported hread hmalformed hconclude) ⟨execution, rfl⟩
  | error e =>
    refine iff_of_false (conclude_raises _ e hconclude) ?_
    rintro ⟨_, h⟩
    cases h

/-- What is made of the result of the sandbox is as it should be exactly for the outputs that are handled. -/
lemma record_total_iff {host : ScannerHost} {adapter : ScannerAdapter} {serviceRunId : String} {inputDigest : Str}
    {result : SandboxExecutionResult} (hsupported : adapter.manifest.capabilityId ∈ supportedScanners) :
    Total tooling adapter.manifest.capabilityId result
        (record tooling host adapter serviceRunId inputDigest result) ↔ Handled tooling adapter result := by
  rw [record]
  cases hread : readJson tooling.toScannerTooling (boundedText result.stdout) with
  | error e =>
    rw [safePayload, hread]
    refine iff_of_false (readJson_raises _ e hread) ?_
    rintro ⟨read, hread', -⟩
    cases hread.symm.trans hread'
  | ok read =>
    rw [handled_iff hread, safePayload_eq hread]
    split
    · rename_i hleaks
      exact iff_of_true rfl (Or.inl hleaks)
    · rename_i hleaks
      have hmalformed : read ≠ none → (read.isNone && decide (strip (boundedText result.stdout) ≠ [])) = false := by
        intro hsome
        rw [Option.isNone_eq_false_iff.mpr (Option.isSome_iff_ne_none.mpr hsome), Bool.false_and]
      rw [or_iff_right hleaks, ok_bind]
      exact conclude_total_iff hsupported hread hmalformed

lemma execute_eq {host : ScannerHost} {adapter : ScannerAdapter} {snapshotPath serviceRunId : String}
    {prepared : SandboxRequest × Str} {result : SandboxExecutionResult}
    (hprepared : prepare tooling host adapter snapshotPath = .ok prepared)
    (hrun : host.sandbox prepared.1 = .ok result) :
    execute tooling host adapter snapshotPath serviceRunId =
      record tooling host adapter serviceRunId prepared.2 result := by
  rw [execute, hprepared, ok_bind, hrun, ok_bind]

/-- Once the sandbox has returned, every scanner handles exactly the outputs whose payload is refused, or has a count
and bytes. -/
theorem execute_total_iff (tooling : ExecutionTooling) (host : ScannerHost) (adapter : ScannerAdapter)
    (snapshotPath serviceRunId : String) (prepared : SandboxRequest × Str) (result : SandboxExecutionResult)
    (hsupported : adapter.manifest.capabilityId ∈ supportedScanners)
    (hprepared : prepare tooling host adapter snapshotPath = .ok prepared)
    (hrun : host.sandbox prepared.1 = .ok result) :
    Total tooling adapter.manifest.capabilityId result (execute tooling host adapter snapshotPath serviceRunId) ↔
      Handled tooling adapter result := by
  rw [execute_eq hprepared hrun]
  exact record_total_iff hsupported

end Law

section Example

def semgrep : ScannerAdapter where
  manifest := {
    capabilityId := "CAP-SAST-SEMGREP"
    version := "1.0.0"
    toolIdentity := "semgrep/semgrep"
    toolVersion := "1.173.0"
    artifactRef := "docker.io/semgrep/semgrep" }
  command := ["semgrep", "scan", "--config", "/cfg/scanner.yml", "--json", "/src"]
  environment := [("SEMGREP_SEND_METRICS", "off")]
  configPath := some "/etc/semgrep.yml"
  extraMounts := []
  cacheRoot := none
  cacheManifestDigest := none
  cacheProvenance := []

def cleanOutput : String := "\x7b\"results\":[]\x7d"

def cleanResult : Parsed := .dict [(Str.ofString "results", .list [])]

def nestedOutput : String := "\x7b\"results\":[\x7b\"packages\":[\x7b\"vulnerabilities\":1\x7d]\x7d]\x7d"

def nestedResult : Parsed :=
  .dict [(Str.ofString "results", .list [.dict [(Str.ofString "packages",
    .list [.dict [(Str.ofString "vulnerabilities", .int 1)]])]])]

def semgrepOutputs : List (Str × Parsed) :=
  [(Str.ofString cleanOutput, cleanResult), (Str.ofString nestedOutput, nestedResult)]

def readSemgrep (content : Str) : Except Raised Parsed :=
  if content = Str.ofString cleanOutput then .ok cleanResult
  else if content = Str.ofString nestedOutput then .ok nestedResult
  else raise .jsonDecodeError "Expecting value: line 1 column 1 (char 0)"

lemma readSemgrep_ok {content : Str} {v : Parsed} (h : readSemgrep content = .ok v) :
    (content, v) ∈ semgrepOutputs := by
  unfold readSemgrep at h
  split at h
  · rename_i hclean
    rw [hclean, ← Except.ok.inj h]
    exact List.mem_cons_self
  · split at h
    · rename_i hnested
      rw [hnested, ← Except.ok.inj h]
      exact List.mem_cons_of_mem _ List.mem_cons_self
    · cases h

/-- The outputs are printable, not blank and not cut. -/
lemma semgrepOutputs_whole : ∀ m ∈ semgrepOutputs, m.2.printable = true ∧ strip m.1 ≠ [] ∧ ¬ Oversize m.1 := by
  decide +kernel

lemma readSemgrep_printable (content : Str) (v : Parsed) (h : readSemgrep content = .ok v) : v.printable = true :=
  (semgrepOutputs_whole _ (readSemgrep_ok h)).1

lemma readSemgrep_raises (content : Str) (e : Raised) (h : readSemgrep content = .error e) : e ≠ refusal := by
  unfold readSemgrep at h
  split at h
  · cases h
  · split at h
    · cases h
    · obtain rfl := Except.error.inj h
      decide

lemma readSemgrep_blank (content : Str) (v : Parsed) (h : readSemgrep content = .ok v) : strip content ≠ [] :=
  (semgrepOutputs_whole _ (readSemgrep_ok h)).2.1

lemma readSemgrep_cut (content : Str) (v : Parsed) (h : readSemgrep content = .ok v) (hsize : Oversize content) :
    ∃ e, readSemgrep (boundedText content) = .error e ∧ e.kind = .jsonDecodeError := by
  exact absurd hsize (semgrepOutputs_whole _ (readSemgrep_ok h)).2.2

/-- An interpreter that reads these outputs. -/
def semgrepTooling : ExecutionTooling where
  jsonLoads := readSemgrep
  tomlLoads _ := raise .tomlDecodeError "Invalid statement (at line 1, column 1)"
  render _ := []
  renderFixed _ := []
  lower s := s
  upper s := s
  sha256 _ := []
  json_printable := readSemgrep_printable
  floatText _ := "0.0"
  unicode := ⟨fun _ => false, fun _ => false⟩
  json_raises := readSemgrep_raises
  json_blank := readSemgrep_blank
  json_cut := readSemgrep_cut
  deepcopy := .ok
  deepcopy_none := rfl
  deepcopy_eq _ _ h := (Except.ok.inj h).symm
  deepcopy_raises _ _ h := nomatch h

def semgrepResult (stdout : String) : SandboxExecutionResult where
  sandboxId := "sbx-1"
  exitCode := 0
  stdout := Str.ofString stdout
  stderr := []
  timedOut := false
  profileName := "scanner-default"
  backendName := "docker"

def emptyTree : Tree where
  files := Table.empty
  consistent := nofun

def semgrepHost (stdout : String) : ScannerHost where
  isDir _ := true
  isFile _ := true
  isPresent _ := true
  resolve path := path
  tree _ := emptyTree
  sandbox _ := .ok (semgrepResult stdout)
  startedAt := "2026-01-01T00:00:00+00:00"
  endedAt := "2026-01-01T00:00:01+00:00"
  elapsedMs := 1000

def semgrepPrepared : SandboxRequest × Str :=
  (⟨semgrep.manifest, semgrep.command, [⟨"/snapshots/1", "/src", true⟩, ⟨"/etc/semgrep.yml", "/cfg/scanner.yml", true⟩],
    semgrep.environment, "/src"⟩, [])

lemma semgrep_prepared (stdout : String) :
    prepare semgrepTooling (semgrepHost stdout) semgrep "/snapshots/1" = .ok semgrepPrepared := rfl

lemma semgrep_runs (stdout : String) :
    (semgrepHost stdout).sandbox semgrepPrepared.1 = .ok (semgrepResult stdout) := rfl

lemma semgrep_supported : semgrep.manifest.capabilityId ∈ supportedScanners := by decide

lemma semgrepTooling_reads : semgrepTooling.jsonLoads = readSemgrep := rfl

lemma clean_read : readJson semgrepTooling.toScannerTooling (boundedText (semgrepResult cleanOutput).stdout) =
    .ok (some cleanResult) := by
  have hloads : semgrepTooling.jsonLoads (Str.ofString cleanOutput) = .ok cleanResult := by
    rw [semgrepTooling_reads, readSemgrep, if_pos rfl]
  exact readJson_eq hloads (semgrepOutputs_whole _ List.mem_cons_self).2.2

lemma nested_read : readJson semgrepTooling.toScannerTooling (boundedText (semgrepResult nestedOutput).stdout) =
    .ok (some nestedResult) := by
  have hother : Str.ofString nestedOutput ≠ Str.ofString cleanOutput := by
    intro h
    exact absurd (Str.ofString_injective h) (by decide)
  have hloads : semgrepTooling.jsonLoads (Str.ofString nestedOutput) = .ok nestedResult := by
    rw [semgrepTooling_reads, readSemgrep, if_neg hother, if_pos rfl]
  exact readJson_eq hloads (semgrepOutputs_whole _ (List.mem_cons_of_mem _ List.mem_cons_self)).2.2

/-- A scan without results is handled. -/
theorem clean_output_handled : Total semgrepTooling semgrep.manifest.capabilityId (semgrepResult cleanOutput)
    (execute semgrepTooling (semgrepHost cleanOutput) semgrep "/snapshots/1" "RUN-1") := by
  have hiff := execute_total_iff semgrepTooling (semgrepHost cleanOutput) semgrep "/snapshots/1" "RUN-1" semgrepPrepared
    (semgrepResult cleanOutput) semgrep_supported (semgrep_prepared cleanOutput) (semgrep_runs cleanOutput)
  rw [hiff, handled_iff clean_read]
  right
  refine ⟨⟨_, rfl⟩, ?_, ?_, ?_, ?_⟩
  · decide +kernel
  · decide +kernel
  · rintro _ ⟨⟩
  · rfl

/-- Semgrep results with packages are counted as those of OSV are, but no check has seen their vulnerabilities. -/
theorem nested_output_raises : ¬ Total semgrepTooling semgrep.manifest.capabilityId (semgrepResult nestedOutput)
    (execute semgrepTooling (semgrepHost nestedOutput) semgrep "/snapshots/1" "RUN-1") := by
  rw [execute_eq (semgrep_prepared nestedOutput) (semgrep_runs nestedOutput), record_total_iff semgrep_supported, handled_iff nested_read]
  rintro (hleaks | hrecordable)
  · exact absurd hleaks (by decide +kernel)
  · exact absurd hrecordable.counted (by decide +kernel)

end Example

end SecScanMonitor.Capabilities
