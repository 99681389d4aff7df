import SecScanMonitor.Foundations.SortBy
import SecScanMonitor.Persistence.PolicyRequest

/-! Where the policy input of `opa_request` agrees with the domain model: the grants that authorize the request,
and the version of the capability's manifest. -/

namespace SecScanMonitor.Persistence

open Foundations Domain DetectionResponse
open Application.AuthorityService (matching)
open Application.PolicyInput (mem_matching isActive_some)

namespace PolicyRequest

variable {collation : String → String → Bool} {text : Value → String} {human : Option String} {now : Datetime}
  {context v : Value} {db : Hosted.Database} {scope : Scope}

section Grants

/-- The request of the remediate action under a grant. -/
def requestUnder (scope : Scope) (grant : AuthorityGrant) : Application.CapabilityRequest where
  principalId := grant.principalId
  agentId := none
  engagementId := scope.caseId
  targetId := scope.targetId
  capabilityId := responseCapability
  action := .remediate
  risk := "high"
  authorityGrantId := some grant.grantId
  approvalId := none
  workflowPhase := "adjudication"
  requestedResources := Table.empty

/-- The grant authorizes the remediate action, as the authority service matches grants. -/
def Authorizes (scope : Scope) (now : Datetime) (grant : AuthorityGrant) : Prop :=
  grant ∈ matching (requestUnder scope grant) [grant] now

lemma authorizes_iff {grant : AuthorityGrant} : Authorizes scope now grant ↔
    grant.engagementId = scope.caseId ∧ (∀ c, grant.capabilityId = some c → c = responseCapability) ∧
      (∀ t, grant.targetId = some t → t = scope.targetId) ∧ grant.action = .remediate ∧
      grant.isActive now none = true := by
  rw [Authorizes, mem_matching]
  constructor
  · rintro ⟨-, h⟩
    exact ⟨h.engagement, h.capability, h.target, h.action, h.active⟩
  · rintro ⟨hengagement, hcapability, htarget, haction, hactive⟩
    exact ⟨List.mem_singleton.mpr rfl, rfl, hengagement, rfl, hcapability, htarget, haction, hactive⟩

/-- The grant names the capability and carries no revocation, not even one to come. -/
def Recorded (grant : AuthorityGrant) : Prop :=
  grant.capabilityId = some responseCapability ∧ grant.revokedAt = none

lemma isActive_unrevoked {grant : AuthorityGrant} (h : grant.revokedAt = none) :
    grant.isActive now none = (decide (grant.notBefore ≤ now) && grant.notAfter.all fun t => decide (now < t)) := by
  rw [AuthorityGrant.isActive, h]
  cases hafter : grant.notAfter with
  | none =>
    by_cases hbefore : now < grant.notBefore
    · simp [hbefore]
    · simp [hbefore, not_lt.mp hbefore]
  | some t =>
    by_cases hbefore : now < grant.notBefore
    · simp [hbefore]
    · by_cases hend : t ≤ now
      · simp [hbefore, hend, not_lt.mpr hend]
      · simp [hbefore, hend, not_lt.mp hbefore, not_le.mp hend]

/-- `opa_request` finds a grant where a recorded one authorizes the request. -/
lemma grantFor_isSome {session : Hosted.Database} :
    (grantFor session scope.caseId scope.targetId now).isSome = true ↔
      ∃ grant ∈ session.authorityGrants, Authorizes scope now grant ∧ Recorded grant := by
  rw [grantFor, List.find?_isSome]
  constructor
  · rintro ⟨grant, hgrant, hnow⟩
    rw [grantRows, Table.mem_select] at hgrant
    simp only [Bool.and_eq_true, decide_eq_true_eq, Option.isNone_iff_eq_none] at hgrant
    obtain ⟨hmem, ⟨⟨hengagement, haction⟩, hcapability⟩, hrevoked⟩ := hgrant
    rw [Bool.and_assoc, Bool.and_eq_true, Option.all_eq_true] at hnow
    refine ⟨grant, hmem, authorizes_iff.mpr ⟨hengagement, ?_, ?_, haction, ?_⟩, hcapability, hrevoked⟩
    · intro c hc
      exact Option.some.inj (hc.symm.trans hcapability)
    · exact fun t ht => of_decide_eq_true (hnow.1 t ht)
    · rw [isActive_unrevoked hrevoked]
      exact hnow.2
  · rintro ⟨grant, hmem, hauthorizes, hcapability, hrevoked⟩
    obtain ⟨hengagement, -, htarget, haction, hactive⟩ := authorizes_iff.mp hauthorizes
    rw [isActive_unrevoked hrevoked] at hactive
    refine ⟨grant, ?_, ?_⟩
    · rw [grantRows, Table.mem_select]
      simp only [Bool.and_eq_true, decide_eq_true_eq, Option.isNone_iff_eq_none]
      exact ⟨hmem, ⟨⟨hengagement, haction⟩, hcapability⟩, hrevoked⟩
    · rw [Bool.and_assoc, Bool.and_eq_true, Option.all_eq_true]
      exact ⟨fun t ht => decide_eq_true (htarget t ht), hactive⟩

/-- What an answered request was read from. -/
lemma opaRequest_eq_ok (h : opaRequest collation text human now context db = .ok v) :
    ∃ scope, scopeOfContext context = .ok scope ∧
      scope.targetId ∈ (scopeLinks (sessionOf db human) scope.caseId).map Hosted.EngagementTargetRow.targetId ∧
      v.member? "authority_grant" = some (grantInput (grantFor (sessionOf db human) scope.caseId scope.targetId now)) ∧
      v.member? "capability" =
        some (capabilityInput (capabilityRow collation (sessionOf db human) responseCapability)) := by
  obtain ⟨scope, hscope, h⟩ := bind_eq_ok.mp h
  obtain ⟨⟨engagement, links⟩, hbound, h⟩ := bind_eq_ok.mp h
  obtain ⟨_, -, hbound⟩ := orRaise_bind_eq_ok.mp hbound
  obtain ⟨htarget, -⟩ := raiseIf_bind_eq_ok.mp hbound
  obtain rfl := Except.ok.inj h
  exact ⟨scope, hscope, not_not.mp htarget, rfl, rfl⟩

lemma grantInput_matched (grant : Option AuthorityGrant) :
    (grantInput grant).member? "matched" = some (.bool grant.isSome) := by
  cases grant <;> rfl

lemma sessionOf_cases (db : Hosted.Database) (human : Option String) :
    sessionOf db human = db ∨ ∃ reader, sessionOf db human = db.seenBy reader := by
  unfold sessionOf
  split
  · exact Or.inl rfl
  · exact Or.inl rfl
  · exact Or.inr ⟨_, rfl⟩

/-- Who reads a link of an engagement reads all of its grants. -/
lemma session_grants {grant : AuthorityGrant} (hlink : scope.targetId ∈
      (scopeLinks (sessionOf db human) scope.caseId).map Hosted.EngagementTargetRow.targetId)
    (hengagement : grant.engagementId = scope.caseId) :
    grant ∈ (sessionOf db human).authorityGrants ↔ grant ∈ db.authorityGrants := by
  obtain ⟨link, hlink, -⟩ := List.mem_map.mp hlink
  rw [scopeLinks, Table.mem_select, Bool.and_eq_true, decide_eq_true_eq] at hlink
  obtain hsession | ⟨reader, hsession⟩ := sessionOf_cases db human
  · rw [hsession]
  · rw [hsession] at hlink ⊢
    have haccess : db.canAccessEngagement reader scope.caseId = true := by
      rw [← hlink.2.1]
      exact (Table.mem_restrict.mp hlink.1).2
    refine Table.mem_restrict.trans (and_iff_left ?_)
    rw [hengagement]
    exact haccess

/-- The answer reports a grant where, and only where, some grant of the engagement authorizes the action. -/
def GrantsAgree (db : Hosted.Database) (now : Datetime) (scope : Scope) (v : Value) : Prop :=
  (v.member? "authority_grant").bind (Value.member? "matched") = some (.bool true) ↔
    ∃ grant ∈ db.authorityGrants, Authorizes scope now grant

/-- The two inputs agree on the grants where none authorizes the action, or a recorded one does. -/
theorem grants_agree_iff (h : opaRequest collation text human now context db = .ok v)
    (hscope : scopeOfContext context = .ok scope) :
    GrantsAgree db now scope v ↔
      ((∃ grant ∈ db.authorityGrants, Authorizes scope now grant) →
        ∃ grant ∈ db.authorityGrants, Authorizes scope now grant ∧ Recorded grant) := by
  obtain ⟨scope', hscope', hlink, hgrant, -⟩ := opaRequest_eq_ok h
  obtain rfl : scope = scope' := Except.ok.inj (hscope.symm.trans hscope')
  have hmatched : (v.member? "authority_grant").bind (Value.member? "matched") = some (.bool true) ↔
      ∃ grant ∈ db.authorityGrants, Authorizes scope now grant ∧ Recorded grant := by
    rw [hgrant, Option.bind_some, grantInput_matched, Option.some_inj, Value.bool.injEq, grantFor_isSome]
    constructor
    · rintro ⟨grant, hmem, hauthorizes, hrecorded⟩
      exact ⟨grant, (session_grants hlink (authorizes_iff.mp hauthorizes).1).mp hmem, hauthorizes, hrecorded⟩
    · rintro ⟨grant, hmem, hauthorizes, hrecorded⟩
      exact ⟨grant, (session_grants hlink (authorizes_iff.mp hauthorizes).1).mpr hmem, hauthorizes, hrecorded⟩
  rw [GrantsAgree, hmatched]
  constructor
  · exact fun hagree => hagree.mpr
  · intro hwhen
    refine ⟨fun ⟨grant, hmem, hauthorizes, _⟩ => ⟨grant, hmem, hauthorizes⟩, hwhen⟩

end Grants

section Versions

variable {m : CapabilityManifest} {ms : List CapabilityManifest} {r : CapabilityRegistry} {capabilityId : String}

/-- The version of a manifest, as the registry compares versions. -/
abbrev versionOf (m : CapabilityManifest) : List ℕ := CapabilityRegistry.versionKey m.version

def manifestRow (m : CapabilityManifest) : Hosted.CapabilityManifestRow where
  capabilityId := m.capabilityId
  version := m.version
  riskClass := m.riskClass.value
  requiredAuthority := m.requiredAuthority
  requiresApproval := m.requiresApproval

/-- The insert of a manifest; the table is left as it is where its constraints refuse the row. -/
def storeManifest (db : Hosted.Database) (m : CapabilityManifest) : Hosted.Database :=
  match db.capabilityManifests.insert? (fun _ => false) (manifestRow m) with
  | some capabilityManifests => { db with capabilityManifests }
  | none => db

/-- The manifests inserted in the order of their registration. -/
def storeManifests (db : Hosted.Database) (ms : List CapabilityManifest) : Hosted.Database :=
  ms.foldl storeManifest db

lemma get?_storeManifest (db : Hosted.Database) (m : CapabilityManifest) :
    (storeManifest db m).capabilityManifests.get? capabilityId =
      (db.capabilityManifests.get? capabilityId).or
        (if m.capabilityId = capabilityId then some (manifestRow m) else none) := by
  rw [storeManifest]
  split
  · rename_i t ht
    by_cases hid : m.capabilityId = capabilityId
    · subst hid
      rw [if_pos rfl, show (db.capabilityManifests.get? m.capabilityId) = none from (Table.insert?_eq_some ht).2.1]
      exact Table.get?_insert_self ht
    · rw [if_neg hid, Option.or_none]
      exact Table.get?_insert_of_ne ht (Ne.symm hid)
  · rename_i ht
    by_cases hid : m.capabilityId = capabilityId
    · subst hid
      cases hstored : db.capabilityManifests.get? m.capabilityId with
      | some row => rfl
      | none =>
        have hfree : (db.capabilityManifests.insert? (fun _ => false) (manifestRow m)).isSome :=
          Table.insert?_isSome hstored fun _ _ => rfl
        rw [ht] at hfree
        cases hfree
    · rw [if_neg hid, Option.or_none]

/-- The stored manifest of a capability is the first that was registered. -/
lemma get?_storeManifests (db : Hosted.Database) :
    (storeManifests db ms).capabilityManifests.get? capabilityId =
      (db.capabilityManifests.get? capabilityId).or
        ((ms.find? fun m => decide (m.capabilityId = capabilityId)).map manifestRow) := by
  induction ms generalizing db with
  | nil => exact (Option.or_none).symm
  | cons m ms ih =>
    rw [storeManifests, List.foldl_cons, ← storeManifests, ih, get?_storeManifest, Option.or_assoc]
    by_cases hid : m.capabilityId = capabilityId
    · simp [hid]
    · simp [hid]

lemma capabilityRow_eq (session : Hosted.Database) :
    capabilityRow collation session capabilityId = session.capabilityManifests.get? capabilityId := by
  rw [capabilityRow, Table.select_key]
  cases session.capabilityManifests.get? capabilityId <;> rfl

lemma ofManifests_rows (h : CapabilityRegistry.ofManifests ms = .ok r) : r.rows = ms.reverse := by
  suffices hrows : ∀ r₀ : CapabilityRegistry, ms.foldlM CapabilityRegistry.register r₀ = .ok r →
      r.rows = ms.reverse ++ r₀.rows by
    rw [hrows _ h]
    exact List.append_nil _
  clear h
  induction ms with
  | nil =>
    intro r₀ h
    obtain rfl := Except.ok.inj h
    rfl
  | cons m ms ih =>
    intro r₀ h
    obtain ⟨r₁, hregister, h⟩ := bind_eq_ok.mp h
    rw [CapabilityRegistry.register] at hregister
    split at hregister
    · rename_i t ht
      obtain rfl := Except.ok.inj hregister
      rw [ih _ h, (Table.insert?_eq_some ht).1, List.reverse_cons, List.append_assoc]
      rfl
    · cases hregister

lemma versions_eq (h : CapabilityRegistry.ofManifests ms = .ok r) :
    r.versions capabilityId = ms.filter fun m => decide (m.capabilityId = capabilityId) := by
  rw [CapabilityRegistry.versions, ofManifests_rows h, List.reverse_reverse]

/-- The order that the registry sorts by. -/
abbrev AtMost (m n : CapabilityManifest) : Prop := versionOf m ≤ versionOf n

instance : Std.Total AtMost := ⟨fun m n => le_total (versionOf m) (versionOf n)⟩

instance : IsTrans CapabilityManifest AtMost := ⟨fun _ _ _ => le_trans⟩

lemma get_eq_ok :
    r.get capabilityId = .ok m ↔ ((r.versions capabilityId).insertionSort AtMost).getLast? = some m := by
  simp only [CapabilityRegistry.get]
  split
  · rename_i n hlast
    have hsorted : ((r.versions capabilityId).insertionSort AtMost).getLast? = some n := hlast
    rw [hsorted, Except.ok.injEq, Option.some_inj]
  · rename_i hlast
    have hsorted : ((r.versions capabilityId).insertionSort AtMost).getLast? = none := hlast
    rw [hsorted]
    constructor
    · intro h
      cases h
    · intro h
      cases h

/-- `opa_request` and the registry pick the same manifest, and no registered version of it is above its
version. -/
def VersionsAgree (collation : String → String → Bool) (session : Hosted.Database) (r : CapabilityRegistry)
    (capabilityId : String) : Prop :=
  ∃ m, r.get capabilityId = .ok m ∧ capabilityRow collation session capabilityId = some (manifestRow m) ∧
    ∀ n ∈ r.versions capabilityId, versionOf n ≤ versionOf m

/-- The two pick the same manifest if the first version that was registered is above all later ones. -/
theorem versions_agree_iff (collation : String → String → Bool) (db : Hosted.Database)
    (capabilityId : String) (first : CapabilityManifest) (later : List CapabilityManifest)
    (hregistered : CapabilityRegistry.ofManifests ms = .ok r)
    (hms : ms.filter (fun m => decide (m.capabilityId = capabilityId)) = first :: later)
    (hnew : db.capabilityManifests.get? capabilityId = none) :
    VersionsAgree collation (storeManifests db ms) r capabilityId ↔
      ∀ m ∈ later, versionOf m < versionOf first := by
  have hversions : r.versions capabilityId = first :: later := (versions_eq hregistered).trans hms
  have hnodup : (first :: later).Nodup := by
    rw [← hversions]
    exact (List.nodup_reverse.mpr (.of_map _ r.nodup)).filter _
  have hfirst : first ∈ r ∧ first.capabilityId = capabilityId := by
    have hmem : first ∈ r.versions capabilityId := hversions ▸ List.mem_cons_self
    rw [CapabilityRegistry.versions, List.mem_filter, List.mem_reverse, decide_eq_true_eq] at hmem
    exact hmem
  have hrow : capabilityRow collation (storeManifests db ms) capabilityId = some (manifestRow first) := by
    rw [capabilityRow_eq, get?_storeManifests, hnew, Option.none_or, ← List.head?_filter, hms]
    rfl
  have hhead : r.get capabilityId = .ok first ↔ ∀ m ∈ later, versionOf m < versionOf first := by
    rw [get_eq_ok, hversions, getLast?_insertionSort_eq_head hnodup]
    simp only [AtMost, not_le]
  rw [← hhead, VersionsAgree, hrow]
  constructor
  · rintro ⟨m, hget, hsame, -⟩
    have hm := CapabilityRegistry.mem_of_get hget
    have hversion : first.version = m.version := congrArg Hosted.CapabilityManifestRow.version (Option.some.inj hsame)
    rwa [Table.eq_of_key_eq hfirst.1 hm.1 (Prod.ext (hfirst.2.trans hm.2.symm) hversion)]
  · intro hget
    refine ⟨first, hget, rfl, fun n hn => ?_⟩
    exact related_getLast? (r := AtMost) (get_eq_ok.mp hget) hn

end Versions

section Example

def sampleScope : Scope := ⟨"C", "E", "T", by decide⟩

def sampleContext : Value := .obj
  [("scope", sampleScope.toValue), ("target_id", .str "T"), ("risk", .str "high")]

/-- A grant of the remediate action that is bound to no capability. -/
def openGrant : AuthorityGrant where
  grantId := "G"
  engagementId := "E"
  principalId := "P"
  action := .remediate
  capabilityId := none
  targetId := none
  conditions := []
  notBefore := 0
  notAfter := none
  revokedAt := none

def grantedDatabase : Hosted.Database :=
  { Hosted.Database.empty with
    engagements := ⟨[
      { engagementId := "E", clientId := "C", requesterPrincipalId := "P", scope := "repository"
        passType := .posture, authorityLevel := .remediation, constraints := [], status := .adjudication
        statusHistory := [], refusalReason := none, suspendedFrom := none
        createdAt := "2026-01-01", updatedAt := "2026-01-01" }], List.nodup_singleton _⟩
    engagementTargets := ⟨[⟨"ET-E-T", "E", "T", true⟩], List.nodup_singleton _⟩
    authorityGrants := ⟨[openGrant], List.nodup_singleton _⟩ }

def byCodePoint (a b : String) : Bool := decide (a ≤ b)

lemma sampleContext_scope : scopeOfContext sampleContext = .ok sampleScope := rfl

def openAnswer : Value := .obj
  [("principal", .obj [("id", .str "secscan-v03-response-authority")]),
    ("agent", .obj [("id", .str "secscan-v03-response-service")]),
    ("engagement", .obj [("id", .str "E"), ("status", .str "adjudication"), ("authority_level", .str "remediation"),
      ("target_ids", .arr [.str "T"])]),
    ("target", .obj [("id", .str "T")]), ("capability", capabilityInput none), ("action", .str "remediate"),
    ("risk", .str "high"), ("authority_grant", grantInput none),
    ("approval", Application.AuthorityService.approvalInput none), ("workflow_phase", .str "adjudication"),
    ("requested_resources", .obj [("response_proposal", .str ""), ("snapshot", .str "")])]

lemma opaRequest_open :
    opaRequest byCodePoint (fun _ => "") none 1 sampleContext grantedDatabase = .ok openAnswer := rfl

theorem open_grants_agree_iff : GrantsAgree grantedDatabase 1 sampleScope openAnswer ↔
    ((∃ grant ∈ grantedDatabase.authorityGrants, Authorizes sampleScope 1 grant) →
      ∃ grant ∈ grantedDatabase.authorityGrants, Authorizes sampleScope 1 grant ∧ Recorded grant) :=
  grants_agree_iff opaRequest_open sampleContext_scope

/-- A grant for any capability authorizes the action, and the answer reports none. -/
theorem open_grant_unreported : opaRequest byCodePoint (fun _ => "") none 1 sampleContext grantedDatabase =
    .ok openAnswer ∧ ¬ GrantsAgree grantedDatabase 1 sampleScope openAnswer := by
  refine ⟨opaRequest_open, fun hagree => ?_⟩
  have hauthorizes : Authorizes sampleScope 1 openGrant :=
    authorizes_iff.mpr ⟨rfl, nofun, nofun, rfl, rfl⟩
  have hreported := hagree.mpr ⟨openGrant, List.mem_singleton.mpr rfl, hauthorizes⟩
  have hnone : (openAnswer.member? "authority_grant").bind (Value.member? "matched") = some (.bool false) := rfl
  rw [hnone] at hreported
  cases hreported

def nine : CapabilityManifest := ⟨responseCapability, "9.0.0", .high, "remediate", true⟩

def ten : CapabilityManifest := { nine with version := "10.0.0" }

def bothVersions : CapabilityRegistry := ⟨[ten, nine], by decide⟩

theorem both_versions_agree_iff :
    VersionsAgree byCodePoint (storeManifests Hosted.Database.empty [nine, ten]) bothVersions responseCapability ↔
      ∀ m ∈ [ten], versionOf m < versionOf nine :=
  versions_agree_iff byCodePoint Hosted.Database.empty responseCapability nine [ten] rfl rfl rfl

/-- After 9.0.0 and 10.0.0 the registry picks 10.0.0, and `opa_request` 9.0.0. -/
theorem ten_unpicked : CapabilityRegistry.ofManifests [nine, ten] = .ok bothVersions ∧
    ¬ VersionsAgree byCodePoint (storeManifests Hosted.Database.empty [nine, ten]) bothVersions
      responseCapability := by
  refine ⟨rfl, fun hagree => ?_⟩
  obtain ⟨m, hget, hrow, -⟩ := hagree
  have hten : bothVersions.get responseCapability = .ok ten := by decide +kernel
  obtain rfl : ten = m := Except.ok.inj (hten.symm.trans hget)
  rw [capabilityRow_eq, get?_storeManifests] at hrow
  have hversion := congrArg Hosted.CapabilityManifestRow.version (Option.some.inj hrow)
  exact absurd hversion (by decide)

end Example

end PolicyRequest

end SecScanMonitor.Persistence
