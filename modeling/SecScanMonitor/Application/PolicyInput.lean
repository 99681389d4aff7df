import SecScanMonitor.Application.AuthorityService
import SecScanMonitor.Policy.Exclusivity

/-! The kernel's gates on the inputs that `AuthorityService.decide` builds, each read back as a
condition on the request and the records it comes with. -/

namespace SecScanMonitor.Application.PolicyInput

open Foundations Foundations.Rego Domain Policy
open AuthorityService
  (matching grantInput approvalInput engagementInput capabilityInput resourcesInput policyInput)

def mutates (a : Action) : Bool := Kernel.mutationActions.contains a.value

lemma mutates_iff {a : Action} : mutates a = true ↔ a = .mutate ∨ a = .remediate ∨ a = .activeTest := by
  cases a <;> decide

structure ConditionsMet (request : CapabilityRequest) (g : AuthorityGrant) : Prop where
  snapshot : "immutable_snapshot_only" ∈ g.conditions →
    ∃ s, request.requestedResources.find? "snapshot" = some s ∧ s ≠ ""
  clientWrites : "no_client_writes" ∈ g.conditions → mutates request.action = false
  activeTesting : "no_production_active_testing" ∈ g.conditions → request.action ≠ .activeTest

def conditionsMet (request : CapabilityRequest) (g : AuthorityGrant) : Bool :=
  (!decide ("immutable_snapshot_only" ∈ g.conditions) ||
      decide ((request.requestedResources.find? "snapshot").getD "" ≠ "")) &&
    (!decide ("no_client_writes" ∈ g.conditions) || !mutates request.action) &&
    (!decide ("no_production_active_testing" ∈ g.conditions) ||
      decide (request.action ≠ .activeTest))

/-- The conditions one after the other. -/
lemma conditions_parts {request : CapabilityRequest} {g : AuthorityGrant} :
    (("immutable_snapshot_only" ∈ g.conditions →
        ∃ s, request.requestedResources.find? "snapshot" = some s ∧ s ≠ "") ∧
      ("no_client_writes" ∈ g.conditions → mutates request.action = false)) ∧
        ("no_production_active_testing" ∈ g.conditions → request.action ≠ .activeTest) ↔
      ConditionsMet request g := by
  constructor
  · rintro ⟨⟨hsnapshot, hwrites⟩, htesting⟩
    exact ⟨hsnapshot, hwrites, htesting⟩
  · rintro ⟨hsnapshot, hwrites, htesting⟩
    exact ⟨⟨hsnapshot, hwrites⟩, htesting⟩

lemma conditionsMet_iff {request : CapabilityRequest} {g : AuthorityGrant} :
    conditionsMet request g = true ↔ ConditionsMet request g := by
  have hsnapshot : (request.requestedResources.find? "snapshot").getD "" ≠ "" ↔
      ∃ s, request.requestedResources.find? "snapshot" = some s ∧ s ≠ "" := by
    cases request.requestedResources.find? "snapshot" <;> simp
  simp only [conditionsMet, Bool.and_eq_true, Bool.or_eq_true, Bool.not_eq_true',
    decide_eq_false_iff_not, decide_eq_true_eq, hsnapshot, ← imp_iff_not_or]
  exact conditions_parts

instance (request : CapabilityRequest) (g : AuthorityGrant) : Decidable (ConditionsMet request g) :=
  decidable_of_iff _ conditionsMet_iff

structure ApprovalBinds (request : CapabilityRequest) (a : Approval) : Prop where
  recorded : a.approvalId ≠ ""
  approved : a.decision = "approved"
  decided : ∃ by_, a.decidedByPrincipalId = some by_ ∧ by_ ≠ ""
  target : a.targetId = request.targetId
  capability : a.capabilityId = request.capabilityId
  action : a.action = request.action
  engagement : a.engagementId = request.engagementId

structure GrantMatches (request : CapabilityRequest) (now : Datetime) (g : AuthorityGrant) : Prop where
  grantId : request.authorityGrantId = some g.grantId
  engagement : g.engagementId = request.engagementId
  principal : g.principalId = request.principalId
  capability : ∀ c, g.capabilityId = some c → c = request.capabilityId
  target : ∀ t, g.targetId = some t → t = request.targetId
  action : g.action = request.action
  active : g.isActive now none = true

lemma isActive_some {g : AuthorityGrant} {now : Datetime} {a : Action} :
    g.isActive now (some a) = (g.isActive now none && decide (g.action = a)) := by
  simp only [AuthorityGrant.isActive, Option.all_some, Option.all_none]
  split_ifs <;> simp

lemma mem_matching {request : CapabilityRequest} {grants : List AuthorityGrant} {now : Datetime}
    {g : AuthorityGrant} :
    g ∈ matching request grants now ↔ g ∈ grants ∧ GrantMatches request now g := by
  simp only [matching, List.mem_filter, Bool.and_eq_true, decide_eq_true_eq, Option.all_eq_true,
    isActive_some]
  constructor
  · rintro ⟨hg, ⟨⟨⟨⟨⟨h₁, h₂⟩, h₃⟩, h₄⟩, h₅⟩, h₆, h₇⟩⟩
    exact ⟨hg, h₁, h₂, h₃, h₄, h₅, h₇, h₆⟩
  · rintro ⟨hg, h₁, h₂, h₃, h₄, h₅, h₇, h₆⟩
    exact ⟨hg, ⟨⟨⟨⟨⟨h₁, h₂⟩, h₃⟩, h₄⟩, h₅⟩, h₆, h₇⟩⟩

section Gates

variable {request : CapabilityRequest} {engagement : Engagement} {grants : List AuthorityGrant}
  {manifest : CapabilityManifest} {approval : Option Approval} {now : Datetime}

lemma ref_authorityGrant (field : String) :
    ref (policyInput request engagement grants manifest approval now) ["authority_grant", field] =
      (grantInput request grants now).member? field := rfl

lemma ref_approval (field : String) :
    ref (policyInput request engagement grants manifest approval now) ["approval", field] =
      (approvalInput approval).member? field := rfl

lemma lookup_map_str (d : Dict String String) (k : String) :
    (d.rows.map fun e => (e.1, Value.str e.2)).lookup k = (d.find? k).map Value.str := by
  obtain ⟨rows, hn⟩ := d
  simp only [Dict.find?, Table.get?]
  clear hn
  induction rows with
  | nil => rfl
  | cons e rows ih =>
    by_cases he : k = e.1
    · simp [List.find?, he]
    · have he' : (k == e.1) = false := by simpa using he
      simp only [List.map_cons, List.lookup_cons, he', ih, List.find?, decide_eq_false (Ne.symm he)]

lemma ref_snapshot :
    ref (policyInput request engagement grants manifest approval now)
      ["requested_resources", "snapshot"] =
      (request.requestedResources.find? "snapshot").map Value.str :=
  lookup_map_str request.requestedResources "snapshot"

lemma ref_engagement (field : String) :
    ref (policyInput request engagement grants manifest approval now) ["engagement", field] =
      (engagementInput request engagement).member? field := rfl

lemma ref_capability (field : String) :
    ref (policyInput request engagement grants manifest approval now) ["capability", field] =
      (capabilityInput manifest).member? field := rfl

lemma ref_action :
    ref (policyInput request engagement grants manifest approval now) ["action"] =
      some (.str request.action.value) := rfl

lemma ref_target :
    ref (policyInput request engagement grants manifest approval now) ["target", "id"] =
      some (.str request.targetId) := rfl

lemma capabilityRegistered_iff :
    Kernel.capabilityRegistered (policyInput request engagement grants manifest approval now) =
      true ↔ manifest.capabilityId ≠ "" := by
  have hid : (capabilityInput manifest).member? "id" = some (.str manifest.capabilityId) := rfl
  have hregistered : (capabilityInput manifest).member? "registered" = some (.bool true) := rfl
  simp [Kernel.capabilityRegistered, ref_capability, hid, hregistered, Term.holds, neq, eq]

lemma engagementWorking_iff :
    Kernel.engagementWorking (policyInput request engagement grants manifest approval now) = true ↔
      engagement.status.value ∈ Kernel.workingEngagementStatuses := by
  have hstatus : (engagementInput request engagement).member? "status" =
      some (.str engagement.status.value) := rfl
  rw [Kernel.engagementWorking, ref_engagement, hstatus, Term.among, List.contains_iff_mem]

lemma knownEngagementAuthorityLevel_true :
    Kernel.knownEngagementAuthorityLevel
      (policyInput request engagement grants manifest approval now) = true := by
  have hlevel : (engagementInput request engagement).member? "authority_level" =
      some (.str engagement.authorityLevel.value) := rfl
  rw [Kernel.knownEngagementAuthorityLevel, ref_engagement, hlevel, Term.among]
  cases engagement.authorityLevel <;> decide

lemma targetInEngagementScope_iff :
    Kernel.targetInEngagementScope (policyInput request engagement grants manifest approval now) =
      true ↔ request.targetId ∈ engagement.targetIds := by
  have hids : (engagementInput request engagement).member? "target_ids" =
      some (.arr (engagement.targetIds.map .str)) := rfl
  simp [Kernel.targetInEngagementScope, ref_engagement, ref_target, hids, member]

lemma grantMatched_iff :
    Kernel.grantMatched (policyInput request engagement grants manifest approval now) = true ↔
      matching request grants now ≠ [] := by
  rw [Kernel.grantMatched, ref_authorityGrant, grantInput]
  cases matching request grants now <;> simp [Value.member?, Term.holds]

lemma actionKnown_true :
    Kernel.actionKnown (policyInput request engagement grants manifest approval now) = true := by
  rw [Kernel.actionKnown, ref_action, Term.among]
  cases request.action <;> decide

lemma actionMutates_eq :
    Kernel.actionMutates (policyInput request engagement grants manifest approval now) =
      mutates request.action := rfl

lemma actionAllowedByEngagementLevel_iff :
    Kernel.actionAllowedByEngagementLevel
      (policyInput request engagement grants manifest approval now) = true ↔
      (mutates request.action = true → engagement.authorityLevel = .remediation) := by
  have hlevel : eq (ref (policyInput request engagement grants manifest approval now)
      ["engagement", "authority_level"]) (some (.str "remediation")) = true ↔
        engagement.authorityLevel = .remediation := by
    have hl : (engagementInput request engagement).member? "authority_level" =
        some (.str engagement.authorityLevel.value) := rfl
    rw [ref_engagement, hl, eq, Value.jsonEq_str, decide_eq_true_eq]
    cases engagement.authorityLevel <;> decide
  rw [Kernel.actionAllowedByEngagementLevel, actionMutates_eq, Bool.or_eq_true, Bool.and_eq_true,
    hlevel, Bool.not_eq_true']
  cases mutates request.action <;> simp

lemma capabilityAuthorityOk_iff :
    Kernel.capabilityAuthorityOk (policyInput request engagement grants manifest approval now) =
      true ↔ manifest.requiredAuthority = "" ∨ manifest.requiredAuthority = request.action.value := by
  have hauth : (capabilityInput manifest).member? "required_authority" =
      some (.str manifest.requiredAuthority) := rfl
  have hrequired : Kernel.capabilityAuthorityRequired
      (policyInput request engagement grants manifest approval now) =
        !decide (manifest.requiredAuthority = "") := by
    simp [Kernel.capabilityAuthorityRequired, ref_capability, hauth, neq, Term.holds]
  rw [Kernel.capabilityAuthorityOk, hrequired, ref_action, ref_capability, hauth, eq,
    Value.jsonEq_str, Bool.not_not, Bool.or_eq_true, decide_eq_true_eq, decide_eq_true_eq]
  exact or_congr_right eq_comm

def highRisk (request : CapabilityRequest) (manifest : CapabilityManifest) : Bool :=
  Kernel.highRiskClasses.contains manifest.riskClass.value ||
    Kernel.highRiskClasses.contains request.risk

lemma highRisk_iff : highRisk request manifest = true ↔
    (manifest.riskClass = .high ∨ manifest.riskClass = .critical) ∨ request.risk = "high" ∨
      request.risk = "critical" := by
  have hclass : Kernel.highRiskClasses.contains manifest.riskClass.value = true ↔
      manifest.riskClass = .high ∨ manifest.riskClass = .critical := by
    cases manifest.riskClass <;> decide
  rw [highRisk, Bool.or_eq_true, hclass]
  refine or_congr_right ?_
  rw [List.contains_iff_mem, Kernel.highRiskClasses, List.mem_cons, List.mem_singleton, or_comm]

lemma highRiskOperation_eq :
    Kernel.highRiskOperation (policyInput request engagement grants manifest approval now) =
      highRisk request manifest := rfl

lemma capabilityRequiresApproval_eq :
    Kernel.capabilityRequiresApproval
      (policyInput request engagement grants manifest approval now) = manifest.requiresApproval :=
  rfl

/-- The Boolean both deciders compute for a recorded approval. -/
def approvalBound (request : CapabilityRequest) (manifest : CapabilityManifest) :
    Option Approval → Bool
  | none => false
  | some a => a.approvalId ≠ "" && a.decision = "approved" &&
      a.decidedByPrincipalId.getD "" ≠ "" && a.targetId = request.targetId &&
      a.capabilityId = manifest.capabilityId && a.action.value = request.action.value &&
      a.engagementId = request.engagementId

lemma approved_eq :
    Kernel.approved (policyInput request engagement grants manifest approval now) =
      approvalBound request manifest approval := by
  have hcapability : ref (policyInput request engagement grants manifest approval now)
      ["capability", "id"] = some (.str manifest.capabilityId) := rfl
  have hengagement : ref (policyInput request engagement grants manifest approval now)
      ["engagement", "id"] = some (.str request.engagementId) := rfl
  simp only [Kernel.approved, ref_approval, hcapability, hengagement, ref_action, ref_target]
  cases approval with
  | none => rfl
  | some a => simp [approvalInput, Value.member?, List.lookup_cons, eq, neq, approvalBound]

lemma approvalBound_iff (hm : manifest.capabilityId = request.capabilityId) :
    approvalBound request manifest approval = true ↔
      ∃ a, approval = some a ∧ ApprovalBinds request a := by
  cases approval with
  | none => simp [approvalBound]
  | some a =>
    simp only [approvalBound, hm, Bool.and_eq_true, decide_eq_true_eq, Option.some.injEq,
      exists_eq_left']
    constructor
    · rintro ⟨⟨⟨⟨⟨⟨hi, hd⟩, hb⟩, ht⟩, hc⟩, ha⟩, he⟩
      refine ⟨hi, hd, ?_, ht, hc, Action.value_injective ha, he⟩
      cases hp : a.decidedByPrincipalId with
      | none => simp [hp] at hb
      | some by_ => exact ⟨by_, rfl, by simpa [hp] using hb⟩
    · rintro ⟨hi, hd, ⟨by_, hp, hb⟩, ht, hc, ha, he⟩
      exact ⟨⟨⟨⟨⟨⟨hi, hd⟩, by simpa [hp] using hb⟩, ht⟩, hc⟩, congrArg _ ha⟩, he⟩

lemma grantRequires_eq (c : String) {g : AuthorityGrant} {gs : List AuthorityGrant}
    (hg : matching request grants now = g :: gs) :
    Kernel.grantRequires (policyInput request engagement grants manifest approval now) c =
      decide (c ∈ g.conditions) := by
  rw [Kernel.grantRequires, ref_authorityGrant, grantInput, hg]
  simp [Value.member?, List.lookup_cons, member, List.any_eq]

lemma grantConditionsOk_iff {g : AuthorityGrant} {gs : List AuthorityGrant}
    (hg : matching request grants now = g :: gs) :
    Kernel.grantConditionsOk (policyInput request engagement grants manifest approval now) = true ↔
      ConditionsMet request g := by
  have hsnapshot : neq (ref (policyInput request engagement grants manifest approval now)
      ["requested_resources", "snapshot"]) (some (.str "")) = true ↔
        ∃ s, request.requestedResources.find? "snapshot" = some s ∧ s ≠ "" := by
    rw [ref_snapshot]
    cases request.requestedResources.find? "snapshot" <;> simp [neq]
  have hactive : neq (some (.str request.action.value)) (some (.str "active_test")) = true ↔
      request.action ≠ .activeTest := by
    cases request.action <;> decide
  have himp (p q : Prop) : (¬ p ∨ p ∧ q) ↔ (p → q) := by
    by_cases hp : p <;> simp [hp]
  simp only [Kernel.grantConditionsOk, Kernel.snapshotConditionOk, Kernel.noClientWritesConditionOk,
    Kernel.noActiveTestingConditionOk, Kernel.grantRequiresSnapshot,
    Kernel.grantRequiresNoClientWrites, Kernel.grantRequiresNoActiveTesting, ref_action,
    grantRequires_eq _ hg, actionMutates_eq, Bool.and_eq_true, Bool.or_eq_true, Bool.not_eq_true',
    decide_eq_false_iff_not, decide_eq_true_eq, hsnapshot, hactive, himp]
  exact conditions_parts

lemma grantFieldOk_of_eq (field v : String) (requested : List String)
    (hf : (grantInput request grants now).member? field = some (.str v))
    (hr : v = "" ∨ ref (policyInput request engagement grants manifest approval now) requested =
      some (.str v)) :
    Kernel.grantFieldOk (policyInput request engagement grants manifest approval now) field
      requested = true := by
  rw [Kernel.grantFieldOk, ref_authorityGrant, hf]
  rcases hr with rfl | hr
  · simp [eq]
  · simp [hr, eq]

/-- The five field bindings of the kernel hold of every grant the service resolves; only the grant's
own id and its conditions are left to check. -/
lemma grantBindingOk_iff (hm : manifest.capabilityId = request.capabilityId) {g : AuthorityGrant}
    {gs : List AuthorityGrant} (hg : matching request grants now = g :: gs) :
    Kernel.grantBindingOk (policyInput request engagement grants manifest approval now) = true ↔
      g.grantId ≠ "" ∧ ConditionsMet request g := by
  obtain ⟨-, hmatch⟩ := mem_matching.mp (hg ▸ List.mem_cons_self : g ∈ matching request grants now)
  have hgrant : grantInput request grants now = .obj
      [("matched", .bool true), ("grant_ids", .arr [.str g.grantId]),
        ("conditions", .arr (g.conditions.map .str)),
        ("principal_id", .str g.principalId), ("engagement_id", .str g.engagementId),
        ("capability_id", .str (g.capabilityId.getD "")),
        ("target_id", .str (g.targetId.getD "")), ("action", .str g.action.value)] := by
    rw [grantInput, hg]
  have hfield (field v : String) (requested : List String)
      (hf : (grantInput request grants now).member? field = some (.str v))
      (hr : v = "" ∨ ref (policyInput request engagement grants manifest approval now) requested =
        some (.str v)) :
      Kernel.grantFieldOk (policyInput request engagement grants manifest approval now) field
        requested = true := grantFieldOk_of_eq field v requested hf hr
  have hprincipal := hfield "principal_id" g.principalId ["principal", "id"]
    (by rw [hgrant]; rfl) (Or.inr (by rw [hmatch.principal]; rfl))
  have hengagement := hfield "engagement_id" g.engagementId ["engagement", "id"]
    (by rw [hgrant]; rfl) (Or.inr (by rw [hmatch.engagement]; rfl))
  have hcapability := hfield "capability_id" (g.capabilityId.getD "") ["capability", "id"]
    (by rw [hgrant]; rfl) (by
      cases hc : g.capabilityId with
      | none => exact Or.inl rfl
      | some c =>
        refine Or.inr ?_
        rw [Option.getD_some, hmatch.capability c hc, ← hm]
        rfl)
  have htarget := hfield "target_id" (g.targetId.getD "") ["target", "id"]
    (by rw [hgrant]; rfl) (by
      cases ht : g.targetId with
      | none => exact Or.inl rfl
      | some t =>
        refine Or.inr ?_
        rw [Option.getD_some, hmatch.target t ht]
        rfl)
  have haction := hfield "action" g.action.value ["action"]
    (by rw [hgrant]; rfl) (Or.inr (by rw [hmatch.action]; rfl))
  have hone : eq (count (ref (policyInput request engagement grants manifest approval now)
      ["authority_grant", "grant_ids"])) (some (.int 1)) = true := by
    rw [ref_authorityGrant, hgrant]
    rfl
  have hid : neq ((ref (policyInput request engagement grants manifest approval now)
      ["authority_grant", "grant_ids"]).nth 0) (some (.str "")) = true ↔ g.grantId ≠ "" := by
    have hnth : (ref (policyInput request engagement grants manifest approval now)
        ["authority_grant", "grant_ids"]).nth 0 = some (.str g.grantId) := by
      rw [ref_authorityGrant, hgrant]
      rfl
    rw [hnth, neq, Value.jsonEq_str]
    simp
  simp only [Kernel.grantBindingOk, Kernel.grantPrincipalOk, Kernel.grantEngagementOk,
    Kernel.grantCapabilityOk, Kernel.grantTargetOk, Kernel.grantActionOk, hprincipal, hengagement,
    hcapability, htarget, haction, hone, Bool.and_eq_true, Bool.true_and, Bool.and_true, hid,
    grantConditionsOk_iff hg]

end Gates

end SecScanMonitor.Application.PolicyInput
