import SecScanMonitor.Application.PolicyInput
import SecScanMonitor.Policy.DeterministicAdapter

/-! The in-memory mirror of the kernel on the inputs the service builds, and the inputs on which it
gives the kernel's decision. -/

namespace SecScanMonitor.Application.Mirror

open Foundations Foundations.Rego Domain Domain.Documents Policy PolicyInput
open AuthorityService
  (matching grantInput approvalInput engagementInput capabilityInput resourcesInput policyInput)

variable {request : CapabilityRequest} {engagement : Engagement} {grants : List AuthorityGrant}
  {manifest : CapabilityManifest} {approval : Option Approval} {now : Datetime}

section Adapter

lemma differs_str (s t : String) : DeterministicDecisionAdapter.differs (.str s) (.str t) =
    (!decide (s = "") && !decide (s = t)) := by
  rw [DeterministicDecisionAdapter.differs, Value.truthy_str, Value.pyEq_str]

lemma recordedApproval_eq :
    DeterministicDecisionAdapter.decide.recordedApproval (approvalInput approval)
      (.obj [("id", .str request.targetId)]) (capabilityInput manifest)
      (.str request.action.value) (engagementInput request engagement) =
      .ok (approvalBound request manifest approval) := by
  have htarget : getKey (.obj [("id", .str request.targetId)]) "id" = .ok (.str request.targetId) :=
    rfl
  have hcapability : getKey (capabilityInput manifest) "id" = .ok (.str manifest.capabilityId) := rfl
  have hengagement : getKey (engagementInput request engagement) "id" =
      .ok (.str request.engagementId) := rfl
  cases approval with
  | none => rfl
  | some a =>
    have hfield (key : String) {v : Value} (h : (approvalInput (some a)).member? key = some v) :
        getKey (approvalInput (some a)) key = .ok v := getKey_of_member h
    rw [DeterministicDecisionAdapter.decide.recordedApproval, hfield "recorded" rfl,
      hfield "id" rfl, hfield "decision" rfl,
      hfield "decided_by_principal_id" rfl, hfield "target_id" rfl,
      hfield "capability_id" rfl, hfield "action" rfl,
      hfield "engagement_id" rfl]
    simp only [ok_bind, htarget, hcapability, hengagement, Value.truthy_str, Value.pyEq_str,
      approvalBound]
    split_ifs <;> simp_all <;> rfl

lemma highRiskRequest_eq :
    DeterministicDecisionAdapter.decide.highRiskRequest (capabilityInput manifest)
      (policyInput request engagement grants manifest approval now) =
      .ok (highRisk request manifest || manifest.requiresApproval) := by
  have hclass : getKey (capabilityInput manifest) "risk_class" =
      .ok (.str manifest.riskClass.value) := rfl
  have hrequires : getKey (capabilityInput manifest) "requires_approval" =
      .ok (.bool manifest.requiresApproval) := rfl
  have hrisk : getKey (policyInput request engagement grants manifest approval now) "risk" =
      .ok (.str request.risk) := rfl
  have hhigh : highRisk request manifest =
      (decide (manifest.riskClass.value ∈ DeterministicDecisionAdapter.highRisk) ||
        decide (request.risk ∈ DeterministicDecisionAdapter.highRisk)) := by
    simp only [highRisk, List.contains_eq_mem]
    rfl
  rw [DeterministicDecisionAdapter.decide.highRiskRequest, hclass, hrequires, hrisk, hhigh]
  simp only [ok_bind, inStrings_str, Value.truthy_bool]
  split_ifs <;> simp_all <;> rfl

lemma within_strings (c : String) (names : List String) :
    DeterministicDecisionAdapter.decide.within c (names.map .str) = decide (c ∈ names) := by
  simp [DeterministicDecisionAdapter.decide.within, List.any_eq]

lemma snapshotRefused_eq (names : List String) :
    DeterministicDecisionAdapter.decide.snapshotRefused (names.map .str)
      (policyInput request engagement grants manifest approval now) =
      .ok (decide ("immutable_snapshot_only" ∈ names) &&
        decide ((request.requestedResources.find? "snapshot").getD "" = "")) := by
  have hresources : getKeyD (policyInput request engagement grants manifest approval now)
      "requested_resources" (.obj []) = .ok (resourcesInput request) := rfl
  have hsnapshot : getKey (resourcesInput request) "snapshot" =
      .ok (((request.requestedResources.find? "snapshot").map Value.str).getD .null) := by
    rw [← lookup_map_str]
    rfl
  have htruthy : (((request.requestedResources.find? "snapshot").map Value.str).getD .null).truthy =
      !decide ((request.requestedResources.find? "snapshot").getD "" = "") := by
    cases request.requestedResources.find? "snapshot" with
    | none => rfl
    | some s => exact Value.truthy_str s
  rw [DeterministicDecisionAdapter.decide.snapshotRefused, within_strings, hresources]
  simp only [ok_bind, hsnapshot, htruthy, Bool.not_not]
  split_ifs with hc
  · simp_all
    rfl
  · simp_all
    rfl

lemma grantRefused_unmatched (hg : matching request grants now = []) :
    DeterministicDecisionAdapter.decide.grantRefused
      (policyInput request engagement grants manifest approval now) (grantInput request grants now)
      (engagementInput request engagement) (capabilityInput manifest)
      (.obj [("id", .str request.targetId)]) (.str request.action.value) = .ok true := by
  rw [grantInput, hg]
  rfl

lemma grantRefused_matched (hm : manifest.capabilityId = request.capabilityId) {g : AuthorityGrant}
    {gs : List AuthorityGrant} (hg : matching request grants now = g :: gs) :
    DeterministicDecisionAdapter.decide.grantRefused
      (policyInput request engagement grants manifest approval now) (grantInput request grants now)
      (engagementInput request engagement) (capabilityInput manifest)
      (.obj [("id", .str request.targetId)]) (.str request.action.value) =
      .ok (decide (g.grantId = "") || !conditionsMet request g) := by
  obtain ⟨-, hmatch⟩ := mem_matching.mp (hg ▸ List.mem_cons_self : g ∈ matching request grants now)
  have hgrant : grantInput request grants now = .obj
      [("matched", .bool true), ("grant_ids", .arr [.str g.grantId]),
        ("conditions", .arr (g.conditions.map .str)),
        ("principal_id", .str g.principalId), ("engagement_id", .str g.engagementId),
        ("capability_id", .str (g.capabilityId.getD "")),
        ("target_id", .str (g.targetId.getD "")), ("action", .str g.action.value)] := by
    rw [grantInput, hg]
  have hfield {key : String} {v d : Value} (h : (grantInput request grants now).member? key = some v) :
      getKeyD (grantInput request grants now) key d = .ok v := getKeyD_of_member h
  have hstr (key v : String) (h : (grantInput request grants now).member? key = some (.str v)) :
      getKey (grantInput request grants now) key = .ok (.str v) := hfield h
  have hmatched : getKey (grantInput request grants now) "matched" = .ok (.bool true) :=
    hfield (by rw [hgrant]; rfl)
  have hids : getKeyD (grantInput request grants now) "grant_ids" (.arr []) =
      .ok (.arr [.str g.grantId]) := hfield (by rw [hgrant]; rfl)
  have hconditions : getKeyD (grantInput request grants now) "conditions" (.arr []) =
      .ok (.arr (g.conditions.map .str)) := hfield (by rw [hgrant]; rfl)
  have hprincipal : DeterministicDecisionAdapter.decide.principalRefused
      (policyInput request engagement grants manifest approval now)
      (grantInput request grants now) = .ok false := by
    rw [DeterministicDecisionAdapter.decide.principalRefused,
      hstr "principal_id" request.principalId
        (by rw [hgrant, hmatch.principal]; rfl)]
    have hid : getKeyD (policyInput request engagement grants manifest approval now) "principal"
        (.obj []) = .ok (.obj [("id", .str request.principalId)]) := rfl
    have hrequested : getKey (.obj [("id", .str request.principalId)]) "id" =
        .ok (.str request.principalId) := rfl
    simp only [ok_bind, hid, hrequested, Value.truthy_str, Value.pyEq_str]
    split_ifs
    · rfl
    · simp
      rfl
  have hcapability : DeterministicDecisionAdapter.differs (.str (g.capabilityId.getD ""))
      (.str manifest.capabilityId) = false := by
    rw [differs_str]
    cases hc : g.capabilityId with
    | none => simp
    | some c => simp [hm, hmatch.capability c hc]
  have htarget : DeterministicDecisionAdapter.differs (.str (g.targetId.getD ""))
      (.str request.targetId) = false := by
    rw [differs_str]
    cases ht : g.targetId with
    | none => simp
    | some t => simp [hmatch.target t ht]
  have hengagement : DeterministicDecisionAdapter.differs (.str g.engagementId)
      (.str request.engagementId) = false := by
    rw [differs_str, hmatch.engagement]
    simp
  have haction : DeterministicDecisionAdapter.differs (.str g.action.value)
      (.str request.action.value) = false := by
    rw [differs_str, hmatch.action]
    simp
  have hengagementId : getKey (engagementInput request engagement) "id" =
      .ok (.str request.engagementId) := rfl
  have hcapabilityId : getKey (capabilityInput manifest) "id" = .ok (.str manifest.capabilityId) :=
    rfl
  have htargetId : getKey (.obj [("id", .str request.targetId)]) "id" =
      .ok (.str request.targetId) := rfl
  have hactive : decide (request.action.value = "active_test") =
      decide (request.action = .activeTest) := by
    cases request.action <;> decide
  have hmutates : decide (request.action.value ∈ DeterministicDecisionAdapter.mutation) =
      mutates request.action := by
    cases request.action <;> decide
  rw [DeterministicDecisionAdapter.decide.grantRefused, hmatched, hids, hprincipal, hconditions,
    hstr "engagement_id" g.engagementId (by rw [hgrant]; rfl),
    hstr "capability_id" (g.capabilityId.getD "") (by rw [hgrant]; rfl),
    hstr "target_id" (g.targetId.getD "") (by rw [hgrant]; rfl),
    hstr "action" g.action.value (by rw [hgrant]; rfl)]
  simp only [ok_bind, hengagementId, hcapabilityId, htargetId, hcapability, htarget, hengagement,
    haction, toSet_strings, snapshotRefused_eq, within_strings, inStrings_str, Value.truthy_bool,
    Value.pyEq_str, DeterministicDecisionAdapter.decide.oneGrant, Value.truthy_str, hactive, hmutates,
    conditionsMet]
  simp only [Bool.not_true, Bool.false_eq_true, if_false, Bool.not_not, decide_not]
  clear hstr hfield hmatched hids hconditions
  cases decide (g.grantId = "") <;> cases decide ("immutable_snapshot_only" ∈ g.conditions) <;>
    cases decide ((request.requestedResources.find? "snapshot").getD "" = "") <;>
    cases decide ("no_client_writes" ∈ g.conditions) <;> cases mutates request.action <;>
    cases decide ("no_production_active_testing" ∈ g.conditions) <;>
    cases decide (request.action = .activeTest) <;> rfl

/-- What the request itself must meet, whatever its grant. -/
def admissible (request : CapabilityRequest) (engagement : Engagement)
    (manifest : CapabilityManifest) : Bool :=
  decide (manifest.capabilityId ≠ "") &&
    decide (engagement.status.value ∈ Kernel.workingEngagementStatuses) &&
    decide (request.targetId ∈ engagement.targetIds) &&
    (decide (manifest.requiredAuthority = "") ||
      decide (manifest.requiredAuthority = request.action.value))

def weighed (request : CapabilityRequest) (manifest : CapabilityManifest)
    (approval : Option Approval) : PolicyDecision :=
  if (highRisk request manifest || manifest.requiresApproval) &&
      !approvalBound request manifest approval then .requireApproval
  else .allow

lemma adapter_eq {refused : Bool}
    (hr : DeterministicDecisionAdapter.decide.grantRefused
      (policyInput request engagement grants manifest approval now) (grantInput request grants now)
      (engagementInput request engagement) (capabilityInput manifest)
      (.obj [("id", .str request.targetId)]) (.str request.action.value) = .ok refused) :
    DeterministicDecisionAdapter.decide
      (policyInput request engagement grants manifest approval now) =
      .ok (if admissible request engagement manifest && !refused then
        weighed request manifest approval else .deny) := by
  have hkey (key : String) {v : Value}
      (h : (policyInput request engagement grants manifest approval now).member? key = some v) :
      getKeyD (policyInput request engagement grants manifest approval now) key (.obj []) = .ok v :=
    getKeyD_of_member h
  have haction : getKey (policyInput request engagement grants manifest approval now) "action" =
      .ok (.str request.action.value) := rfl
  have hnonempty : decide (request.action.value = "") = false := by
    cases request.action <;> decide
  have hknown : decide (request.action.value ∈ DeterministicDecisionAdapter.knownActions) = true := by
    cases request.action <;> decide
  have hlevel : decide (engagement.authorityLevel.value ∈ ["inspection-only", "remediation"]) =
      true := by
    cases engagement.authorityLevel <;> decide
  have hcapability : getKey (capabilityInput manifest) "id" = .ok (.str manifest.capabilityId) := rfl
  have hregistered : getKey (capabilityInput manifest) "registered" = .ok (.bool true) := rfl
  have hrequired : getKey (capabilityInput manifest) "required_authority" =
      .ok (.str manifest.requiredAuthority) := rfl
  have hstatus : getKey (engagementInput request engagement) "status" =
      .ok (.str engagement.status.value) := rfl
  have hauthority : getKey (engagementInput request engagement) "authority_level" =
      .ok (.str engagement.authorityLevel.value) := rfl
  have htarget : getKey (.obj [("id", .str request.targetId)]) "id" = .ok (.str request.targetId) :=
    rfl
  have hids : getKeyD (engagementInput request engagement) "target_ids" (.arr []) =
      .ok (.arr (engagement.targetIds.map .str)) := rfl
  have hinside : inside (.str request.targetId) (.arr (engagement.targetIds.map .str)) =
      .ok (decide (request.targetId ∈ engagement.targetIds)) := by
    simp [inside, List.any_eq]
  have hworking : DeterministicDecisionAdapter.workingStatuses = Kernel.workingEngagementStatuses :=
    rfl
  rw [DeterministicDecisionAdapter.decide, haction, hkey "capability" rfl,
    hkey "engagement" rfl, hkey "target" rfl,
    hkey "authority_grant" rfl, hkey "approval" rfl]
  simp only [ok_bind, Value.truthy_str, inStrings_str, hnonempty, hknown, hlevel, hcapability,
    hregistered, hstatus, hauthority, htarget, hids, hinside, hr, hrequired, hworking, differs_str,
    recordedApproval_eq, highRiskRequest_eq, Bool.not_not, Bool.not_true, Bool.false_eq_true,
    if_false, ne_eq, not_true_eq_false, decide_not, admissible, weighed]
  cases decide (manifest.capabilityId = "") with
  | true => rfl
  | false =>
    cases decide (engagement.status.value ∈ Kernel.workingEngagementStatuses) with
    | false => rfl
    | true =>
      cases decide (request.targetId ∈ engagement.targetIds) with
      | false => rfl
      | true =>
        cases decide (manifest.requiredAuthority = "") <;>
          cases decide (manifest.requiredAuthority = request.action.value) <;> cases refused <;>
          cases highRisk request manifest || manifest.requiresApproval <;>
          cases approvalBound request manifest approval <;> rfl

end Adapter

section Agreement

/-- The grant the service hands to the policy: its id is a non-empty one and its conditions are met. -/
def grantSound (request : CapabilityRequest) (grants : List AuthorityGrant) (now : Datetime) : Bool :=
  match matching request grants now with
  | [] => false
  | g :: _ => decide (g.grantId ≠ "") && conditionsMet request g

def unauthorizedMutation (request : CapabilityRequest) (engagement : Engagement) : Bool :=
  mutates request.action && decide (engagement.authorityLevel ≠ .remediation)

lemma adapter_decision (hm : manifest.capabilityId = request.capabilityId) :
    DeterministicDecisionAdapter.decide
      (policyInput request engagement grants manifest approval now) =
      .ok (if admissible request engagement manifest && grantSound request grants now then
        weighed request manifest approval else .deny) := by
  cases hg : matching request grants now with
  | nil =>
    rw [adapter_eq (grantRefused_unmatched hg), grantSound, hg]
    rfl
  | cons g gs =>
    rw [adapter_eq (grantRefused_matched hm hg), grantSound, hg]
    simp

lemma gates_iff :
    Kernel.authorizationGatesOk (policyInput request engagement grants manifest approval now) =
      true ↔ admissible request engagement manifest = true ∧ matching request grants now ≠ [] ∧
        unauthorizedMutation request engagement = false := by
  have hmutation : unauthorizedMutation request engagement = false ↔
      (mutates request.action = true → engagement.authorityLevel = .remediation) := by
    rw [unauthorizedMutation]
    cases mutates request.action <;> simp
  simp only [Kernel.authorizationGatesOk, Bool.and_eq_true, capabilityRegistered_iff,
    engagementWorking_iff, knownEngagementAuthorityLevel_true, targetInEngagementScope_iff,
    grantMatched_iff, actionAllowedByEngagementLevel_iff, capabilityAuthorityOk_iff, hmutation,
    admissible, decide_eq_true_eq, Bool.or_eq_true, and_true]
  constructor
  · rintro ⟨⟨⟨⟨⟨hc, hw⟩, ht⟩, hg⟩, ha⟩, hr⟩
    exact ⟨⟨⟨⟨hc, hw⟩, ht⟩, hr⟩, hg, ha⟩
  · rintro ⟨⟨⟨⟨hc, hw⟩, ht⟩, hr⟩, hg, ha⟩
    exact ⟨⟨⟨⟨⟨hc, hw⟩, ht⟩, hg⟩, ha⟩, hr⟩

lemma grantBindingOk_eq (hm : manifest.capabilityId = request.capabilityId)
    (hg : matching request grants now ≠ []) :
    Kernel.grantBindingOk (policyInput request engagement grants manifest approval now) =
      grantSound request grants now := by
  obtain ⟨g, gs, hg⟩ := List.exists_cons_of_ne_nil hg
  rw [Bool.eq_iff_iff, grantBindingOk_iff hm hg, grantSound, hg]
  simp [conditionsMet_iff]

lemma kernel_deny_of_not_gates {input : Value}
    (h : Kernel.authorizationGatesOk input = false) : Kernel.decision input = .ok .deny := by
  have hall : ∀ d, Kernel.Derives input d → d = .deny := by
    intro d hd
    by_contra hne
    rw [Kernel.gates_of_derives hne hd] at h
    cases h
  cases hd : derived (Kernel.decisionClauses input) with
  | nil => exact complete_of_derived_nil hd
  | cons d ds =>
    have hmem : Kernel.Derives input d := by
      rw [Kernel.Derives, hd]
      exact List.mem_cons_self
    obtain rfl := hall d hmem
    exact Kernel.decision_of_derives hmem hall

lemma derives_weighed (h : Kernel.authorizationGatesOk
      (policyInput request engagement grants manifest approval now) = true) {d : PolicyDecision}
    (hd : d ≠ .deny) :
    Kernel.Derives (policyInput request engagement grants manifest approval now) d ↔
      d = weighed request manifest approval := by
  cases d with
  | deny => exact absurd rfl hd
  | allow =>
    rw [Kernel.derives_allow_iff, h, approved_eq, highRiskOperation_eq, capabilityRequiresApproval_eq,
      weighed]
    cases highRisk request manifest <;> cases manifest.requiresApproval <;>
      cases approvalBound request manifest approval <;> simp
  | requireApproval =>
    rw [Kernel.derives_require_iff, h, approved_eq, highRiskOperation_eq,
      capabilityRequiresApproval_eq, weighed]
    cases highRisk request manifest <;> cases manifest.requiresApproval <;>
      cases approvalBound request manifest approval <;> simp

lemma weighed_ne_deny : weighed request manifest approval ≠ .deny := by
  rw [weighed]
  split <;> decide

lemma kernel_of_gates (hm : manifest.capabilityId = request.capabilityId)
    (h : Kernel.authorizationGatesOk
      (policyInput request engagement grants manifest approval now) = true) {d : PolicyDecision} :
    Kernel.decision (policyInput request engagement grants manifest approval now) = .ok d ↔
      grantSound request grants now = true ∧ d = weighed request manifest approval := by
  have hne : weighed request manifest approval ≠ .deny := weighed_ne_deny
  have hw := (derives_weighed h hne).mpr rfl
  have hdeny := Kernel.derives_deny_of_gates h
  rw [actionKnown_true, grantBindingOk_eq hm (gates_iff.mp h).2.1] at hdeny
  simp only [Bool.true_eq_false, false_or] at hdeny
  constructor
  · intro hd
    obtain ⟨-, hall⟩ := mem_derived_of_complete hd (List.ne_nil_of_mem hw)
    refine ⟨?_, (hall _ hw).symm⟩
    by_contra hs
    have hden := hall _ (hdeny.mpr (by simpa using hs))
    exact weighed_ne_deny ((hall _ hw).trans hden.symm)
  · rintro ⟨hs, rfl⟩
    refine Kernel.decision_of_derives hw fun e he => ?_
    by_cases hed : e = .deny
    · subst hed
      rw [hdeny.mp he] at hs
      cases hs
    · exact (derives_weighed h hed).mp he

/-- The mirror and the kernel decide alike unless the request is admissible under a resolved grant and
exactly one of two things is wrong with it: it mutates without remediation authority, which only the
kernel refuses, or its grant is unsound, on which the kernel's clauses conflict. -/
theorem agree_iff (registry : CapabilityRegistry) (request : CapabilityRequest)
    (engagement : Engagement) (grants : List AuthorityGrant) (manifest : CapabilityManifest)
    (approval : Option Approval) (now : Datetime)
    (hget : registry.get request.capabilityId = .ok manifest) :
    (∃ d, DeterministicDecisionAdapter.decide
        (policyInput request engagement grants manifest approval now) = .ok d ∧
      Kernel.decision (policyInput request engagement grants manifest approval now) = .ok d) ↔
      (admissible request engagement manifest = true → matching request grants now ≠ [] →
        (unauthorizedMutation request engagement = true ↔ grantSound request grants now = false)) := by
  obtain ⟨-, hm⟩ := CapabilityRegistry.mem_of_get hget
  rw [adapter_decision hm]
  simp only [Except.ok.injEq, exists_eq_left']
  cases hgates : Kernel.authorizationGatesOk
      (policyInput request engagement grants manifest approval now) with
  | true =>
    obtain ⟨ha, hg, hu⟩ := gates_iff.mp hgates
    rw [kernel_of_gates hm hgates, ha, hu]
    cases hs : grantSound request grants now <;> simp [hg]
  | false =>
    rw [kernel_deny_of_not_gates hgates, Except.ok.injEq]
    by_cases hg : matching request grants now = []
    · have hs : grantSound request grants now = false := by rw [grantSound, hg]
      simp [hs, hg]
    cases ha : admissible request engagement manifest with
    | false => simp
    | true =>
      have hu : unauthorizedMutation request engagement = true := by
        by_contra hu
        rw [gates_iff.mpr ⟨ha, hg, by simpa using hu⟩] at hgates
        cases hgates
      have hne : weighed request manifest approval ≠ .deny := weighed_ne_deny
      cases hs : grantSound request grants now <;> simp [hg, hu, Ne.symm hne]

/-- A remediation asked for in an inspection-only engagement, under a grant for it. -/
def remediationEngagement : Engagement := ⟨"EN-1", ["TG-1"], .inspectionOnly, .active⟩

def remediationGrant : AuthorityGrant where
  grantId := "GR-1"
  engagementId := "EN-1"
  principalId := "PR-1"
  action := .remediate
  capabilityId := none
  targetId := none
  conditions := []
  notBefore := 0
  notAfter := none
  revokedAt := none

def remediationRequest : CapabilityRequest where
  principalId := "PR-1"
  agentId := none
  engagementId := "EN-1"
  targetId := "TG-1"
  capabilityId := "CAP-V03-RESPONSE-PROPOSAL"
  action := .remediate
  risk := "high"
  authorityGrantId := some "GR-1"
  approvalId := none
  workflowPhase := "response"
  requestedResources := Table.empty

def responseProposalManifest : CapabilityManifest :=
  ⟨"CAP-V03-RESPONSE-PROPOSAL", "1.0.0", .high, "remediate", true⟩

theorem agree_iff_remediation :
    ¬ ∃ d, DeterministicDecisionAdapter.decide (policyInput remediationRequest remediationEngagement
        [remediationGrant] responseProposalManifest none 10) = .ok d ∧
      Kernel.decision (policyInput remediationRequest remediationEngagement
        [remediationGrant] responseProposalManifest none 10) = .ok d := by
  rw [agree_iff .canonical remediationRequest remediationEngagement [remediationGrant]
    responseProposalManifest none 10 rfl]
  decide

theorem mirror_disagrees :
    ¬ ∀ (registry : CapabilityRegistry) (request : CapabilityRequest) (engagement : Engagement)
      (grants : List AuthorityGrant) (manifest : CapabilityManifest) (approval : Option Approval)
      (now : Datetime), registry.get request.capabilityId = .ok manifest →
      ∃ d, DeterministicDecisionAdapter.decide
          (policyInput request engagement grants manifest approval now) = .ok d ∧
        Kernel.decision (policyInput request engagement grants manifest approval now) = .ok d := by
  intro h
  obtain ⟨d, hadapter, hkernel⟩ := h .canonical remediationRequest remediationEngagement
    [remediationGrant] responseProposalManifest none 10 rfl
  have hrequire : DeterministicDecisionAdapter.decide (policyInput remediationRequest
      remediationEngagement [remediationGrant] responseProposalManifest none 10) =
        .ok .requireApproval := by decide
  have hdeny : Kernel.decision (policyInput remediationRequest remediationEngagement
      [remediationGrant] responseProposalManifest none 10) = .ok .deny := by decide
  rw [hadapter] at hrequire
  rw [hkernel] at hdeny
  cases hrequire
  cases hdeny

end Agreement

end SecScanMonitor.Application.Mirror
