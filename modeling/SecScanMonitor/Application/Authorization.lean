import SecScanMonitor.Application.PolicyInput

/-! What an allowed capability request implies, and where the in-memory mirror of the kernel gives the
kernel's decision on the inputs the service builds. -/

namespace SecScanMonitor.Application.Authorization

open Foundations Foundations.Rego Domain Policy PolicyInput
open AuthorityService (matching grantInput approvalInput policyInput)

/-- `OpaSubprocessClient.decide` with the binary at hand; what `opa` writes on a conflict is its own. -/
def opaDecide (conflictReport : String) (request : Value) : Except Raised PolicyDecision :=
  match Kernel.decision request with
  | .ok d => .ok d
  | .error .completeRule => raise .opaEvaluationError
      ("opa eval failed: " ++ String.ofList (conflictReport.toList.take 400))

lemma decision_of_opaDecide {report : String} {input : Value} {d : PolicyDecision}
    (h : opaDecide report input = .ok d) : Kernel.decision input = .ok d := by
  simp only [opaDecide] at h
  split at h
  · rename_i e he
    rw [he, Except.ok.inj h]
  · cases h

lemma gates_of_decision_allow {input : Value} (h : Kernel.decision input = .ok .allow) :
    Kernel.authorizationGatesOk input = true ∧ Kernel.grantBindingOk input = true ∧
      (Kernel.approved input = true ∨
        (Kernel.highRiskOperation input = false ∧ Kernel.capabilityRequiresApproval input = false)) := by
  obtain ⟨hallow, hall⟩ := (complete_eq_ok_iff (by decide)).mp h
  obtain ⟨hgates, happroval⟩ := Kernel.derives_allow_iff.mp hallow
  have hdeny : ¬ Kernel.Derives input .deny := fun hd => by
    have := hall _ hd
    cases this
  rw [Kernel.derives_deny_of_gates hgates, not_or] at hdeny
  exact ⟨hgates, by simpa using hdeny.2, happroval⟩

def NeedsApproval (request : CapabilityRequest) (manifest : CapabilityManifest) : Prop :=
  ((manifest.riskClass = .high ∨ manifest.riskClass = .critical) ∨ request.risk = "high" ∨
    request.risk = "critical") ∨ manifest.requiresApproval = true

structure Authorized (registry : CapabilityRegistry) (request : CapabilityRequest)
    (engagement : Engagement) (grants : List AuthorityGrant) (approval : Option Approval)
    (now : Datetime) : Prop where
  registered : ∃ manifest, registry.get request.capabilityId = .ok manifest ∧
    manifest.capabilityId = request.capabilityId ∧
    (manifest.requiredAuthority = "" ∨ manifest.requiredAuthority = request.action.value) ∧
    (NeedsApproval request manifest → ∃ a, approval = some a ∧ ApprovalBinds request a)
  working : engagement.status.value ∈ Kernel.workingEngagementStatuses
  level : engagement.authorityLevel.value ∈ Kernel.knownEngagementAuthorityLevels
  target : request.targetId ∈ engagement.targetIds
  granted : ∃ g ∈ grants, GrantMatches request now g ∧ ConditionsMet request g
  mutation : request.action = .mutate ∨ request.action = .remediate ∨ request.action = .activeTest →
    engagement.authorityLevel = .remediation

theorem decide_allow_authorized (report : String) (append : AuditEvent → Except Raised Unit)
    (inputSha256 : Value → String) (registry : CapabilityRegistry) (request : CapabilityRequest)
    (engagement : Engagement) (grants : List AuthorityGrant) (approval : Option Approval)
    (now : Datetime)
    (h : AuthorityService.decide (opaDecide report) append inputSha256 registry request engagement
      grants approval now = .ok .allow) :
    Authorized registry request engagement grants approval now := by
  obtain ⟨manifest, hget, hpolicy⟩ := AuthorityService.policy_of_decide_allow _ _ _ h
  obtain ⟨-, hm⟩ := CapabilityRegistry.mem_of_get hget
  obtain ⟨hgates, hbinding, happroval⟩ := gates_of_decision_allow (decision_of_opaDecide hpolicy)
  simp only [Kernel.authorizationGatesOk, Bool.and_eq_true] at hgates
  obtain ⟨⟨⟨⟨⟨⟨-, hwork⟩, -⟩, htarget⟩, hgrant⟩, haction⟩, hauth⟩ := hgates
  obtain ⟨g, gs, hg⟩ := List.exists_cons_of_ne_nil (grantMatched_iff.mp hgrant)
  obtain ⟨-, hconditions⟩ := (grantBindingOk_iff hm hg).mp hbinding
  refine ⟨⟨manifest, hget, hm, capabilityAuthorityOk_iff.mp hauth, fun hneeds => ?_⟩,
    engagementWorking_iff.mp hwork, ?_, targetInEngagementScope_iff.mp htarget, ?_,
    fun hmutates => actionAllowedByEngagementLevel_iff.mp haction (mutates_iff.mpr hmutates)⟩
  · rcases happroval with ha | ⟨hrisk, hrequires⟩
    · rw [approved_eq] at ha
      exact (approvalBound_iff hm).mp ha
    · rcases hneeds with hr | hr
      · rw [highRiskOperation_eq, highRisk_iff.mpr hr] at hrisk
        cases hrisk
      · rw [capabilityRequiresApproval_eq, hr] at hrequires
        cases hrequires
  · cases engagement.authorityLevel <;> decide
  · obtain ⟨hmem, hmatch⟩ := mem_matching.mp (hg ▸ List.mem_cons_self)
    exact ⟨g, hmem, hmatch, hconditions⟩

/-- An engagement, a grant for it, and an inspection under that grant. -/
def inspectionEngagement : Engagement := ⟨"EN-1", ["TG-1"], .inspectionOnly, .active⟩

def inspectionGrant : AuthorityGrant where
  grantId := "GR-1"
  engagementId := "EN-1"
  principalId := "PR-1"
  action := .inspect
  capabilityId := some "CAP-REPO-INVENTORY"
  targetId := none
  conditions := ["no_client_writes"]
  notBefore := 0
  notAfter := none
  revokedAt := none

def inspectionRequest : CapabilityRequest where
  principalId := "PR-1"
  agentId := none
  engagementId := "EN-1"
  targetId := "TG-1"
  capabilityId := "CAP-REPO-INVENTORY"
  action := .inspect
  risk := "low"
  authorityGrantId := some "GR-1"
  approvalId := none
  workflowPhase := "inspection"
  requestedResources := Table.empty

theorem inspection_authorized :
    Authorized .canonical inspectionRequest inspectionEngagement [inspectionGrant] none 10 :=
  decide_allow_authorized "" (fun _ => .ok ())
    (fun _ => "c633c87d54923dadc572345d7fe1745ef6d68a4f7710159acde89b0181a4f195") .canonical
    inspectionRequest inspectionEngagement [inspectionGrant] none 10 (by decide)

end SecScanMonitor.Application.Authorization
