import SecScanMonitor.Application.AssessmentReconstruction
import SecScanMonitor.Domain.Capability

/-! The way from the identifiers of a request to an assessment (`InspectionFirmRunner` of
`application/security_services.py`), and what has been checked of its untrusted inputs by the time that the
services are run. -/

namespace SecScanMonitor.Application.Firm

open Foundations Domain

structure InspectionFirmRequest where
  clientId : String
  engagementId : String
  targetId : String
  snapshotId : String
  authorityId : String
  assessmentPlanId : String
  principalId : String

structure InspectionAuthorityDecision where
  decision : String
  authorityId : String
  clientId : String
  engagementId : String
  targetId : String
  principalId : String
  action : String
  capabilityIds : List String
  opaDecisionRef : String
  /-- Whether the time has a zone, and the time. -/
  expiresAt : Bool × Datetime
  revoked : Bool

structure InspectionSandboxDecision where
  decision : String
  clientId : String
  engagementId : String
  targetId : String
  snapshotId : String
  capabilityIds : List String
  sandboxExecutionRef : String
  networkPolicy : String
  readOnly : Bool

/-- The loaders, the repository, the decision callbacks (which may be missing), and pydantic's validation of
their answers. -/
structure InspectionFirmRunner where
  services : FirmSecurityServices
  loadEngagement : String → Except Raised (Option FirmEngagement)
  loadSnapshot : String → String → Except Raised (Option InspectionSnapshot)
  loadAuthority : String → Except Raised (Option String)
  getProfileForEngagement : String → String → Except Raised (Option (List (String × Value)))
  getPlan : String → String → Except Raised (Option (List (String × Value)))
  authorize : Option (InspectionFirmRequest → FirmEngagement → AssessmentPlan → Except Raised Value)
  sandboxValidate : Option (InspectionFirmRequest → AssessmentPlan → Except Raised Value)
  validateProfile : List (String × Value) → Except Raised TargetSecurityProfile
  validatePlan : List (String × Value) → Except Raised AssessmentPlan
  validateAuthority : Value → Except Raised InspectionAuthorityDecision
  validateSandbox : Value → Except Raised InspectionSandboxDecision
  dumpDatetime : Datetime → String

/-- The times that one run of the runner reads: for the expiry of the decision, while the profile is derived
again, and in the services. -/
structure InspectionClock where
  now : Datetime
  rederivation : ℕ → Datetime
  services : ℕ → Datetime

def executableStatuses : List EngagementStatus :=
  [.authorized, .active, .evidenceCollection, .analysis, .adjudication, .reporting, .remediation]

/-- The classes under `TypeError` and `ValueError`. -/
def typeOrValueErrors : List ExceptionKind :=
  [.typeError, .valueError, .validationError, .detectionInputError, .unsupportedDetectionConstruct,
    .eventTimestampError, .serviceContractError, .invalidEngagementTransition, .adjudicationInputError,
    .jsonDecodeError, .tomlDecodeError, .unicodeEncodeError, .unicodeDecodeError]

/-- `except (TypeError, ValueError)` -/
def orMalformed {α : Type} (m : Except Raised α) (message : String) : Except Raised α :=
  match m with
  | .ok a => .ok a
  | .error e => if e.kind ∈ typeOrValueErrors then raise .permissionError message else .error e

def sortedTexts (items : List String) : List String := items.insertionSort (· ≤ ·)

namespace InspectionFirmRunner

variable (runner : InspectionFirmRunner) (request : InspectionFirmRequest)

def checkEngagement : Except Raised FirmEngagement := do
  let engagement ← orRaise (← runner.loadEngagement request.engagementId) .lookupError
    ("unknown engagement " ++ request.engagementId)
  raiseIf (engagement.clientId ≠ request.clientId) .permissionError "engagement/client scope mismatch"
  raiseIf (engagement.requesterPrincipalId ≠ request.principalId) .permissionError
    "principal is not the canonical engagement requester"
  raiseIf (engagement.status ∉ executableStatuses) .permissionError
    ("engagement is not executable in status " ++ engagement.status.value)
  raiseIf (request.targetId ∉ engagement.targetIds) .permissionError
    "target is outside the canonical engagement scope"
  return engagement

def checkAuthorityLevel : Except Raised Unit := do
  let level ← runner.loadAuthority request.authorityId
  raiseIf (level ≠ some AuthorityLevel.inspectionOnly.value) .permissionError
    "authority is not the canonical inspection-only grant"

def persistedProfileAndPlan : Except Raised (TargetSecurityProfile × AssessmentPlan) := do
  let profilePayload ← runner.getProfileForEngagement request.clientId request.engagementId
  let planPayload ← runner.getPlan request.clientId request.engagementId
  let missing := "canonical target profile or assessment plan is missing"
  let profilePayload ← orRaise profilePayload .lookupError missing
  let planPayload ← orRaise planPayload .lookupError missing
  let profile ← runner.validateProfile profilePayload
  let plan ← runner.validatePlan (planPayload.filter fun m => m.1 ≠ "profile_id")
  raiseIf (profile.targetId ≠ request.targetId ∨ profile.snapshotId ≠ request.snapshotId)
    .permissionError "profile does not match the requested target snapshot"
  raiseIf (plan.planId ≠ request.assessmentPlanId) .permissionError
    "assessment plan identifier does not match canonical state"
  raiseIf (plan.engagementId ≠ request.engagementId ∨ plan.targetId ≠ request.targetId)
    .permissionError "assessment plan escapes the canonical engagement target"
  raiseIf (plan.profileSnapshotId ≠ request.snapshotId) .permissionError
    "assessment plan snapshot does not match the requested snapshot"
  return (profile, plan)

def checkSnapshot : Except Raised InspectionSnapshot := do
  let snapshot ← orRaise (← runner.loadSnapshot request.targetId request.snapshotId) .lookupError
    "unknown immutable target snapshot"
  raiseIf (snapshot.targetId ≠ request.targetId ∨ snapshot.snapshotId ≠ request.snapshotId)
    .permissionError "snapshot loader returned a mismatched target or snapshot"
  return snapshot

def authorityDecision (now : Datetime) (engagement : FirmEngagement) (plan : AssessmentPlan) :
    Except Raised InspectionAuthorityDecision := do
  let authorize ← orRaise runner.authorize .permissionError "canonical OPA authority decision is required"
  let authority ← orMalformed (authorize request engagement plan >>= runner.validateAuthority)
    "canonical OPA authority decision is malformed"
  raiseIf (authority.decision ≠ "ALLOW" ∨ authority.authorityId ≠ request.authorityId ∨
      authority.clientId ≠ request.clientId ∨ authority.engagementId ≠ request.engagementId ∨
      authority.targetId ≠ request.targetId ∨ authority.principalId ≠ request.principalId ∨
      authority.action ≠ "inspect" ∨
      sortedTexts authority.capabilityIds ≠ sortedTexts plan.allowedCapabilities ∨
      isBlank authority.opaDecisionRef ∨ authority.revoked ∨ authority.expiresAt.1 = false ∨
      authority.expiresAt.2 ≤ now)
    .permissionError "canonical OPA authority decision does not bind this inspection"
  return authority

def sandboxDecision (plan : AssessmentPlan) : Except Raised InspectionSandboxDecision := do
  let sandboxValidate ← orRaise runner.sandboxValidate .permissionError
    "canonical sandbox admission is required"
  let sandbox ← orMalformed (sandboxValidate request plan >>= runner.validateSandbox)
    "canonical sandbox admission is malformed"
  raiseIf (sandbox.decision ≠ "ALLOW" ∨ sandbox.clientId ≠ request.clientId ∨
      sandbox.engagementId ≠ request.engagementId ∨ sandbox.targetId ≠ request.targetId ∨
      sandbox.snapshotId ≠ request.snapshotId ∨
      sortedTexts sandbox.capabilityIds ≠ sortedTexts plan.allowedCapabilities ∨
      isBlank sandbox.sandboxExecutionRef ∨ sandbox.networkPolicy ≠ "NONE" ∨ sandbox.readOnly = false)
    .permissionError "canonical sandbox admission does not bind this inspection"
  return sandbox

def checkRederived (clock : ℕ → Datetime) (engagement : FirmEngagement) (snapshot : InspectionSnapshot)
    (profile : TargetSecurityProfile) (plan : AssessmentPlan) : Except Raised Unit := do
  let (expectedProfile, expectedPlan) ← profileAndPlan runner.services clock engagement snapshot
  raiseIf ((withoutTimestamps (expectedProfile.toValue runner.dumpDatetime)).pyEq
      (withoutTimestamps (profile.toValue runner.dumpDatetime)) = false)
    .permissionError "persisted profile does not match the immutable snapshot"
  raiseIf ((withoutTimestamps (expectedPlan.toValue runner.dumpDatetime)).pyEq
      (withoutTimestamps (plan.toValue runner.dumpDatetime)) = false)
    .permissionError "persisted plan does not match the immutable snapshot"

/-- `run`, up to the call of the services. -/
def admission (clock : InspectionClock) (advisories : List Advisory) : Except Raised AssessmentCall := do
  let engagement ← runner.checkEngagement request
  runner.checkAuthorityLevel request
  let (profile, plan) ← runner.persistedProfileAndPlan request
  let _ ← plan.allowedCapabilities.mapM fun capabilityId => CapabilityRegistry.canonical.get capabilityId
  let snapshot ← runner.checkSnapshot request
  let authority ← runner.authorityDecision request clock.now engagement plan
  let sandbox ← runner.sandboxDecision request plan
  runner.checkRederived clock.rederivation engagement snapshot profile plan
  plan.validatePlan runner.services.registry engagement
  return {
      engagement, snapshot, advisories
      principalId := request.principalId
      authorityId := request.authorityId
      opaDecisionRefs := [authority.opaDecisionRef]
      sandboxExecutionRefs := [sandbox.sandboxExecutionRef]
      clock := clock.services }

def run (docs : Documents) (clock : InspectionClock) (advisories : List Advisory) :
    Effect AssessmentStore FirmAssessment := fun store =>
  match runner.admission request clock advisories with
  | .error e => (.error e, store)
  | .ok call => Firm.run docs runner.services call store

end InspectionFirmRunner

section Agreement

structure ProvenanceAgrees (p q : ProfileProvenance) : Prop where
  sourceKind : p.sourceKind = q.sourceKind
  sourceRef : p.sourceRef = q.sourceRef
  snapshotId : p.snapshotId = q.snapshotId
  evidenceId : p.evidenceId = q.evidenceId
  sourceDigest : p.sourceDigest = q.sourceDigest

structure FactAgrees (f g : ProfileFact) : Prop where
  key : f.key = g.key
  value : f.value.Agree timestamps g.value
  status : f.status = g.status
  confidence : f.confidence = g.confidence
  provenance : ProvenanceAgrees f.provenance g.provenance
  limitation : f.limitation = g.limitation

/-- Two profiles are equal in everything but when their parts were created and updated. -/
structure ProfileAgrees (p q : TargetSecurityProfile) : Prop where
  targetId : p.targetId = q.targetId
  snapshotId : p.snapshotId = q.snapshotId
  targetIdentity : p.targetIdentity = q.targetIdentity
  snapshotIdentity : p.snapshotIdentity = q.snapshotIdentity
  targetClass : p.targetClass = q.targetClass
  facts : List.Forall₂ (fun a b => List.Forall₂ FactAgrees a.2 b.2) p.factFields q.factFields
  unknowns : p.unknowns = q.unknowns
  contradictions : p.contradictions = q.contradictions

/-- Two maps have the same entries, those under the name of a timestamp apart. -/
def SameEntries {α : Type} (ms ns : List (String × α)) : Prop :=
  ∀ k, k ∉ timestamps → ms.lookup k = ns.lookup k

/-- Two plans are equal in everything but when they were created and updated. -/
structure PlanAgrees (p q : AssessmentPlan) : Prop where
  planId : p.planId = q.planId
  engagementId : p.engagementId = q.engagementId
  targetId : p.targetId = q.targetId
  profileSnapshotId : p.profileSnapshotId = q.profileSnapshotId
  targetClass : p.targetClass = q.targetClass
  requiredServices : p.requiredServices = q.requiredServices
  optionalServices : p.optionalServices = q.optionalServices
  selectedServiceVersions : SameEntries p.selectedServiceVersions q.selectedServiceVersions
  allowedCapabilities : p.allowedCapabilities = q.allowedCapabilities
  blockedCapabilities : p.blockedCapabilities = q.blockedCapabilities
  serviceDependencies : SameEntries p.serviceDependencies q.serviceDependencies
  expectedOutputs : SameEntries p.expectedOutputs q.expectedOutputs
  knownLimitations : p.knownLimitations = q.knownLimitations

lemma texts_agree {items others : List String} (h : (texts items).Agree timestamps (texts others)) :
    items = others := by
  have hitems := Value.agree_arr h
  rw [List.forall₂_map_left_iff, List.forall₂_map_right_iff] at hitems
  rw [← List.forall₂_eq_eq_eq]
  exact hitems.imp fun _ _ hst => Value.agree_str.mp hst

lemma optionalText_agree {s t : Option String} (h : (optionalText s).Agree timestamps (optionalText t)) :
    s = t := by
  cases s with
  | none =>
    cases t with
    | none => rfl
    | some t => exact absurd h Value.not_agree_null_str
  | some s =>
    cases t with
    | none => exact absurd h Value.not_agree_str_null
    | some t => exact congrArg some (Value.agree_str.mp h)

lemma sameEntries_of_agree {α : Type} {f : α → Value} {ms ns : List (String × α)}
    (hf : ∀ a b, (f a).Agree timestamps (f b) → a = b)
    (h : (Value.obj (ms.map fun m => (m.1, f m.2))).Agree timestamps
      (.obj (ns.map fun n => (n.1, f n.2)))) : SameEntries ms ns := by
  intro k hk
  have hlookup : ∀ ls : List (String × α),
      (ls.map fun l => (l.1, f l.2)).lookup k = (ls.lookup k).map f := by
    intro ls
    induction ls with
    | nil => rfl
    | cons l ls ih =>
      rw [List.map_cons, List.lookup_cons, List.lookup_cons, ih]
      cases k == l.1 with
      | true => rfl
      | false => rfl
  have hrel := Value.agree_lookup h hk
  rw [hlookup, hlookup] at hrel
  cases hm : ms.lookup k with
  | none =>
    cases hn : ns.lookup k with
    | none => rfl
    | some b =>
      rw [hm, hn] at hrel
      cases hrel
  | some a =>
    cases hn : ns.lookup k with
    | none =>
      rw [hm, hn] at hrel
      cases hrel
    | some b =>
      rw [hm, hn] at hrel
      cases hrel with
      | some hab => exact congrArg some (hf a b hab)

variable {dumpDatetime : Datetime → String}

lemma provenance_agrees {p q : ProfileProvenance}
    (h : (p.toValue dumpDatetime).Agree timestamps (q.toValue dumpDatetime)) : ProvenanceAgrees p q := by
  have hnodup : ["created_at", "updated_at", "source_kind", "source_ref", "snapshot_id", "evidence_id",
    "source_digest"].Nodup := by decide
  have hmembers := Value.agree_members h rfl hnodup
  simp only [DomainModel.members, List.cons_append, List.nil_append, List.forall₂_cons] at hmembers
  obtain ⟨-, -, hkind, href, hsnapshot, hevidence, hdigest, -⟩ := hmembers
  exact
    { sourceKind := Value.agree_str.mp (hkind (by decide))
      sourceRef := Value.agree_str.mp (href (by decide))
      snapshotId := Value.agree_str.mp (hsnapshot (by decide))
      evidenceId := optionalText_agree (hevidence (by decide))
      sourceDigest := optionalText_agree (hdigest (by decide)) }

lemma fact_agrees {f g : ProfileFact}
    (h : (f.toValue dumpDatetime).Agree timestamps (g.toValue dumpDatetime)) : FactAgrees f g := by
  have hnodup : ["created_at", "updated_at", "key", "value", "status", "confidence", "provenance",
    "limitation"].Nodup := by decide
  have hmembers := Value.agree_members h rfl hnodup
  simp only [DomainModel.members, List.cons_append, List.nil_append, List.forall₂_cons] at hmembers
  obtain ⟨-, -, hkey, hvalue, hstatus, hconfidence, hprovenance, hlimitation, -⟩ := hmembers
  exact
    { key := Value.agree_str.mp (hkey (by decide))
      value := hvalue (by decide)
      status := ProfileFactStatus.value_injective (Value.agree_str.mp (hstatus (by decide)))
      confidence := Confidence.value_injective (Value.agree_str.mp (hconfidence (by decide)))
      provenance := provenance_agrees (hprovenance (by decide))
      limitation := Value.agree_str.mp (hlimitation (by decide)) }

lemma facts_agree {fs gs : List ProfileFact}
    (h : (Value.arr (fs.map (·.toValue dumpDatetime))).Agree timestamps
      (.arr (gs.map (·.toValue dumpDatetime)))) : List.Forall₂ FactAgrees fs gs := by
  have hitems := Value.agree_arr h
  rw [List.forall₂_map_left_iff, List.forall₂_map_right_iff] at hitems
  exact hitems.imp fun _ _ hfg => fact_agrees hfg

lemma forall₂_of_append {α β : Type} {r : α → β → Prop} {as as' : List α} {bs bs' : List β}
    (h : List.Forall₂ r (as ++ as') (bs ++ bs')) (hlength : as.length = bs.length) :
    List.Forall₂ r as bs ∧ List.Forall₂ r as' bs' := by
  have hfirst := List.forall₂_take_append _ _ _ h
  have hrest := List.forall₂_drop_append _ _ _ h
  rw [List.take_left' hlength] at hfirst
  rw [List.drop_left' hlength] at hrest
  exact ⟨hfirst, hrest⟩

/-- The members of a profile in front of its fact lists. -/
def headKeys : List String :=
  ["created_at", "updated_at", "target_id", "snapshot_id", "target_identity", "snapshot_identity",
    "target_class"]

lemma profileKeys_nodup (p : TargetSecurityProfile) :
    (headKeys ++ p.factFields.map Prod.fst ++ ["unknowns", "contradictions"]).Nodup := by
  simp only [TargetSecurityProfile.factFields, List.map_cons, List.map_nil]
  decide

lemma factFields_kept (p : TargetSecurityProfile) : ∀ field ∈ p.factFields, field.1 ∉ timestamps := by
  have hnames : ∀ name ∈ p.factFields.map Prod.fst, name ∉ timestamps := by
    simp only [TargetSecurityProfile.factFields, List.map_cons, List.map_nil]
    decide
  exact fun field hfield => hnames field.1 (List.mem_map_of_mem hfield)

lemma profile_agrees {p q : TargetSecurityProfile}
    (h : (p.toValue dumpDatetime).Agree timestamps (q.toValue dumpDatetime)) : ProfileAgrees p q := by
  have hmembers := Value.agree_members h rfl (profileKeys_nodup p)
  obtain ⟨hmembers, htail⟩ := forall₂_of_append hmembers rfl
  obtain ⟨hhead, hfacts⟩ := forall₂_of_append hmembers rfl
  simp only [DomainModel.members, List.cons_append, List.nil_append, List.forall₂_cons] at hhead htail
  obtain ⟨-, -, htarget, hsnapshot, htargetIdentity, hsnapshotIdentity, hclass, -⟩ := hhead
  obtain ⟨hunknowns, hcontradictions, -⟩ := htail
  rw [List.forall₂_map_left_iff, List.forall₂_map_right_iff, List.forall₂_iff_zip] at hfacts
  obtain ⟨hlength, hfacts⟩ := hfacts
  exact
    { targetId := Value.agree_str.mp (htarget (by decide))
      snapshotId := Value.agree_str.mp (hsnapshot (by decide))
      targetIdentity := Value.agree_str.mp (htargetIdentity (by decide))
      snapshotIdentity := Value.agree_str.mp (hsnapshotIdentity (by decide))
      targetClass := Value.agree_str.mp (hclass (by decide))
      facts := by
        refine List.forall₂_iff_zip.mpr ⟨hlength, fun hab => ?_⟩
        have hkept := factFields_kept p _ (List.of_mem_zip hab).1
        exact facts_agree (hfacts hab hkept)
      unknowns := texts_agree (hunknowns (by decide))
      contradictions := texts_agree (hcontradictions (by decide)) }

lemma plan_agrees {p q : AssessmentPlan}
    (h : (p.toValue dumpDatetime).Agree timestamps (q.toValue dumpDatetime)) : PlanAgrees p q := by
  have hnodup : ["created_at", "updated_at", "plan_id", "engagement_id", "target_id",
    "profile_snapshot_id", "target_class", "required_services", "optional_services",
    "selected_service_versions", "allowed_capabilities", "blocked_capabilities", "service_dependencies",
    "expected_outputs", "known_limitations"].Nodup := by decide
  have hmembers := Value.agree_members h rfl hnodup
  simp only [DomainModel.members, List.cons_append, List.nil_append, List.forall₂_cons] at hmembers
  obtain ⟨-, -, hplan, hengagement, htarget, hsnapshot, hclass, hrequired, hoptional, hversions, hallowed,
    hblocked, hdependencies, houtputs, hlimitations, -⟩ := hmembers
  exact
    { planId := Value.agree_str.mp (hplan (by decide))
      engagementId := Value.agree_str.mp (hengagement (by decide))
      targetId := Value.agree_str.mp (htarget (by decide))
      profileSnapshotId := Value.agree_str.mp (hsnapshot (by decide))
      targetClass := Value.agree_str.mp (hclass (by decide))
      requiredServices := texts_agree (hrequired (by decide))
      optionalServices := texts_agree (hoptional (by decide))
      selectedServiceVersions := sameEntries_of_agree (fun _ _ => Value.agree_str.mp) (hversions (by decide))
      allowedCapabilities := texts_agree (hallowed (by decide))
      blockedCapabilities := texts_agree (hblocked (by decide))
      serviceDependencies := sameEntries_of_agree (fun _ _ => texts_agree) (hdependencies (by decide))
      expectedOutputs := sameEntries_of_agree (fun _ _ => texts_agree) (houtputs (by decide))
      knownLimitations := texts_agree (hlimitations (by decide)) }

end Agreement

section Admission

variable (runner : InspectionFirmRunner) (request : InspectionFirmRequest)

structure EngagementAdmits (engagement : FirmEngagement) : Prop where
  loaded : runner.loadEngagement request.engagementId = .ok (some engagement)
  client : engagement.clientId = request.clientId
  requester : engagement.requesterPrincipalId = request.principalId
  executable : engagement.status ∈ executableStatuses
  target : request.targetId ∈ engagement.targetIds

/-- The persisted profile and plan, bound to the request. -/
structure Persisted (profile : TargetSecurityProfile) (plan : AssessmentPlan) : Prop where
  profileStored : ∃ payload, runner.getProfileForEngagement request.clientId request.engagementId =
    .ok (some payload) ∧ runner.validateProfile payload = .ok profile
  planStored : ∃ payload, runner.getPlan request.clientId request.engagementId = .ok (some payload) ∧
    runner.validatePlan (payload.filter fun m => m.1 ≠ "profile_id") = .ok plan
  profileTarget : profile.targetId = request.targetId
  profileSnapshot : profile.snapshotId = request.snapshotId
  planId : plan.planId = request.assessmentPlanId
  planEngagement : plan.engagementId = request.engagementId
  planTarget : plan.targetId = request.targetId
  planSnapshot : plan.profileSnapshotId = request.snapshotId

structure SnapshotLoaded (snapshot : InspectionSnapshot) : Prop where
  loaded : runner.loadSnapshot request.targetId request.snapshotId = .ok (some snapshot)
  target : snapshot.targetId = request.targetId
  snapshot : snapshot.snapshotId = request.snapshotId

/-- A decision that allows this inspection, and nothing else. -/
structure AuthorityAllows (now : Datetime) (plan : AssessmentPlan)
    (authority : InspectionAuthorityDecision) : Prop where
  decision : authority.decision = "ALLOW"
  action : authority.action = Action.inspect.value
  authorityId : authority.authorityId = request.authorityId
  client : authority.clientId = request.clientId
  engagement : authority.engagementId = request.engagementId
  target : authority.targetId = request.targetId
  principal : authority.principalId = request.principalId
  capabilities : authority.capabilityIds.Perm plan.allowedCapabilities
  reference : isBlank authority.opaDecisionRef = false
  unrevoked : authority.revoked = false
  zoned : authority.expiresAt.1 = true
  unexpired : now < authority.expiresAt.2

structure SandboxAllows (plan : AssessmentPlan) (sandbox : InspectionSandboxDecision) : Prop where
  decision : sandbox.decision = "ALLOW"
  readOnly : sandbox.readOnly = true
  network : sandbox.networkPolicy = "NONE"
  client : sandbox.clientId = request.clientId
  engagement : sandbox.engagementId = request.engagementId
  target : sandbox.targetId = request.targetId
  snapshot : sandbox.snapshotId = request.snapshotId
  capabilities : sandbox.capabilityIds.Perm plan.allowedCapabilities
  reference : isBlank sandbox.sandboxExecutionRef = false

/-- The profile and the plan are those that the snapshot leads to. -/
def Rederived (clock : ℕ → Datetime) (engagement : FirmEngagement) (snapshot : InspectionSnapshot)
    (profile : TargetSecurityProfile) (plan : AssessmentPlan) : Prop :=
  ∃ expectedProfile expectedPlan,
    profileAndPlan runner.services clock engagement snapshot = .ok (expectedProfile, expectedPlan) ∧
      ProfileAgrees expectedProfile profile ∧ PlanAgrees expectedPlan plan

/-- Everything that has been checked when the services are called. -/
structure Admitted (clock : InspectionClock) (call : AssessmentCall) (profile : TargetSecurityProfile)
    (plan : AssessmentPlan) (authority : InspectionAuthorityDecision) (sandbox : InspectionSandboxDecision) :
    Prop where
  engagement : EngagementAdmits runner request call.engagement
  authorityLevel : runner.loadAuthority request.authorityId = .ok (some AuthorityLevel.inspectionOnly.value)
  persisted : Persisted runner request profile plan
  snapshot : SnapshotLoaded runner request call.snapshot
  rederived : Rederived runner clock.rederivation call.engagement call.snapshot profile plan
  registered : ∀ c ∈ plan.allowedCapabilities, ∃ m, CapabilityRegistry.canonical.get c = .ok m
  authorized : ∃ authorize, runner.authorize = some authorize ∧
    (authorize request call.engagement plan >>= runner.validateAuthority) = .ok authority
  authorityAllows : AuthorityAllows request clock.now plan authority
  sandboxed : ∃ sandboxValidate, runner.sandboxValidate = some sandboxValidate ∧
    (sandboxValidate request plan >>= runner.validateSandbox) = .ok sandbox
  sandboxAllows : SandboxAllows request plan sandbox
  valid : plan.validatePlan runner.services.registry call.engagement = .ok ()
  principal : call.principalId = request.principalId
  authorityId : call.authorityId = request.authorityId
  references : call.opaDecisionRefs = [authority.opaDecisionRef] ∧
    call.sandboxExecutionRefs = [sandbox.sandboxExecutionRef]

variable {runner request}

lemma orMalformed_eq_ok {α : Type} {m : Except Raised α} {message : String} {a : α} :
    orMalformed m message = .ok a ↔ m = .ok a := by
  cases m with
  | ok b => rfl
  | error e =>
    rw [orMalformed]
    split
    · exact ⟨nofun, nofun⟩
    · exact ⟨nofun, nofun⟩

lemma perm_of_sortedTexts {items others : List String} (h : sortedTexts items = sortedTexts others) :
    items.Perm others := by
  have hitems := List.perm_insertionSort (· ≤ ·) items
  have hothers := List.perm_insertionSort (· ≤ ·) others
  rw [sortedTexts, sortedTexts] at h
  rw [h] at hitems
  exact hitems.symm.trans hothers

lemma checkEngagement_eq_ok {engagement : FirmEngagement}
    (h : runner.checkEngagement request = .ok engagement) : EngagementAdmits runner request engagement := by
  rw [InspectionFirmRunner.checkEngagement] at h
  obtain ⟨loaded, hloaded, h⟩ := bind_eq_ok.mp h
  simp only [orRaise_bind_eq_ok, raiseIf_bind_eq_ok, not_not] at h
  obtain ⟨engagement, rfl, hclient, hrequester, hstatus, htarget, h⟩ := h
  cases h
  exact ⟨hloaded, hclient, hrequester, hstatus, htarget⟩

lemma checkAuthorityLevel_eq_ok {u : Unit} (h : runner.checkAuthorityLevel request = .ok u) :
    runner.loadAuthority request.authorityId = .ok (some AuthorityLevel.inspectionOnly.value) := by
  rw [InspectionFirmRunner.checkAuthorityLevel] at h
  obtain ⟨level, hlevel, h⟩ := bind_eq_ok.mp h
  rw [hlevel, not_not.mp (raiseIf_eq_ok.mp h)]

lemma persistedProfileAndPlan_eq_ok {profile : TargetSecurityProfile} {plan : AssessmentPlan}
    (h : runner.persistedProfileAndPlan request = .ok (profile, plan)) :
    Persisted runner request profile plan := by
  rw [InspectionFirmRunner.persistedProfileAndPlan] at h
  obtain ⟨profilePayload, hprofilePayload, h⟩ := bind_eq_ok.mp h
  obtain ⟨planPayload, hplanPayload, h⟩ := bind_eq_ok.mp h
  simp only [orRaise_bind_eq_ok] at h
  obtain ⟨storedProfile, rfl, storedPlan, rfl, h⟩ := h
  obtain ⟨p, hp, h⟩ := bind_eq_ok.mp h
  obtain ⟨q, hq, h⟩ := bind_eq_ok.mp h
  simp only [raiseIf_bind_eq_ok, not_or, not_not] at h
  obtain ⟨⟨hprofileTarget, hprofileSnapshot⟩, hplanId, ⟨hengagement, htarget⟩, hsnapshot, h⟩ := h
  cases h
  exact ⟨⟨storedProfile, hprofilePayload, hp⟩, ⟨storedPlan, hplanPayload, hq⟩, hprofileTarget,
    hprofileSnapshot, hplanId, hengagement, htarget, hsnapshot⟩

lemma checkSnapshot_eq_ok {snapshot : InspectionSnapshot}
    (h : runner.checkSnapshot request = .ok snapshot) : SnapshotLoaded runner request snapshot := by
  rw [InspectionFirmRunner.checkSnapshot] at h
  obtain ⟨loaded, hloaded, h⟩ := bind_eq_ok.mp h
  simp only [orRaise_bind_eq_ok, raiseIf_bind_eq_ok, not_or, not_not] at h
  obtain ⟨snapshot, rfl, ⟨htarget, hsnapshot⟩, h⟩ := h
  cases h
  exact ⟨hloaded, htarget, hsnapshot⟩

lemma authorityDecision_eq_ok {now : Datetime} {engagement : FirmEngagement} {plan : AssessmentPlan}
    {authority : InspectionAuthorityDecision}
    (h : runner.authorityDecision request now engagement plan = .ok authority) :
    (∃ authorize, runner.authorize = some authorize ∧
        (authorize request engagement plan >>= runner.validateAuthority) = .ok authority) ∧
      AuthorityAllows request now plan authority := by
  rw [InspectionFirmRunner.authorityDecision] at h
  simp only [orRaise_bind_eq_ok] at h
  obtain ⟨authorize, hauthorize, h⟩ := h
  obtain ⟨decided, hdecided, h⟩ := bind_eq_ok.mp h
  simp only [raiseIf_bind_eq_ok, not_or, not_not] at h
  obtain ⟨⟨hallow, hid, hclient, hengagement, htarget, hprincipal, haction, hcapabilities, href, hrevoked,
    hzone, hexpires⟩, h⟩ := h
  cases h
  exact ⟨⟨authorize, hauthorize, orMalformed_eq_ok.mp hdecided⟩,
    { decision := hallow
      action := haction
      authorityId := hid
      client := hclient
      engagement := hengagement
      target := htarget
      principal := hprincipal
      capabilities := perm_of_sortedTexts hcapabilities
      reference := Bool.eq_false_iff.mpr href
      unrevoked := Bool.eq_false_iff.mpr hrevoked
      zoned := Bool.not_eq_false _ ▸ hzone
      unexpired := lt_of_not_ge hexpires }⟩

lemma sandboxDecision_eq_ok {plan : AssessmentPlan} {sandbox : InspectionSandboxDecision}
    (h : runner.sandboxDecision request plan = .ok sandbox) :
    (∃ sandboxValidate, runner.sandboxValidate = some sandboxValidate ∧
        (sandboxValidate request plan >>= runner.validateSandbox) = .ok sandbox) ∧
      SandboxAllows request plan sandbox := by
  rw [InspectionFirmRunner.sandboxDecision] at h
  simp only [orRaise_bind_eq_ok] at h
  obtain ⟨sandboxValidate, hvalidate, h⟩ := h
  obtain ⟨decided, hdecided, h⟩ := bind_eq_ok.mp h
  simp only [raiseIf_bind_eq_ok, not_or, not_not] at h
  obtain ⟨⟨hallow, hclient, hengagement, htarget, hsnapshot, hcapabilities, href, hnetwork, hread⟩, h⟩ := h
  cases h
  exact ⟨⟨sandboxValidate, hvalidate, orMalformed_eq_ok.mp hdecided⟩,
    { decision := hallow
      readOnly := Bool.not_eq_false _ ▸ hread
      network := hnetwork
      client := hclient
      engagement := hengagement
      target := htarget
      snapshot := hsnapshot
      capabilities := perm_of_sortedTexts hcapabilities
      reference := Bool.eq_false_iff.mpr href }⟩

lemma checkRederived_eq_ok {clock : ℕ → Datetime} {engagement : FirmEngagement}
    {snapshot : InspectionSnapshot} {profile : TargetSecurityProfile} {plan : AssessmentPlan} {u : Unit}
    (h : runner.checkRederived clock engagement snapshot profile plan = .ok u) :
    Rederived runner clock engagement snapshot profile plan := by
  rw [InspectionFirmRunner.checkRederived] at h
  obtain ⟨⟨expectedProfile, expectedPlan⟩, hexpected, h⟩ := bind_eq_ok.mp h
  simp only [raiseIf_bind_eq_ok, raiseIf_eq_ok, Bool.not_eq_false] at h
  obtain ⟨hprofile, hplan⟩ := h
  exact ⟨expectedProfile, expectedPlan, hexpected, profile_agrees (Value.agree_iff_pyEq.mpr hprofile),
    plan_agrees (Value.agree_iff_pyEq.mpr hplan)⟩

lemma admission_eq_ok {clock : InspectionClock} {advisories : List Advisory} {call : AssessmentCall}
    (h : runner.admission request clock advisories = .ok call) :
    ∃ profile plan authority sandbox,
      Admitted runner request clock call profile plan authority sandbox := by
  rw [InspectionFirmRunner.admission] at h
  obtain ⟨engagement, hengagement, h⟩ := bind_eq_ok.mp h
  obtain ⟨_, hlevel, h⟩ := bind_eq_ok.mp h
  obtain ⟨⟨profile, plan⟩, hpersisted, h⟩ := bind_eq_ok.mp h
  obtain ⟨manifests, hregistered, h⟩ := bind_eq_ok.mp h
  obtain ⟨snapshot, hsnapshot, h⟩ := bind_eq_ok.mp h
  obtain ⟨authority, hauthority, h⟩ := bind_eq_ok.mp h
  obtain ⟨sandbox, hsandbox, h⟩ := bind_eq_ok.mp h
  obtain ⟨_, hrederived, h⟩ := bind_eq_ok.mp h
  obtain ⟨_, hvalid, h⟩ := bind_eq_ok.mp h
  cases h
  obtain ⟨hauthorized, hallows⟩ := authorityDecision_eq_ok hauthority
  obtain ⟨hsandboxed, hsandboxAllows⟩ := sandboxDecision_eq_ok hsandbox
  exact ⟨profile, plan, authority, sandbox,
    { engagement := checkEngagement_eq_ok hengagement
      authorityLevel := checkAuthorityLevel_eq_ok hlevel
      persisted := persistedProfileAndPlan_eq_ok hpersisted
      snapshot := checkSnapshot_eq_ok hsnapshot
      rederived := checkRederived_eq_ok hrederived
      registered := mapM_isOk.mp ⟨manifests, hregistered⟩
      authorized := hauthorized
      authorityAllows := hallows
      sandboxed := hsandboxed
      sandboxAllows := hsandboxAllows
      valid := hvalid
      principal := rfl
      authorityId := rfl
      references := ⟨rfl, rfl⟩ }⟩

/-- A request is either refused, before the services are run and with nothing stored, or admitted and then nothing
but a run of the services. -/
theorem run_only_admitted (docs : Documents) (runner : InspectionFirmRunner)
    (request : InspectionFirmRequest) (clock : InspectionClock) (advisories : List Advisory)
    (store : AssessmentStore) :
    match runner.admission request clock advisories with
    | .error e => runner.run request docs clock advisories store = (.error e, store)
    | .ok call => runner.run request docs clock advisories store =
        Firm.run docs runner.services call store ∧
          ∃ profile plan authority sandbox,
            Admitted runner request clock call profile plan authority sandbox := by
  rw [InspectionFirmRunner.run]
  cases h : runner.admission request clock advisories with
  | error e => rfl
  | ok call => exact ⟨rfl, admission_eq_ok h⟩

/-- A runner whose callers agree with each other about the sample snapshot. -/
def sampleRunner : InspectionFirmRunner where
  services := sampleServices
  loadEngagement := fun _ => .ok (some (sampleCall "SNAP-1").engagement)
  loadSnapshot := fun _ _ => .ok (some (sampleCall "SNAP-1").snapshot)
  loadAuthority := fun _ => .ok (some "inspection-only")
  getProfileForEngagement := fun _ _ => .ok (some [])
  getPlan := fun _ _ => .ok (some [])
  authorize := some fun _ _ _ => .ok .null
  sandboxValidate := some fun _ _ => .ok .null
  validateProfile := fun _ => .ok { sampleProfile "SNAP-1" with createdAt := 1 }
  validatePlan := fun _ =>
    routeServices ⟨1, 1⟩ (sampleProfile "SNAP-1") (sampleCall "SNAP-1").engagement sampleServices.registry
  validateAuthority := fun _ => .ok ⟨"ALLOW", "AUTH-1", "CL-1", "EN-1", "T-1", "U-1", "inspect",
    ["CAP-REPO-READONLY-INSPECTION"], "OPA-1", (true, 10), false⟩
  validateSandbox := fun _ => .ok ⟨"ALLOW", "CL-1", "EN-1", "T-1", "SNAP-1",
    ["CAP-REPO-READONLY-INSPECTION"], "SBX-1", "NONE", true⟩
  dumpDatetime := fun t => if t = 0 then "1970-01-01T00:00:00Z" else "1970-01-01T00:00:00.000001Z"

example : (sampleRunner.admission ⟨"CL-1", "EN-1", "T-1", "SNAP-1", "AUTH-1", "PLAN-EN-1-SNAP-1", "U-1"⟩
    ⟨9, fun _ => 0, fun _ => 0⟩ []).isOk = true := by decide +kernel

example : (sampleRunner.admission ⟨"CL-1", "EN-1", "T-1", "SNAP-1", "AUTH-1", "PLAN-EN-1-SNAP-1", "U-1"⟩
    ⟨10, fun _ => 0, fun _ => 0⟩ []).isOk = false := by decide +kernel

end Admission

end SecScanMonitor.Application.Firm
