import SecScanMonitor.Application.AttackSurface
import SecScanMonitor.Application.InspectionFirmRunner

/-! The profiles and plans that are persisted for an engagement (`save_profile`, `save_plan`, `get_plan` and
`get_profile_for_engagement` of `persistence/repositories.py`), and which of the plans a runner still runs. -/

namespace SecScanMonitor.Application.Firm

open Foundations Domain

section Repository

variable (store : AssessmentStore) (dumpDatetime : Datetime → String) (clientId engagementId : String)

/-- `save_profile` and `save_plan`; a row takes the place of the row of its key. -/
def saveProfileAndPlan (profile : TargetSecurityProfile) (plan : AssessmentPlan) : AssessmentStore :=
  { store with
    profiles := store.profiles.write (profileId profile, clientId, profile)
    plans := store.plans.write (plan, clientId, profileId profile) }

def membersOf : Value → List (String × Value)
  | .obj members => members
  | _ => []

/-- `get_plan`, of which the stored document is the plan's with the id of its profile -/
def getPlan : Option (List (String × Value)) :=
  (sortBy (fun row : AssessmentPlan × String × String => row.1.planId)
    (store.plans.select fun row => row.2.1 = clientId && row.1.engagementId = engagementId)).head?.map fun row =>
    membersOf (row.1.toValue dumpDatetime) ++ [("profile_id", .str row.2.2)]

/-- The plan's row is one of the engagement, and names the profile. -/
def joins (plan : AssessmentPlan × String × String) (profile : String × String × TargetSecurityProfile) : Bool :=
  plan.2.1 = clientId && plan.1.engagementId = engagementId && plan.2.2 = profile.1

/-- `get_profile_for_engagement` -/
def getProfileForEngagement : Option (List (String × Value)) :=
  (sortBy (fun row : String × String × TargetSecurityProfile => row.1)
    (store.profiles.select fun row =>
      row.2.1 = clientId && store.plans.rows.any fun plan => joins clientId engagementId plan row)).head?.map
    fun row => membersOf (row.2.2.toValue dumpDatetime)

end Repository

section Derivation

variable {tooling : TextTooling} {services : FirmSecurityServices} {registry : SecurityServiceRegistry}
  {engagement : FirmEngagement} {snapshot : InspectionSnapshot} {clock : ℕ → Datetime} {profile : TargetSecurityProfile} {plan : AssessmentPlan}

/-- What a plan says of the engagement and of the profile that it was routed for. -/
structure PlanOf (engagement : FirmEngagement) (profile : TargetSecurityProfile) (plan : AssessmentPlan) : Prop where
  planId : plan.planId = "PLAN-" ++ engagement.engagementId ++ "-" ++ profile.snapshotId
  engagementId : plan.engagementId = engagement.engagementId
  targetId : plan.targetId = profile.targetId
  snapshotId : plan.profileSnapshotId = profile.snapshotId
  scope : plan.targetId ∈ engagement.targetIds

lemma planOf_of_routeServices {stamps : DomainModel}
    (h : routeServices stamps profile engagement registry = .ok plan) : PlanOf engagement profile plan := by
  rw [routeServices] at h
  obtain ⟨contracts, -, h⟩ := bind_eq_ok.mp h
  obtain ⟨_, hvalid, h⟩ := bind_eq_ok.mp h
  obtain rfl := Except.ok.inj h
  rw [AssessmentPlan.validatePlan, raiseIf_bind_eq_ok, not_or, not_not, not_not] at hvalid
  exact ⟨rfl, rfl, rfl, rfl, hvalid.1.2⟩

/-- A profile and a plan of the engagement, derived from a snapshot at some time. -/
def Derives (tooling : TextTooling) (registry : SecurityServiceRegistry) (engagement : FirmEngagement)
    (snapshot : InspectionSnapshot) (profile : TargetSecurityProfile) (plan : AssessmentPlan) : Prop :=
  ∃ clock seeds, factSeeds tooling snapshot = .ok seeds ∧ profile = profileOf clock snapshot seeds ∧
    routeServices ⟨clock 0, clock 1⟩ profile engagement registry = .ok plan

lemma derives_of_profileAndPlan (hmap : services.map = mapSurface tooling)
    (h : profileAndPlan services clock engagement snapshot = .ok (profile, plan)) :
    Derives tooling services.registry engagement snapshot profile plan := by
  rw [profileAndPlan, hmap] at h
  obtain ⟨mapped, hmapped, h⟩ := bind_eq_ok.mp h
  obtain ⟨routed, hrouted, h⟩ := bind_eq_ok.mp h
  cases h
  obtain ⟨seeds, hseeds, rfl⟩ := mapSurface_eq_ok.mp hmapped
  exact ⟨clock, seeds, hseeds, rfl, hrouted⟩

/-- What is derived from a snapshot is derived from it at every later time, but for the times. -/
lemma Derives.again {dumpDatetime : Datetime → String} (hmap : services.map = mapSurface tooling)
    (h : Derives tooling services.registry engagement snapshot profile plan) (clock : ℕ → Datetime)
    {seeds : List FactSeed} (hseeds : factSeeds tooling snapshot = .ok seeds) :
    ∃ plan', profileAndPlan services clock engagement snapshot = .ok (profileOf clock snapshot seeds, plan') ∧
      withoutTimestamps (plan'.toValue dumpDatetime) = withoutTimestamps (plan.toValue dumpDatetime) := by
  obtain ⟨clock₀, seeds₀, hseeds₀, rfl, hrouted⟩ := h
  obtain rfl := Except.ok.inj (hseeds₀.symm.trans hseeds)
  refine ⟨{ plan with toDomainModel := ⟨clock 0, clock 1⟩ }, ?_, withoutTimestamps_plan⟩
  rw [profileAndPlan, hmap, mapSurface_eq_ok.mpr ⟨seeds₀, hseeds, rfl⟩, ok_bind, routeServices_profileOf hrouted]
  rfl

lemma Derives.planOf (h : Derives tooling registry engagement snapshot profile plan) :
    PlanOf engagement profile plan := by
  obtain ⟨_, _, -, -, hrouted⟩ := h
  exact planOf_of_routeServices hrouted

lemma Derives.ids (h : Derives tooling registry engagement snapshot profile plan) :
    profile.targetId = snapshot.targetId ∧ profile.snapshotId = snapshot.snapshotId := by
  obtain ⟨_, _, -, rfl, -⟩ := h
  exact ⟨rfl, rfl⟩

end Derivation

section Lookup

variable {α κ : Type} [LinearOrder κ] {key : α → κ} {l : List α} {a : α}

/-- The first of a sorted list is least. -/
lemma least_of_head?_sortBy (h : (sortBy key l).head? = some a) : a ∈ l ∧ ∀ b ∈ l, key a ≤ key b := by
  obtain ⟨rest, hsorted⟩ := List.head?_eq_some_iff.mp h
  have hmem : ∀ b, b ∈ l ↔ b ∈ a :: rest := fun b => by rw [← hsorted, mem_sortBy]
  refine ⟨(hmem a).mpr List.mem_cons_self, fun b hb => ?_⟩
  have hpairs := @sortBy_sorted _ _ _ key l
  rw [hsorted, List.pairwise_cons] at hpairs
  rcases List.mem_cons.mp ((hmem b).mp hb) with rfl | hb
  · exact le_refl _
  · exact hpairs.1 b hb

lemma exists_head?_sortBy (h : a ∈ l) : ∃ b, (sortBy key l).head? = some b := by
  rw [← Option.ne_none_iff_exists', ne_eq, List.head?_eq_none_iff]
  intro hnil
  exact List.not_mem_nil (hnil ▸ mem_sortBy.mpr h)

end Lookup

section Stored

variable (tooling : TextTooling) (registry : SecurityServiceRegistry) (engagement : FirmEngagement)
  (snapshotOf : String → String → Option InspectionSnapshot)

/-- What is persisted for the engagement was derived from the snapshots of the loader. -/
structure PlansDerived (store : AssessmentStore) : Prop where
  profile : ∀ row ∈ store.profiles, row.2.1 = engagement.clientId ∧ ∃ snapshot plan,
    snapshotOf row.2.2.targetId row.2.2.snapshotId = some snapshot ∧
      Derives tooling registry engagement snapshot row.2.2 plan
  plan : ∀ row ∈ store.plans, row.2.1 = engagement.clientId ∧ row.1.engagementId = engagement.engagementId ∧
    ∃ snapshot profile, snapshotOf row.1.targetId row.1.profileSnapshotId = some snapshot ∧
      Derives tooling registry engagement snapshot profile row.1
  joined : ∀ row ∈ store.plans, ∃ profile ∈ store.profiles, profile.1 = row.2.2

/-- Nothing is persisted yet. -/
def Unplanned (store : AssessmentStore) : Prop := store.profiles = Table.empty ∧ store.plans = Table.empty

/-- A profile and a plan are derived from a snapshot of the loader, and saved. -/
def SavesPlan (store store' : AssessmentStore) : Prop :=
  ∃ snapshot profile plan, snapshotOf snapshot.targetId snapshot.snapshotId = some snapshot ∧
    Derives tooling registry engagement snapshot profile plan ∧
      store'.profiles = (saveProfileAndPlan store engagement.clientId profile plan).profiles ∧
      store'.plans = (saveProfileAndPlan store engagement.clientId profile plan).plans

variable {tooling registry engagement snapshotOf} {store store' : AssessmentStore}

lemma plansDerived_next (h : PlansDerived tooling registry engagement snapshotOf store)
    (hs : SavesPlan tooling registry engagement snapshotOf store store') :
    PlansDerived tooling registry engagement snapshotOf store' := by
  obtain ⟨snapshot, profile, plan, hsnapshot, hderives, hprofiles, hplans⟩ := hs
  have hof := hderives.planOf
  have hids := hderives.ids
  have hprofile : ∀ row, row ∈ store'.profiles ↔
      row = (profileId profile, engagement.clientId, profile) ∨ row ∈ store.profiles ∧ row.1 ≠ profileId profile := by
    intro row
    rw [hprofiles]
    exact Table.mem_write
  have hplan : ∀ row, row ∈ store'.plans ↔
      row = (plan, engagement.clientId, profileId profile) ∨ row ∈ store.plans ∧ row.1.planId ≠ plan.planId := by
    intro row
    rw [hplans]
    exact Table.mem_write
  refine ⟨fun row hrow => ?_, fun row hrow => ?_, fun row hrow => ?_⟩
  · rcases (hprofile row).mp hrow with rfl | ⟨hrow, -⟩
    · exact ⟨rfl, snapshot, plan, by rw [hids.1, hids.2]; exact hsnapshot, hderives⟩
    · exact h.profile row hrow
  · rcases (hplan row).mp hrow with rfl | ⟨hrow, -⟩
    · refine ⟨rfl, hof.engagementId, snapshot, profile, ?_, hderives⟩
      rw [hof.targetId, hof.snapshotId, hids.1, hids.2]
      exact hsnapshot
    · exact h.plan row hrow
  · have hsaved := (hprofile (profileId profile, engagement.clientId, profile)).mpr (Or.inl rfl)
    rcases (hplan row).mp hrow with rfl | ⟨hrow, -⟩
    · exact ⟨_, hsaved, rfl⟩
    · obtain ⟨old, hold, hkey⟩ := h.joined row hrow
      by_cases hsame : old.1 = profileId profile
      · exact ⟨_, hsaved, hsame.symm.trans hkey⟩
      · exact ⟨old, (hprofile old).mpr (Or.inr ⟨hold, hsame⟩), hkey⟩

lemma plansDerived_inductive : Inductive Unplanned (SavesPlan tooling registry engagement snapshotOf)
    (PlansDerived tooling registry engagement snapshotOf) where
  start := by
    rintro store ⟨hprofiles, hplans⟩
    refine ⟨fun row hrow => ?_, fun row hrow => ?_, fun row hrow => ?_⟩
    · rw [hprofiles] at hrow
      cases hrow
    · rw [hplans] at hrow
      cases hrow
    · rw [hplans] at hrow
      cases hrow
  next := fun _ _ h hs => plansDerived_next h hs

/-- An assessment of the engagement persists nothing, or what it derives from its snapshot. -/
lemma run_savesPlan {docs : Documents} {services : FirmSecurityServices} {call : AssessmentCall}
    (hmap : services.map = mapSurface tooling)
    (hsnapshot : snapshotOf call.snapshot.targetId call.snapshot.snapshotId = some call.snapshot) :
    (run docs services call store).2 = store ∨
      SavesPlan tooling services.registry call.engagement snapshotOf store (run docs services call store).2 := by
  rw [run]
  cases ha : assemble docs services call with
  | error e => exact Or.inl rfl
  | ok assessment =>
    cases hs : saveAssessment docs assessment store with
    | error e => exact Or.inl (by simp only [hs])
    | ok saved =>
      right
      simp only [hs]
      have hplanned : profileAndPlan services call.clock call.engagement call.snapshot =
          .ok (assessment.profile, assessment.plan) := by
        rw [assemble] at ha
        obtain ⟨-, -, ha⟩ := bind_eq_ok.mp ha
        obtain ⟨⟨profile, plan⟩, hplanned, ha⟩ := bind_eq_ok.mp ha
        obtain ⟨results, -, ha⟩ := bind_eq_ok.mp ha
        obtain ⟨adjudicated, -, ha⟩ := bind_eq_ok.mp ha
        obtain ⟨runs, -, ha⟩ := bind_eq_ok.mp ha
        obtain ⟨report, -, ha⟩ := bind_eq_ok.mp ha
        obtain ⟨contracts, -, ha⟩ := bind_eq_ok.mp ha
        cases ha
        exact hplanned
      rw [saveAssessment] at hs
      obtain ⟨chain, -, hs⟩ := bind_eq_ok.mp hs
      obtain ⟨rows, -, hs⟩ := bind_eq_ok.mp hs
      cases hs
      rw [(assemble_assembled ha).engagement]
      exact ⟨call.snapshot, assessment.profile, assessment.plan, hsnapshot,
        derives_of_profileAndPlan hmap hplanned, rfl, rfl⟩

end Stored

section Reads

variable {tooling : TextTooling} {registry : SecurityServiceRegistry} {engagement : FirmEngagement}
  {snapshotOf : String → String → Option InspectionSnapshot} {store : AssessmentStore}
  {dumpDatetime : Datetime → String} {plan : AssessmentPlan × String × String}

/-- The profile belongs to a plan that is persisted for the engagement. -/
def Joined (store : AssessmentStore) (row : String × String × TargetSecurityProfile) : Prop :=
  row ∈ store.profiles ∧ ∃ plan ∈ store.plans, plan.2.2 = row.1

/-- The plan is the first by its id, and the first profile by its id is that of the plan's target and snapshot. -/
structure StandsFirst (store : AssessmentStore) (plan : AssessmentPlan) : Prop where
  firstPlan : ∀ row ∈ store.plans, plan.planId ≤ row.1.planId
  firstProfile : ∃ row, Joined store row ∧ (∀ other, Joined store other → row.1 ≤ other.1) ∧
    row.2.2.targetId = plan.targetId ∧ row.2.2.snapshotId = plan.profileSnapshotId

/-- What is read for an engagement with a plan: the first plan, and the first profile. -/
lemma read_first (h : PlansDerived tooling registry engagement snapshotOf store) (hplan : plan ∈ store.plans) :
    (∃ row ∈ store.plans, (∀ other ∈ store.plans, row.1.planId ≤ other.1.planId) ∧
      getPlan store dumpDatetime engagement.clientId engagement.engagementId =
        some (membersOf (row.1.toValue dumpDatetime) ++ [("profile_id", .str row.2.2)])) ∧
    ∃ row, Joined store row ∧ (∀ other, Joined store other → row.1 ≤ other.1) ∧
      getProfileForEngagement store dumpDatetime engagement.clientId engagement.engagementId =
        some (membersOf (row.2.2.toValue dumpDatetime)) := by
  have hplans : ∀ row, row ∈ store.plans.select (fun row => row.2.1 = engagement.clientId &&
      row.1.engagementId = engagement.engagementId) ↔ row ∈ store.plans := by
    intro row
    rw [Table.mem_select]
    refine and_iff_left_of_imp fun hrow => ?_
    obtain ⟨hclient, hengagement, -⟩ := h.plan row hrow
    simp [hclient, hengagement]
  have hprofiles : ∀ row, row ∈ store.profiles.select (fun row => row.2.1 = engagement.clientId &&
      store.plans.rows.any fun plan => joins engagement.clientId engagement.engagementId plan row) ↔
        Joined store row := by
    intro row
    rw [Table.mem_select, Joined]
    refine and_congr_right fun hrow => ?_
    have hclient := (h.profile row hrow).1
    simp only [hclient, decide_true, Bool.true_and, List.any_eq_true]
    refine exists_congr fun plan => and_congr_right fun hmem => ?_
    obtain ⟨hplanClient, hplanEngagement, -⟩ := h.plan plan hmem
    simp [joins, hplanClient, hplanEngagement]
  constructor
  · obtain ⟨row, hrow⟩ := @exists_head?_sortBy _ _ _ (fun row : AssessmentPlan × String × String => row.1.planId) _
      plan ((hplans plan).mpr hplan)
    obtain ⟨hmem, hleast⟩ := least_of_head?_sortBy hrow
    refine ⟨row, (hplans row).mp hmem, fun other hother => hleast other ((hplans other).mpr hother), ?_⟩
    rw [getPlan, hrow, Option.map_some]
  · obtain ⟨profile, hprofile, hkey⟩ := h.joined plan hplan
    obtain ⟨row, hrow⟩ := @exists_head?_sortBy _ _ _ (fun row : String × String × TargetSecurityProfile => row.1) _
      profile ((hprofiles profile).mpr ⟨hprofile, plan, hplan, hkey.symm⟩)
    obtain ⟨hmem, hleast⟩ := least_of_head?_sortBy hrow
    refine ⟨row, (hprofiles row).mp hmem, fun other hother => hleast other ((hprofiles other).mpr hother), ?_⟩
    rw [getProfileForEngagement, hrow, Option.map_some]

end Reads

section Runner

/-- The refusals for what is persisted. -/
def mismatches : List String :=
  ["profile does not match the requested target snapshot",
    "assessment plan identifier does not match canonical state",
    "assessment plan escapes the canonical engagement target",
    "assessment plan snapshot does not match the requested snapshot",
    "persisted profile does not match the immutable snapshot",
    "persisted plan does not match the immutable snapshot"]

def IsMismatch (e : Raised) : Prop := e.kind = .permissionError ∧ e.message ∈ mismatches

instance (e : Raised) : Decidable (IsMismatch e) := inferInstanceAs (Decidable (_ ∧ _))

/-- The runner reads the store, the engagement and the snapshots of the loader; pydantic reads back the records
that are persisted; and the decisions that are called for raise nothing in the runner's name. -/
structure RunsOn (runner : InspectionFirmRunner) (tooling : TextTooling) (engagement : FirmEngagement)
    (snapshotOf : String → String → Option InspectionSnapshot) (store : AssessmentStore) : Prop where
  maps : runner.services.map = mapSurface tooling
  loadsEngagement : runner.loadEngagement engagement.engagementId = .ok (some engagement)
  loadsSnapshot : ∀ targetId snapshotId, runner.loadSnapshot targetId snapshotId = .ok (snapshotOf targetId snapshotId)
  readsPlan : runner.getPlan engagement.clientId engagement.engagementId =
    .ok (getPlan store runner.dumpDatetime engagement.clientId engagement.engagementId)
  readsProfile : runner.getProfileForEngagement engagement.clientId engagement.engagementId =
    .ok (getProfileForEngagement store runner.dumpDatetime engagement.clientId engagement.engagementId)
  validatesPlan : ∀ row ∈ store.plans,
    runner.validatePlan (membersOf (row.1.toValue runner.dumpDatetime)) = .ok row.1
  validatesProfile : ∀ row ∈ store.profiles,
    runner.validateProfile (membersOf (row.2.2.toValue runner.dumpDatetime)) = .ok row.2.2
  authorizes : ∀ authorize request plan, runner.authorize = some authorize →
    Raises (fun e => ¬ IsMismatch e) (authorize request engagement plan >>= runner.validateAuthority)
  sandboxes : ∀ sandboxValidate request plan, runner.sandboxValidate = some sandboxValidate →
    Raises (fun e => ¬ IsMismatch e) (sandboxValidate request plan >>= runner.validateSandbox)

/-- The request is one of the requester of an executable engagement, with its authority, and names the plan, its
target and its snapshot. -/
structure Requests (runner : InspectionFirmRunner) (engagement : FirmEngagement) (plan : AssessmentPlan)
    (request : InspectionFirmRequest) : Prop where
  engagementId : request.engagementId = engagement.engagementId
  clientId : request.clientId = engagement.clientId
  principalId : request.principalId = engagement.requesterPrincipalId
  executable : engagement.status ∈ executableStatuses
  authority : runner.loadAuthority request.authorityId = .ok (some AuthorityLevel.inspectionOnly.value)
  planId : request.assessmentPlanId = plan.planId
  targetId : request.targetId = plan.targetId
  snapshotId : request.snapshotId = plan.profileSnapshotId

variable {runner : InspectionFirmRunner} {tooling : TextTooling} {registry : SecurityServiceRegistry}
  {engagement : FirmEngagement}
  {snapshotOf : String → String → Option InspectionSnapshot} {store : AssessmentStore}
  {request : InspectionFirmRequest} {plan : AssessmentPlan}

lemma checkEngagement_of_requests (hruns : RunsOn runner tooling engagement snapshotOf store)
    (hrequest : Requests runner engagement plan request) (hscope : plan.targetId ∈ engagement.targetIds) :
    runner.checkEngagement request = .ok engagement := by
  rw [InspectionFirmRunner.checkEngagement, hrequest.engagementId, hruns.loadsEngagement, ok_bind,
    orRaise_bind_eq_ok]
  refine ⟨engagement, rfl, ?_⟩
  simp only [raiseIf_bind_eq_ok, not_not]
  refine ⟨hrequest.clientId.symm, hrequest.principalId.symm, hrequest.executable, ?_, rfl⟩
  rw [hrequest.targetId]
  exact hscope

lemma checkAuthorityLevel_of_requests (hrequest : Requests runner engagement plan request) :
    runner.checkAuthorityLevel request = .ok () := by
  rw [InspectionFirmRunner.checkAuthorityLevel, hrequest.authority, ok_bind]
  exact raiseIf_eq_ok.mpr (not_not.mpr rfl)

/-- What the rows that are read say, if they are admitted. -/
structure RowsBind (request : InspectionFirmRequest) (profile : TargetSecurityProfile) (plan : AssessmentPlan) :
    Prop where
  profileTarget : profile.targetId = request.targetId
  profileSnapshot : profile.snapshotId = request.snapshotId
  planId : plan.planId = request.assessmentPlanId
  planEngagement : plan.engagementId = request.engagementId
  planTarget : plan.targetId = request.targetId
  planSnapshot : plan.profileSnapshotId = request.snapshotId

/-- The rows that are read are admitted if they bind the request, and are a mismatch if they do not. -/
lemma persistedProfileAndPlan_of_reads {profileRow : String × String × TargetSecurityProfile}
    {planRow : AssessmentPlan × String × String} (hruns : RunsOn runner tooling engagement snapshotOf store)
    (hrequest : Requests runner engagement plan request) (hprofileRow : profileRow ∈ store.profiles)
    (hplanRow : planRow ∈ store.plans)
    (hprofile : getProfileForEngagement store runner.dumpDatetime engagement.clientId engagement.engagementId =
      some (membersOf (profileRow.2.2.toValue runner.dumpDatetime)))
    (hplan : getPlan store runner.dumpDatetime engagement.clientId engagement.engagementId =
      some (membersOf (planRow.1.toValue runner.dumpDatetime) ++ [("profile_id", .str planRow.2.2)])) :
    (∀ read, runner.persistedProfileAndPlan request = .ok read ↔
        RowsBind request profileRow.2.2 planRow.1 ∧ read = (profileRow.2.2, planRow.1)) ∧
      Raises IsMismatch (runner.persistedProfileAndPlan request) := by
  have hkept : (membersOf (planRow.1.toValue runner.dumpDatetime) ++
      [("profile_id", Value.str planRow.2.2)]).filter (fun m => m.1 ≠ "profile_id") =
        membersOf (planRow.1.toValue runner.dumpDatetime) := by
    simp [membersOf, AssessmentPlan.toValue, DomainModel.members]
  rw [InspectionFirmRunner.persistedProfileAndPlan, hrequest.clientId, hrequest.engagementId, hruns.readsProfile,
    hruns.readsPlan, hprofile, hplan]
  simp only [ok_bind, orRaise, hkept, hruns.validatesPlan planRow hplanRow,
    hruns.validatesProfile profileRow hprofileRow]
  constructor
  · intro read
    simp only [raiseIf_bind_eq_ok, not_or, not_not]
    constructor
    · rintro ⟨⟨hprofileTarget, hprofileSnapshot⟩, hplanId, ⟨hengagement, htarget⟩, hsnapshot, hread⟩
      exact ⟨⟨hprofileTarget, hprofileSnapshot, hplanId, hengagement.trans hrequest.engagementId.symm, htarget,
        hsnapshot⟩, (Except.ok.inj hread).symm⟩
    · rintro ⟨hbind, rfl⟩
      exact ⟨⟨hbind.profileTarget, hbind.profileSnapshot⟩, hbind.planId,
        ⟨hbind.planEngagement.trans hrequest.engagementId, hbind.planTarget⟩, hbind.planSnapshot, rfl⟩
  · refine Raises.bind (Raises.raiseIf (by decide)) fun _ _ => ?_
    refine Raises.bind (Raises.raiseIf (by decide)) fun _ _ => ?_
    refine Raises.bind (Raises.raiseIf (by decide)) fun _ _ => ?_
    exact Raises.bind (Raises.raiseIf (by decide)) fun _ _ => Raises.ok _

/-- The rows that are read bind the request for a plan of the store just if the plan stands first. -/
lemma rowsBind_iff_standsFirst {profileRow : String × String × TargetSecurityProfile}
    {row planRow : AssessmentPlan × String × String} (h : PlansDerived tooling registry engagement snapshotOf store)
    (hrow : row ∈ store.plans) (hrequest : Requests runner engagement row.1 request) (hplanRow : planRow ∈ store.plans)
    (hleastPlan : ∀ other ∈ store.plans, planRow.1.planId ≤ other.1.planId) (hprofileRow : Joined store profileRow)
    (hleastProfile : ∀ other, Joined store other → profileRow.1 ≤ other.1) :
    RowsBind request profileRow.2.2 planRow.1 ↔ StandsFirst store row.1 := by
  constructor
  · intro hbind
    have hid := hbind.planId.trans hrequest.planId
    refine ⟨fun other hother => hid ▸ hleastPlan other hother, profileRow, hprofileRow, hleastProfile, ?_, ?_⟩
    · exact hbind.profileTarget.trans hrequest.targetId
    · exact hbind.profileSnapshot.trans hrequest.snapshotId
  · rintro ⟨hfirst, firstRow, hjoined, hleast, htarget, hsnapshot⟩
    obtain rfl : planRow = row :=
      Table.eq_of_key_eq hplanRow hrow (le_antisymm (hleastPlan row hrow) (hfirst planRow hplanRow))
    obtain rfl : profileRow = firstRow :=
      Table.eq_of_key_eq hprofileRow.1 hjoined.1
        (le_antisymm (hleastProfile firstRow hjoined) (hleast profileRow hprofileRow))
    exact
      { profileTarget := htarget.trans hrequest.targetId.symm
        profileSnapshot := hsnapshot.trans hrequest.snapshotId.symm
        planId := hrequest.planId.symm
        planEngagement := (h.plan planRow hrow).2.1.trans hrequest.engagementId.symm
        planTarget := hrequest.targetId.symm
        planSnapshot := hrequest.snapshotId.symm }

/-- A profile and a plan that were derived from one snapshot are derived from it again. -/
lemma checkRederived_of_derives {snapshot : InspectionSnapshot} {profile profile' : TargetSecurityProfile}
    {plan' : AssessmentPlan} (hmaps : runner.services.map = mapSurface tooling)
    (hprofile : Derives tooling runner.services.registry engagement snapshot profile plan')
    (hplan : Derives tooling runner.services.registry engagement snapshot profile' plan) (clock : ℕ → Datetime) :
    runner.checkRederived clock engagement snapshot profile plan = .ok () := by
  obtain ⟨clock₀, seeds, hseeds, rfl, -⟩ := hprofile
  obtain ⟨again, hagain, hsame⟩ := @Derives.again _ _ _ _ _ _ runner.dumpDatetime hmaps hplan clock _ hseeds
  rw [InspectionFirmRunner.checkRederived, hagain, ok_bind]
  simp only [raiseIf_bind_eq_ok, raiseIf_eq_ok, Bool.not_eq_false, hsame, Value.pyEq_self, and_true]
  rw [@withoutTimestamps_profileOf clock clock₀ snapshot seeds runner.dumpDatetime, Value.pyEq_self]

lemma capability_raises (capabilityId : String) :
    Raises (fun e => ¬ IsMismatch e) (CapabilityRegistry.canonical.get capabilityId) := by
  simp only [CapabilityRegistry.get]
  split
  · exact Raises.ok _
  · exact Raises.raise fun h => by cases h.1

lemma orMalformed_raises {α : Type} {m : Except Raised α} {message : String}
    (h : Raises (fun e => ¬ IsMismatch e) m) (hmessage : message ∉ mismatches) :
    Raises (fun e => ¬ IsMismatch e) (orMalformed m message) := by
  cases m with
  | ok a => exact Raises.ok a
  | error e =>
    rw [orMalformed]
    split
    · exact Raises.raise fun hmismatch => hmessage hmismatch.2
    · exact h

lemma authorityDecision_raises (hruns : RunsOn runner tooling engagement snapshotOf store) (now : Datetime) :
    Raises (fun e => ¬ IsMismatch e) (runner.authorityDecision request now engagement plan) := by
  rw [InspectionFirmRunner.authorityDecision]
  refine Raises.bind (Raises.orRaise (by decide)) fun authorize hauthorize => ?_
  have hcall := hruns.authorizes authorize request plan (orRaise_eq_ok.mp hauthorize)
  refine Raises.bind (orMalformed_raises hcall (by decide)) fun _ _ => ?_
  exact Raises.bind (Raises.raiseIf (by decide)) fun _ _ => Raises.ok _

lemma sandboxDecision_raises (hruns : RunsOn runner tooling engagement snapshotOf store) :
    Raises (fun e => ¬ IsMismatch e) (runner.sandboxDecision request plan) := by
  rw [InspectionFirmRunner.sandboxDecision]
  refine Raises.bind (Raises.orRaise (by decide)) fun sandboxValidate hvalidate => ?_
  have hcall := hruns.sandboxes sandboxValidate request plan (orRaise_eq_ok.mp hvalidate)
  refine Raises.bind (orMalformed_raises hcall (by decide)) fun _ _ => ?_
  exact Raises.bind (Raises.raiseIf (by decide)) fun _ _ => Raises.ok _

lemma validatePlan_raises : Raises (fun e => ¬ IsMismatch e) (plan.validatePlan registry engagement) := by
  have hkind : ∀ message, ¬ IsMismatch ⟨.serviceContractError, message⟩ := fun _ h => by cases h.1
  rw [AssessmentPlan.validatePlan]
  refine Raises.bind (Raises.raiseIf (hkind _)) fun _ _ => ?_
  refine Raises.bind (Raises.raiseIf (hkind _)) fun _ _ => ?_
  refine Raises.bind (Raises.raiseIf (hkind _)) fun _ _ => ?_
  refine Raises.bind (Raises.mapM fun serviceId _ => ?_) fun _ _ => Raises.raiseIf (hkind _)
  refine Raises.bind (Raises.orRaise fun h => by cases h.1) fun _ _ => ?_
  exact Raises.bind (Raises.raiseIf (hkind _)) fun _ _ => Raises.raiseIf (hkind _)

/-- A request for a plan that is persisted is not refused for what is persisted just if the plan is the first of
the engagement's, and the first of the profiles is that of the plan. -/
theorem plan_runs_iff {row : AssessmentPlan × String × String}
    (hstore : Reachable Unplanned (SavesPlan tooling runner.services.registry engagement snapshotOf) store)
    (hrow : row ∈ store.plans) (hruns : RunsOn runner tooling engagement snapshotOf store)
    (hrequest : Requests runner engagement row.1 request) (clock : InspectionClock) (advisories : List Advisory) :
    Raises (fun e => ¬ IsMismatch e) (runner.admission request clock advisories) ↔ StandsFirst store row.1 := by
  have hderived := plansDerived_inductive.reachable hstore
  obtain ⟨⟨planRow, hplanRow, hleastPlan, hplan⟩, profileRow, hprofileRow, hleastProfile, hprofile⟩ :=
    @read_first _ _ _ _ _ runner.dumpDatetime _ hderived hrow
  obtain ⟨hread, hmismatch⟩ :=
    persistedProfileAndPlan_of_reads hruns hrequest hprofileRow.1 hplanRow hprofile hplan
  rw [← rowsBind_iff_standsFirst hderived hrow hrequest hplanRow hleastPlan hprofileRow hleastProfile]
  obtain ⟨-, -, snapshot, profile', hsnapshot, hplanDerives⟩ := hderived.plan row hrow
  have hengagement := checkEngagement_of_requests hruns hrequest hplanDerives.planOf.scope
  rw [InspectionFirmRunner.admission, hengagement, ok_bind, checkAuthorityLevel_of_requests hrequest, ok_bind]
  constructor
  · -- what is read is a mismatch, or it binds the request
    intro h
    cases hpersisted : runner.persistedProfileAndPlan request with
    | error e => exact absurd (hmismatch e hpersisted) ((raises_bind_iff.mp h).1 e hpersisted)
    | ok read => exact ((hread read).mp hpersisted).1
  · intro hbind
    obtain rfl : planRow = row := Table.eq_of_key_eq hplanRow hrow (hbind.planId.trans hrequest.planId)
    obtain ⟨-, snapshot', plan', hsnapshot', hprofileDerives⟩ := hderived.profile profileRow hprofileRow.1
    -- the loader has one snapshot for the two
    rw [hbind.profileTarget, hbind.profileSnapshot, ← hbind.planTarget, ← hbind.planSnapshot, hsnapshot] at hsnapshot'
    obtain rfl := Option.some.inj hsnapshot'
    have hloaded : runner.checkSnapshot request = .ok snapshot := by
      rw [InspectionFirmRunner.checkSnapshot, hruns.loadsSnapshot, ← hbind.planTarget, ← hbind.planSnapshot, hsnapshot,
        ok_bind, orRaise_bind_eq_ok]
      refine ⟨snapshot, rfl, raiseIf_bind_eq_ok.mpr ⟨?_, rfl⟩⟩
      rw [not_or, not_not, not_not, ← hprofileDerives.ids.1, ← hprofileDerives.ids.2, hbind.profileTarget,
        hbind.profileSnapshot]
      exact ⟨hbind.planTarget.symm, hbind.planSnapshot.symm⟩
    rw [(hread _).mpr ⟨hbind, rfl⟩, ok_bind]
    refine Raises.bind (Raises.mapM fun capabilityId _ => capability_raises capabilityId) fun _ _ => ?_
    rw [hloaded, ok_bind]
    refine Raises.bind (authorityDecision_raises hruns clock.now) fun authority _ => ?_
    refine Raises.bind (sandboxDecision_raises hruns) fun sandbox _ => ?_
    rw [checkRederived_of_derives hruns.maps hprofileDerives hplanDerives clock.rederivation, ok_bind]
    exact Raises.bind validatePlan_raises fun _ _ => Raises.ok _

end Runner

section Example

/-- The functions of the language, where no text is read. -/
def planTooling : TextTooling where
  jsonLoads := fun _ => .error ⟨.jsonDecodeError, "Expecting value"⟩
  tomlLoads := fun _ => .ok []
  render := fun _ => []
  renderFixed := fun _ => []
  lower := id
  upper := id
  sha256 := fun _ => []
  json_printable := nofun
  unicode := ⟨fun _ => false, fun _ => false⟩

def planEngagement : FirmEngagement :=
  ⟨"EN-1", "CL-1", "U-1", ["T-1"], "repository review", .inspectionOnly, .active, 0⟩

/-- A snapshot without files. -/
def emptySnapshot (snapshotId : String) : InspectionSnapshot := ⟨"T-1", snapshotId, "T-1", Table.empty, "T-1"⟩

def emptySnapshots (targetId snapshotId : String) : Option InspectionSnapshot :=
  if targetId = "T-1" then some (emptySnapshot snapshotId) else none

def emptyProfile (snapshotId : String) : TargetSecurityProfile := profileOf (fun _ => 0) (emptySnapshot snapshotId) []

def emptyPlan (snapshotId : String) : AssessmentPlan where
  createdAt := 0
  updatedAt := 0
  planId := "PLAN-EN-1-" ++ snapshotId
  engagementId := "EN-1"
  targetId := "T-1"
  profileSnapshotId := snapshotId
  targetClass := "unknown"
  requiredServices := ["APPSEC", "VULNINTEL", "SUPPLYCHAIN"]
  optionalServices := []
  selectedServiceVersions := [("APPSEC", "0.1.0"), ("SUPPLYCHAIN", "0.1.0"), ("VULNINTEL", "0.1.0")]
  allowedCapabilities := ["CAP-REPO-READONLY-INSPECTION"]
  blockedCapabilities := []
  serviceDependencies := [("APPSEC", []), ("VULNINTEL", ["APPSEC"]), ("SUPPLYCHAIN", []), ("AGENTSEC", [])]
  expectedOutputs := [("APPSEC", ["claims", "limitations"]), ("SUPPLYCHAIN", ["claims", "limitations"]),
    ("VULNINTEL", ["claims", "limitations"])]
  knownLimitations := ["runtime deployment exposure is not inferred from repository routes"]

lemma emptyPlan_derives (snapshotId : String) : Derives planTooling sampleServices.registry planEngagement
    (emptySnapshot snapshotId) (emptyProfile snapshotId) (emptyPlan snapshotId) := by
  have hsurface : (emptyProfile snapshotId).hasAgenticSurface = false := rfl
  have hagent : mentions "agent" planEngagement.scope = false := by decide
  have hdeployment : mentions "deployment" planEngagement.scope = false := by decide
  refine ⟨fun _ => 0, [], rfl, rfl, ?_⟩
  change routeServices ⟨0, 0⟩ (emptyProfile snapshotId) planEngagement sampleServices.registry = _
  rw [routeServices, hsurface, hagent, hdeployment]
  rfl

/-- A profile and a plan are saved for one snapshot after the other. -/
def savedPlans (snapshotIds : List String) (store : AssessmentStore) : AssessmentStore :=
  snapshotIds.foldl (fun store id => saveProfileAndPlan store "CL-1" (emptyProfile id) (emptyPlan id)) store

lemma savedPlans_reachable {snapshotIds : List String} {store : AssessmentStore}
    (h : Reachable Unplanned (SavesPlan planTooling sampleServices.registry planEngagement emptySnapshots) store) :
    Reachable Unplanned (SavesPlan planTooling sampleServices.registry planEngagement emptySnapshots)
      (savedPlans snapshotIds store) := by
  induction snapshotIds generalizing store with
  | nil => exact h
  | cons id ids ih => exact ih (h.next ⟨emptySnapshot id, _, _, rfl, emptyPlan_derives id, rfl, rfl⟩)

/-- Two snapshots of one target have been assessed. -/
def twoPlans : AssessmentStore := savedPlans ["SNAP-1", "SNAP-2"] unassessed

lemma twoPlans_reachable :
    Reachable Unplanned (SavesPlan planTooling sampleServices.registry planEngagement emptySnapshots) twoPlans :=
  savedPlans_reachable (Reachable.start ⟨rfl, rfl⟩)

lemma mem_twoPlans {row : AssessmentPlan × String × String} : row ∈ twoPlans.plans ↔
    row = (emptyPlan "SNAP-2", "CL-1", "PROF-T-1-SNAP-2") ∨ row = (emptyPlan "SNAP-1", "CL-1", "PROF-T-1-SNAP-1") := by
  have hrows : twoPlans.plans.rows =
    [(emptyPlan "SNAP-2", "CL-1", "PROF-T-1-SNAP-2"), (emptyPlan "SNAP-1", "CL-1", "PROF-T-1-SNAP-1")] := rfl
  rw [Table.mem_def, hrows, List.mem_cons, List.mem_singleton]

lemma mem_twoProfiles {row : String × String × TargetSecurityProfile} : row ∈ twoPlans.profiles ↔
    row = ("PROF-T-1-SNAP-2", "CL-1", emptyProfile "SNAP-2") ∨
      row = ("PROF-T-1-SNAP-1", "CL-1", emptyProfile "SNAP-1") := by
  have hrows : twoPlans.profiles.rows =
    [("PROF-T-1-SNAP-2", "CL-1", emptyProfile "SNAP-2"), ("PROF-T-1-SNAP-1", "CL-1", emptyProfile "SNAP-1")] := rfl
  rw [Table.mem_def, hrows, List.mem_cons, List.mem_singleton]

/-- A runner on the two plans, with which the decisions go along. -/
def planRunner : InspectionFirmRunner :=
  { sampleRunner with
    services := { sampleServices with map := mapSurface planTooling }
    loadEngagement := fun _ => .ok (some planEngagement)
    loadSnapshot := fun targetId snapshotId => .ok (emptySnapshots targetId snapshotId)
    getProfileForEngagement := fun clientId engagementId =>
      .ok (getProfileForEngagement twoPlans sampleRunner.dumpDatetime clientId engagementId)
    getPlan := fun clientId engagementId =>
      .ok (getPlan twoPlans sampleRunner.dumpDatetime clientId engagementId)
    validateProfile := fun payload => match payload.lookup "snapshot_id" with
      | some (.str snapshotId) => .ok (emptyProfile snapshotId)
      | _ => .error ⟨.validationError, "Field required"⟩
    validatePlan := fun payload => match payload.lookup "profile_snapshot_id" with
      | some (.str snapshotId) => .ok (emptyPlan snapshotId)
      | _ => .error ⟨.validationError, "Field required"⟩ }

lemma planRunner_runsOn : RunsOn planRunner planTooling planEngagement emptySnapshots twoPlans where
  maps := rfl
  loadsEngagement := rfl
  loadsSnapshot := fun _ _ => rfl
  readsPlan := rfl
  readsProfile := rfl
  validatesPlan := by
    intro row hrow
    rcases mem_twoPlans.mp hrow with rfl | rfl
    · rfl
    · rfl
  validatesProfile := by
    intro row hrow
    rcases mem_twoProfiles.mp hrow with rfl | rfl
    · rfl
    · rfl
  authorizes := by
    intro authorize request plan h
    cases h
    exact Raises.ok _
  sandboxes := by
    intro sandboxValidate request plan h
    cases h
    exact Raises.ok _

def planRequest (snapshotId : String) : InspectionFirmRequest :=
  ⟨"CL-1", "EN-1", "T-1", snapshotId, "AUTH-1", "PLAN-EN-1-" ++ snapshotId, "U-1"⟩

lemma planRequest_requests (snapshotId : String) :
    Requests planRunner planEngagement (emptyPlan snapshotId) (planRequest snapshotId) where
  engagementId := rfl
  clientId := rfl
  principalId := rfl
  executable := by decide
  authority := rfl
  planId := rfl
  targetId := rfl
  snapshotId := rfl

lemma first_stands_first : StandsFirst twoPlans (emptyPlan "SNAP-1") := by
  refine ⟨fun row hrow => ?_, _, ⟨mem_twoProfiles.mpr (Or.inr rfl), _, mem_twoPlans.mpr (Or.inr rfl), rfl⟩,
    fun other hother => ?_, rfl, rfl⟩
  · rcases mem_twoPlans.mp hrow with rfl | rfl
    · decide
    · exact le_refl _
  · rcases mem_twoProfiles.mp hother.1 with rfl | rfl
    · decide
    · exact le_refl _

theorem first_plan_runs :
    Raises (fun e => ¬ IsMismatch e)
      (planRunner.admission (planRequest "SNAP-1") ⟨9, fun _ => 0, fun _ => 0⟩ []) := by
  have hstore : Reachable Unplanned
    (SavesPlan planTooling planRunner.services.registry planEngagement emptySnapshots) twoPlans := twoPlans_reachable
  have hrow : (emptyPlan "SNAP-1", "CL-1", "PROF-T-1-SNAP-1") ∈ twoPlans.plans := mem_twoPlans.mpr (Or.inr rfl)
  exact (plan_runs_iff hstore hrow planRunner_runsOn (planRequest_requests "SNAP-1") _ _).mpr first_stands_first

/-- The plan of the later snapshot is persisted, and a request for it is refused. -/
theorem later_plan_refused :
    Reachable Unplanned (SavesPlan planTooling planRunner.services.registry planEngagement emptySnapshots) twoPlans ∧
      (emptyPlan "SNAP-2", "CL-1", "PROF-T-1-SNAP-2") ∈ twoPlans.plans ∧
      RunsOn planRunner planTooling planEngagement emptySnapshots twoPlans ∧
      Requests planRunner planEngagement (emptyPlan "SNAP-2") (planRequest "SNAP-2") ∧
      planRunner.admission (planRequest "SNAP-2") ⟨9, fun _ => 0, fun _ => 0⟩ [] =
        .error ⟨.permissionError, "profile does not match the requested target snapshot"⟩ :=
  ⟨twoPlans_reachable, mem_twoPlans.mpr (Or.inl rfl), planRunner_runsOn, planRequest_requests "SNAP-2", rfl⟩

end Example

end SecScanMonitor.Application.Firm
