import SecScanMonitor.Policy.DeterministicAdapter
import SecScanMonitor.Workflows.Activities

/-! Executing an activity again under the key that its effect is recorded with. -/

namespace SecScanMonitor.Workflows

open Foundations Domain Application Adjudication Reports

/-- The idempotency key of an activity. -/
def Activity.key (engagementId : String) : Activity → String
  | .validateAndAuthorize workflowRunId => s!"validate:{workflowRunId}"
  | .coordinatorPass agentRunId => s!"coordinator:{agentRunId}"
  | .authorizeWithApproval workflowRunId approvalId => s!"approval:{workflowRunId}:{approvalId}"
  | .specialistPass agentRunId _ => s!"specialist:{agentRunId}"
  | .adjudicatePass => s!"adjudicate:{engagementId}"
  | .renderReport => s!"report:{engagementId}"
  | .closeEngagement => s!"close:{engagementId}"

/-- Claims, findings, adjudications, approvals and the status of every engagement are the same. -/
structure Kept (rt rt' : EngagementRuntime) : Prop where
  claims : ∀ id, rt'.claims.find? id = rt.claims.find? id
  findings : ∀ id, rt'.findings.find? id = rt.findings.find? id
  adjudications : ∀ id, rt'.adjudications.find? id = rt.adjudications.find? id
  approvals : ∀ id, rt'.approvals.find? id = rt.approvals.find? id
  status : ∀ id, (rt'.engagements.find? id).map (fun e => e.status) =
    (rt.engagements.find? id).map fun e => e.status

lemma Kept.refl (rt : EngagementRuntime) : Kept rt rt where
  claims _ := rfl
  findings _ := rfl
  adjudications _ := rfl
  approvals _ := rfl
  status _ := rfl

/-- The ids that an execution mints are not in use. -/
structure Execution.Fresh (x : Execution) (rt : EngagementRuntime) : Prop where
  approvals : ∀ i, rt.approvals.find? (x.newId "AP" i) = none
  claims : ∀ id claims, rt.claims.find? id = some claims →
    ∀ claim ∈ claims, ∀ i, claim.claimId ≠ x.newId "CL" i
  adjudications : ∀ id adjudications, rt.adjudications.find? id = some adjudications →
    ∀ adjudication ∈ adjudications, ∀ i, adjudication.adjudicationId ≠ x.newId "ADJ" i

section Record

variable {key : String} {effect : Value} {rt rt' : EngagementRuntime}

lemma record_recorded (h : rt.effects.find? key = some effect) (e : Value) :
    record key e rt = (effect, rt) := by
  rw [record, h]

lemma find?_record (e : Value) :
    (record key e rt).2.effects.find? key = some (record key e rt).1 := by
  rw [record]
  split
  · assumption
  · exact Dict.find?_set_self _ _ _

lemma record_engagements (e : Value) : (record key e rt).2.engagements = rt.engagements := by
  rw [record]
  split
  · rfl
  · rfl

/-- Over a recorded effect, an activity gives that effect exactly where it raises nothing. -/
lemma recording_recorded {plan : EngagementRuntime → Except Raised (EngagementRuntime × Value)}
    (hplan : ∀ written e, plan rt = .ok (written, e) → written.effects = rt.effects)
    (h : rt.effects.find? key = some effect) :
    recording key plan rt = (.ok effect, rt') ↔ ∃ e, plan rt = .ok (rt', e) := by
  unfold recording
  cases hrun : plan rt with
  | error raised => simp
  | ok r =>
    obtain ⟨written, e⟩ := r
    rw [← hplan written e hrun] at h
    simp only [record_recorded h, Prod.mk.injEq, true_and, Except.ok.injEq]
    constructor
    · rintro rfl
      exact ⟨e, rfl, rfl⟩
    · rintro ⟨_, rfl, -⟩
      rfl

end Record

variable (policy : Value → Except Raised PolicyDecision) (inputSha256 : Value → String)
  (x : Execution) (engagementId : String)

/-- The activity gives the recorded effect and changes none of the records. -/
def ReturnsRecorded (a : Activity) (effect : Value) (rt : EngagementRuntime) : Prop :=
  ∃ rt', exec policy inputSha256 x engagementId a rt = (.ok effect, rt') ∧ Kept rt rt'

/-- What an activity needs to be executed again: the kernel answers, a coordinator's request needs no
approval, an approval still authorizes, there is nothing to adjudicate. -/
def Repeatable (a : Activity) (rt : EngagementRuntime) : Prop :=
  ∃ engagement, rt.engagements.find? engagementId = some engagement ∧
    match a with
    | .validateAndAuthorize _ => ∃ d, gateDecision policy inputSha256 x rt engagement = .ok d
    | .coordinatorPass _ => (FirmCoordinatorV1.decide engagement).outcome = "refuse" ∨
        ∃ d, coordinatorDecision policy inputSha256 x rt engagement = .ok d ∧ d ≠ .requireApproval
    | .authorizeWithApproval _ approvalId => ∃ approval,
        rt.approvals.find? approvalId = some approval ∧ approval.decision = "approved" ∧
          approvalDecision policy inputSha256 x rt engagement approval = .ok .allow
    | .specialistPass _ _ => False
    | .adjudicatePass => (rt.claims.find? engagement.engagementId).getD [] = [] ∧
        rt.adjudications.find? engagement.engagementId = some [] ∧
        rt.findings.find? engagement.engagementId = some []
    | .renderReport => True
    | .closeEngagement => False

section Plans

variable {policy inputSha256 x engagementId} {rt rt' : EngagementRuntime} {effect : Value}

lemma pure_eq_ok {α : Type} {a b : α} : (pure a : Except Raised α) = .ok b ↔ a = b :=
  ⟨Except.ok.inj, congrArg Except.ok⟩

lemma loadEngagement_eq_ok {engagement : EngagementRecord} :
    loadEngagement rt engagementId = .ok engagement ↔
      rt.engagements.find? engagementId = some engagement :=
  orRaise_eq_ok

lemma validation_eq_ok : validation policy inputSha256 x engagementId rt = .ok (rt', effect) ↔
    ∃ engagement, rt.engagements.find? engagementId = some engagement ∧
      ∃ d, gateDecision policy inputSha256 x rt engagement = .ok d ∧
        rt = rt' ∧ .obj [("decision", .str d.value)] = effect := by
  simp only [validation, bind_eq_ok, loadEngagement_eq_ok, pure_eq_ok, Prod.mk.injEq]

lemma coordination_eq_ok : coordination policy inputSha256 x engagementId rt = .ok (rt', effect) ↔
    ∃ engagement, rt.engagements.find? engagementId = some engagement ∧
      (((FirmCoordinatorV1.decide engagement).outcome = "refuse" ∧ rt = rt' ∧
          .obj [("verdict", .str "refuse"),
            ("reason", .str (FirmCoordinatorV1.decide engagement).reason)] = effect) ∨
        ((FirmCoordinatorV1.decide engagement).outcome ≠ "refuse" ∧
          ∃ targetId, engagement.targetIds.head? = some targetId ∧
            ∃ d, coordinatorDecision policy inputSha256 x rt engagement = .ok d ∧
              coordinated x engagement targetId rt d = (rt', effect))) := by
  simp only [coordination, bind_eq_ok, loadEngagement_eq_ok]
  refine exists_congr fun engagement => and_congr_right fun _ => ?_
  by_cases hrefuse : (FirmCoordinatorV1.decide engagement).outcome = "refuse"
  · simp only [hrefuse, if_true, pure_eq_ok, Prod.mk.injEq, ne_eq, not_true_eq_false, false_and,
      or_false, true_and]
  · simp only [hrefuse, if_false, false_and, ne_eq, not_false_eq_true, true_and, false_or,
      bind_eq_ok, orRaise_eq_ok, pure_eq_ok]

lemma authorization_eq_ok {approvalId : String} :
    authorization policy inputSha256 x engagementId approvalId rt = .ok (rt', effect) ↔
      ∃ engagement, rt.engagements.find? engagementId = some engagement ∧
        ∃ approval, rt.approvals.find? approvalId = some approval ∧ approval.decision = "approved" ∧
          approvalDecision policy inputSha256 x rt engagement approval = .ok .allow ∧
            rt = rt' ∧ .obj [("decision", .str "allow")] = effect := by
  simp only [authorization, bind_eq_ok, loadEngagement_eq_ok, orRaise_eq_ok, raiseIf_eq_ok,
    pure_eq_ok, Prod.mk.injEq, not_not]
  refine exists_congr fun engagement => and_congr_right fun _ => exists_congr fun approval =>
    and_congr_right fun _ => ?_
  constructor
  · rintro ⟨_, happroved, d, hd, _, rfl, hwritten⟩
    exact ⟨happroved, hd, hwritten⟩
  · rintro ⟨happroved, hd, hwritten⟩
    exact ⟨(), happroved, .allow, hd, (), rfl, hwritten⟩

lemma specialistReview_eq_ok {agentRunId : String} {evidenceIds : List String}
    (h : specialistReview x engagementId agentRunId evidenceIds rt = .ok (rt', effect)) :
    ∃ engagement, rt.engagements.find? engagementId = some engagement ∧
      rt' = { rt with
        claims := rt.claims.set engagement.engagementId
          (SecurityReviewSpecialistV1.review x engagement.engagementId agentRunId evidenceIds).2 } := by
  simp only [specialistReview, bind_eq_ok, loadEngagement_eq_ok, pure_eq_ok, Prod.mk.injEq] at h
  obtain ⟨engagement, hload, rfl, -⟩ := h
  exact ⟨engagement, hload, rfl⟩

lemma claimAdjudication_eq_ok : claimAdjudication x engagementId rt = .ok (rt', effect) ↔
    ∃ engagement, rt.engagements.find? engagementId = some engagement ∧
      ∃ r, adjudicateClaims x engagement 0
          ((rt.claims.find? engagement.engagementId).getD []) = .ok r ∧
        { rt with
          adjudications := rt.adjudications.set engagement.engagementId r.1
          findings := rt.findings.set engagement.engagementId r.2 } = rt' ∧
        .obj [("findings", .int r.2.length)] = effect := by
  simp only [claimAdjudication, bind_eq_ok, loadEngagement_eq_ok, pure_eq_ok, Prod.mk.injEq]

lemma rendering_eq_ok : rendering x engagementId rt = .ok (rt', effect) ↔
    ∃ engagement, rt.engagements.find? engagementId = some engagement ∧
      { rt with
        reports := rt.reports.set engagement.engagementId (renderFirmReport
          (firmReport x engagement ((rt.findings.find? engagement.engagementId).getD []))) } = rt' ∧
      .obj [("findings", .int ((rt.findings.find? engagement.engagementId).getD []).length)] =
        effect := by
  simp only [rendering, bind_eq_ok, loadEngagement_eq_ok, pure_eq_ok, Prod.mk.injEq]

end Plans

section Activities

variable {policy inputSha256 x engagementId} {rt : EngagementRuntime} {effect : Value}

/-- An activity whose plan leaves the effects alone gives the recorded one where its plan goes through and
changes no record. -/
lemma returnsRecorded_recording {a : Activity} {key : String}
    {plan : EngagementRuntime → Except Raised (EngagementRuntime × Value)}
    (hexec : exec policy inputSha256 x engagementId a = recording key plan)
    (hplan : ∀ written e, plan rt = .ok (written, e) → written.effects = rt.effects)
    (h : rt.effects.find? key = some effect) :
    ReturnsRecorded policy inputSha256 x engagementId a effect rt ↔
      ∃ rt' e, plan rt = .ok (rt', e) ∧ Kept rt rt' := by
  simp only [ReturnsRecorded, hexec, recording_recorded hplan h, exists_and_right]

lemma find?_set_same {α : Type} {d : Dict String α} {k : String} {v : α} (h : d.find? k = some v)
    (l : String) : (d.set k v).find? l = d.find? l := by
  rw [Dict.find?_set]
  by_cases hl : l = k
  · rw [if_pos hl, hl, h]
  · rw [if_neg hl]

lemma validate_repeats {workflowRunId : String}
    (h : rt.effects.find? s!"validate:{workflowRunId}" = some effect) :
    ReturnsRecorded policy inputSha256 x engagementId (.validateAndAuthorize workflowRunId) effect rt ↔
      Repeatable policy inputSha256 x engagementId (.validateAndAuthorize workflowRunId) rt := by
  rw [returnsRecorded_recording rfl (fun written e hrun => ?_) h]
  · constructor
    · rintro ⟨rt', e, hrun, -⟩
      obtain ⟨engagement, hload, d, hd, -⟩ := validation_eq_ok.mp hrun
      exact ⟨engagement, hload, d, hd⟩
    · rintro ⟨engagement, hload, d, hd⟩
      exact ⟨rt, _, validation_eq_ok.mpr ⟨engagement, hload, d, hd, rfl, rfl⟩, Kept.refl rt⟩
  · obtain ⟨_, _, _, _, rfl, _⟩ := validation_eq_ok.mp hrun
    rfl

lemma coordinated_effects {engagement : EngagementRecord} {targetId : String} {d : PolicyDecision} :
    (coordinated x engagement targetId rt d).1.effects = rt.effects := by
  cases d <;> rfl

/-- Only a new approval changes the records. -/
lemma kept_coordinated_iff {engagement : EngagementRecord} {targetId : String} {d : PolicyDecision}
    (hfresh : x.Fresh rt) :
    Kept rt (coordinated x engagement targetId rt d).1 ↔ d ≠ .requireApproval := by
  cases d with
  | allow => exact ⟨fun _ => nofun, fun _ => Kept.refl rt⟩
  | deny => exact ⟨fun _ => nofun, fun _ => Kept.refl rt⟩
  | requireApproval =>
    refine ⟨fun hkept => ?_, fun h => absurd rfl h⟩
    have hsame := hkept.approvals (x.newId "AP" 0)
    rw [hfresh.approvals 0] at hsame
    exact absurd ((Dict.find?_set_self rt.approvals _ _).symm.trans hsame) nofun

lemma coordinator_repeats {agentRunId : String}
    (h : rt.effects.find? s!"coordinator:{agentRunId}" = some effect) (hfresh : x.Fresh rt) :
    ReturnsRecorded policy inputSha256 x engagementId (.coordinatorPass agentRunId) effect rt ↔
      Repeatable policy inputSha256 x engagementId (.coordinatorPass agentRunId) rt := by
  rw [returnsRecorded_recording rfl (fun written e hrun => ?_) h]
  · constructor
    · rintro ⟨rt', e, hrun, hkept⟩
      obtain ⟨engagement, hload, ⟨hrefuse, -⟩ | ⟨-, targetId, -, d, hd, hwritten⟩⟩ :=
        coordination_eq_ok.mp hrun
      · exact ⟨engagement, hload, Or.inl hrefuse⟩
      · obtain rfl : _ = rt' := congrArg Prod.fst hwritten
        exact ⟨engagement, hload, Or.inr ⟨d, hd, (kept_coordinated_iff hfresh).mp hkept⟩⟩
    · rintro ⟨engagement, hload, hrepeat⟩
      by_cases hrefuse : (FirmCoordinatorV1.decide engagement).outcome = "refuse"
      · exact ⟨rt, _, coordination_eq_ok.mpr ⟨engagement, hload, Or.inl ⟨hrefuse, rfl, rfl⟩⟩,
          Kept.refl rt⟩
      · obtain ⟨d, hd, happroval⟩ := hrepeat.resolve_left hrefuse
        have htargets : engagement.targetIds ≠ [] := by
          intro hnone
          apply hrefuse
          rw [FirmCoordinatorV1.decide, if_pos (Or.inr hnone)]
        obtain ⟨targetId, targets, htarget⟩ := List.exists_cons_of_ne_nil htargets
        exact ⟨_, _, coordination_eq_ok.mpr ⟨engagement, hload, Or.inr ⟨hrefuse, targetId,
          by rw [htarget, List.head?_cons], d, hd, rfl⟩⟩, (kept_coordinated_iff hfresh).mpr happroval⟩
  · obtain ⟨_, _, ⟨-, rfl, -⟩ | ⟨-, _, -, _, -, hwritten⟩⟩ := coordination_eq_ok.mp hrun
    · rfl
    · exact (congrArg (fun r => r.1.effects) hwritten).symm.trans coordinated_effects

lemma authorize_repeats {workflowRunId approvalId : String}
    (h : rt.effects.find? s!"approval:{workflowRunId}:{approvalId}" = some effect) :
    ReturnsRecorded policy inputSha256 x engagementId
        (.authorizeWithApproval workflowRunId approvalId) effect rt ↔
      Repeatable policy inputSha256 x engagementId
        (.authorizeWithApproval workflowRunId approvalId) rt := by
  rw [returnsRecorded_recording rfl (fun written e hrun => ?_) h]
  · constructor
    · rintro ⟨rt', e, hrun, -⟩
      obtain ⟨engagement, hload, approval, hfound, happroved, hd, -⟩ := authorization_eq_ok.mp hrun
      exact ⟨engagement, hload, approval, hfound, happroved, hd⟩
    · rintro ⟨engagement, hload, approval, hfound, happroved, hd⟩
      exact ⟨rt, _, authorization_eq_ok.mpr
        ⟨engagement, hload, approval, hfound, happroved, hd, rfl, rfl⟩, Kept.refl rt⟩
  · obtain ⟨_, _, _, _, _, _, rfl, _⟩ := authorization_eq_ok.mp hrun
    rfl

/-- A second review stores a claim under another id. -/
lemma specialist_changes {agentRunId : String} {evidenceIds : List String} (hfresh : x.Fresh rt)
    (h : rt.effects.find? s!"specialist:{agentRunId}" = some effect) :
    ¬ ReturnsRecorded policy inputSha256 x engagementId (.specialistPass agentRunId evidenceIds)
      effect rt := by
  rw [returnsRecorded_recording rfl (fun written e hrun => ?_) h]
  · rintro ⟨rt', e, hrun, hkept⟩
    obtain ⟨engagement, -, rfl⟩ := specialistReview_eq_ok hrun
    have hstored := (hkept.claims engagement.engagementId).symm.trans (Dict.find?_set_self _ _ _)
    exact hfresh.claims _ _ hstored _ List.mem_cons_self _ rfl
  · obtain ⟨_, -, rfl⟩ := specialistReview_eq_ok hrun
    rfl

lemma adjudicateClaims_nil {engagement : EngagementRecord} {i : ℕ} {claims : List Claim}
    {findings : List Finding} (h : adjudicateClaims x engagement i claims = .ok ([], findings)) :
    claims = [] := by
  cases claims with
  | nil => rfl
  | cons claim claims =>
    rw [adjudicateClaims] at h
    obtain ⟨r, -, h⟩ := bind_eq_ok.mp h
    obtain ⟨rs, -, h⟩ := bind_eq_ok.mp h
    cases Except.ok.inj h

/-- The first adjudication has the first id that is minted. -/
lemma adjudicateClaims_id {engagement : EngagementRecord} {i : ℕ} {claims : List Claim}
    {adjudication : Adjudication} {adjudications : List Adjudication} {findings : List Finding}
    (h : adjudicateClaims x engagement i claims = .ok (adjudication :: adjudications, findings)) :
    adjudication.adjudicationId = x.newId "ADJ" i := by
  cases claims with
  | nil => cases h
  | cons claim claims =>
    rw [adjudicateClaims] at h
    obtain ⟨r, hr, h⟩ := bind_eq_ok.mp h
    obtain ⟨rs, -, h⟩ := bind_eq_ok.mp h
    have hfirst := congrArg Prod.fst (Except.ok.inj h)
    rw [← (List.cons.inj hfirst).1, AdjudicationService.adjudicate_id hr]

lemma adjudicate_repeats (h : rt.effects.find? s!"adjudicate:{engagementId}" = some effect)
    (hfresh : x.Fresh rt) :
    ReturnsRecorded policy inputSha256 x engagementId .adjudicatePass effect rt ↔
      Repeatable policy inputSha256 x engagementId .adjudicatePass rt := by
  rw [returnsRecorded_recording rfl (fun written e hrun => ?_) h]
  · constructor
    · rintro ⟨rt', e, hrun, hkept⟩
      obtain ⟨engagement, hload, ⟨adjudications, findings⟩, hr, rfl, -⟩ := claimAdjudication_eq_ok.mp hrun
      have hadjudications := (hkept.adjudications engagement.engagementId).symm.trans
        (Dict.find?_set_self _ _ _)
      have hfindings := (hkept.findings engagement.engagementId).symm.trans
        (Dict.find?_set_self _ _ _)
      cases adjudications with
      | cons adjudication adjudications =>
        exact absurd (adjudicateClaims_id hr)
          (hfresh.adjudications _ _ hadjudications _ List.mem_cons_self 0)
      | nil =>
        have hclaims := adjudicateClaims_nil hr
        rw [hclaims, adjudicateClaims] at hr
        obtain rfl : [] = findings := congrArg Prod.snd (Except.ok.inj hr)
        exact ⟨engagement, hload, hclaims, hadjudications, hfindings⟩
    · rintro ⟨engagement, hload, hclaims, hadjudications, hfindings⟩
      refine ⟨_, _, claimAdjudication_eq_ok.mpr ⟨engagement, hload, ([], []), ?_, rfl, rfl⟩, ?_⟩
      · rw [hclaims, adjudicateClaims]
      · exact
          { Kept.refl rt with
            findings := find?_set_same hfindings
            adjudications := find?_set_same hadjudications }
  · obtain ⟨_, _, _, _, rfl, _⟩ := claimAdjudication_eq_ok.mp hrun
    rfl

lemma report_repeats (h : rt.effects.find? s!"report:{engagementId}" = some effect) :
    ReturnsRecorded policy inputSha256 x engagementId .renderReport effect rt ↔
      Repeatable policy inputSha256 x engagementId .renderReport rt := by
  rw [returnsRecorded_recording rfl (fun written e hrun => ?_) h]
  · constructor
    · rintro ⟨rt', e, hrun, -⟩
      obtain ⟨engagement, hload, -⟩ := rendering_eq_ok.mp hrun
      exact ⟨engagement, hload, trivial⟩
    · rintro ⟨engagement, hload, -⟩
      exact ⟨_, _, rendering_eq_ok.mpr ⟨engagement, hload, rfl, rfl⟩, { Kept.refl rt with }⟩
  · obtain ⟨_, _, rfl, _⟩ := rendering_eq_ok.mp hrun
    rfl

/-- Closing ends in the last of its statuses. -/
lemma advance_status {i : ℕ} {steps : List (EngagementStatus × String)} {e : EngagementRecord}
    (h : (advance x i steps e).1 = .ok ()) (hsteps : steps ≠ []) :
    (advance x i steps e).2.status = (steps.getLast hsteps).1 := by
  induction steps generalizing i e with
  | nil => exact absurd rfl hsteps
  | cons step steps ih =>
    obtain ⟨target, reason⟩ := step
    have hrest : ∀ e' : EngagementRecord, e'.status = target →
        (advance x (i + 1) steps e').1 = .ok () →
        (advance x (i + 1) steps e').2.status = (((target, reason) :: steps).getLast hsteps).1 := by
      intro e' he' hok
      cases steps with
      | nil => exact he'
      | cons next steps =>
        rw [List.getLast_cons (List.cons_ne_nil next steps)]
        exact ih hok (List.cons_ne_nil next steps)
    rw [advance] at h ⊢
    by_cases hstatus : e.status = target
    · rw [if_pos hstatus] at h ⊢
      exact hrest e hstatus h
    · rw [if_neg hstatus] at h ⊢
      cases hmove : e.toEngagementAggregate.transition target
          ⟨e.requesterPrincipalId, reason, x.newId "AE" i, x.instant i⟩ with
      | error raised =>
        rw [hmove] at h
        cases h
      | ok r =>
        rw [hmove] at h
        refine hrest _ ?_ h
        obtain ⟨-, -, hmoved⟩ := EngagementAggregate.transition_eq_ok.mp
          (show _ = Except.ok (r.1, r.2) from hmove)
        exact congrArg (fun m : EngagementAggregate => m.status) hmoved

/-- A closing that has begun is not begun again: `active` is left behind by its second step. -/
lemma advance_begins {e : EngagementRecord} (h : (advance x 0 closingSteps e).1 = .ok ()) :
    e.status = .active ∨ .active ∈ e.status.transitions := by
  by_contra hnot
  obtain ⟨hactive, hbegin⟩ := not_or.mp hnot
  rw [closingSteps, advance, if_neg hactive] at h
  cases hmove : e.toEngagementAggregate.transition .active
      ⟨e.requesterPrincipalId, "workflow active", x.newId "AE" 0, x.instant 0⟩ with
  | error raised =>
    rw [hmove] at h
    cases h
  | ok r =>
    obtain ⟨hcheck, -⟩ := EngagementAggregate.transition_eq_ok.mp
      (show _ = Except.ok (r.1, r.2) from hmove)
    exact hbegin (EngagementAggregate.checkTransition_eq_ok.mp hcheck).1

/-- What is closed cannot be closed again. -/
lemma close_changes : ¬ ReturnsRecorded policy inputSha256 x engagementId .closeEngagement effect rt := by
  rintro ⟨rt', hexec, hkept⟩
  simp only [exec, closeEngagement, loadEngagement] at hexec
  cases hload : rt.engagements.find? engagementId with
  | none =>
    rw [hload] at hexec
    cases hexec
  | some engagement =>
    simp only [hload, orRaise] at hexec
    cases hclosing : (advance x 0 closingSteps engagement).1 with
    | error raised =>
      rw [hclosing] at hexec
      cases hexec
    | ok u =>
      rw [hclosing] at hexec
      have hclosed := advance_status hclosing (List.cons_ne_nil _ _)
      have hsame := hkept.status engagementId
      obtain ⟨-, rfl⟩ := Prod.mk.inj hexec
      rw [record_engagements, Dict.find?_set_self, hload] at hsame
      have hbefore : engagement.status = .closed := (Option.some.inj hsame).symm.trans hclosed
      have hbegins := advance_begins hclosing
      rw [hbefore] at hbegins
      exact absurd hbegins (by decide)

/-- What an activity gives is recorded under its key. -/
lemma recorded_of_exec {a : Activity} {rt rt' : EngagementRuntime} {effect : Value}
    (h : exec policy inputSha256 x engagementId a rt = (.ok effect, rt')) :
    rt'.effects.find? (a.key engagementId) = some effect := by
  have hrecording : ∀ (key : String)
      (plan : EngagementRuntime → Except Raised (EngagementRuntime × Value)),
      recording key plan rt = (.ok effect, rt') → rt'.effects.find? key = some effect := by
    intro key plan hrun
    unfold recording at hrun
    split at hrun
    · cases hrun
    · rename_i written e _
      obtain ⟨heffect, rfl⟩ := Prod.mk.inj hrun
      rw [find?_record, Except.ok.inj heffect]
  cases a with
  | closeEngagement =>
    simp only [exec, closeEngagement] at h
    split at h
    · cases h
    · split at h
      · cases h
      · obtain ⟨heffect, rfl⟩ := Prod.mk.inj h
        rw [Activity.key, find?_record, Except.ok.inj heffect]
  | validateAndAuthorize workflowRunId => exact hrecording _ _ h
  | coordinatorPass agentRunId => exact hrecording _ _ h
  | authorizeWithApproval workflowRunId approvalId => exact hrecording _ _ h
  | specialistPass agentRunId evidenceIds => exact hrecording _ _ h
  | adjudicatePass => exact hrecording _ _ h
  | renderReport => exact hrecording _ _ h

end Activities

/-- In every state where the effect of an activity is recorded, executing the activity gives that effect,
raises nothing and leaves the records as they are exactly where it is repeatable. -/
theorem repeats_iff {a : Activity} {rt : EngagementRuntime} {effect : Value}
    (hrecorded : rt.effects.find? (a.key engagementId) = some effect) (hfresh : x.Fresh rt) :
    ReturnsRecorded policy inputSha256 x engagementId a effect rt ↔
      Repeatable policy inputSha256 x engagementId a rt := by
  cases a with
  | validateAndAuthorize workflowRunId => exact validate_repeats hrecorded
  | coordinatorPass agentRunId => exact coordinator_repeats hrecorded hfresh
  | authorizeWithApproval workflowRunId approvalId => exact authorize_repeats hrecorded
  | specialistPass agentRunId evidenceIds =>
    refine ⟨fun h => absurd h (specialist_changes hfresh hrecorded), ?_⟩
    rintro ⟨_, -, hnever⟩
    exact hnever.elim
  | adjudicatePass => exact adjudicate_repeats hrecorded hfresh
  | renderReport => exact report_repeats hrecorded
  | closeEngagement =>
    refine ⟨fun h => absurd h close_changes, ?_⟩
    rintro ⟨_, -, hnever⟩
    exact hnever.elim

section Example

def sampleEngagement : EngagementRecord where
  engagementId := "EN-1"
  targetIds := ["TG-1"]
  authorityLevel := .inspectionOnly
  status := .active
  statusHistory := []
  refusalReason := none
  suspendedFrom := none
  updatedAt := "2026-01-01T00:00:00+00:00"
  requesterPrincipalId := "PR-1"
  scope := "repository"
  passType := .posture

/-- The runtime seeded with one engagement. -/
def seeded : EngagementRuntime where
  engagements := Dict.set Table.empty "EN-1" sampleEngagement
  grants := Table.empty
  approvals := Table.empty
  claims := Table.empty
  findings := Table.empty
  adjudications := Table.empty
  reports := Table.empty
  effects := Table.empty

/-- An execution whose uuids are all written with one digit. -/
def minting (digit : Char) : Execution where
  now := 10
  date := "2026-01-01T00:00:00+00:00"
  instant := fun _ => "2026-01-01T00:00:00+00:00"
  hex := fun i => String.ofList (digit :: List.replicate i digit)

def noDigest (_ : Value) : String := ""

def reviewed : EngagementRuntime :=
  (exec Policy.DeterministicDecisionAdapter.decide noDigest (minting '1') "EN-1"
    (.specialistPass "AR-1" ["EV-1"]) seeded).2

lemma exec_reviewed : exec Policy.DeterministicDecisionAdapter.decide noDigest (minting '1') "EN-1"
    (.specialistPass "AR-1" ["EV-1"]) seeded =
      (.ok (.obj [("observations", .int 1), ("claims", .int 1)]), reviewed) := by
  rfl

lemma minting_newId {d d' : Char} (hd : d ≠ d') (kind : String) (i j : ℕ) :
    (minting d).newId kind i ≠ (minting d').newId kind j := by
  intro h
  have hlists := congrArg String.toList h
  simp only [Execution.newId, minting, String.toList_append, String.toList_ofList,
    List.append_cancel_left_eq] at hlists
  exact hd (List.cons.inj hlists).1

lemma reviewed_fresh : (minting '2').Fresh reviewed where
  approvals _ := rfl
  claims id claims h claim hclaim i := by
    obtain ⟨-, rfl⟩ | h := Dict.find?_set_eq_some (d := Table.empty) h
    · obtain rfl := List.mem_singleton.mp hclaim
      exact minting_newId (by decide) "CL" _ i
    · cases h
  adjudications id adjudications h := by cases h

def rendered : EngagementRuntime :=
  (exec Policy.DeterministicDecisionAdapter.decide noDigest (minting '1') "EN-1" .renderReport seeded).2

lemma exec_rendered : exec Policy.DeterministicDecisionAdapter.decide noDigest (minting '1') "EN-1"
    .renderReport seeded = (.ok (.obj [("findings", .int 0)]), rendered) := by
  rfl

lemma rendered_fresh : (minting '2').Fresh rendered where
  approvals _ := rfl
  claims id claims h := by cases h
  adjudications id adjudications h := by cases h

/-- A rendered report is rendered again. -/
theorem report_repeated : ReturnsRecorded Policy.DeterministicDecisionAdapter.decide noDigest
    (minting '2') "EN-1" .renderReport (.obj [("findings", .int 0)]) rendered :=
  (repeats_iff _ _ _ _ (recorded_of_exec exec_rendered) rendered_fresh).mpr
    ⟨sampleEngagement, rfl, trivial⟩

/-- A review that is executed again stores its claim anew. -/
theorem review_repeated : ¬ ∀ (policy : Value → Except Raised PolicyDecision)
    (inputSha256 : Value → String) (x x' : Execution) (engagementId : String) (a : Activity)
    (rt rt' : EngagementRuntime) (effect : Value),
    exec policy inputSha256 x engagementId a rt = (.ok effect, rt') → x'.Fresh rt' →
      ReturnsRecorded policy inputSha256 x' engagementId a effect rt' := by
  intro hall
  have hrepeated := hall Policy.DeterministicDecisionAdapter.decide noDigest (minting '1') (minting '2')
    "EN-1" (.specialistPass "AR-1" ["EV-1"]) seeded reviewed _ exec_reviewed reviewed_fresh
  exact specialist_changes reviewed_fresh (recorded_of_exec exec_reviewed) hrepeated

end Example

end SecScanMonitor.Workflows
