import SecScanMonitor.Application.ApprovalGate

/-! Proposing the same response again. The service that answers is a new one at every call, so that a replay is
settled by the stored rows: the proposal is built again from its inputs and compared with a row that a decision may
have changed. -/

namespace SecScanMonitor.Application.LiveIncidentControlPlane

open Foundations Domain DetectionResponse Persistence

variable {codec : Codec} {secretLike : Value → Bool} {env env' : Surroundings} {db db' : Database}

section Service

open ResponseProposalService

/-- A service that holds nothing answers with the proposal that the policy's decision calls for. -/
lemma propose_init_eq_ok {cfg : Config} {incidents : String → Option Incident} {now : Datetime}
    {policy : Value → Except Raised (Option OpaDecision)} {args : ProposeArgs} {p : ResponseProposal} :
    (propose cfg incidents now policy args init).1 = .ok p ↔
      ∃ expiry answer, proposeChecks cfg incidents now args = .ok expiry ∧
        policy (args.base cfg.codec expiry) = .ok answer ∧
        (args.proposal cfg.codec expiry (answer.getD .deny)).validate = .ok p := by
  unfold propose
  cases hc : proposeChecks cfg incidents now args with
  | error e =>
    constructor
    · intro h
      cases h
    · rintro ⟨_, _, h, -⟩
      cases h
  | ok expiry =>
    simp only [init, Dict.find?_empty]
    cases ha : policy (args.base cfg.codec expiry) with
    | error e =>
      constructor
      · intro h
        cases h
      · rintro ⟨_, answer, ⟨⟩, hanswer, -⟩
        rw [ha] at hanswer
        cases hanswer
    | ok answer =>
      simp only
      constructor
      · intro h
        refine ⟨expiry, answer, rfl, ha, ?_⟩
        split at h
        · cases h
        · rename_i q hq
          obtain rfl := Except.ok.inj h
          exact hq
      · rintro ⟨_, _, ⟨⟩, hanswer, hvalid⟩
        obtain rfl := Except.ok.inj (ha.symm.trans hanswer)
        rw [hvalid]

/-- The checks depend on the clock by the expiry alone. -/
lemma proposeChecks_later {cfg : Config} {incidents : String → Option Incident} {now now' : Datetime}
    {args : ProposeArgs} {expiry : Datetime} (h : proposeChecks cfg incidents now args = .ok expiry)
    (hnow : now' < expiry) : proposeChecks cfg incidents now' args = .ok expiry := by
  unfold proposeChecks at h ⊢
  obtain ⟨u, hscope, h⟩ := bind_eq_ok.mp h
  refine bind_eq_ok.mpr ⟨u, hscope, ?_⟩
  simp only [raiseIf_bind_eq_ok] at h ⊢
  obtain ⟨hincident, hstate, h⟩ := h
  refine ⟨hincident, hstate, ?_⟩
  cases he : args.expiresAt with
  | none =>
    rw [he] at h
    cases h
  | some t =>
    rw [he] at h
    simp only [raiseIf_bind_eq_ok] at h ⊢
    obtain ⟨-, hevidence, h⟩ := h
    obtain rfl := Except.ok.inj h
    exact ⟨not_le.mpr hnow, hevidence, rfl⟩

end Service

section Frame

/-- What no call of the control plane changes, and the capability requests, which are only added to. -/
structure Frame (db db' : Database) : Prop where
  engagements : db'.engagements = db.engagements
  engagementTargets : db'.engagementTargets = db.engagementTargets
  principals : db'.principals = db.principals
  incidents : db'.incidents = db.incidents
  requests : db'.responseCapabilityRequests.Extends db.responseCapabilityRequests

lemma Frame.refl (db : Database) : Frame db db := ⟨rfl, rfl, rfl, rfl, Table.Extends.refl _⟩

lemma Frame.trans {db'' : Database} (h' : Frame db' db'') (h : Frame db db') : Frame db db'' where
  engagements := h'.engagements.trans h.engagements
  engagementTargets := h'.engagementTargets.trans h.engagementTargets
  principals := h'.principals.trans h.principals
  incidents := h'.incidents.trans h.incidents
  requests := h'.requests.trans h.requests

lemma persist_frame {now : Datetime} {p : ResponseProposal} {requestedBy : String} {u : Unit}
    (h : persistResponseProposal codec secretLike now p requestedBy db = .ok (u, db')) : Frame db db' := by
  simp only [persistResponseProposal, raiseIf_bind_eq_ok] at h
  obtain ⟨-, h⟩ := h
  obtain ⟨-, -, h⟩ := bind_eq_ok.mp h
  rw [raiseIf_bind_eq_ok] at h
  obtain ⟨-, h⟩ := h
  obtain ⟨proposals, -, h⟩ := bind_eq_ok.mp h
  split at h
  · obtain ⟨-, rfl⟩ := Prod.mk.inj (Except.ok.inj h)
    exact ⟨rfl, rfl, rfl, rfl, Table.Extends.refl _⟩
  · obtain ⟨requests, hrequests, h⟩ := bind_eq_ok.mp h
    obtain ⟨approvals, -, h⟩ := bind_eq_ok.mp h
    obtain ⟨-, rfl⟩ := Prod.mk.inj (Except.ok.inj h)
    exact ⟨rfl, rfl, rfl, rfl, insertOrReplay_extends hrequests⟩

lemma decide_frame {now : Datetime} {p : ResponseProposal}
    {decidedBy decision proposalState rationale : String} {r : Approval}
    (h : decideApproval codec secretLike now p decidedBy decision proposalState rationale db =
      .ok (r, db')) : Frame db db' := by
  simp only [decideApproval] at h
  split at h
  · cases h
  simp only [raiseIf_bind_eq_ok, commitDecision] at h
  obtain ⟨-, -, h⟩ := h
  obtain ⟨a, -, h⟩ := bind_eq_ok.mp h
  simp only [raiseIf_bind_eq_ok, orRaise_bind_eq_ok] at h
  obtain ⟨-, -, row, -, -, -, -, h⟩ := h
  split at h
  · split at h
    · obtain ⟨-, rfl⟩ := Prod.mk.inj (Except.ok.inj h)
      exact Frame.refl _
    · cases h
  obtain ⟨approval, -, h⟩ := bind_eq_ok.mp h
  obtain ⟨-, rfl⟩ := Prod.mk.inj (Except.ok.inj h)
  exact ⟨rfl, rfl, rfl, rfl, Table.Extends.refl _⟩

lemma exec_frame (call : Call) : Frame db (call.exec codec secretLike env db).2 := by
  cases call with
  | proposeResponse call =>
    change Frame db (proposeResponse codec secretLike env call db).2
    unfold proposeResponse
    split
    · exact Frame.refl db
    · split
      · exact Frame.refl db
      · rename_i hpersist
        exact persist_frame hpersist
  | decideResponseApproval call =>
    change Frame db (decideResponseApproval codec secretLike env call db).2
    unfold decideResponseApproval
    split
    · exact Frame.refl db
    · split
      · exact Frame.refl db
      · rename_i hdecide
        exact decide_frame hdecide

lemma run_frame (h : Run (LiveStep codec secretLike) db db') : Frame db db' := by
  induction h with
  | refl => exact Frame.refl db
  | tail _ hstep ih =>
    obtain ⟨env, call, rfl⟩ := hstep
    exact (exec_frame call).trans ih

end Frame

section Recorded

/-- Rows that a replay compares as equal to the capability request of the proposal. -/
structure RequestOf (codec : Codec) (p : ResponseProposal) (r : ResponseCapabilityRequestRow) : Prop where
  requestId : r.requestId = requestId codec p
  same : r.proposalId = p.proposalId ∧ r.tenantId = p.scope.tenantId ∧ r.caseId = p.scope.caseId ∧
    r.targetId = p.targetId ∧ r.action = p.action ∧ r.proposalDigest = p.proposalDigest

/-- The approval that was stored with the proposal, in whatever state. -/
structure ApprovalFor (codec : Codec) (p : ResponseProposal) (requestedBy : String) (a : Approval) :
    Prop where
  approvalId : a.approvalId = (pendingApproval codec p requestedBy).approvalId
  same : a.engagementId = p.scope.caseId ∧ a.requestedByPrincipalId = requestedBy ∧
    a.requestRef = p.proposalId ∧ a.targetId = p.targetId ∧ a.capabilityId = responseCapability ∧
    a.action = .remediate

/-- The proposal is stored, in whatever state, with its capability request and its approval. -/
structure Recorded (codec : Codec) (p : ResponseProposal) (requestedBy : String) (db : Database) :
    Prop where
  proposal : ∃ state, setState state (proposalRow p) ∈ db.responseProposals
  request : p.humanApprovalState = .approvalRequired → ∃ r ∈ db.responseCapabilityRequests, RequestOf codec p r
  approval : p.humanApprovalState = .approvalRequired → ∃ a ∈ db.approvals, ApprovalFor codec p requestedBy a
  refused : p.opaDecision = .deny → proposalRow p ∈ db.responseProposals

variable {p : ResponseProposal} {requestedBy : String}

lemma persist_recorded {now : Datetime} {u : Unit}
    (h : persistResponseProposal codec secretLike now p requestedBy db = .ok (u, db')) :
    Recorded codec p requestedBy db' := by
  have hstored := (persistResponseProposal_eq_ok h).stored
  refine ⟨⟨p.humanApprovalState, hstored⟩, fun hstate => ?_, fun hstate => ?_, fun _ => hstored⟩
  all_goals
    simp only [persistResponseProposal, raiseIf_bind_eq_ok] at h
    obtain ⟨-, h⟩ := h
    obtain ⟨-, -, h⟩ := bind_eq_ok.mp h
    rw [raiseIf_bind_eq_ok] at h
    obtain ⟨-, h⟩ := h
    obtain ⟨proposals, -, h⟩ := bind_eq_ok.mp h
    rw [if_neg (not_not.mpr hstate)] at h
    obtain ⟨requests, hrequests, h⟩ := bind_eq_ok.mp h
    obtain ⟨approvals, happrovals, h⟩ := bind_eq_ok.mp h
    obtain ⟨-, rfl⟩ := Prod.mk.inj (Except.ok.inj h)
  · rcases insertOrReplay_eq_ok hrequests with ⟨r, hr, hid, hsame, rfl⟩ | ⟨-, hrows, -⟩
    · simp only [Bool.and_eq_true, decide_eq_true_eq, and_assoc] at hsame
      exact ⟨r, hr, hid, hsame⟩
    · refine ⟨capabilityRequestRow codec now p, ?_, rfl, rfl, rfl, rfl, rfl, rfl, rfl⟩
      simp only [Table.mem_def, hrows]
      exact List.mem_cons_self
  · rcases insertOrReplay_eq_ok happrovals with ⟨a, ha, hid, hsame, rfl⟩ | ⟨-, hrows, -⟩
    · simp only [Bool.and_eq_true, decide_eq_true_eq, and_assoc] at hsame
      obtain ⟨hengagement, hby, href, htarget, hcapability, haction, -⟩ := hsame
      exact ⟨a, ha, hid, hengagement, hby, href, htarget, hcapability, haction⟩
    · refine ⟨pendingApproval codec p requestedBy, ?_, rfl, rfl, rfl, rfl, rfl, rfl, rfl⟩
      simp only [Table.mem_def, hrows]
      exact List.mem_cons_self

lemma setState_setState (s t : HumanApprovalState) (row : ResponseProposalRow) :
    setState s (setState t row) = setState s row := rfl

lemma Recorded.live (h : Recorded codec p requestedBy db) (hledger : Ledger db)
    (hs : LiveStep codec secretLike db db') : Recorded codec p requestedBy db' := by
  obtain ⟨env, call, rfl⟩ := hs
  have hframe : Frame db (call.exec codec secretLike env db).2 := exec_frame call
  have hrequest : p.humanApprovalState = .approvalRequired →
      ∃ r ∈ (call.exec codec secretLike env db).2.responseCapabilityRequests, RequestOf codec p r := by
    intro hstate
    obtain ⟨r, hr, hof⟩ := h.request hstate
    exact ⟨r, hframe.requests r hr, hof⟩
  obtain ⟨state, hrow⟩ := h.proposal
  rcases @exec_outcome codec secretLike env db call with hsame | ⟨-, hp⟩ | hd
  · rw [hsame]
    exact h
  · refine ⟨⟨state, hp.kept _ hrow⟩, hrequest, fun happroval => ?_, fun hdeny => hp.kept _ (h.refused hdeny)⟩
    obtain ⟨a, ha, hof⟩ := h.approval happroval
    exact ⟨a, hp.keptApprovals a ha, hof⟩
  · refine ⟨?_, hrequest, fun happroval => ?_, fun hdeny => ?_⟩
    · have hmem := (hd.proposals _).mpr ⟨_, hrow, rfl⟩
      split at hmem
      · exact ⟨_, hmem⟩
      · exact ⟨state, hmem⟩
    · obtain ⟨a, ha, hof⟩ := h.approval happroval
      have hmem := (hd.approvals _).mpr ⟨a, ha, rfl⟩
      split at hmem
      · exact ⟨_, hmem, hof.approvalId, hof.same⟩
      · exact ⟨a, hmem, hof⟩
    · -- a decision is on a proposal that the policy permitted
      have hmem := (hd.proposals _).mpr ⟨_, h.refused hdeny, rfl⟩
      split at hmem
      · rename_i hid
        have hrow := Table.eq_of_key_eq (h.refused hdeny) hd.proposal hid
        have hpermitted := hledger.permitted hd
        rw [← hrow] at hpermitted
        exact absurd hdeny hpermitted
      · exact hmem

lemma Recorded.run (h : Recorded codec p requestedBy db) (hledger : Ledger db)
    (hr : Run (LiveStep codec secretLike) db db') : Recorded codec p requestedBy db' ∧ Ledger db' := by
  refine run_stable (p := fun db => Recorded codec p requestedBy db ∧ Ledger db) ?_ hr ⟨h, hledger⟩
  rintro s t ⟨hrecorded, hledger⟩ hs
  exact ⟨hrecorded.live hledger hs, ledger_live.next s t hledger hs⟩

lemma paired_pending_iff {decision : String} {state : HumanApprovalState} (h : Paired decision state) :
    decision = "pending" ↔ state = .approvalRequired := by
  cases h with
  | pending => exact ⟨fun _ => rfl, fun _ => rfl⟩
  | approved => exact ⟨by decide, nofun⟩
  | denied => exact ⟨by decide, nofun⟩

/-- No human has decided on the proposal. -/
def Undecided (p : ResponseProposal) (db : Database) : Prop :=
  ∀ a ∈ db.approvals, ApprovalOf a (proposalRow p) → a.decision = "pending"

lemma undecided_iff (h : Recorded codec p requestedBy db) (hledger : Ledger db)
    (hsound : ResponseProposalService.Sound p) (hstate : p.humanApprovalState ≠ .approved) :
    Undecided p db ↔ proposalRow p ∈ db.responseProposals := by
  have hcases : p.opaDecision = .deny ∨ p.humanApprovalState = .approvalRequired := by
    rcases hsound.state with ⟨hdeny, -⟩ | ⟨-, hrequired | happroved⟩
    · exact Or.inl hdeny
    · exact Or.inr hrequired
    · exact absurd happroved hstate
  constructor
  · intro hundecided
    rcases hcases with hdeny | hrequired
    · exact h.refused hdeny
    · obtain ⟨a, ha, hof⟩ := h.approval hrequired
      obtain ⟨state, hrow⟩ := h.proposal
      have hofRow : ApprovalOf a (setState state (proposalRow p)) :=
        ⟨hof.same.1, hof.same.2.2.1, hof.same.2.2.2.2.1⟩
      have hpending := hundecided a ha ⟨hof.same.1, hof.same.2.2.1, hof.same.2.2.2.2.1⟩
      have hpaired := hledger.paired a ha _ hrow hofRow
      have hopen : state = .approvalRequired := (paired_pending_iff hpaired).mp hpending
      have hsame : setState state (proposalRow p) = proposalRow p := by
        rw [hopen, ← hrequired]
        rfl
      exact hsame ▸ hrow
  · intro hrow a ha hof
    rcases hcases with hdeny | hrequired
    · obtain ⟨q, hq, hofq, hpermitted⟩ := hledger.owned a ha hof.capability
      have hid : q.proposalId = (proposalRow p).proposalId := hofq.request.symm.trans hof.request
      obtain rfl := Table.eq_of_key_eq hq hrow hid
      exact absurd hdeny hpermitted
    · have hpaired : Paired a.decision p.humanApprovalState := hledger.paired a ha _ hrow hof
      exact (paired_pending_iff hpaired).mpr hrequired

end Recorded

section Replay

variable {p : ResponseProposal} {call : ProposeResponse}

lemma proposeResponse_eq_ok :
    proposeResponse codec secretLike env call db = (.ok p, db') ↔
      call.prepare codec secretLike env db = .ok p ∧
        persistResponseProposal codec secretLike env.committed p call.requestedBy db = .ok ((), db') := by
  unfold proposeResponse
  cases hprepare : call.prepare codec secretLike env db with
  | error e => exact ⟨nofun, nofun⟩
  | ok q =>
    simp only
    cases hpersist : persistResponseProposal codec secretLike env.committed q call.requestedBy db with
    | error e =>
      refine ⟨nofun, ?_⟩
      rintro ⟨⟨⟩, h⟩
      rw [hpersist] at h
      cases h
    | ok r =>
      constructor
      · intro h
        obtain ⟨hq, rfl⟩ := Prod.mk.inj h
        obtain rfl := Except.ok.inj hq
        exact ⟨rfl, hpersist⟩
      · rintro ⟨⟨⟩, h⟩
        rw [hpersist] at h
        rw [Except.ok.inj h]

/-- The context on which the policy is asked about a proposal. -/
def proposalContext (codec : Codec) (p : ResponseProposal) : Value := .obj
  [("incident_id", .str p.incidentId), ("scope", p.scope.toValue), ("target_id", .str p.targetId),
    ("action", .str p.action.value), ("reason", .str p.reason),
    ("supporting_evidence_refs", .arr (p.supportingEvidenceRefs.map .str)),
    ("expected_impact", .str p.expectedImpact), ("risk", .str p.risk),
    ("rollback_plan", .str p.rollbackPlan), ("expires_at", .str (codec.isoformat p.expiresAt))]

/-- The same inputs lead to the same proposal while the policy decides alike and the proposal has not expired. -/
lemma prepare_again (h : call.prepare codec secretLike env db = .ok p) (hframe : Frame db db')
    (hpolicy : CanonicalResponsePolicy.decide env'.client (proposalContext codec p) = p.opaDecision)
    (hnow : env'.now < p.expiresAt) :
    call.prepare codec secretLike env' db' = .ok p ∧ p.scope = call.scope ∧ p.validate = .ok p := by
  unfold ProposeResponse.prepare at h ⊢
  obtain ⟨u, hoperator, h⟩ := bind_eq_ok.mp h
  obtain ⟨v, hsecret, h⟩ := bind_eq_ok.mp h
  obtain ⟨loaded, hloaded, h⟩ := bind_eq_ok.mp h
  obtain ⟨incident, hincident, h⟩ := bind_eq_ok.mp h
  obtain ⟨expiry, answer, hchecks, hanswer, hvalid⟩ := propose_init_eq_ok.mp h
  obtain rfl := Except.ok.inj hanswer
  obtain ⟨rfl, -⟩ := ResponseProposal.validate_eq_ok hvalid
  have hoperator' : requireOperator db' call.requestedBy call.accessPrincipalId = .ok u := by
    rw [← hoperator, requireOperator, requireOperator, canonicalHuman_congr hframe.principals]
  have hloaded' : loadIncident db' call.incidentId call.scope = .ok loaded := by
    rw [← hloaded, loadIncident, loadIncident, hframe.incidents]
  have hscope : incident.scope = call.scope := by
    unfold ResponseProposalService.proposeChecks at hchecks
    obtain ⟨w, hrequire, -⟩ := bind_eq_ok.mp hchecks
    unfold ResponseProposalService.requireScope at hrequire
    split at hrequire
    · rename_i hbound
      exact (of_decide_eq_true hbound).symm
    · cases hrequire
  refine ⟨?_, hscope, hvalid⟩
  refine bind_eq_ok.mpr ⟨u, hoperator', bind_eq_ok.mpr ⟨v, hsecret, bind_eq_ok.mpr ⟨loaded, hloaded',
    bind_eq_ok.mpr ⟨incident, hincident, ?_⟩⟩⟩⟩
  refine propose_init_eq_ok.mpr ⟨expiry, _, proposeChecks_later hchecks hnow, rfl, ?_⟩
  have hdecision : CanonicalResponsePolicy.decide env'.client ((call.serviceArgs incident).base codec expiry) =
      CanonicalResponsePolicy.decide env.client ((call.serviceArgs incident).base codec expiry) := hpolicy
  simp only [hdecision]
  exact hvalid

lemma persist_again {now now' : Datetime} {requestedBy : String} {db₁ : Database} {u : Unit}
    (h : persistResponseProposal codec secretLike now p requestedBy db = .ok (u, db₁))
    (hframe : Frame db db') (hrecorded : Recorded codec p requestedBy db') (hledger : Ledger db')
    (hrow : proposalRow p ∈ db'.responseProposals) :
    persistResponseProposal codec secretLike now' p requestedBy db' = .ok ((), db') := by
  simp only [persistResponseProposal, raiseIf_bind_eq_ok] at h
  obtain ⟨hsecret, h⟩ := h
  obtain ⟨v, hscope, h⟩ := bind_eq_ok.mp h
  rw [raiseIf_bind_eq_ok] at h
  obtain ⟨hprincipal, -⟩ := h
  have hscope' : validateEngagementScope db' p.scope = .ok v := by
    rw [← hscope, validateEngagementScope, validateEngagementScope, hframe.engagements,
      hframe.engagementTargets]
  have hprincipal' : ¬ db'.principals.get? requestedBy = none := by
    rw [hframe.principals]
    exact hprincipal
  have hproposals : saveProposal p db'.responseProposals = .ok db'.responseProposals := by
    have hfound : db'.responseProposals.get? (proposalRow p).proposalId = some (proposalRow p) :=
      Table.get?_of_mem hrow
    rw [saveProposal, insertOrReplay, hfound]
    simp only [decide_true, if_true]
  simp only [persistResponseProposal, raiseIf_bind_eq_ok]
  refine ⟨hsecret, bind_eq_ok.mpr ⟨v, hscope', ?_⟩⟩
  rw [raiseIf_bind_eq_ok]
  refine ⟨hprincipal', bind_eq_ok.mpr ⟨_, hproposals, ?_⟩⟩
  by_cases hstate : p.humanApprovalState = .approvalRequired
  · rw [if_neg (not_not.mpr hstate)]
    obtain ⟨r, hr, hrequest⟩ := hrecorded.request hstate
    obtain ⟨a, ha, hof⟩ := hrecorded.approval hstate
    have hpaired : Paired a.decision p.humanApprovalState :=
      hledger.paired a ha _ hrow ⟨hof.same.1, hof.same.2.2.1, hof.same.2.2.2.2.1⟩
    have hpending := (paired_pending_iff hpaired).mpr hstate
    have hrequests : saveCapabilityRequest (capabilityRequestRow codec now' p)
        db'.responseCapabilityRequests = .ok db'.responseCapabilityRequests := by
      have hfound : db'.responseCapabilityRequests.get? (capabilityRequestRow codec now' p).requestId =
          some r := Table.get?_eq_some_iff.mpr ⟨hr, hrequest.requestId⟩
      obtain ⟨hproposal, htenant, hcase, htarget, haction, hdigest⟩ := hrequest.same
      rw [saveCapabilityRequest, insertOrReplay, hfound]
      simp [capabilityRequestRow, hproposal, htenant, hcase, htarget, haction, hdigest]
    have happrovals : saveApproval (pendingApproval codec p requestedBy) db'.approvals =
        .ok db'.approvals := by
      have hfound : db'.approvals.get? (pendingApproval codec p requestedBy).approvalId = some a :=
        Table.get?_eq_some_iff.mpr ⟨ha, hof.approvalId⟩
      obtain ⟨hengagement, hby, href, htarget, hcapability, haction⟩ := hof.same
      rw [saveApproval, insertOrReplay, hfound]
      simp [pendingApproval, hengagement, hby, href, htarget, hcapability, haction, hpending]
    exact bind_eq_ok.mpr ⟨_, hrequests, bind_eq_ok.mpr ⟨_, happrovals, rfl⟩⟩
  · rw [if_pos hstate]
    rfl

lemma loadProposal_of_mem (hrow : proposalRow p ∈ db.responseProposals)
    (hsound : ResponseProposalService.Sound p) (hvalid : p.validate = .ok p) :
    loadProposal db p.proposalId p.scope = .ok (some p) := by
  have hfound : db.responseProposals.get? p.proposalId = some (proposalRow p) :=
    Table.get?_of_mem hrow
  have hin : inScope (proposalRow p).tenantId (proposalRow p).caseId (proposalRow p).targetId p.scope :=
    ⟨rfl, rfl, hsound.target⟩
  have hload : (proposalRow p).load p.scope = .ok p := hvalid
  simp only [loadProposal, hfound, if_neg (not_not.mpr hin), hload, Except.map]

/-- After any later calls of the control plane, a proposal that is made again before it expires, and on which the
policy decides as before, is answered with the stored proposal and changes nothing, exactly if no human has decided
on it. -/
theorem replay_iff (hreachable : Reachable Unproposed (LiveStep codec secretLike) db)
    {db₁ db₂ : Database} (hfirst : proposeResponse codec secretLike env call db = (.ok p, db₁))
    (hrun : Run (LiveStep codec secretLike) db₁ db₂)
    (hpolicy : CanonicalResponsePolicy.decide env'.client (proposalContext codec p) = p.opaDecision)
    (hnow : env'.now < p.expiresAt) :
    (∃ q, proposeResponse codec secretLike env' call db₂ = (.ok q, db₂) ∧
        loadProposal db₂ p.proposalId call.scope = .ok (some q)) ↔ Undecided p db₂ := by
  obtain ⟨hprepare, hpersist⟩ := proposeResponse_eq_ok.mp hfirst
  obtain ⟨hsound, hstate⟩ := prepare_proposes hprepare
  have hstep : LiveStep codec secretLike db db₁ :=
    ⟨env, .proposeResponse call, congrArg Prod.snd hfirst⟩
  have hledger := ledger_live.reachable (hreachable.next hstep)
  obtain ⟨hrecorded, hledger⟩ := (persist_recorded hpersist).run hledger hrun
  have hframe : Frame db db₂ := (run_frame hrun).trans (persist_frame hpersist)
  obtain ⟨hagain, hscope, hvalid⟩ := prepare_again hprepare hframe hpolicy hnow
  rw [undecided_iff hrecorded hledger hsound hstate]
  constructor
  · rintro ⟨q, hreplay, -⟩
    obtain ⟨hq, hpersisted⟩ := proposeResponse_eq_ok.mp hreplay
    obtain rfl := Except.ok.inj (hagain.symm.trans hq)
    exact (persistResponseProposal_eq_ok hpersisted).stored
  · intro hrow
    refine ⟨p, proposeResponse_eq_ok.mpr ⟨hagain, ?_⟩, hscope ▸ loadProposal_of_mem hrow hsound hvalid⟩
    exact persist_again hpersist hframe hrecorded hledger hrow

end Replay

section Example

open ResponseProposalService

def sampleReplay : ProposeResponse :=
  ⟨"INC-1", sampleScope, .blockTool, "lateral tool use", "tool unavailable", "low", "unblock the tool",
    some 100000000, "PR-1", none⟩

lemma sampleReplay_first : proposeResponse sampleCodec (fun _ => false) sampleSurroundings sampleReplay
    responding = (.ok sampleProposal, respondingProposed) :=
  Prod.ext (by decide) rfl

theorem sample_replay_iff :
    (∃ q, proposeResponse sampleCodec (fun _ => false) sampleSurroundings sampleReplay
        respondingProposed = (.ok q, respondingProposed) ∧
        loadProposal respondingProposed sampleProposal.proposalId sampleScope = .ok (some q)) ↔
      Undecided sampleProposal respondingProposed :=
  replay_iff (Reachable.start (s := responding) ⟨rfl, rfl, nofun, nofun⟩) sampleReplay_first .refl
    (by decide) (by decide)

/-- Once another operator has approved the proposal, proposing it again raises. -/
theorem approved_replay_raises :
    (sampleDecideCall.exec sampleCodec (fun _ => false) sampleSurroundings
        respondingProposed).2.responseProposals.rows.map (·.humanApprovalState) = [.approved] ∧
      CanonicalResponsePolicy.decide sampleSurroundings.client
        (proposalContext sampleCodec sampleProposal) = sampleProposal.opaDecision ∧
      sampleSurroundings.now < sampleProposal.expiresAt ∧
      (proposeResponse sampleCodec (fun _ => false) sampleSurroundings sampleReplay
        (sampleDecideCall.exec sampleCodec (fun _ => false) sampleSurroundings respondingProposed).2).1 =
        .error ⟨.detectionInputError, "response_proposals identity was reused for different content"⟩ :=
  by decide +kernel

end Example

end SecScanMonitor.Application.LiveIncidentControlPlane
