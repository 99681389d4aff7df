import SecScanMonitor.DetectionResponse.ProposalLifecycle
import SecScanMonitor.Persistence.ResponseApprovals

/-! What persisting and deciding can do to the stored proposals and approvals, and the invariant that
keeps a proposal's two records of its decision together. -/

namespace SecScanMonitor.Persistence

open Foundations Domain DetectionResponse

variable {codec : Codec} {secretLike : Value → Bool} {db db' : Database}

section Specifications

/-- What persisting a proposal does. -/
structure Persisted (codec : Codec) (p : ResponseProposal) (requestedBy : String)
    (db db' : Database) : Prop where
  principals : db'.principals = db.principals
  stored : proposalRow p ∈ db'.responseProposals
  proposals : ∀ x ∈ db'.responseProposals, x ∈ db.responseProposals ∨
    x = proposalRow p ∧ ∀ y ∈ db.responseProposals, y.proposalId ≠ p.proposalId
  kept : db'.responseProposals.Extends db.responseProposals
  keptApprovals : db'.approvals.Extends db.approvals
  approvals : ∀ a ∈ db'.approvals, a ∈ db.approvals ∨
    p.humanApprovalState = .approvalRequired ∧ a = pendingApproval codec p requestedBy ∧
      ∀ b ∈ db.approvals, sameRequest a b = false

lemma saveProposal_eq_ok {p : ResponseProposal} {t t' : Table ResponseProposalRow.proposalId}
    (h : saveProposal p t = .ok t') :
    proposalRow p ∈ t' ∧ t'.Extends t ∧ ∀ x ∈ t', x ∈ t ∨
      x = proposalRow p ∧ ∀ y ∈ t, y.proposalId ≠ p.proposalId := by
  refine ⟨?_, insertOrReplay_extends h, fun x hx => ?_⟩
  · rcases insertOrReplay_eq_ok h with ⟨x, hx, -, hsame, rfl⟩ | ⟨-, hrows, -⟩
    · rw [decide_eq_true_eq] at hsame
      exact hsame ▸ hx
    · rw [Table.mem_def, hrows]
      exact List.mem_cons_self
  · rcases insertOrReplay_eq_ok h with ⟨-, -, -, -, rfl⟩ | ⟨hnone, hrows, -⟩
    · exact Or.inl hx
    · rw [Table.mem_def, hrows, List.mem_cons] at hx
      rcases hx with rfl | hx
      · exact Or.inr ⟨rfl, Table.get?_eq_none_iff.mp hnone⟩
      · exact Or.inl hx

lemma persistResponseProposal_eq_ok {now : Datetime} {p : ResponseProposal} {requestedBy : String}
    {u : Unit} (h : persistResponseProposal codec secretLike now p requestedBy db = .ok (u, db')) :
    Persisted codec p requestedBy db db' := by
  simp only [persistResponseProposal, raiseIf_bind_eq_ok] at h
  obtain ⟨-, h⟩ := h
  obtain ⟨-, -, h⟩ := bind_eq_ok.mp h
  rw [raiseIf_bind_eq_ok] at h
  obtain ⟨-, h⟩ := h
  obtain ⟨proposals, hproposals, h⟩ := bind_eq_ok.mp h
  obtain ⟨hstored, hkept, hnew⟩ := saveProposal_eq_ok hproposals
  split at h
  · obtain ⟨-, rfl⟩ := Prod.mk.inj (Except.ok.inj h)
    exact ⟨rfl, hstored, hnew, hkept, Table.Extends.refl _, fun a ha => Or.inl ha⟩
  · rename_i hstate
    obtain ⟨requests, -, h⟩ := bind_eq_ok.mp h
    obtain ⟨approvals, happrovals, h⟩ := bind_eq_ok.mp h
    obtain ⟨-, rfl⟩ := Prod.mk.inj (Except.ok.inj h)
    refine ⟨rfl, hstored, hnew, hkept, insertOrReplay_extends happrovals, fun a ha => ?_⟩
    rcases insertOrReplay_eq_ok happrovals with ⟨-, -, -, -, rfl⟩ | ⟨-, hrows, hclash⟩
    · exact Or.inl ha
    · simp only [Table.mem_def, hrows, List.mem_cons] at ha
      rcases ha with rfl | ha
      · exact Or.inr ⟨not_not.mp hstate, rfl, hclash⟩
      · exact Or.inl ha

/-- The approval record of the stored proposal. -/
structure ApprovalOf (a : Approval) (p : ResponseProposalRow) : Prop where
  engagement : a.engagementId = p.caseId
  request : a.requestRef = p.proposalId
  capability : a.capabilityId = responseCapability

/-- What a decision that is not a replay does: it was made by a canonical human other than the
requester, and it moves both records. -/
structure Decided (now : Datetime) (decidedBy decision rationale : String) (a : Approval)
    (p : ResponseProposalRow) (state : HumanApprovalState) (db db' : Database) : Prop where
  approval : a ∈ db.approvals
  proposal : p ∈ db.responseProposals
  approvalOf : ApprovalOf a p
  pending : a.decision = "pending"
  outcome : decidedState decision = some state
  human : canonicalHuman db decidedBy = true
  other : decidedBy ≠ a.requestedByPrincipalId
  open_ : p.humanApprovalState = .approvalRequired ∨ p.humanApprovalState = state
  principals : db'.principals = db.principals
  approvals : ∀ x, x ∈ db'.approvals ↔ ∃ y ∈ db.approvals,
    x = if y.approvalId = a.approvalId then
      { y with
        decidedByPrincipalId := some decidedBy
        decision := decision
        decidedAt := some now
        rationale := rationale }
    else y
  proposals : ∀ x, x ∈ db'.responseProposals ↔ ∃ y ∈ db.responseProposals,
    x = if y.proposalId = p.proposalId then setState state y else y

lemma approvalRow_eq_ok {p : ResponseProposal} {a : Approval} (h : approvalRow codec p db = .ok a) :
    a ∈ db.approvals ∧ a.engagementId = p.scope.caseId ∧ a.requestRef = p.proposalId ∧
      a.capabilityId = responseCapability := by
  simp only [approvalRow, raiseIf_bind_eq_ok, orRaise_bind_eq_ok, not_or, not_not] at h
  obtain ⟨-, row, hrow, ⟨-, hcapability⟩, -, -, h⟩ := h
  obtain rfl := Except.ok.inj h
  have hfound := List.find?_some hrow
  simp only [Bool.and_eq_true, decide_eq_true_eq] at hfound
  exact ⟨List.mem_of_find?_eq_some hrow, hfound.1, hfound.2, hcapability⟩

lemma decide_eq_ok {a approval : Approval} {now : Datetime} {decision principal rationale : String}
    (h : a.decide now decision principal rationale = .ok approval) :
    approval.decidedByPrincipalId = some principal ∧ approval.decision = decision ∧
      approval.decidedAt = some now ∧ approval.rationale = rationale := by
  simp only [Approval.decide] at h
  split at h
  · cases h
  · obtain rfl := Except.ok.inj h
    exact ⟨rfl, rfl, rfl, rfl⟩

lemma approvalId_recordDecision (row approval : Approval) :
    (recordDecision row approval).approvalId = row.approvalId := rfl

lemma proposalId_setState (state : HumanApprovalState) (row : ResponseProposalRow) :
    (setState state row).proposalId = row.proposalId := rfl

lemma decideApproval_eq_ok {now : Datetime} {p : ResponseProposal}
    {decidedBy decision proposalState rationale : String} {r : Approval}
    (h : decideApproval codec secretLike now p decidedBy decision proposalState rationale db =
      .ok (r, db')) :
    db' = db ∨ ∃ a row state, Decided now decidedBy decision rationale a row state db db' ∧
      row.proposalId = p.proposalId := by
  simp only [decideApproval] at h
  split at h
  · cases h
  rename_i state hstate
  simp only [raiseIf_bind_eq_ok, commitDecision] at h
  obtain ⟨-, -, h⟩ := h
  obtain ⟨a, ha, h⟩ := bind_eq_ok.mp h
  simp only [raiseIf_bind_eq_ok, orRaise_bind_eq_ok, Bool.not_eq_false] at h
  obtain ⟨hhuman, hother, row, hrow, hscope, -, hopen, h⟩ := h
  obtain ⟨hmem, hengagement, hrequest, hcapability⟩ := approvalRow_eq_ok ha
  obtain ⟨hrowMem, hid⟩ := Table.get?_eq_some_iff.mp hrow
  split at h
  · split at h
    · obtain ⟨-, rfl⟩ := Prod.mk.inj (Except.ok.inj h)
      exact Or.inl rfl
    · cases h
  rename_i hpending
  obtain ⟨approval, happroval, h⟩ := bind_eq_ok.mp h
  obtain ⟨-, rfl⟩ := Prod.mk.inj (Except.ok.inj h)
  obtain ⟨hby, hdecision, hat, hrationale⟩ := decide_eq_ok happroval
  have hcase : row.caseId = p.scope.caseId := (not_not.mp hscope).2.1
  refine Or.inr ⟨a, row, state, ?_, hid⟩
  refine ⟨hmem, hrowMem, ⟨hengagement.trans hcase.symm, hrequest.trans hid.symm, hcapability⟩,
    not_not.mp hpending, hstate, hhuman, hother, ?_, rfl, fun x => ?_, fun x => ?_⟩
  · by_cases hreq : row.humanApprovalState = .approvalRequired
    · exact Or.inl hreq
    · exact Or.inr (not_not.mp fun hne => hopen ⟨hreq, hne⟩)
  · refine (Table.mem_modify fun x => approvalId_recordDecision x approval).trans ?_
    simp only [recordDecision, hby, hdecision, hat, hrationale, eq_comm]
  · refine (Table.mem_modify (proposalId_setState state)).trans ?_
    simp only [hid, eq_comm]

end Specifications

section Invariant

/-- The pairs of an approval's decision and its proposal's state. -/
inductive Paired : String → HumanApprovalState → Prop
  | pending : Paired "pending" .approvalRequired
  | approved : Paired "approved" .approved
  | denied : Paired "denied" .denied

lemma paired_of_decidedState {decision : String} {state : HumanApprovalState}
    (h : decidedState decision = some state) : Paired decision state := by
  unfold decidedState at h
  split at h
  · obtain rfl := Option.some.inj h
    exact .approved
  · obtain rfl := Option.some.inj h
    exact .denied
  · cases h

lemma sameRequest_iff {a b : Approval} :
    sameRequest a b = true ↔ b.engagementId = a.engagementId ∧ b.requestRef = a.requestRef := by
  simp only [sameRequest, Bool.and_eq_true, decide_eq_true_eq]

lemma ApprovalOf.sameRequest {a b : Approval} {p : ResponseProposalRow} (ha : ApprovalOf a p)
    (hb : ApprovalOf b p) : sameRequest a b = true :=
  sameRequest_iff.mpr ⟨hb.engagement.trans ha.engagement.symm, hb.request.trans ha.request.symm⟩

lemma approvalOf_pending (p : ResponseProposal) (requestedBy : String) :
    ApprovalOf (pendingApproval codec p requestedBy) (proposalRow p) := ⟨rfl, rfl, rfl⟩

structure Ledger (db : Database) : Prop where
  single : ∀ a ∈ db.approvals, ∀ b ∈ db.approvals, sameRequest a b = true → a = b
  owned : ∀ a ∈ db.approvals, a.capabilityId = responseCapability →
    ∃ p ∈ db.responseProposals, ApprovalOf a p ∧ p.opaDecision ≠ .deny
  paired : ∀ a ∈ db.approvals, ∀ p ∈ db.responseProposals, ApprovalOf a p →
    Paired a.decision p.humanApprovalState
  decided : ∀ a ∈ db.approvals, a.capabilityId = responseCapability → a.decision ≠ "pending" →
    ∃ d, a.decidedByPrincipalId = some d ∧ canonicalHuman db d = true ∧
      d ≠ a.requestedByPrincipalId
  denied : ∀ p ∈ db.responseProposals, p.opaDecision = .deny → p.humanApprovalState ≠ .approved

lemma canonicalHuman_congr (h : db'.principals = db.principals) (d : String) :
    canonicalHuman db' d = canonicalHuman db d := by
  rw [canonicalHuman, canonicalHuman, h]

lemma Ledger.persisted {p : ResponseProposal} {requestedBy : String} (h : Ledger db)
    (hp : Persisted codec p requestedBy db db') (hsound : ResponseProposalService.Sound p) :
    Ledger db' where
  single a ha b hb hsame := by
    rcases hp.approvals a ha with ha | ⟨-, rfl, hfresh⟩ <;>
      rcases hp.approvals b hb with hb | ⟨-, rfl, hfresh'⟩
    · exact h.single a ha b hb hsame
    · obtain ⟨he, hr⟩ := sameRequest_iff.mp hsame
      have hclash := hfresh' a ha
      rw [sameRequest_iff.mpr ⟨he.symm, hr.symm⟩] at hclash
      cases hclash
    · rw [hfresh b hb] at hsame
      cases hsame
    · rfl
  owned a ha hcapability := by
    rcases hp.approvals a ha with ha | ⟨hstate, rfl, -⟩
    · obtain ⟨x, hx, hof, hopa⟩ := h.owned a ha hcapability
      exact ⟨x, hp.kept x hx, hof, hopa⟩
    · refine ⟨proposalRow p, hp.stored, approvalOf_pending p requestedBy, ?_⟩
      rcases hsound.state with ⟨-, hdenied⟩ | ⟨hopa, -⟩
      · rw [hdenied] at hstate
        cases hstate
      · exact hopa
  paired a ha x hx hof := by
    rcases hp.approvals a ha with ha | ⟨hstate, rfl, -⟩
    · rcases hp.proposals x hx with hx | ⟨rfl, hnew⟩
      · exact h.paired a ha x hx hof
      · -- the proposal of an approval was stored with it
        obtain ⟨y, hy, hof', -⟩ := h.owned a ha hof.capability
        exact absurd (hof'.request.symm.trans hof.request) (hnew y hy)
    · have hid : x.proposalId = (proposalRow p).proposalId := hof.request.symm
      obtain rfl := Table.eq_of_key_eq hx hp.stored hid
      have hpending : Paired "pending" .approvalRequired := .pending
      rw [← hstate] at hpending
      exact hpending
  decided a ha hcapability hdecided := by
    rcases hp.approvals a ha with ha | ⟨-, rfl, -⟩
    · obtain ⟨d, hd, hhuman, hother⟩ := h.decided a ha hcapability hdecided
      exact ⟨d, hd, (canonicalHuman_congr hp.principals d).trans hhuman, hother⟩
    · exact absurd rfl hdecided
  denied x hx hopa := by
    rcases hp.proposals x hx with hx | ⟨rfl, -⟩
    · exact h.denied x hx hopa
    · rcases hsound.state with ⟨-, hdenied⟩ | ⟨hallowed, -⟩
      · have hstate : (proposalRow p).humanApprovalState = .denied := hdenied
        rw [hstate]
        exact nofun
      · exact absurd hopa hallowed

section Decided

variable {now : Datetime} {decidedBy decision rationale : String} {a : Approval}
  {p : ResponseProposalRow} {state : HumanApprovalState}

/-- An approval after a decision, with the one it comes from. -/
lemma Decided.mem_approvals (hd : Decided now decidedBy decision rationale a p state db db')
    {x : Approval} (hx : x ∈ db'.approvals) :
    (x ∈ db.approvals ∧ x.approvalId ≠ a.approvalId) ∨
      x = { a with
        decidedByPrincipalId := some decidedBy
        decision := decision
        decidedAt := some now
        rationale := rationale } := by
  obtain ⟨y, hy, rfl⟩ := (hd.approvals x).mp hx
  split
  · rename_i hid
    obtain rfl := Table.eq_of_key_eq hy hd.approval hid
    exact Or.inr rfl
  · rename_i hid
    exact Or.inl ⟨hy, hid⟩

lemma Decided.mem_proposals (hd : Decided now decidedBy decision rationale a p state db db')
    {x : ResponseProposalRow} (hx : x ∈ db'.responseProposals) :
    (x ∈ db.responseProposals ∧ x.proposalId ≠ p.proposalId) ∨ x = setState state p := by
  obtain ⟨y, hy, rfl⟩ := (hd.proposals x).mp hx
  split
  · rename_i hid
    obtain rfl := Table.eq_of_key_eq hy hd.proposal hid
    exact Or.inr rfl
  · rename_i hid
    exact Or.inl ⟨hy, hid⟩

lemma Ledger.permitted (h : Ledger db)
    (hd : Decided now decidedBy decision rationale a p state db db') : p.opaDecision ≠ .deny := by
  obtain ⟨q, hq, hof, hopa⟩ := h.owned a hd.approval hd.approvalOf.capability
  have hid : q.proposalId = p.proposalId := hof.request.symm.trans hd.approvalOf.request
  rwa [← Table.eq_of_key_eq hq hd.proposal hid]

lemma Ledger.decide (h : Ledger db)
    (hd : Decided now decidedBy decision rationale a p state db db') : Ledger db' where
  single x hx y hy hsame := by
    rcases hd.mem_approvals hx with ⟨hx, hxa⟩ | rfl <;>
      rcases hd.mem_approvals hy with ⟨hy, hya⟩ | rfl
    · exact h.single x hx y hy hsame
    · exact absurd (congrArg Approval.approvalId (h.single x hx a hd.approval hsame)) hxa
    · exact absurd (congrArg Approval.approvalId (h.single a hd.approval y hy hsame)).symm hya
    · rfl
  owned x hx hcapability := by
    have hold : ∃ y ∈ db.responseProposals, ApprovalOf x y ∧ y.opaDecision ≠ .deny := by
      rcases hd.mem_approvals hx with ⟨hx, -⟩ | rfl
      · exact h.owned x hx hcapability
      · obtain ⟨y, hy, hof, hopa⟩ := h.owned a hd.approval hcapability
        exact ⟨y, hy, ⟨hof.engagement, hof.request, hof.capability⟩, hopa⟩
    obtain ⟨y, hy, hof, hopa⟩ := hold
    refine ⟨_, (hd.proposals _).mpr ⟨y, hy, rfl⟩, ?_, ?_⟩
    · split <;> exact ⟨hof.engagement, hof.request, hof.capability⟩
    · split <;> exact hopa
  paired x hx q hq hof := by
    have hdecided : Paired decision state := paired_of_decidedState hd.outcome
    rcases hd.mem_approvals hx with ⟨hx, hxa⟩ | rfl <;>
      rcases hd.mem_proposals hq with ⟨hq, hqp⟩ | rfl
    · exact h.paired x hx q hq hof
    · have hof' : ApprovalOf x p := ⟨hof.engagement, hof.request, hof.capability⟩
      have hsame := h.single x hx a hd.approval (hof'.sameRequest hd.approvalOf)
      exact absurd (congrArg Approval.approvalId hsame) hxa
    · exact absurd (hof.request.symm.trans hd.approvalOf.request) hqp
    · exact hdecided
  decided x hx hcapability hdecided := by
    rcases hd.mem_approvals hx with ⟨hx, -⟩ | rfl
    · obtain ⟨d, hby, hhuman, hother⟩ := h.decided x hx hcapability hdecided
      exact ⟨d, hby, (canonicalHuman_congr hd.principals d).trans hhuman, hother⟩
    · exact ⟨decidedBy, rfl, (canonicalHuman_congr hd.principals decidedBy).trans hd.human, hd.other⟩
  denied q hq hopa := by
    rcases hd.mem_proposals hq with ⟨hq, -⟩ | rfl
    · exact h.denied q hq hopa
    · have hpermitted := h.permitted hd
      exact absurd hopa hpermitted

/-- A decision leaves every decided approval as it is. -/
lemma Decided.keeps (hd : Decided now decidedBy decision rationale a p state db db') {x : Approval}
    (hx : x ∈ db.approvals) (hdecided : x.decision ≠ "pending") : x ∈ db'.approvals := by
  refine (hd.approvals x).mpr ⟨x, hx, ?_⟩
  split
  · rename_i hid
    obtain rfl := Table.eq_of_key_eq hx hd.approval hid
    exact absurd hd.pending hdecided
  · rfl

end Decided

end Invariant

section Runs

/-- One call on the repository, on any proposal for a decision and on a proposal of the service's
making for a proposal that is persisted. -/
inductive ApprovalStep (codec : Codec) (secretLike : Value → Bool) (db db' : Database) : Prop
  | persist {cfg : ResponseProposalService.Config} {now : Datetime} {p : ResponseProposal}
      {requestedBy : String} : cfg.codec = codec → ResponseProposalService.Produced cfg p →
      persistResponseProposal codec secretLike now p requestedBy db = .ok ((), db') →
      ApprovalStep codec secretLike db db'
  | decide {now : Datetime} {p : ResponseProposal}
      {decidedBy decision proposalState rationale : String} {r : Approval} :
      decideApproval codec secretLike now p decidedBy decision proposalState rationale db =
        .ok (r, db') →
      ApprovalStep codec secretLike db db'

/-- Nothing is proposed yet; approvals of other capabilities may be there. -/
structure Unproposed (db : Database) : Prop where
  proposals : db.responseProposals.rows = []
  requests : db.responseCapabilityRequests.rows = []
  approvals : ∀ a ∈ db.approvals, a.capabilityId ≠ responseCapability
  single : ∀ a ∈ db.approvals, ∀ b ∈ db.approvals, sameRequest a b = true → a = b

lemma Ledger.start (h : Unproposed db) : Ledger db where
  single := h.single
  owned a ha hcapability := absurd hcapability (h.approvals a ha)
  paired a _ p hp := by simp [Table.mem_def, h.proposals] at hp
  decided a ha hcapability := absurd hcapability (h.approvals a ha)
  denied p hp := by simp [Table.mem_def, h.proposals] at hp

lemma Ledger.step (h : Ledger db) (hs : ApprovalStep codec secretLike db db') : Ledger db' := by
  cases hs with
  | persist hcfg hproduced hexec => exact h.persisted (persistResponseProposal_eq_ok hexec) hproduced.sound
  | decide hexec =>
    rcases decideApproval_eq_ok hexec with rfl | ⟨a, row, state, hd, -⟩
    · exact h
    · exact h.decide hd

lemma ledger_inductive : Inductive Unproposed (ApprovalStep codec secretLike) Ledger where
  start _ h := Ledger.start h
  next _ _ h hs := h.step hs

lemma step_keeps_decided (hs : ApprovalStep codec secretLike db db') {a : Approval}
    (ha : a ∈ db.approvals) (hdecided : a.decision ≠ "pending") : a ∈ db'.approvals := by
  cases hs with
  | persist _ _ hexec => exact (persistResponseProposal_eq_ok hexec).keptApprovals a ha
  | decide hexec =>
    rcases decideApproval_eq_ok hexec with rfl | ⟨a', row, state, hd, -⟩
    · exact ha
    · exact hd.keeps ha hdecided

structure ApprovalProtocol (codec : Codec) (secretLike : Value → Bool) (db : Database) : Prop where
  paired : ∀ p ∈ db.responseProposals, ∀ a ∈ db.approvals, ApprovalOf a p →
    Paired a.decision p.humanApprovalState
  final : ∀ db', Run (ApprovalStep codec secretLike) db db' →
    ∀ a ∈ db.approvals, a.decision ≠ "pending" → a ∈ db'.approvals
  human : ∀ a ∈ db.approvals, a.capabilityId = responseCapability → a.decision ≠ "pending" →
    ∃ d, a.decidedByPrincipalId = some d ∧ canonicalHuman db d = true ∧
      d ≠ a.requestedByPrincipalId
  denied : ∀ p ∈ db.responseProposals, p.opaDecision = .deny → p.humanApprovalState ≠ .approved

theorem approvalProtocol (h : Reachable Unproposed (ApprovalStep codec secretLike) db) :
    ApprovalProtocol codec secretLike db := by
  have hledger := ledger_inductive.reachable h
  refine ⟨fun p hp a ha hof => hledger.paired a ha p hp hof, fun db' hrun a ha hdecided => ?_,
    hledger.decided, hledger.denied⟩
  exact run_stable (p := fun db => a ∈ db.approvals)
    (fun _ _ hmem hs => step_keeps_decided hs hmem hdecided) hrun ha

end Runs

section Example

open ResponseProposalService

def staffed : Database :=
  { Database.empty with
    engagements := ⟨[⟨"EN-1", "CL-1"⟩], by decide⟩
    engagementTargets := ⟨[⟨"EN-1", "TG-1", true⟩], by decide⟩
    principals := ⟨[⟨"PR-1", "operator"⟩, ⟨"PR-2", "Human"⟩], by decide⟩ }

lemma produced_sampleProposal : Produced sampleConfig sampleProposal :=
  ⟨init, .start rfl, sampleIncidents, 0, fun _ => .ok (some .requireApproval), sampleArgs, rfl⟩

def persistSample : Except Raised (Unit × Database) :=
  persistResponseProposal sampleCodec (fun _ => false) 0 sampleProposal "PR-1" staffed

def decideSample : Except Raised (Approval × Database) :=
  decideApproval sampleCodec (fun _ => false) 20 sampleProposal "PR-2" "approved" "APPROVED" ""
    (committed staffed persistSample)

def decidedSample : Database := committed (committed staffed persistSample) decideSample

lemma decidedSample_reachable :
    Reachable Unproposed (ApprovalStep sampleCodec fun _ => false) decidedSample := by
  obtain ⟨_, hpersist⟩ := exists_eq_ok staffed persistSample (by decide)
  obtain ⟨_, hdecide⟩ := exists_eq_ok (committed staffed persistSample) decideSample (by decide)
  have hstart : Unproposed staffed := ⟨rfl, rfl, nofun, nofun⟩
  have hstep : ApprovalStep sampleCodec (fun _ => false) staffed (committed staffed persistSample) :=
    .persist rfl produced_sampleProposal hpersist
  exact ((Reachable.start hstart).next hstep).next (.decide hdecide)

theorem sample_approvalProtocol :
    decidedSample.approvals.rows.map (·.decision) = ["approved"] ∧
      decidedSample.responseProposals.rows.map (·.humanApprovalState) = [.approved] ∧
      ApprovalProtocol sampleCodec (fun _ => false) decidedSample :=
  ⟨by decide, by decide, approvalProtocol decidedSample_reachable⟩

end Example

end SecScanMonitor.Persistence
