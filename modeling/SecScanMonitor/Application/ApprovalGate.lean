import SecScanMonitor.Application.LiveIncidentControlPlane
import SecScanMonitor.Persistence.ApprovalLedger

/-! The live approval gate: whatever sequence of calls is made, a stored proposal becomes approved only
when the operator, the policy, the proposal and its incident all allow it, and a call that raises
changes nothing. -/

namespace SecScanMonitor.Application.LiveIncidentControlPlane

open Foundations Domain DetectionResponse Persistence

variable {codec : Codec} {secretLike : Value → Bool} {env : Surroundings} {db db' : Database}

section Effects

lemma loadProposal_eq_ok {id : String} {scope : Scope} {p : ResponseProposal}
    (h : loadProposal db id scope = .ok (some p)) :
    proposalRow p ∈ db.responseProposals ∧ p.proposalId = id ∧ p.scope = scope := by
  simp only [loadProposal] at h
  split at h
  · cases h
  rename_i row hrow
  obtain ⟨hmem, hid⟩ := Table.get?_eq_some_iff.mp hrow
  split at h
  · cases h
  rename_i hscope
  obtain ⟨q, hq, hp⟩ := map_eq_ok.mp h
  obtain rfl := Option.some.inj hp
  obtain ⟨rfl, -⟩ := ResponseProposal.validate_eq_ok hq
  obtain ⟨htenant, hcase, -⟩ := not_not.mp hscope
  refine ⟨?_, hid, rfl⟩
  have hsame : proposalRow
      { proposalId := row.proposalId, incidentId := row.incidentId, scope, targetId := row.targetId,
        action := row.action, reason := row.reason,
        supportingEvidenceRefs := row.supportingEvidenceRefs, expectedImpact := row.expectedImpact,
        risk := row.risk, rollbackPlan := row.rollbackPlan, expiresAt := row.expiresAt,
        proposalDigest := row.proposalDigest, opaDecision := row.opaDecision,
        humanApprovalState := row.humanApprovalState,
        authorizedActionExecuted := row.authorizedActionExecuted } = row := by
    simp only [proposalRow, ← htenant, ← hcase]
  exact hsame ▸ hmem

/-- A proposal that could be loaded before a decision can be loaded after it. -/
lemma loadProposal_after {now : Datetime} {decidedBy decision rationale : String} {a : Approval}
    {state : HumanApprovalState} {scope : Scope} {p : ResponseProposal}
    (h : loadProposal db p.proposalId scope = .ok (some p))
    (hd : Decided now decidedBy decision rationale a (proposalRow p) state db db') :
    ∃ q, loadProposal db' p.proposalId scope = .ok (some q) := by
  obtain ⟨hmem, -, -⟩ := loadProposal_eq_ok h
  have hrow : db.responseProposals.get? p.proposalId = some (proposalRow p) :=
    Table.get?_eq_some_iff.mpr ⟨hmem, rfl⟩
  have hnew : setState state (proposalRow p) ∈ db'.responseProposals :=
    (hd.proposals _).mpr ⟨proposalRow p, hmem, (if_pos rfl).symm⟩
  have hrow' : db'.responseProposals.get? p.proposalId = some (setState state (proposalRow p)) :=
    Table.get?_eq_some_iff.mpr ⟨hnew, rfl⟩
  simp only [loadProposal, hrow] at h
  split at h
  · cases h
  rename_i hscope
  obtain ⟨q, hq, -⟩ := map_eq_ok.mp h
  have hload : (setState state (proposalRow p)).load scope =
      .ok { q with humanApprovalState := state } := by
    obtain ⟨rfl, -⟩ := ResponseProposal.validate_eq_ok hq
    exact ResponseProposal.validate_setState hq state
  refine ⟨{ q with humanApprovalState := state }, ?_⟩
  have hscope' : ¬ ¬ inScope (setState state (proposalRow p)).tenantId
      (setState state (proposalRow p)).caseId (setState state (proposalRow p)).targetId scope := hscope
  simp only [loadProposal, hrow', if_neg hscope', hload, Except.map]

/-- What a call does to the stored records. -/
inductive Outcome (codec : Codec) (db db' : Database) : Prop
  | unchanged : db' = db → Outcome codec db db'
  | persisted {p : ResponseProposal} {requestedBy : String} :
      ResponseProposalService.Sound p → Persisted codec p requestedBy db db' →
      Outcome codec db db'
  | decided {now : Datetime} {decidedBy decision rationale : String} {a : Approval}
      {row : ResponseProposalRow} {state : HumanApprovalState} :
      Decided now decidedBy decision rationale a row state db db' → Outcome codec db db'

lemma prepare_proposes {call : ProposeResponse} {p : ResponseProposal}
    (h : call.prepare codec secretLike env db = .ok p) :
    ResponseProposalService.Sound p ∧ p.humanApprovalState ≠ .approved := by
  simp only [ProposeResponse.prepare] at h
  obtain ⟨-, -, h⟩ := bind_eq_ok.mp h
  rw [raiseIf_bind_eq_ok] at h
  obtain ⟨loaded, -, h⟩ := bind_eq_ok.mp h.2
  obtain ⟨incident, -, h⟩ := orRaise_bind_eq_ok.mp h
  obtain ⟨expiry, decision, rfl⟩ := ResponseProposalService.propose_init h
  refine ⟨ResponseProposalService.sound_proposal _ _ _ _, ?_⟩
  simp only [ResponseProposalService.ProposeArgs.proposal]
  split
  · intro happroved
    cases happroved
  · intro happroved
    cases happroved

/-- A proposal that is recorded is a new one of the service, and it is not approved. -/
lemma proposeResponse_cases (call : ProposeResponse) :
    (proposeResponse codec secretLike env call db).2 = db ∨
      ∃ p, ResponseProposalService.Sound p ∧ p.humanApprovalState ≠ .approved ∧
        Persisted codec p call.requestedBy db (proposeResponse codec secretLike env call db).2 ∧
        (proposeResponse codec secretLike env call db).1 = .ok p := by
  unfold proposeResponse
  cases hp : call.prepare codec secretLike env db with
  | error e => exact Or.inl rfl
  | ok p =>
    simp only
    cases hpersist : persistResponseProposal codec secretLike env.committed p call.requestedBy db with
    | error e => exact Or.inl rfl
    | ok r =>
      obtain ⟨hsound, hstate⟩ := prepare_proposes hp
      exact Or.inr ⟨p, hsound, hstate, persistResponseProposal_eq_ok hpersist, rfl⟩

/-- Everything that was true when the service let an approval through. -/
structure Approves (codec : Codec) (env : Surroundings) (call : DecideResponseApproval)
    (db : Database) (p : ResponseProposal) : Prop where
  decision : call.decision = "approved"
  human : canonicalHuman db call.decidedBy = true
  unexpired : env.now < p.expiresAt
  policy : CanonicalResponsePolicy.decide env.client (policyContext codec p) ≠ .deny
  permitted : p.opaDecision ≠ .deny
  confirmed : ∃ incident ∈ db.incidents, incident.incidentId = p.incidentId ∧
    incident.state = .confirmed

lemma requireOperator_eq_ok {principalId : String} {access : Option String} {u : Unit}
    (h : requireOperator db principalId access = .ok u) : canonicalHuman db principalId = true := by
  simp only [requireOperator, raiseIf_bind_eq_ok, raiseIf_eq_ok, Bool.not_eq_false] at h
  exact h.2

lemma loadIncident_eq_ok {id : String} {scope : Scope} {incident : Incident}
    (h : loadIncident db id scope = .ok (some incident)) :
    incident ∈ db.incidents ∧ incident.incidentId = id := by
  simp only [loadIncident] at h
  split at h
  · cases h
  rename_i row hrow
  obtain ⟨hmem, hid⟩ := Table.get?_eq_some_iff.mp hrow
  split at h
  · cases h
  obtain ⟨i, hi, hsome⟩ := map_eq_ok.mp h
  obtain rfl := Option.some.inj hsome
  simp only [Incident.validate] at hi
  split at hi
  · cases hi
  · obtain rfl := Except.ok.inj hi
    exact ⟨hmem, hid⟩

/-- The service approves a proposal it was just handed, so it has checked that very proposal. -/
lemma serviceApproves_eq_ok {call : DecideResponseApproval} {incident : Incident}
    {p : ResponseProposal} {candidate : HumanApproval} {u : Unit}
    (hid : candidate.proposalId = p.proposalId) (hincident : p.incidentId = incident.incidentId)
    (h : serviceApproves codec env call incident p candidate = .ok u) :
    incident.state = .confirmed ∧ env.now < p.expiresAt ∧ p.opaDecision ≠ .deny := by
  simp only [serviceApproves] at h
  split at h
  · cases h
  rename_i q service hbind
  obtain ⟨r, hr, -⟩ := map_eq_ok.mp h
  have hbound : incident.state = .confirmed ∧
      service = ResponseProposalService.init.store p := by
    unfold ResponseProposalService.bindCanonicalProposal at hbind
    split at hbind
    · cases hbind
    split at hbind
    · cases hbind
    rename_i hstate
    split at hbind
    · cases hbind
    split at hbind
    · cases hbind
    · obtain ⟨-, rfl⟩ := Prod.mk.inj hbind
      refine ⟨?_, rfl⟩
      simpa [registry, hincident] using hstate
  obtain ⟨hconfirmed, rfl⟩ := hbound
  generalize hcfg : (⟨codec, some call.scope, [call.decidedBy]⟩ : ResponseProposalService.Config) =
    cfg at hr
  rcases @ResponseProposalService.approve_cases cfg (ResponseProposalService.init.store p)
    (registry candidate.approvalId candidate) env.now candidate with ⟨e, he⟩ | ⟨x, hx, hx', -⟩
  · rw [he] at hr
    cases hr
  · rw [hid, ResponseProposalService.State.store, Dict.find?_set_self] at hx
    obtain rfl := Option.some.inj hx
    exact ⟨hconfirmed, hx'.proposalUnexpired, hx'.permitted⟩

lemma prepare_decides {call : DecideResponseApproval} {p : ResponseProposal}
    {state : HumanApprovalState} (h : call.prepare codec secretLike env db = .ok (p, state)) :
    loadProposal db call.proposalId call.scope = .ok (some p) ∧
      (call.decision ≠ "denied" → Approves codec env call db p) := by
  simp only [DecideResponseApproval.prepare] at h
  obtain ⟨u, hoperator, h⟩ := bind_eq_ok.mp h
  rw [raiseIf_bind_eq_ok] at h
  obtain ⟨loaded, hloaded, hread⟩ := bind_eq_ok.mp h.2
  obtain ⟨q, hq, hread⟩ := orRaise_bind_eq_ok.mp hread
  rw [hq] at hloaded
  obtain ⟨row, -, hdecide⟩ := bind_eq_ok.mp hread
  split at hdecide
  · rename_i hdenied
    obtain ⟨rfl, -⟩ := Prod.mk.inj (Except.ok.inj hdecide)
    exact ⟨hloaded, fun hne => absurd hdenied hne⟩
  rw [raiseIf_bind_eq_ok, not_not] at hdecide
  obtain ⟨hdecision, hdecide⟩ := hdecide
  obtain ⟨v, happrovable, hdecide⟩ := bind_eq_ok.mp hdecide
  obtain ⟨rfl, -⟩ := Prod.mk.inj (Except.ok.inj hdecide)
  simp only [DecideResponseApproval.approvable, raiseIf_bind_eq_ok] at happrovable
  obtain ⟨hpolicy, hcheck⟩ := happrovable
  obtain ⟨candidate, hcandidate, hcheck⟩ := bind_eq_ok.mp hcheck
  obtain ⟨found, hincident, hcheck⟩ := bind_eq_ok.mp hcheck
  obtain ⟨incident, hsome, hcheck⟩ := orRaise_bind_eq_ok.mp hcheck
  rw [hsome] at hincident
  obtain ⟨hmem, hid⟩ := loadIncident_eq_ok hincident
  have hproposal : candidate.proposalId = q.proposalId := by
    rw [HumanApproval.validate_eq_ok hcandidate]
    rfl
  obtain ⟨hconfirmed, hunexpired, hpermitted⟩ := serviceApproves_eq_ok hproposal hid.symm hcheck
  exact ⟨hloaded, fun _ => ⟨hdecision, requireOperator_eq_ok hoperator, hunexpired, hpolicy,
    hpermitted, incident, hmem, hid, hconfirmed⟩⟩

/-- A decision that is recorded is the one that was prepared, on the stored proposal. -/
lemma decideResponseApproval_cases (call : DecideResponseApproval) :
    ((decideResponseApproval codec secretLike env call db).2 = db) ∨
      ∃ p a state, loadProposal db call.proposalId call.scope = .ok (some p) ∧
        (call.decision ≠ "denied" → Approves codec env call db p) ∧
        Decided env.committed call.decidedBy call.decision call.rationale a (proposalRow p) state db
          (decideResponseApproval codec secretLike env call db).2 ∧
        ∃ q, (decideResponseApproval codec secretLike env call db).1 = .ok q := by
  unfold decideResponseApproval
  cases hp : call.prepare codec secretLike env db with
  | error e => exact Or.inl rfl
  | ok r =>
    obtain ⟨p, state⟩ := r
    obtain ⟨hloaded, happroves⟩ := prepare_decides hp
    obtain ⟨hmem, hid, -⟩ := loadProposal_eq_ok hloaded
    simp only
    cases hd : decideApproval codec secretLike env.committed p call.decidedBy call.decision
        state.value call.rationale db with
    | error e => exact Or.inl rfl
    | ok r =>
      obtain ⟨approval, db'⟩ := r
      rcases decideApproval_eq_ok hd with rfl | ⟨a, row, state', hdecided, hrow⟩
      · exact Or.inl rfl
      · obtain rfl := Table.eq_of_key_eq hdecided.proposal hmem hrow
        rw [← hid] at hloaded
        obtain ⟨q, hq⟩ := loadProposal_after hloaded hdecided
        refine Or.inr ⟨p, a, state', hid ▸ hloaded, happroves, hdecided, some q, ?_⟩
        simp only [← hid, hq]

lemma exec_outcome (call : Call) : Outcome codec db (call.exec codec secretLike env db).2 := by
  cases call with
  | proposeResponse call =>
    rcases @proposeResponse_cases codec secretLike env db call with hsame | ⟨p, hsound, -, hp, -⟩
    · exact .unchanged hsame
    · exact .persisted hsound hp
  | decideResponseApproval call =>
    rcases @decideResponseApproval_cases codec secretLike env db call with
      hsame | ⟨p, a, state, -, -, hdecided, -⟩
    · exact .unchanged hsame
    · exact .decided hdecided

lemma discard_error {α : Type} {m : Effect Database α} {e : Raised}
    (h : (m.discard db).1 = .error e) : (m db).1 = .error e := by
  simp only [Effect.discard] at h
  cases hm : (m db).1 with
  | error e' =>
    rw [hm] at h
    exact congrArg Except.error (Except.error.inj h)
  | ok a =>
    rw [hm] at h
    cases h

/-- A call that raises changes nothing. -/
lemma exec_error {call : Call} {e : Raised} (h : (call.exec codec secretLike env db).1 = .error e) :
    (call.exec codec secretLike env db).2 = db := by
  cases call with
  | proposeResponse call =>
    have he := discard_error h
    rcases @proposeResponse_cases codec secretLike env db call with hsame | ⟨p, -, -, -, hok⟩
    · exact hsame
    · rw [hok] at he
      cases he
  | decideResponseApproval call =>
    have he := discard_error h
    rcases @decideResponseApproval_cases codec secretLike env db call with
      hsame | ⟨p, a, state, -, -, -, q, hok⟩
    · exact hsame
    · rw [hok] at he
      cases he

end Effects

section Runs

def LiveStep (codec : Codec) (secretLike : Value → Bool) (db db' : Database) : Prop :=
  ∃ env call, (Call.exec codec secretLike env call db).2 = db'

lemma ledger_outcome (h : Ledger db) (ho : Outcome codec db db') : Ledger db' := by
  cases ho with
  | unchanged hsame => exact hsame ▸ h
  | persisted hsound hp => exact h.persisted hp hsound
  | decided hd => exact h.decide hd

lemma ledger_live : Inductive Unproposed (LiveStep codec secretLike) Ledger where
  start _ h := Ledger.start h
  next := by
    rintro db db' h ⟨env, call, rfl⟩
    exact ledger_outcome h (exec_outcome call)

/-- What every call does in a state: it approves a stored proposal only as the decision of another
human operator that everything allowed, and where it raises it changes nothing. -/
structure ApprovalGate (codec : Codec) (secretLike : Value → Bool) (db : Database) : Prop where
  approved : ∀ env call, ∀ row ∈ (Call.exec codec secretLike env call db).2.responseProposals,
    row.humanApprovalState = .approved →
      (∃ row₀ ∈ db.responseProposals, row₀.proposalId = row.proposalId ∧
        row₀.humanApprovalState = .approved) ∨
      ∃ decision p, call = .decideResponseApproval decision ∧
        proposalRow p ∈ db.responseProposals ∧ p.proposalId = row.proposalId ∧
        Approves codec env decision db p ∧
        (∃ a ∈ db.approvals, ApprovalOf a (proposalRow p)) ∧
        ∀ a ∈ db.approvals, ApprovalOf a (proposalRow p) →
          decision.decidedBy ≠ a.requestedByPrincipalId
  atomic : ∀ env call e, (Call.exec codec secretLike env call db).1 = .error e →
    (Call.exec codec secretLike env call db).2 = db

theorem approvalGate (h : Reachable Unproposed (LiveStep codec secretLike) db) :
    ApprovalGate codec secretLike db := by
  have hledger := ledger_live.reachable h
  refine ⟨fun env call row hrow happroved => ?_, fun env call e he => exec_error he⟩
  cases call with
  | proposeResponse call =>
    left
    have hrow' : row ∈ (proposeResponse codec secretLike env call db).2.responseProposals := hrow
    rcases @proposeResponse_cases codec secretLike env db call with hsame | ⟨p, -, hstate, hp, -⟩
    · rw [hsame] at hrow'
      exact ⟨row, hrow', rfl, happroved⟩
    · rcases hp.proposals row hrow' with hold | ⟨rfl, -⟩
      · exact ⟨row, hold, rfl, happroved⟩
      · exact absurd happroved hstate
  | decideResponseApproval call =>
    have hrow' : row ∈ (decideResponseApproval codec secretLike env call db).2.responseProposals := hrow
    rcases @decideResponseApproval_cases codec secretLike env db call with
      hsame | ⟨p, a, state, -, happroves, hd, -⟩
    · rw [hsame] at hrow'
      exact Or.inl ⟨row, hrow', rfl, happroved⟩
    rcases hd.mem_proposals hrow' with ⟨hold, -⟩ | rfl
    · exact Or.inl ⟨row, hold, rfl, happroved⟩
    · right
      have hstate : state = .approved := happroved
      have hdecision : call.decision ≠ "denied" := by
        intro hdenied
        have houtcome := hd.outcome
        rw [hdenied, hstate] at houtcome
        cases houtcome
      refine ⟨call, p, rfl, hd.proposal, rfl, happroves hdecision, ⟨a, hd.approval, hd.approvalOf⟩, ?_⟩
      intro b hb hof
      rw [← hledger.single a hd.approval b hb (hd.approvalOf.sameRequest hof)]
      exact hd.other

end Runs

section Example

open ResponseProposalService

def responding : Database := { staffed with incidents := ⟨[sampleIncident], by decide⟩ }

/-- The policy asks for an approval, and the clock stands still. -/
def sampleSurroundings : Surroundings := ⟨some fun _ => .ok "require_approval", 20, 20, 20⟩

def sampleProposeCall : Call :=
  .proposeResponse ⟨"INC-1", sampleScope, .blockTool, "lateral tool use", "tool unavailable", "low",
    "unblock the tool", some 100000000, "PR-1", none⟩

def sampleDecideCall : Call :=
  .decideResponseApproval ⟨sampleProposal.proposalId, sampleScope, "PR-2", "approved", "", none⟩

def respondingProposed : Database :=
  (sampleProposeCall.exec sampleCodec (fun _ => false) sampleSurroundings responding).2

theorem sample_approvalGate :
    (sampleDecideCall.exec sampleCodec (fun _ => false) sampleSurroundings
        respondingProposed).2.responseProposals.rows.map (·.humanApprovalState) = [.approved] ∧
      ApprovalGate sampleCodec (fun _ => false) respondingProposed :=
  ⟨by decide, approvalGate ((Reachable.start (s := responding) ⟨rfl, rfl, nofun, nofun⟩).next
    ⟨sampleSurroundings, sampleProposeCall, rfl⟩)⟩

end Example

end SecScanMonitor.Application.LiveIncidentControlPlane
