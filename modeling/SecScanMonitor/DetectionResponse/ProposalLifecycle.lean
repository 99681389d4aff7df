import SecScanMonitor.DetectionResponse.ResponseProposals
import Mathlib.Data.List.Induction

/-! What a call on the response proposal service can do to the proposals it holds, and what follows for
whole runs: who approves, and which states an approval can leave. -/

namespace SecScanMonitor.DetectionResponse.ResponseProposalService

open Foundations Domain

variable {cfg : Config} {s s' : State} {call : Call}

/-- Everything `approve` asks of the approval and of the stored proposal. -/
structure Accepts (cfg : Config) (approvals : String → Option HumanApproval) (now : Datetime)
    (approval : HumanApproval) (p : ResponseProposal) : Prop where
  canonical : approvals approval.approvalId = some approval
  approver : approval.decidedBy ∈ cfg.canonicalApproverIds
  approved : approval.decision = .approved
  source : approval.source = "human_operator"
  digest : approval.proposalDigest = p.proposalDigest
  scope : approval.scope = p.scope
  target : approval.targetId = p.targetId
  action : approval.action = p.action
  decided : approval.decidedAt ≤ now
  unexpired : now < approval.expiresAt
  outlived : approval.expiresAt ≤ p.expiresAt
  proposalUnexpired : now < p.expiresAt
  permitted : p.opaDecision ≠ .deny

/-- The changes a call can make, each with what the service checked before it. -/
inductive Transition (cfg : Config) (s : State) : Call → State → Prop
  | unchanged {call : Call} : Transition cfg s call s
  | proposed {incidents : String → Option Incident} {now : Datetime}
      {policy : Value → Except Raised (Option OpaDecision)} {args : ProposeArgs} {expiry : Datetime}
      {decision : OpaDecision} :
      s.proposals.find? (args.proposal cfg.codec expiry decision).proposalId = none →
      Transition cfg s (.propose incidents now policy args)
        (s.store (args.proposal cfg.codec expiry decision))
  | bound {incidents : String → Option Incident} {p : ResponseProposal} :
      p.authorizedActionExecuted = false →
      (∀ q, s.proposals.find? p.proposalId = some q → q = p) →
      Transition cfg s (.bindCanonicalProposal incidents p) (s.store p)
  | requested {now : Datetime} {p : ResponseProposal} {scope : Option Scope}
      {requests : Dict String CapabilityRequest} :
      Transition cfg s (.capabilityRequest now p scope) ⟨s.proposals, requests⟩
  | approved {approvals : String → Option HumanApproval} {now : Datetime} {approval : HumanApproval}
      {p : ResponseProposal} :
      s.proposals.find? approval.proposalId = some p → Accepts cfg approvals now approval p →
      Transition cfg s (.approve approvals now approval)
        (s.store { p with humanApprovalState := .approved })

lemma approveChecks_eq_ok {now : Datetime} {approval : HumanApproval} {p : ResponseProposal}
    {u : Unit} (h : approveChecks now approval p = .ok u) (approvals : String → Option HumanApproval)
    (hcanonical : approvals approval.approvalId = some approval)
    (happrover : approval.decidedBy ∈ cfg.canonicalApproverIds) :
    Accepts cfg approvals now approval p := by
  simp only [approveChecks, raiseIf_bind_eq_ok, raiseIf_eq_ok, not_or, not_le, not_lt, ne_eq,
    not_not] at h
  obtain ⟨⟨hp, ha⟩, hd, ho, -, ⟨hs, hstate⟩, ⟨hdigest, hscope, htarget, haction⟩, hopa⟩ := h
  exact ⟨hcanonical, happrover, hstate, hs, hdigest, hscope, htarget, haction, hd, ha, ho, hp, hopa⟩

lemma approve_cases {approvals : String → Option HumanApproval} {now : Datetime}
    {approval : HumanApproval} :
    (∃ e, approve cfg approvals now approval s = (.error e, s)) ∨
      ∃ p, s.proposals.find? approval.proposalId = some p ∧
        Accepts cfg approvals now approval p ∧
        approve cfg approvals now approval s =
          (.ok { p with humanApprovalState := .approved },
            s.store { p with humanApprovalState := .approved }) := by
  unfold approve
  split
  · exact Or.inl ⟨_, rfl⟩
  rename_i hcanonical
  split
  · exact Or.inl ⟨_, rfl⟩
  rename_i happrover
  cases hp : s.proposals.find? approval.proposalId with
  | none => exact Or.inl ⟨_, rfl⟩
  | some p =>
    cases hc : approveChecks now approval p with
    | error e => exact Or.inl ⟨e, by simp only [hc]⟩
    | ok u =>
      have ha : Accepts cfg approvals now approval p :=
        approveChecks_eq_ok hc approvals (not_not.mp hcanonical) (not_not.mp happrover)
      exact Or.inr ⟨p, rfl, ha, by simp only [hc]⟩

lemma propose_cases {incidents : String → Option Incident} {now : Datetime}
    {policy : Value → Except Raised (Option OpaDecision)} {args : ProposeArgs} :
    (∃ r, propose cfg incidents now policy args s = (r, s)) ∨
      ∃ expiry decision,
        s.proposals.find? (args.proposal cfg.codec expiry decision).proposalId = none ∧
        propose cfg incidents now policy args s =
          (.ok (args.proposal cfg.codec expiry decision),
            s.store (args.proposal cfg.codec expiry decision)) := by
  unfold propose
  cases hc : proposeChecks cfg incidents now args with
  | error e => exact Or.inl ⟨_, rfl⟩
  | ok expiry =>
    simp only
    cases hp : s.proposals.find? (args.proposal cfg.codec expiry .deny).proposalId with
    | some existing =>
      simp only
      split
      · exact Or.inl ⟨_, rfl⟩
      · exact Or.inl ⟨_, rfl⟩
    | none =>
      simp only
      cases ha : policy (args.base cfg.codec expiry) with
      | error e => exact Or.inl ⟨_, rfl⟩
      | ok answer =>
        simp only
        cases hv : (args.proposal cfg.codec expiry (answer.getD .deny)).validate with
        | error e => exact Or.inl ⟨_, rfl⟩
        | ok p =>
          obtain ⟨rfl, -⟩ := ResponseProposal.validate_eq_ok hv
          exact Or.inr ⟨expiry, answer.getD .deny, hp, rfl⟩

lemma bind_cases {incidents : String → Option Incident} {p : ResponseProposal} :
    (∃ e, bindCanonicalProposal cfg incidents p s = (.error e, s)) ∨
      p.authorizedActionExecuted = false ∧
        (∀ q, s.proposals.find? p.proposalId = some q → q = p) ∧
        bindCanonicalProposal cfg incidents p s = (.ok p, s.store p) := by
  unfold bindCanonicalProposal
  cases requireScope cfg p.scope with
  | error e => exact Or.inl ⟨_, rfl⟩
  | ok u =>
    simp only
    split
    · exact Or.inl ⟨_, rfl⟩
    split
    · exact Or.inl ⟨_, rfl⟩
    rename_i heligible
    split
    · exact Or.inl ⟨_, rfl⟩
    rename_i hsame
    refine Or.inr ⟨by simpa using (not_or.mp heligible).2, fun q hq => ?_, rfl⟩
    simpa [hq] using hsame

lemma capabilityRequest_cases {now : Datetime} {p : ResponseProposal} {scope : Option Scope} :
    (∃ r, capabilityRequest cfg now p scope s = (r, s)) ∨
      ∃ r requests, capabilityRequest cfg now p scope s = (.ok r, ⟨s.proposals, requests⟩) := by
  unfold capabilityRequest
  simp only
  cases requireScope cfg (scope.getD p.scope) with
  | error e => exact Or.inl ⟨_, rfl⟩
  | ok u =>
    simp only
    cases s.proposals.find? p.proposalId with
    | none => exact Or.inl ⟨_, rfl⟩
    | some stored =>
      simp only
      split
      · exact Or.inl ⟨_, rfl⟩
      split
      · exact Or.inl ⟨_, rfl⟩
      split
      · split
        · exact Or.inl ⟨_, rfl⟩
        · exact Or.inl ⟨_, rfl⟩
      · exact Or.inr ⟨_, _, rfl⟩

lemma execute_eq {proposalId : String} {scope : Scope} :
    ∃ e, execute cfg proposalId scope s = (.error e, s) := by
  have hget : (get cfg proposalId scope s).2 = s := by
    unfold get
    cases requireScope cfg scope with
    | error e => rfl
    | ok u =>
      simp only
      split
      · rfl
      · split <;> rfl
  rcases hg : get cfg proposalId scope s with ⟨r, s₁⟩
  rw [hg] at hget
  obtain rfl : s₁ = s := hget
  cases r with
  | error e => exact ⟨e, by simp only [execute, hg]⟩
  | ok p =>
    refine ⟨⟨.responseExecutionDisabled,
      "AUTHORIZED_ACTION_EXECUTED=NO: v0.3 has no response executor"⟩, ?_⟩
    simp only [execute, hg]
    rfl

lemma exec_transition (cfg : Config) (call : Call) (s : State) :
    Transition cfg s call (exec cfg call s).2 := by
  cases call with
  | propose incidents now policy args =>
    rcases @propose_cases cfg s incidents now policy args with ⟨r, h⟩ | ⟨expiry, decision, hnone, h⟩
    · simp only [exec, Effect.discard, h]
      exact .unchanged
    · simp only [exec, Effect.discard, h]
      exact .proposed hnone
  | bindCanonicalProposal incidents p =>
    rcases @bind_cases cfg s incidents p with
      ⟨e, h⟩ | ⟨hexecuted, hsame, h⟩
    · simp only [exec, Effect.discard, h]
      exact .unchanged
    · simp only [exec, Effect.discard, h]
      exact .bound hexecuted hsame
  | capabilityRequest now p scope =>
    rcases @capabilityRequest_cases cfg s now p scope with
      ⟨r, h⟩ | ⟨r, requests, h⟩
    · simp only [exec, Effect.discard, h]
      exact .unchanged
    · simp only [exec, Effect.discard, h]
      exact .requested
  | approve approvals now approval =>
    rcases @approve_cases cfg s approvals now approval with ⟨e, h⟩ | ⟨p, hp, ha, h⟩
    · simp only [exec, Effect.discard, h]
      exact .unchanged
    · simp only [exec, Effect.discard, h]
      exact .approved hp ha
  | execute proposalId scope =>
    obtain ⟨e, h⟩ := @execute_eq cfg s proposalId scope
    simp only [exec, h]
    exact .unchanged

/-- No assignment comes before a check that raises. -/
lemma exec_error {e : Raised} (h : (exec cfg call s).1 = .error e) : (exec cfg call s).2 = s := by
  cases call with
  | propose incidents now policy args =>
    rcases @propose_cases cfg s incidents now policy args with ⟨r, hr⟩ | ⟨expiry, decision, -, hr⟩
    · simp only [exec, Effect.discard, hr]
    · simp only [exec, Effect.discard, hr, Except.map, reduceCtorEq] at h
  | bindCanonicalProposal incidents p =>
    rcases @bind_cases cfg s incidents p with
      ⟨e, hr⟩ | ⟨-, -, hr⟩
    · simp only [exec, Effect.discard, hr]
    · simp only [exec, Effect.discard, hr, Except.map, reduceCtorEq] at h
  | capabilityRequest now p scope =>
    rcases @capabilityRequest_cases cfg s now p scope with
      ⟨r, hr⟩ | ⟨r, requests, hr⟩
    · simp only [exec, Effect.discard, hr]
    · simp only [exec, Effect.discard, hr, Except.map, reduceCtorEq] at h
  | approve approvals now approval =>
    rcases @approve_cases cfg s approvals now approval with ⟨e, hr⟩ | ⟨p, -, -, hr⟩
    · simp only [exec, Effect.discard, hr]
    · simp only [exec, Effect.discard, hr, Except.map, reduceCtorEq] at h
  | execute proposalId scope =>
    obtain ⟨e, hr⟩ := @execute_eq cfg s proposalId scope
    simp only [exec, hr]

/-- Proposals are kept under their own ids, and none of them records an executed action. -/
structure WellKept (s : State) : Prop where
  keyed : ∀ id p, s.proposals.find? id = some p → p.proposalId = id
  unexecuted : ∀ id p, s.proposals.find? id = some p → p.authorizedActionExecuted = false

lemma WellKept.store (h : WellKept s) {p : ResponseProposal}
    (hp : p.authorizedActionExecuted = false) : WellKept (s.store p) := by
  constructor
  · intro id q hq
    rw [State.store, Dict.find?_set] at hq
    split at hq
    · rename_i hid
      rw [← Option.some.inj hq, hid]
    · exact h.keyed id q hq
  · intro id q hq
    rw [State.store, Dict.find?_set] at hq
    split at hq
    · rw [← Option.some.inj hq, hp]
    · exact h.unexecuted id q hq

lemma WellKept.transition (h : WellKept s) (ht : Transition cfg s call s') : WellKept s' := by
  cases ht with
  | unchanged => exact h
  | proposed hnone => exact h.store rfl
  | bound hexecuted hsame => exact h.store hexecuted
  | requested => exact ⟨h.keyed, h.unexecuted⟩
  | @approved _ _ _ p hp _ =>
    have hp' : p.authorizedActionExecuted = false := h.unexecuted _ p hp
    exact h.store hp'

lemma wellKept_inductive (cfg : Config) : Inductive (· = init) (Step cfg) WellKept where
  start := by
    rintro s rfl
    exact ⟨fun id p hp => by simp [init] at hp, fun id p hp => by simp [init] at hp⟩
  next := by
    rintro s s' h ⟨call, rfl⟩
    exact h.transition (exec_transition cfg call s)

/-- A stored proposal keeps every field through a call, unless the call approves it. -/
lemma Transition.stored (hs : WellKept s) (ht : Transition cfg s call s') {id : String}
    {p : ResponseProposal} (hp : s.proposals.find? id = some p) :
    s'.proposals.find? id = some p ∨
      ∃ approvals now approval, call = .approve approvals now approval ∧
        approval.proposalId = id ∧ Accepts cfg approvals now approval p ∧
        s'.proposals.find? id = some { p with humanApprovalState := .approved } := by
  cases ht with
  | unchanged => exact Or.inl hp
  | @proposed _ _ _ args expiry decision hnone =>
    left
    have hne : id ≠ (args.proposal cfg.codec expiry decision).proposalId := by
      rintro rfl
      rw [hnone] at hp
      cases hp
    rw [State.store, Dict.find?_set_of_ne _ _ hne, hp]
  | @bound _ q _ hsame =>
    left
    rw [State.store, Dict.find?_set]
    split
    · rename_i hid
      rw [hsame p (hid ▸ hp)]
    · exact hp
  | requested => exact Or.inl hp
  | @approved approvals now approval q hq ha =>
    rw [State.store, Dict.find?_set]
    by_cases hid : id = q.proposalId
    · right
      have hkey : q.proposalId = approval.proposalId := hs.keyed _ _ hq
      obtain rfl : q = p := Option.some.inj (hq.symm.trans (by rw [← hkey, ← hid, hp]))
      exact ⟨approvals, now, approval, rfl, by rw [hid, hkey], ha, by simp [hid]⟩
    · left
      simpa [hid] using hp

section Produced

/-- What a proposal of the service's own making satisfies, also after an approval. -/
structure Sound (p : ResponseProposal) : Prop where
  target : p.targetId = p.scope.targetId
  state : p.opaDecision = .deny ∧ p.humanApprovalState = .denied ∨
    p.opaDecision ≠ .deny ∧
      (p.humanApprovalState = .approvalRequired ∨ p.humanApprovalState = .approved)

lemma sound_proposal (args : ProposeArgs) (codec : Codec) (expiry : Datetime)
    (decision : OpaDecision) : Sound (args.proposal codec expiry decision) := by
  refine ⟨rfl, ?_⟩
  by_cases hdeny : decision = .deny
  · exact Or.inl ⟨hdeny, if_pos hdeny⟩
  · exact Or.inr ⟨hdeny, Or.inl (if_neg hdeny)⟩

/-- A step of a service that is not handed proposals from outside. -/
def OwnStep (cfg : Config) (s s' : State) : Prop :=
  ∃ call, (∀ incidents p, call ≠ .bindCanonicalProposal incidents p) ∧ (exec cfg call s).2 = s'

/-- A result of `propose` in a service with this configuration: a new proposal or a replay. -/
def Produced (cfg : Config) (p : ResponseProposal) : Prop :=
  ∃ s, Reachable (· = init) (OwnStep cfg) s ∧ ∃ incidents now policy args,
    (propose cfg incidents now policy args s).1 = .ok p

def AllSound (s : State) : Prop := ∀ id p, s.proposals.find? id = some p → Sound p

lemma AllSound.store (h : AllSound s) {p : ResponseProposal} (hp : Sound p) :
    AllSound (s.store p) := by
  intro id q hq
  rw [State.store, Dict.find?_set] at hq
  split at hq
  · exact Option.some.inj hq ▸ hp
  · exact h id q hq

lemma allSound_inductive (cfg : Config) : Inductive (· = init) (OwnStep cfg) AllSound where
  start := by
    rintro s rfl id p hp
    simp [init] at hp
  next := by
    rintro s s' h ⟨call, hown, rfl⟩
    generalize ht : (exec cfg call s).2 = s'
    have htransition := ht ▸ exec_transition cfg call s
    cases htransition with
    | unchanged => exact h
    | proposed => exact h.store (sound_proposal _ _ _ _)
    | bound => exact absurd rfl (hown _ _)
    | requested => exact h
    | @approved _ _ _ p hp ha =>
      have hopa := ha.permitted
      refine h.store ⟨(h _ p hp).target, Or.inr ⟨hopa, Or.inr rfl⟩⟩

lemma Produced.sound {p : ResponseProposal} (h : Produced cfg p) : Sound p := by
  obtain ⟨s, hs, incidents, now, policy, args, hp⟩ := h
  have hsound := (allSound_inductive cfg).reachable hs
  unfold propose at hp
  cases hc : proposeChecks cfg incidents now args with
  | error e => simp only [hc, reduceCtorEq] at hp
  | ok expiry =>
    simp only [hc] at hp
    split at hp
    · rename_i existing hfound
      split at hp
      · obtain rfl := Except.ok.inj hp
        exact hsound _ _ hfound
      · cases hp
    · split at hp
      · cases hp
      · rename_i answer _
        split at hp
        · cases hp
        · rename_i q hq
          obtain ⟨rfl, -⟩ := ResponseProposal.validate_eq_ok hq
          obtain rfl := Except.ok.inj hp
          exact sound_proposal _ _ _ _

/-- A service that holds nothing yet answers with a new proposal. -/
lemma propose_init {incidents : String → Option Incident} {now : Datetime}
    {policy : Value → Except Raised (Option OpaDecision)} {args : ProposeArgs} {p : ResponseProposal}
    (h : (propose cfg incidents now policy args init).1 = .ok p) :
    ∃ expiry decision, p = args.proposal cfg.codec expiry decision := by
  unfold propose at h
  cases hc : proposeChecks cfg incidents now args with
  | error e => simp only [hc, reduceCtorEq] at h
  | ok expiry =>
    simp only [hc, init, Dict.find?_empty] at h
    split at h
    · cases h
    · rename_i answer _
      split at h
      · cases h
      · rename_i q hq
        obtain ⟨rfl, -⟩ := ResponseProposal.validate_eq_ok hq
        exact ⟨expiry, answer.getD .deny, (Except.ok.inj h).symm⟩

end Produced

structure Guarded (cfg : Config) (s : State) (call : Call) : Prop where
  approved : ∀ id p p', s.proposals.find? id = some p →
    (exec cfg call s).2.proposals.find? id = some p' →
    p.humanApprovalState ≠ .approved → p'.humanApprovalState = .approved →
    ∃ approvals now approval, call = .approve approvals now approval ∧
      approval.proposalId = p.proposalId ∧ Accepts cfg approvals now approval p
  unexecuted : ∀ p ∈ (exec cfg call s).2.proposals.values, p.authorizedActionExecuted = false
  atomic : ∀ e, (exec cfg call s).1 = .error e → (exec cfg call s).2 = s

theorem calls_guarded (cfg : Config) (s : State) (call : Call)
    (hs : Reachable (· = init) (Step cfg) s) : Guarded cfg s call := by
  have hkept := (wellKept_inductive cfg).reachable hs
  have ht := exec_transition cfg call s
  refine ⟨fun id p p' hp hp' hbefore hafter => ?_, fun p hp => ?_, fun e he => exec_error he⟩
  · rcases ht.stored hkept hp with hsame | ⟨approvals, now, approval, hcall, hid, ha, -⟩
    · rw [hsame] at hp'
      obtain rfl := Option.some.inj hp'
      exact absurd hafter hbefore
    · exact ⟨approvals, now, approval, hcall, by rw [hid, hkept.keyed id p hp], ha⟩
  · obtain ⟨id, hid⟩ := Dict.mem_values_iff_find?.mp hp
    exact (hkept.transition ht).unexecuted id p hid

section Example

def sampleScope : Scope := ⟨"CL-1", "EN-1", "TG-1", sampleNames_nonblank⟩

def sampleIncident : Incident where
  incidentId := "INC-1"
  hypothesisId := "HYP-1"
  investigationId := "INV-1"
  adjudicationId := "ADJ-1"
  scope := sampleScope
  state := .confirmed
  severity := .high
  confidence := .high
  sourceSignalIds := ["SIG-1"]
  observationIds := ["OBS-1"]
  claimIds := ["CLM-1"]
  supportingEvidenceRefs := ["EV-1"]
  contradictingEvidenceRefs := []
  adjudicatedAt := 0

def sampleArgs : ProposeArgs :=
  ⟨sampleIncident, .blockTool, "lateral tool use", "tool unavailable", "low", "unblock the tool",
    some 100000000⟩

def sampleDigest : String := "404ed7bc3a586964f4184b787d8ab47b11de1de812ac0049c898217f694d21b2"

/-- The digests of the sample proposal's content, and of the identities of the proposal, of its approval
and of its capability request. -/
def sampleCodec : Codec where
  contentDigest
    | .arr [.str s] =>
      if s = sampleDigest then "f54697a5f8aefa1828d7a4845f449495cf7ba287b57746214d0acee3fc0f6e9c"
      else "cfaf8fee85724421fed3c12685dac351c6a9eb6342b2fa4d7df82c28ff0928f1"
    | .arr _ => "175502b507f19a567f00ee4c0a0c2aa57a61396c1c48d61205873e2947b7f612"
    | _ => sampleDigest
  isoformat _ := "1970-01-01T00:01:40+00:00"
  dumpDatetime _ := "1970-01-01T00:01:40Z"

def sampleConfig : Config := ⟨sampleCodec, some sampleScope, ["PR-2"]⟩

def sampleProposal : ResponseProposal :=
  sampleArgs.proposal sampleCodec 100000000 .requireApproval

def sampleApproval : HumanApproval where
  approvalId := "HA-1"
  proposalId := sampleProposal.proposalId
  proposalDigest := sampleDigest
  scope := sampleScope
  targetId := "TG-1"
  action := .blockTool
  decision := .approved
  decidedBy := "PR-2"
  decidedAt := 10
  source := "human_operator"
  expiresAt := 90000000

def sampleIncidents : String → Option Incident := fun _ => some sampleIncident
def sampleApprovals : String → Option HumanApproval := fun _ => some sampleApproval

end Example

theorem sample_guarded :
    Guarded sampleConfig
      (exec sampleConfig (.propose sampleIncidents 0 (fun _ => .ok (some .requireApproval)) sampleArgs)
        init).2
      (.approve sampleApprovals 10 sampleApproval) :=
  calls_guarded sampleConfig _ _ (Reachable.next (Reachable.start (s := init) rfl) ⟨_, rfl⟩)

lemma approve_of_accepts {approvals : String → Option HumanApproval} {now : Datetime}
    {approval : HumanApproval} {p : ResponseProposal}
    (hp : s.proposals.find? approval.proposalId = some p) (ha : Accepts cfg approvals now approval p) :
    approve cfg approvals now approval s =
      (.ok { p with humanApprovalState := .approved },
        s.store { p with humanApprovalState := .approved }) := by
  have hchecks : approveChecks now approval p = .ok () := by
    simp only [approveChecks, raiseIf_bind_eq_ok, raiseIf_eq_ok, not_or, not_le, not_lt, ne_eq,
      not_not]
    exact ⟨⟨ha.proposalUnexpired, ha.unexpired⟩, ha.decided, ha.outlived,
      ha.decided.trans ha.unexpired.le, ⟨ha.source, ha.approved⟩,
      ⟨ha.digest, ha.scope, ha.target, ha.action⟩, ha.permitted⟩
  have hcanonical : ¬ approvals approval.approvalId ≠ some approval := not_not.mpr ha.canonical
  have happrover : ¬ approval.decidedBy ∉ cfg.canonicalApproverIds := not_not.mpr ha.approver
  simp only [approve, if_neg hcanonical, if_neg happrover, hp, hchecks]

def run (cfg : Config) (calls : List Call) : State :=
  calls.foldl (fun s call => (exec cfg call s).2) init

@[simp] lemma run_nil (cfg : Config) : run cfg [] = init := rfl

lemma run_append (cfg : Config) (calls : List Call) (call : Call) :
    run cfg (calls ++ [call]) = (exec cfg call (run cfg calls)).2 := by
  simp [run]

lemma run_reachable (cfg : Config) (calls : List Call) :
    Reachable (· = init) (Step cfg) (run cfg calls) := by
  induction calls using List.reverseRecOn with
  | nil => exact .start rfl
  | append_singleton calls call ih =>
    rw [run_append]
    exact ih.next ⟨call, rfl⟩

def Terminal (p : ResponseProposal) : Prop :=
  p.humanApprovalState = .denied ∨ p.humanApprovalState = .expired

/-- A call approves a proposal that the service holds as denied or expired. -/
def Revives (cfg : Config) (s : State) (call : Call) : Prop :=
  ∃ approvals now approval p, call = .approve approvals now approval ∧
    s.proposals.find? approval.proposalId = some p ∧ Terminal p ∧
    Accepts cfg approvals now approval p

lemma Terminal.exec (hs : WellKept s) (hr : ¬ Revives cfg s call) {id : String}
    {p : ResponseProposal} (hp : s.proposals.find? id = some p) (ht : Terminal p) :
    (exec cfg call s).2.proposals.find? id = some p := by
  rcases (exec_transition cfg call s).stored hs hp with h | ⟨approvals, now, approval, hcall, hid, ha, -⟩
  · exact h
  · exact absurd ⟨approvals, now, approval, p, hcall, hid ▸ hp, ht, ha⟩ hr

/-- In every run, a proposal held as denied or expired is not held as approved later on. -/
def NeverRevived (cfg : Config) (calls : List Call) : Prop :=
  ∀ before between after, calls = before ++ between ++ after →
    ∀ id p q, (run cfg before).proposals.find? id = some p → Terminal p →
      (run cfg (before ++ between)).proposals.find? id = some q → q.humanApprovalState ≠ .approved

theorem neverRevived_iff (cfg : Config) (calls : List Call) :
    NeverRevived cfg calls ↔
      ∀ before call after, calls = before ++ call :: after → ¬ Revives cfg (run cfg before) call := by
  constructor
  · rintro h before call after rfl ⟨approvals, now, approval, p, rfl, hp, ht, ha⟩
    have hkey := ((wellKept_inductive cfg).reachable (run_reachable cfg before)).keyed _ _ hp
    refine h before [.approve approvals now approval] after (by simp) approval.proposalId p
      { p with humanApprovalState := .approved } hp ht ?_ rfl
    rw [run_append, exec, Effect.discard, approve_of_accepts hp ha]
    simp [State.store, ← hkey]
  · intro h before between after hcalls id p q hp ht hq
    suffices hkeep : (run cfg (before ++ between)).proposals.find? id = some p by
      rw [hkeep] at hq
      obtain rfl := Option.some.inj hq
      rcases ht with ht | ht <;> simp [ht]
    clear hq
    induction between using List.reverseRecOn generalizing after with
    | nil => simpa using hp
    | append_singleton between call ih =>
      rw [← List.append_assoc] at hcalls ⊢
      have hkeep := ih (call :: after) (by simpa using hcalls)
      rw [run_append]
      refine Terminal.exec ((wellKept_inductive cfg).reachable (run_reachable cfg _)) ?_ hkeep ht
      exact h (before ++ between) call after (by simpa using hcalls)

/-- A proposal that a human denied is bound after a restart, and a canonical approval of it is then
presented. -/
def revivingCalls : List Call :=
  [.bindCanonicalProposal sampleIncidents { sampleProposal with humanApprovalState := .denied },
    .approve sampleApprovals 10 sampleApproval]

theorem denied_is_revived : ¬ ∀ cfg calls, NeverRevived cfg calls := by
  intro h
  have hnever := h sampleConfig revivingCalls [revivingCalls[0]] [revivingCalls[1]] [] rfl
    sampleProposal.proposalId { sampleProposal with humanApprovalState := .denied }
    { sampleProposal with humanApprovalState := .approved } (by decide) (Or.inl rfl) (by decide)
  exact hnever rfl

end SecScanMonitor.DetectionResponse.ResponseProposalService
