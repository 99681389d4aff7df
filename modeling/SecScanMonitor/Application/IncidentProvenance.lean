import SecScanMonitor.Application.IncidentHistory

/-! The invariant of the incident records, and what it says of every incident, of every response proposal and of
every repeated decision. -/

namespace SecScanMonitor.Application.LiveIncidentControlPlane

open Foundations Domain DetectionResponse ContinuousSecurity Persistence

/-- The adjudication row of an incident. The claims that it lists after those of the incident contradict it. -/
structure AdjudicationOf (stores : List IncidentStore) (i : Incident) (contradicting : List String)
    (a : AdjudicationRow) : Prop where
  id : a.adjudicationId = i.adjudicationId
  engagement : a.engagementId = i.scope.caseId
  claims : a.claimIds = i.claimIds ++ contradicting
  supporting : a.supportingEvidenceIds = i.supportingEvidenceRefs
  contradictingRefs : a.contradictingEvidenceIds = i.contradictingEvidenceRefs
  verdict : a.verdict = i.state.value
  confirmed : i.state = .confirmed ↔ contradicting = [] ∧ i.contradictingEvidenceRefs = []
  grounds : ∀ ref ∈ i.contradictingEvidenceRefs, ∃ id ∈ contradicting, Grounds stores i.scope id ref
  human : ∃ principal, a.decidedByPrincipalId = some principal ∧
    ∃ s ∈ stores, canonicalHuman s.database principal = true

/-- What an incident rests on. Its records, its signals and its events are in the current store; its claims and
their evidence were in the stores that the adjudication read. -/
structure Backed (stores : List IncidentStore) (store : IncidentStore) (i : Incident) : Prop where
  hypothesis : ∃ h ∈ store.incidentHypotheses, h.hypothesisId = i.hypothesisId ∧ h.scope = i.scope ∧
    h.sourceSignalIds = i.sourceSignalIds
  investigation : ∃ x ∈ store.incidentInvestigations, x.investigationId = i.investigationId ∧
    x.hypothesisId = i.hypothesisId ∧ x.scope = i.scope ∧ x.observationIds = i.observationIds ∧
    x.claimIds = i.claimIds
  adjudication : ∃ contradicting, ∃ a ∈ store.adjudications, AdjudicationOf stores i contradicting a
  observed : ∀ ref ∈ i.supportingEvidenceRefs ++ i.contradictingEvidenceRefs,
    Observed store i.scope i.sourceSignalIds ref
  claimed : ∀ ref ∈ i.supportingEvidenceRefs, ∃ id ∈ i.claimIds, Grounds stores i.scope id ref
  some : i.supportingEvidenceRefs ≠ []

/-- The proposal is for the incident, which is confirmed and has the evidence that the proposal names. -/
structure ProposedFor (r : ResponseProposalRow) (i : Incident) : Prop where
  incident : i.incidentId = r.incidentId
  confirmed : i.state = .confirmed
  scope : inScope r.tenantId r.caseId r.targetId i.scope
  refs : ∀ ref, ref ∈ r.supportingEvidenceRefs ↔ ref ∈ i.supportingEvidenceRefs

/-- The judgement of an accepted call, on a stored hypothesis, whose records are stored. -/
structure OnRecord (codec : Codec) (store : IncidentStore) (call : AdjudicateIncident) (d : Decision) :
    Prop where
  judged : ∃ h now, ∃ row ∈ store.incidentHypotheses, row.hypothesisId = call.hypothesisId ∧
    row.load = .ok h ∧ d.investigation = (call.judgement h).investigation codec now ∧
    d.adjudication = (call.judgement h).adjudication codec now ∧
    d.incident = (call.judgement h).incident codec now
  stored : Stored d store

structure Sound (codec : Codec) (p : Plane) : Prop where
  kept : ∀ s ∈ p.stores, Kept s p.store
  backed : ∀ i ∈ p.store.database.incidents, Backed p.stores p.store i
  proposed : ∀ r ∈ p.store.database.responseProposals, ∃ i ∈ p.store.database.incidents, ProposedFor r i
  accepted : ∀ c ∈ p.accepted, OnRecord codec p.store c.1 c.2

section Kept

variable {codec : Codec} {stores stores' : List IncidentStore} {store store' : IncidentStore}

lemma AdjudicationOf.mono {i : Incident} {contradicting : List String} {a : AdjudicationRow}
    (h : AdjudicationOf stores i contradicting a) (hsub : stores ⊆ stores') :
    AdjudicationOf stores' i contradicting a where
  id := h.id
  engagement := h.engagement
  claims := h.claims
  supporting := h.supporting
  contradictingRefs := h.contradictingRefs
  verdict := h.verdict
  confirmed := h.confirmed
  grounds ref href := by
    obtain ⟨id, hid, hgrounds⟩ := h.grounds ref href
    exact ⟨id, hid, hgrounds.mono hsub⟩
  human := by
    obtain ⟨principal, hprincipal, s, hs, hhuman⟩ := h.human
    exact ⟨principal, hprincipal, s, hsub hs, hhuman⟩

lemma Backed.kept {i : Incident} (h : Backed stores store i) (hsub : stores ⊆ stores')
    (hkept : Kept store store') : Backed stores' store' i where
  hypothesis := by
    obtain ⟨x, hx, hsame⟩ := h.hypothesis
    exact ⟨x, hkept.hypotheses x hx, hsame⟩
  investigation := by
    obtain ⟨x, hx, hsame⟩ := h.investigation
    exact ⟨x, hkept.investigations x hx, hsame⟩
  adjudication := by
    obtain ⟨contradicting, a, ha, hof⟩ := h.adjudication
    exact ⟨contradicting, a, hkept.adjudications a ha, hof.mono hsub⟩
  observed ref href := (h.observed ref href).kept hkept
  claimed ref href := by
    obtain ⟨id, hid, hgrounds⟩ := h.claimed ref href
    exact ⟨id, hid, hgrounds.mono hsub⟩
  some := h.some

lemma OnRecord.kept {call : AdjudicateIncident} {d : Decision} (h : OnRecord codec store call d)
    (hkept : Kept store store') : OnRecord codec store' call d where
  judged := by
    obtain ⟨hypothesis, now, row, hrow, hjudged⟩ := h.judged
    exact ⟨hypothesis, now, row, hkept.hypotheses row hrow, hjudged⟩
  stored := h.stored.kept hkept

/-- A commit that keeps the records and adds neither incidents nor proposals without their grounds. -/
lemma Sound.commit {p : Plane} (h : Sound codec p) (hkept : Kept p.store store')
    (hincidents : ∀ i ∈ store'.database.incidents, i ∈ p.store.database.incidents ∨
      Backed (p.commit store').stores store' i)
    (hproposals : ∀ r ∈ store'.database.responseProposals,
      (∃ r₀ ∈ p.store.database.responseProposals, ∀ i, ProposedFor r₀ i → ProposedFor r i) ∨
        ∃ i ∈ p.store.database.incidents, ProposedFor r i) : Sound codec (p.commit store') where
  kept s hs := by
    rcases List.mem_cons.mp hs with rfl | hs
    · exact .refl _
    · exact (h.kept s hs).trans hkept
  backed i hi := by
    rcases hincidents i hi with hold | hnew
    · exact (h.backed i hold).kept (List.subset_cons_self _ _) hkept
    · exact hnew
  proposed r hr := by
    rcases hproposals r hr with ⟨r₀, hr₀, hfor⟩ | ⟨i, hi, hfor⟩
    · obtain ⟨i, hi, hfor₀⟩ := h.proposed r₀ hr₀
      exact ⟨i, hkept.incidents i hi, hfor i hfor₀⟩
    · exact ⟨i, hkept.incidents i hi, hfor⟩
  accepted c hc := (h.accepted c hc).kept hkept

end Kept

section Decide

variable {codec : Codec} {secretLike : Value → Bool} {dump : SecurityEvent → Value}
  {decode : Value → Option SecurityEvent}

lemma incidentHypothesis_eq_ok {hypothesisId : String} {scope : Scope} {question : String}
    {sourceSignalIds affectedEntities : List String} {createdAt : Datetime} {h : IncidentHypothesis}
    (hok : incidentHypothesis hypothesisId scope question sourceSignalIds affectedEntities createdAt =
      .ok h) :
    h.hypothesisId = hypothesisId ∧ h.scope = scope ∧ h.sourceSignalIds = sourceSignalIds := by
  rw [incidentHypothesis] at hok
  split at hok
  · split at hok
    · obtain rfl := Except.ok.inj hok
      exact ⟨rfl, rfl, rfl⟩
    · cases hok
  · cases hok

/-- The hypothesis of a call is that of a row, from which it is read again in every later store. -/
lemma loadHypothesis_row {hypothesisId : String} {store : IncidentStore} {h : IncidentHypothesis}
    (hload : loadHypothesis hypothesisId store = .ok (some h)) :
    ∃ row ∈ store.incidentHypotheses, row.hypothesisId = hypothesisId ∧ row.load = .ok h := by
  rw [loadHypothesis] at hload
  cases hrow : store.incidentHypotheses.get? hypothesisId with
  | none =>
    rw [hrow] at hload
    cases hload
  | some row =>
    rw [hrow] at hload
    obtain ⟨hmem, hid⟩ := Table.get?_eq_some_iff.mp hrow
    obtain ⟨h', hh', hsome⟩ := map_eq_ok.mp hload
    obtain rfl := Option.some.inj hsome
    exact ⟨row, hmem, hid, hh'⟩

/-- The incident of a decision is backed once its records are stored. -/
lemma Decides.backed {call : AdjudicateIncident} {clock : ℕ → Datetime} {now : Datetime}
    {v : AdjudicationViews} {h : IncidentHypothesis} {d : Decision} {stores : List IncidentStore}
    {store : IncidentStore} (hd : Decides codec dump decode call clock now v h d) (hviews : v.all ⊆ stores)
    (hkept : ∀ s ∈ stores, Kept s store) (hstored : Stored d store) : Backed stores store d.incident := by
  have hg := hd.grounded
  have hsub : [v.claimsAgain, v.evidence] ⊆ stores := by
    intro s hs
    refine hviews ?_
    simp only [List.mem_cons, List.not_mem_nil, or_false] at hs
    simp only [AdjudicationViews.all, List.mem_cons, List.not_mem_nil, or_false]
    rcases hs with rfl | rfl
    · exact Or.inr (Or.inr (Or.inr (Or.inl rfl)))
    · exact Or.inr (Or.inr (Or.inr (Or.inr (Or.inl rfl))))
  have hkeptOf : ∀ s ∈ v.all, Kept s store := fun s hs => hkept s (hviews hs)
  have hin : ∀ {s : IncidentStore}, s ∈ v.all → s ∈ stores := fun hs => hviews hs
  obtain ⟨row, hrow, hid, hload⟩ := loadHypothesis_row hd.loaded
  obtain ⟨hhid, hscope, hsignals⟩ := incidentHypothesis_eq_ok hload
  obtain ⟨x, hx, hxid, hxsame⟩ := hstored.investigation
  obtain ⟨a, ha, haid, hasame⟩ := hstored.adjudication
  obtain ⟨hengagement, hclaims, hsupporting, hcontradicting, hverdict, -, -, hby⟩ :=
    AdjudicationRow.same_iff.mp hasame
  rw [hd.investigation] at hxid hxsame
  rw [hd.adjudication] at haid hengagement hclaims hsupporting hcontradicting hby
  rw [hd.adjudication, hd.incident] at hverdict
  rw [hd.incident]
  have hoperator : v.operator ∈ v.all := List.mem_cons_self
  have hhypothesis : v.hypothesis ∈ v.all := by simp [AdjudicationViews.all]
  have hsignalsView : v.signals ∈ v.all := by simp [AdjudicationViews.all]
  have heventsView : v.events ∈ v.all := by simp [AdjudicationViews.all]
  refine ⟨⟨row, (hkeptOf _ hhypothesis).hypotheses row hrow, hhid.symm, hscope.symm, hsignals.symm⟩,
    ⟨x, hx, hxid, sameInvestigation_iff.mp hxsame⟩,
    ⟨normalized call.contradictingClaimIds, a, ha, haid, hengagement, hclaims, hsupporting, hcontradicting,
      hverdict, ?_, ?_, call.decidedBy, hby, v.operator, hin hoperator, hd.operator⟩, ?_, ?_, ?_⟩
  · refine Judgement.state_confirmed.trans ?_
    simp only [AdjudicateIncident.judgement, Judgement.incident, normalized_eq_nil]
  · intro ref href
    obtain ⟨id, hid, hgrounds⟩ := hg.contradicting ref (mem_normalized.mp href)
    exact ⟨id, mem_normalized.mpr hid, hgrounds.mono hsub⟩
  · intro ref href
    have href' : ref ∈ call.supportingEvidenceRefs ++ call.contradictingEvidenceRefs := by
      rcases List.mem_append.mp href with href | href
      · exact List.mem_append_left _ (mem_normalized.mp href)
      · exact List.mem_append_right _ (mem_normalized.mp href)
    obtain ⟨⟨y, hy, hsignal⟩, e, he, hevent⟩ := hg.observed ref href'
    exact ⟨⟨y, (hkeptOf _ hsignalsView).signals y hy, hsignal⟩, e,
      (hkeptOf _ heventsView).events e he, hevent⟩
  · intro ref href
    obtain ⟨id, hid, hgrounds⟩ := hg.supporting ref (mem_normalized.mp href)
    exact ⟨id, mem_normalized.mpr hid, hgrounds.mono hsub⟩
  · intro hnil
    exact hg.some.2 (normalized_eq_nil.mp hnil)

end Decide

section Propose

variable {codec : Codec} {secretLike : Value → Bool} {env : Surroundings}

lemma propose_confirmed {cfg : ResponseProposalService.Config} {incidents : String → Option Incident}
    {now : Datetime} {policy : Value → Except Raised (Option OpaDecision)}
    {args : ResponseProposalService.ProposeArgs} {p : ResponseProposal}
    (h : (ResponseProposalService.propose cfg incidents now policy args
      ResponseProposalService.init).1 = .ok p) : args.incident.state = .confirmed := by
  unfold ResponseProposalService.propose at h
  cases hc : ResponseProposalService.proposeChecks cfg incidents now args with
  | error e => simp only [hc, reduceCtorEq] at h
  | ok expiry =>
    obtain ⟨-, -, hc⟩ := bind_eq_ok.mp hc
    obtain ⟨-, hc⟩ := raiseIf_bind_eq_ok.mp hc
    obtain ⟨hstate, -⟩ := raiseIf_bind_eq_ok.mp hc
    exact not_not.mp hstate

/-- A prepared proposal is for an incident of the store that the call has read. -/
lemma prepare_for {call : ProposeResponse} {db : Database} {p : ResponseProposal}
    (h : call.prepare codec secretLike env db = .ok p) :
    ∃ i ∈ db.incidents, ProposedFor (proposalRow p) i := by
  simp only [ProposeResponse.prepare] at h
  obtain ⟨-, -, h⟩ := bind_eq_ok.mp h
  rw [raiseIf_bind_eq_ok] at h
  obtain ⟨loaded, hloaded, h⟩ := bind_eq_ok.mp h.2
  obtain ⟨incident, hsome, h⟩ := orRaise_bind_eq_ok.mp h
  subst hsome
  have hconfirmed := propose_confirmed h
  obtain ⟨expiry, decision, rfl⟩ := ResponseProposalService.propose_init h
  rw [loadIncident] at hloaded
  cases hrow : db.incidents.get? call.incidentId with
  | none =>
    rw [hrow] at hloaded
    cases hloaded
  | some row =>
    simp only [hrow] at hloaded
    split at hloaded
    · cases hloaded
    · obtain ⟨i, hi, hsome⟩ := map_eq_ok.mp hloaded
      obtain rfl := Option.some.inj hsome
      have hsame : row = i := by
        rw [Incident.validate] at hi
        split at hi
        · cases hi
        · exact Except.ok.inj hi
      subst hsame
      refine ⟨row, (Table.get?_eq_some_iff.mp hrow).1, rfl, hconfirmed, ⟨rfl, rfl, rfl⟩, fun ref => ?_⟩
      exact List.mem_insertionSort _

end Propose

section Steps

variable {codec : Codec} {secretLike : Value → Bool} {dump : SecurityEvent → Value}
  {decode : Value → Option SecurityEvent} {p q : Plane}

lemma Initial.sound (h : Initial p) : Sound codec p where
  kept s hs := by
    rw [Plane.stores, h.past, List.mem_singleton] at hs
    subst hs
    exact .refl _
  backed i hi := by
    rw [h.incidents] at hi
    cases hi
  proposed r hr := by
    rw [h.proposals] at hr
    cases hr
  accepted c hc := by
    rw [h.accepted] at hc
    cases hc

/-- An adjudication that commits. -/
lemma Sound.adjudicated (h : Sound codec p) {call : AdjudicateIncident} {clock : ℕ → Datetime}
    {now : Datetime} {v : AdjudicationViews} {d : Decision} {t : IncidentStore} (hviews : v.all ⊆ p.stores)
    (hok : adjudicateIncident codec secretLike dump decode call clock now v p.store = .ok (d, t)) :
    Sound codec ((p.commit t).accept call d) := by
  obtain ⟨d', hdecide, hok⟩ := bind_eq_ok.mp hok
  obtain ⟨t', hsave, hok⟩ := bind_eq_ok.mp hok
  obtain ⟨rfl, rfl⟩ := Prod.mk.inj (Except.ok.inj hok)
  obtain ⟨hypothesis, hd⟩ := decide_eq_ok hdecide
  obtain ⟨hkept, hstored, hproposals, hincidents⟩ := save_eq_ok hsave
  have hviews' : v.all ⊆ (p.commit t').stores := fun s hs => List.mem_cons_of_mem _ (hviews hs)
  have hkeptAll : ∀ s ∈ (p.commit t').stores, Kept s t' := by
    intro s hs
    rcases List.mem_cons.mp hs with rfl | hs
    · exact .refl _
    · exact (h.kept s hs).trans hkept
  have hcommit : Sound codec (p.commit t') := by
    refine h.commit hkept (fun i hi => ?_) fun r hr => ?_
    · rcases hincidents i hi with hold | rfl
      · exact Or.inl hold
      · exact Or.inr (hd.backed hviews' hkeptAll hstored)
    · rw [hproposals] at hr
      exact Or.inl ⟨r, hr, fun _ hi => hi⟩
  obtain ⟨row, hrow, hid, hload⟩ := loadHypothesis_row hd.loaded
  have hhypothesis : v.hypothesis ∈ v.all := by simp [AdjudicationViews.all]
  refine ⟨hcommit.kept, hcommit.backed, hcommit.proposed, fun c hc => ?_⟩
  rcases List.mem_cons.mp hc with rfl | hc
  · exact ⟨⟨hypothesis, now, row, (hkeptAll _ (hviews' hhypothesis)).hypotheses row hrow, hid, hload,
      hd.investigation, hd.adjudication, hd.incident⟩, hstored⟩
  · exact hcommit.accepted c hc

lemma Sound.step (h : Sound codec p) (hstep : Step codec secretLike dump decode p q) : Sound codec q := by
  cases hstep with
  | @opened call now operator signals t hypothesis _ _ hok =>
    obtain ⟨-, -, hok⟩ := bind_eq_ok.mp hok
    obtain ⟨-, hok⟩ := raiseIf_bind_eq_ok.mp hok
    obtain ⟨loaded, -, hok⟩ := bind_eq_ok.mp hok
    obtain ⟨-, hok⟩ := raiseIf_bind_eq_ok.mp hok
    obtain ⟨-, hok⟩ := raiseIf_bind_eq_ok.mp hok
    obtain ⟨opened, -, hok⟩ := bind_eq_ok.mp hok
    obtain ⟨t', hsave, hok⟩ := bind_eq_ok.mp hok
    obtain ⟨-, rfl⟩ := Prod.mk.inj (Except.ok.inj hok)
    obtain ⟨hkept, hdatabase⟩ := saveIncidentHypothesis_frame hsave
    refine h.commit hkept (fun i hi => Or.inl ?_) fun r hr => Or.inl ⟨r, ?_, fun _ hi => hi⟩
    · rw [hdatabase] at hi
      exact hi
    · rw [hdatabase] at hr
      exact hr
  | adjudicated hviews hok => exact h.adjudicated hviews hok
  | @proposed call env view proposal db hview hprepare hpersist =>
    obtain ⟨hevents, hsignals, hincidents⟩ := persistResponseProposal_frame hpersist
    have hkept := kept_of_frame hevents hsignals hincidents
    refine h.commit hkept (fun i hi => Or.inl ?_) fun r hr => ?_
    · rw [← hincidents]
      exact hi
    · rcases (persistResponseProposal_eq_ok hpersist).proposals r hr with hold | ⟨rfl, -⟩
      · exact Or.inl ⟨r, hold, fun _ hi => hi⟩
      · obtain ⟨i, hi, hfor⟩ := prepare_for hprepare
        exact Or.inr ⟨i, (h.kept view hview).incidents i hi, hfor⟩
  | @decided now proposal decidedBy decision state rationale a db hdecide =>
    obtain ⟨hevents, hsignals, hincidents⟩ := decideApproval_frame hdecide
    have hkept := kept_of_frame hevents hsignals hincidents
    refine h.commit hkept (fun i hi => Or.inl ?_) fun r hr => Or.inl ?_
    · rw [← hincidents]
      exact hi
    · rcases decideApproval_eq_ok hdecide with rfl | ⟨approval, row, outcome, hdecided, -⟩
      · exact ⟨r, hr, fun _ hi => hi⟩
      · obtain ⟨r₀, hr₀, rfl⟩ := (hdecided.proposals r).mp hr
        refine ⟨r₀, hr₀, fun i hi => ?_⟩
        split
        · exact ⟨hi.incident, hi.confirmed, hi.scope, hi.refs⟩
        · exact hi
  | @elsewhere t hother =>
    refine h.commit hother.kept (fun i hi => Or.inl ?_) fun r hr => Or.inl ⟨r, ?_, fun _ hi => hi⟩
    · rw [← hother.incidents]
      exact hi
    · rw [← hother.proposals]
      exact hr

variable (codec secretLike dump decode) in
lemma sound_inductive : Inductive Initial (Step codec secretLike dump decode) (Sound codec) where
  start _ h := h.sound
  next _ _ h hstep := h.step hstep

end Steps

section Results

variable {codec : Codec} {secretLike : Value → Bool} {dump : SecurityEvent → Value}
  {decode : Value → Option SecurityEvent} {p : Plane}

/-- A stored proposal is for a confirmed incident of its scope, which is backed and has its evidence. -/
theorem proposal_backed (hp : Reachable Initial (Step codec secretLike dump decode) p) :
    ∀ r ∈ p.store.database.responseProposals, ∃ i ∈ p.store.database.incidents, ProposedFor r i ∧
      Backed p.stores p.store i ∧
      ∀ ref ∈ r.supportingEvidenceRefs, Observed p.store i.scope i.sourceSignalIds ref := by
  intro r hr
  have hsound := (sound_inductive codec secretLike dump decode).reachable hp
  obtain ⟨i, hi, hfor⟩ := hsound.proposed r hr
  have hbacked := hsound.backed i hi
  refine ⟨i, hi, hfor, hbacked, fun ref href => ?_⟩
  exact hbacked.observed ref (List.mem_append_left _ ((hfor.refs ref).mp href))

/-- Two calls decide the same: on one hypothesis, by the same claims and evidence on either side. -/
structure SameQuestion (a b : AdjudicateIncident) : Prop where
  hypothesis : a.hypothesisId = b.hypothesisId
  supportingClaims : ∀ id, id ∈ a.supportingClaimIds ↔ id ∈ b.supportingClaimIds
  supportingRefs : ∀ ref, ref ∈ a.supportingEvidenceRefs ↔ ref ∈ b.supportingEvidenceRefs
  contradictingClaims : ∀ id, id ∈ a.contradictingClaimIds ↔ id ∈ b.contradictingClaimIds
  contradictingRefs : ∀ ref, ref ∈ a.contradictingEvidenceRefs ↔ ref ∈ b.contradictingEvidenceRefs

/-- Two calls give the same answer. -/
structure SameAnswer (a b : AdjudicateIncident) : Prop where
  decidedBy : a.decidedBy = b.decidedBy
  reason : a.reason = b.reason
  severity : a.severity = b.severity
  confidence : a.confidence = b.confidence
  observations : ∀ id, id ∈ a.observationIds ↔ id ∈ b.observationIds

lemma nodup_eraseDups (l : List String) : l.eraseDups.Nodup := by
  induction hn : l.length using Nat.strong_induction_on generalizing l with
  | _ n ih =>
    cases l with
    | nil => exact List.nodup_nil
    | cons x xs =>
      rw [List.eraseDups_cons]
      have hlt : (xs.filter fun y => !y == x).length < n := by
        rw [← hn, List.length_cons]
        exact Nat.lt_succ_of_le (List.length_filter_le _ xs)
      refine List.nodup_cons.mpr ⟨fun hx => ?_, ih _ hlt _ rfl⟩
      have hne := (List.mem_filter.mp (List.mem_eraseDups.mp hx)).2
      simp at hne

lemma normalized_congr {l l' : List String} (h : ∀ x, x ∈ l ↔ x ∈ l') : normalized l = normalized l' := by
  have hantisymm : ∀ a b : String, a ∈ normalized l → b ∈ normalized l' → a ≤ b → b ≤ a → a = b :=
    fun a b _ _ => le_antisymm
  apply List.Perm.eq_of_pairwise hantisymm
  · exact List.pairwise_insertionSort _ _
  · exact List.pairwise_insertionSort _ _
  · have hperm : l.eraseDups.Perm l'.eraseDups := by
      refine (List.perm_ext_iff_of_nodup (nodup_eraseDups l) (nodup_eraseDups l')).mpr fun x => ?_
      rw [List.mem_eraseDups, List.mem_eraseDups]
      exact h x
    exact ((List.perm_insertionSort _ _).trans hperm).trans (List.perm_insertionSort _ _).symm

lemma confidence_value_inj {a b : Confidence} (h : a.value = b.value) : a = b := by
  cases a <;> cases b <;> first | rfl | exact absurd h (by decide)

/-- The first accepted decision is final. Whoever decides the same again, at any time, is refused or repeats
the first answer, and a repetition changes nothing in the store. -/
theorem decision_final (hp : Reachable Initial (Step codec secretLike dump decode) p)
    {first again : AdjudicateIncident} {d d' : Decision} (hfirst : (first, d) ∈ p.accepted)
    (hsame : SameQuestion first again) {clock : ℕ → Datetime} {now : Datetime} {v : AdjudicationViews}
    (hviews : v.all ⊆ p.stores) {t : IncidentStore}
    (hagain : adjudicateIncident codec secretLike dump decode again clock now v p.store = .ok (d', t)) :
    t = p.store ∧ SameAnswer first again ∧ d'.incident.incidentId = d.incident.incidentId ∧
      d.incident.differs d'.incident = false := by
  have hsound := (sound_inductive codec secretLike dump decode).reachable hp
  have hrecorded := hsound.accepted _ hfirst
  obtain ⟨h, then_, row, hrow, hid, hload, hinv, hadj, hinc⟩ := hrecorded.judged
  obtain ⟨d₁, hdecide, hagain⟩ := bind_eq_ok.mp hagain
  obtain ⟨t₁, hsave, hagain⟩ := bind_eq_ok.mp hagain
  obtain ⟨rfl, rfl⟩ := Prod.mk.inj (Except.ok.inj hagain)
  obtain ⟨h', hd⟩ := decide_eq_ok hdecide
  -- the hypothesis has been stored once, so both calls have read the same one
  have hh : h' = h := by
    obtain ⟨row', hrow', hid', hload'⟩ := loadHypothesis_row hd.loaded
    have hview : v.hypothesis ∈ p.stores := hviews (by simp [AdjudicationViews.all])
    have hkeys : row'.hypothesisId = row.hypothesisId :=
      hid'.trans (hsame.hypothesis.symm.trans hid.symm)
    obtain rfl := Table.eq_of_key_eq ((hsound.kept _ hview).hypotheses row' hrow') hrow hkeys
    exact Except.ok.inj (hload'.symm.trans hload)
  subst hh
  have hclaims := normalized_congr hsame.supportingClaims
  have hrefs := normalized_congr hsame.supportingRefs
  have hotherClaims := normalized_congr hsame.contradictingClaims
  have hotherRefs := normalized_congr hsame.contradictingRefs
  have hadjudicationId : (again.judgement h').adjudicationId codec =
      (first.judgement h').adjudicationId codec := by
    simp only [Judgement.adjudicationId, AdjudicateIncident.judgement, hclaims, hrefs, hotherClaims,
      hotherRefs]
  have hincidentId : (again.judgement h').incidentId codec = (first.judgement h').incidentId codec := by
    rw [Judgement.incidentId, Judgement.incidentId, hadjudicationId]
    rfl
  obtain ⟨hkept, hstored, -, -⟩ := save_eq_ok hsave
  -- the rows of the two decisions have the same ids, so they are the same rows
  obtain ⟨x, hx, hxid, hxsame⟩ := hrecorded.stored.incident
  obtain ⟨y, hy, hyid, hysame⟩ := hstored.incident
  rw [hinc] at hxid hxsame
  rw [hd.incident] at hyid hysame
  have hxy : x = y := Table.eq_of_key_eq (hkept.incidents x hx) hy
    (hxid.trans (hincidentId.symm.trans hyid.symm))
  subst hxy
  obtain ⟨a, ha, haid, hasame⟩ := hrecorded.stored.adjudication
  obtain ⟨b, hb, hbid, hbsame⟩ := hstored.adjudication
  rw [hadj, hinc] at hasame
  rw [hadj] at haid
  rw [hd.adjudication, hd.incident] at hbsame
  rw [hd.adjudication] at hbid
  have hab : a = b := Table.eq_of_key_eq (hkept.adjudications a ha) hb
    (haid.trans (hadjudicationId.symm.trans hbid.symm))
  subst hab
  have hfields := Incident.fields_of_same (sameIncident_iff.mp hxsame).1
  have hfields' := Incident.fields_of_same (sameIncident_iff.mp hysame).1
  obtain ⟨-, hinvestigationId, -, -, -, hseverity, hconfidence, -, hobservations, -, -, -⟩ := hfields
  obtain ⟨-, hinvestigationId', -, -, -, hseverity', hconfidence', -, hobservations', -, -, -⟩ := hfields'
  obtain ⟨-, -, -, -, -, hreason, -, hby⟩ := AdjudicationRow.same_iff.mp hasame
  obtain ⟨-, -, -, -, -, hreason', -, hby'⟩ := AdjudicationRow.same_iff.mp hbsame
  refine ⟨?_, ⟨Option.some.inj (hby.symm.trans hby'), hreason.symm.trans hreason',
    hseverity.symm.trans hseverity', hconfidence.symm.trans hconfidence', fun id => ?_⟩, ?_, ?_⟩
  · obtain ⟨z, hz, hzid, -⟩ := hrecorded.stored.investigation
    rw [hinv] at hzid
    refine save_again ⟨z, hz, ?_⟩ ⟨a, ha, ?_⟩ ⟨x, hx, ?_⟩ hsave
    · rw [hd.investigation]
      exact hzid.trans (hinvestigationId.symm.trans hinvestigationId')
    · rw [hd.adjudication]
      exact haid.trans hadjudicationId.symm
    · rw [hd.incident]
      exact hxid.trans hincidentId.symm
  · have hlists : normalized first.observationIds = normalized again.observationIds :=
      hobservations.symm.trans hobservations'
    rw [← mem_normalized, hlists, mem_normalized]
  · rw [hd.incident, hinc]
    exact hincidentId
  · rw [hd.incident, hinc]
    have hboth : ∀ {x y z : Incident}, x.differs y = false → x.differs z = false → y.differs z = false := by
      intro x y z hy hz
      obtain ⟨h₁, h₂, h₃, h₄, h₅, h₆, h₇, h₈, h₉, h₁₀, h₁₁, h₁₂⟩ := Incident.fields_of_same hy
      simp only [Incident.differs, h₁, h₂, h₃, h₄, h₅, h₆, h₇, h₈, h₉, h₁₀, h₁₁, h₁₂] at hz
      exact hz
    exact hboth (sameIncident_iff.mp hxsame).1 (sameIncident_iff.mp hysame).1

end Results

section Example

/-- The digests of the records of the sample incident. -/
def incidentDigests : Codec where
  contentDigest
    | .arr [.arr _, .str _, .arr _, .arr _] => "eaf6799535888e08d4c366f362c731f1e23a0bf2a445256dd152d3fabf1eeb5d"
    | .arr [.str _, .arr _, .arr _] => "fd80420cdee880923a6881e975a4b39f32d4e556b5f424a8c06e8c82cf83cf21"
    | .arr [_, _, _, _, _, _] => "834cf5a847f92c11a1f5158ce83cf82aa6bdd8e2d839ec47f13bf5acda8c2d56"
    | .arr [.str _, .arr _] => "3dc9e8a0e42e3dc9685fc343bcda688f9ff696d731dc300d955c902aa02a146c"
    | .obj [_, _, _, _, _, _, _, _, _, _] => "3d7908a37eb78ee01a90bcbb5d462fc25acaa9760ed635afe82067b1095a87bc"
    | .arr [.str id] =>
      if id = "3d7908a37eb78ee01a90bcbb5d462fc25acaa9760ed635afe82067b1095a87bc" then
        "28c1181c6c6eaa28c02229a95fa7aa204c2cd6785ba581d5d2ed1470b839725c"
      else "de6018e8d35e6fbecc065d202c933f8bdb05df5eebb441e4fde4bc4ab900130b"
    | .arr [.str _, .str _] => "f628aac405dacc125c62ec4336531857e7837a491dd5777234b689531111578a"
    | .obj [_, _, _, _] => "2e7d656e26cd336166fa1155f0ee57d0f3065cb20529a77a40046b894e3a76e9"
    | v => ruleDigests.contentDigest v
  isoformat t := if t = 10 then "1970-01-01T00:00:00.000010+00:00" else ruleDigests.isoformat t
  dumpDatetime := ruleDigests.dumpDatetime

/-- The dispatched signal is in an engagement, with a claim over its evidence. -/
def claimedStore : IncidentStore where
  database :=
    { observedDatabase with
      principals := .single ⟨"P", "operator"⟩
      engagements := seeded.engagements
      engagementTargets := seeded.engagementTargets }
  claims := .single ⟨"CLAIM-1", sampleScope.caseId, [], [.str "EVID-1"], "high"⟩
  observations := .empty
  evidenceMetadata := .single ⟨"EVID-1", sampleScope.caseId, sampleScope.targetId, "EV-1"⟩
  incidentHypotheses := .empty
  incidentInvestigations := .empty
  adjudications := .empty

def sampleOpening : OpenIncidentHypothesis where
  scope := sampleScope
  question := "was the tool abused"
  sourceSignalIds := ["SIG-1"]
  affectedEntities := ["host"]
  requestedBy := "P"
  accessPrincipalId := none

def sampleAdjudication : AdjudicateIncident where
  hypothesisId := "IH-eaf6799535888e08d4c366f362c731f1"
  supportingClaimIds := ["CLAIM-1"]
  supportingEvidenceRefs := ["EV-1"]
  contradictingClaimIds := []
  contradictingEvidenceRefs := []
  observationIds := []
  decidedBy := "P"
  reason := "seen in the record"
  severity := .high
  confidence := .high
  accessPrincipalId := none


def sampleDump (_ : SecurityEvent) : Value := .null

def openedHypothesis : IncidentHypothesis where
  hypothesisId := "IH-eaf6799535888e08d4c366f362c731f1"
  scope := sampleScope
  question := "was the tool abused"
  sourceSignalIds := ["SIG-1"]
  affectedEntities := ["host"]
  createdAt := 1
  nonblank := by decide
  referenced := by decide

def openedStore : IncidentStore :=
  { claimedStore with incidentHypotheses := .single (.of openedHypothesis) }

lemma claimed_named : signalsFor incidentDigests sampleDump decodeSample sampleScope ["SIG-1"]
    claimedStore.database = .ok [observedSignal] := by
  have hclosed : Closure.closeOver DetectionSignalRow.signalId DetectionSignalRow.sourceSignalIds
      (held sampleScope (claimedStore.database.detectionTables incidentDigests sampleDump)) [.of observedSignal]
      [.of observedSignal] = some [.of observedSignal] := by
    rw [Closure.closeOver, dif_pos (by decide)]
  have hrows : loadedRows sampleScope (claimedStore.database.detectionTables incidentDigests sampleDump) ["SIG-1"] =
      .ok [.of observedSignal] := by
    rw [loadedRows, if_neg (by decide)]
    exact orRaise_eq_ok.mpr hclosed
  have hrequested : (["SIG-1"] : List String).eraseDups = ["SIG-1"] := rfl
  simp only [signalsFor, loadSignals, hrequested, hrows]
  rfl

lemma sample_opened : openIncidentHypothesis incidentDigests allClear sampleDump decodeSample sampleOpening 1
    claimedStore claimedStore claimedStore = .ok (openedHypothesis, openedStore) := by
  have hsignals : signalsFor incidentDigests sampleDump decodeSample sampleOpening.scope sampleOpening.sourceSignalIds
      claimedStore.database = .ok [observedSignal] := claimed_named
  simp only [openIncidentHypothesis, hsignals]
  rfl

def sampleViews (s : IncidentStore) : AdjudicationViews := ⟨s, s, s, s, s, s, s⟩

def sampleDecision : Decision :=
  let j := sampleAdjudication.judgement openedHypothesis
  ⟨j.investigation incidentDigests 2, j.adjudication incidentDigests 2, j.incident incidentDigests 2⟩

def decidedStore : IncidentStore :=
  { openedStore with
    database := { openedStore.database with incidents := .single sampleDecision.incident }
    incidentInvestigations := .single sampleDecision.investigation
    adjudications := .single (adjudicationRow sampleDecision.adjudication .confirmed) }



lemma sample_decided : sampleAdjudication.decide incidentDigests allClear sampleDump decodeSample (fun n => n) 2
    (sampleViews openedStore) = .ok sampleDecision := by
  have hok : (sampleAdjudication.decide incidentDigests allClear sampleDump decodeSample (fun n => n) 2
      (sampleViews openedStore)).isOk = true := by decide +kernel
  cases hdecide : sampleAdjudication.decide incidentDigests allClear sampleDump decodeSample (fun n => n) 2
      (sampleViews openedStore) with
  | error e =>
    rw [hdecide] at hok
    cases hok
  | ok d =>
    obtain ⟨h, hd⟩ := decide_eq_ok hdecide
    have hload : loadHypothesis sampleAdjudication.hypothesisId openedStore = .ok (some openedHypothesis) := by rfl
    obtain rfl := Option.some.inj (Except.ok.inj (hload.symm.trans hd.loaded))
    obtain ⟨investigation, adjudication, incident⟩ := d
    obtain rfl := hd.investigation
    obtain rfl := hd.adjudication
    obtain rfl := hd.incident
    rfl

lemma sample_adjudicated : adjudicateIncident incidentDigests allClear sampleDump decodeSample sampleAdjudication
    (fun n => n) 2 (sampleViews openedStore) openedStore = .ok (sampleDecision, decidedStore) := by
  rw [adjudicateIncident, sample_decided]
  rfl

/-- The hypothesis has been opened and the decision has been made. -/
def decidedPlane : Plane :=
  (Plane.commit ⟨openedStore, [claimedStore], []⟩ decidedStore).accept sampleAdjudication sampleDecision

lemma sampleViews_subset {s : IncidentStore} {p : Plane} (h : s ∈ p.stores) : (sampleViews s).all ⊆ p.stores := by
  intro t ht
  simp only [AdjudicationViews.all, sampleViews, List.mem_cons, List.not_mem_nil, or_false, or_self] at ht
  exact ht ▸ h

lemma decidedPlane_reachable :
    Reachable Initial (Step incidentDigests allClear sampleDump decodeSample) decidedPlane := by
  let start : Plane := ⟨claimedStore, [], []⟩
  have hstart : Initial start := ⟨rfl, rfl, rfl, rfl⟩
  have hopened : Step incidentDigests allClear sampleDump decodeSample start (start.commit openedStore) :=
    .opened List.mem_cons_self List.mem_cons_self sample_opened
  have hdecided : Step incidentDigests allClear sampleDump decodeSample (start.commit openedStore) decidedPlane :=
    .adjudicated (sampleViews_subset List.mem_cons_self) sample_adjudicated
  exact ((Reachable.start hstart).next hopened).next hdecided

/-- The sample decision is made again, over the stores of the first time, and nothing changes. -/
theorem decided_again : ∃ d t, adjudicateIncident incidentDigests allClear sampleDump decodeSample sampleAdjudication
      (fun n => n) 2 (sampleViews openedStore) decidedPlane.store = .ok (d, t) ∧
    t = decidedPlane.store ∧ SameAnswer sampleAdjudication sampleAdjudication ∧
      d.incident.incidentId = sampleDecision.incident.incidentId ∧
      sampleDecision.incident.differs d.incident = false := by
  have hagain : adjudicateIncident incidentDigests allClear sampleDump decodeSample sampleAdjudication
      (fun n => n) 2 (sampleViews openedStore) decidedPlane.store = .ok (sampleDecision, decidedStore) := by
    rw [adjudicateIncident, sample_decided]
    rfl
  have hsame : SameQuestion sampleAdjudication sampleAdjudication :=
    ⟨rfl, fun _ => Iff.rfl, fun _ => Iff.rfl, fun _ => Iff.rfl, fun _ => Iff.rfl⟩
  have hview : openedStore ∈ decidedPlane.stores := List.mem_cons_of_mem _ List.mem_cons_self
  refine ⟨_, _, hagain, ?_⟩
  exact decision_final decidedPlane_reachable List.mem_cons_self hsame (sampleViews_subset hview) hagain

def sampleProposal : ProposeResponse where
  incidentId := "INC-3dc9e8a0e42e3dc9685fc343bcda688f"
  scope := sampleScope
  action := .blockTool
  reason := "seen in the record"
  expectedImpact := "tool stops"
  risk := "low"
  rollbackPlan := "start it"
  expiresAt := some 10
  requestedBy := "P"
  accessPrincipalId := none

def proposing : Surroundings := ⟨some fun _ => .ok "require_approval", 3, 3, 3⟩

lemma sample_proposed : ∃ p,
    sampleProposal.prepare incidentDigests allClear proposing decidedStore.database = .ok p ∧
    ∃ db, persistResponseProposal incidentDigests allClear 3 p "P" decidedStore.database = .ok ((), db) ∧
      db.responseProposals.rows ≠ [] := by
  refine ⟨_, rfl, _, rfl, ?_⟩
  exact List.cons_ne_nil _ _

/-- A response to the sample incident is proposed. -/
theorem proposed_backed : ∃ p : Plane, p.store.database.responseProposals.rows ≠ [] ∧
    ∀ r ∈ p.store.database.responseProposals, ∃ i ∈ p.store.database.incidents, ProposedFor r i ∧
      Backed p.stores p.store i ∧
      ∀ ref ∈ r.supportingEvidenceRefs, Observed p.store i.scope i.sourceSignalIds ref := by
  obtain ⟨proposal, hprepare, db, hpersist, hrows⟩ := sample_proposed
  have hstep : Step incidentDigests allClear sampleDump decodeSample decidedPlane
      (decidedPlane.commit { decidedStore with database := db }) :=
    .proposed List.mem_cons_self hprepare hpersist
  exact ⟨_, hrows, proposal_backed (decidedPlane_reachable.next hstep)⟩

end Example

end SecScanMonitor.Application.LiveIncidentControlPlane
