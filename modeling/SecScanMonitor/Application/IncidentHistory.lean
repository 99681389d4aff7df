import SecScanMonitor.Application.IncidentGrounds
import SecScanMonitor.Foundations.Runs

/-! Incidents over whole histories, whatever the order of the transactions: every stored incident is backed by the
records of its adjudication, every stored proposal by such an incident, and the first decision is final. -/

namespace SecScanMonitor.Application.LiveIncidentControlPlane

open Foundations Domain DetectionResponse ContinuousSecurity Persistence

/-- The current store, the stores before it, and the adjudications that have been accepted. -/
structure Plane where
  store : IncidentStore
  past : List IncidentStore
  accepted : List (AdjudicateIncident × Decision)

namespace Plane

def stores (p : Plane) : List IncidentStore := p.store :: p.past

def commit (p : Plane) (t : IncidentStore) : Plane := { p with store := t, past := p.stores }

def accept (p : Plane) (call : AdjudicateIncident) (d : Decision) : Plane :=
  { p with accepted := (call, d) :: p.accepted }

end Plane

/-- What the rest of the platform may do: it keeps the events and the signals, adds adjudications of its own,
and does anything to the claims, the evidence, the principals and the engagements. -/
structure Elsewhere (s t : IncidentStore) : Prop where
  hypotheses : t.incidentHypotheses = s.incidentHypotheses
  investigations : t.incidentInvestigations = s.incidentInvestigations
  incidents : t.database.incidents = s.database.incidents
  proposals : t.database.responseProposals = s.database.responseProposals
  adjudications : t.adjudications.Extends s.adjudications
  events : t.database.securityEvents.Extends s.database.securityEvents
  signals : t.database.detectionSignals.Extends s.database.detectionSignals

section Steps

variable (codec : Codec) (secretLike : Value → Bool) (dump : SecurityEvent → Value)
  (decode : Value → Option SecurityEvent)

/-- A call commits. What it read before was read from any of the stores so far. -/
inductive Step (p : Plane) : Plane → Prop
  | opened {call : OpenIncidentHypothesis} {now : Datetime} {operator signals t : IncidentStore}
      {h : IncidentHypothesis} : operator ∈ p.stores → signals ∈ p.stores →
      openIncidentHypothesis codec secretLike dump decode call now operator signals p.store = .ok (h, t) →
      Step p (p.commit t)
  | adjudicated {call : AdjudicateIncident} {clock : ℕ → Datetime} {now : Datetime}
      {v : AdjudicationViews} {d : Decision} {t : IncidentStore} : v.all ⊆ p.stores →
      adjudicateIncident codec secretLike dump decode call clock now v p.store = .ok (d, t) →
      Step p ((p.commit t).accept call d)
  | proposed {call : ProposeResponse} {env : Surroundings} {view : IncidentStore}
      {proposal : ResponseProposal} {db : Database} : view ∈ p.stores →
      call.prepare codec secretLike env view.database = .ok proposal →
      persistResponseProposal codec secretLike env.committed proposal call.requestedBy p.store.database =
        .ok ((), db) →
      Step p (p.commit { p.store with database := db })
  | decided {now : Datetime} {proposal : ResponseProposal} {decidedBy decision state rationale : String}
      {a : Approval} {db : Database} :
      decideApproval codec secretLike now proposal decidedBy decision state rationale p.store.database =
        .ok (a, db) →
      Step p (p.commit { p.store with database := db })
  | elsewhere {t : IncidentStore} : Elsewhere p.store t → Step p (p.commit t)

/-- Nothing has been adjudicated or proposed yet. -/
structure Initial (p : Plane) : Prop where
  past : p.past = []
  accepted : p.accepted = []
  incidents : p.store.database.incidents = Table.empty
  proposals : p.store.database.responseProposals = Table.empty

end Steps

section Frames

variable {codec : Codec} {secretLike : Value → Bool}

/-- The records of the first store are in the second. -/
structure Kept (s t : IncidentStore) : Prop where
  hypotheses : t.incidentHypotheses.Extends s.incidentHypotheses
  investigations : t.incidentInvestigations.Extends s.incidentInvestigations
  adjudications : t.adjudications.Extends s.adjudications
  incidents : t.database.incidents.Extends s.database.incidents
  events : t.database.securityEvents.Extends s.database.securityEvents
  signals : t.database.detectionSignals.Extends s.database.detectionSignals

lemma Kept.refl (s : IncidentStore) : Kept s s :=
  ⟨.refl _, .refl _, .refl _, .refl _, .refl _, .refl _⟩

lemma Kept.trans {s t u : IncidentStore} (h : Kept s t) (h' : Kept t u) : Kept s u where
  hypotheses := h'.hypotheses.trans h.hypotheses
  investigations := h'.investigations.trans h.investigations
  adjudications := h'.adjudications.trans h.adjudications
  incidents := h'.incidents.trans h.incidents
  events := h'.events.trans h.events
  signals := h'.signals.trans h.signals

lemma Elsewhere.kept {s t : IncidentStore} (h : Elsewhere s t) : Kept s t where
  hypotheses := by
    rw [h.hypotheses]
    exact .refl _
  investigations := by
    rw [h.investigations]
    exact .refl _
  adjudications := h.adjudications
  incidents := by
    rw [h.incidents]
    exact .refl _
  events := h.events
  signals := h.signals

/-- A change of the database that leaves the events, the signals and the incidents. -/
lemma kept_of_frame {s : IncidentStore} {db : Database} (hevents : db.securityEvents = s.database.securityEvents)
    (hsignals : db.detectionSignals = s.database.detectionSignals)
    (hincidents : db.incidents = s.database.incidents) : Kept s { s with database := db } where
  hypotheses := .refl _
  investigations := .refl _
  adjudications := .refl _
  incidents := by
    rw [hincidents]
    exact .refl _
  events := by
    rw [hevents]
    exact .refl _
  signals := by
    rw [hsignals]
    exact .refl _

lemma saveHypothesisRow_extends {row : IncidentHypothesisRow}
    {t t' : Table IncidentHypothesisRow.hypothesisId} (h : saveHypothesisRow row t = .ok t') :
    t'.Extends t := by
  rw [saveHypothesisRow] at h
  split at h
  · split at h
    · cases h
    · split at h
      · obtain rfl := Except.ok.inj h
        exact .refl _
      · cases h
  · obtain ⟨hrows, -, -⟩ := Table.insert?_eq_some (unique_eq_ok.mp h)
    intro x hx
    rw [Table.mem_def, hrows]
    exact List.mem_cons_of_mem row hx

lemma saveIncidentHypothesis_frame {hypothesis : IncidentHypothesis} {s t : IncidentStore}
    (h : saveIncidentHypothesis codec secretLike hypothesis s = .ok t) :
    Kept s t ∧ t.database = s.database := by
  obtain ⟨-, h⟩ := raiseIf_bind_eq_ok.mp h
  obtain ⟨-, -, h⟩ := bind_eq_ok.mp h
  obtain ⟨rows, hrows, h⟩ := bind_eq_ok.mp h
  obtain rfl := Except.ok.inj h
  exact ⟨⟨saveHypothesisRow_extends hrows, .refl _, .refl _, .refl _, .refl _, .refl _⟩, rfl⟩

lemma persistResponseProposal_frame {now : Datetime} {p : ResponseProposal} {requestedBy : String}
    {db db' : Database} {u : Unit}
    (h : persistResponseProposal codec secretLike now p requestedBy db = .ok (u, db')) :
    db'.securityEvents = db.securityEvents ∧ db'.detectionSignals = db.detectionSignals ∧
      db'.incidents = db.incidents := by
  simp only [persistResponseProposal, raiseIf_bind_eq_ok] at h
  obtain ⟨-, h⟩ := h
  obtain ⟨-, -, h⟩ := bind_eq_ok.mp h
  rw [raiseIf_bind_eq_ok] at h
  obtain ⟨-, h⟩ := h
  obtain ⟨proposals, -, h⟩ := bind_eq_ok.mp h
  split at h
  · obtain ⟨-, rfl⟩ := Prod.mk.inj (Except.ok.inj h)
    exact ⟨rfl, rfl, rfl⟩
  · obtain ⟨requests, -, h⟩ := bind_eq_ok.mp h
    obtain ⟨approvals, -, h⟩ := bind_eq_ok.mp h
    obtain ⟨-, rfl⟩ := Prod.mk.inj (Except.ok.inj h)
    exact ⟨rfl, rfl, rfl⟩

lemma decideApproval_frame {now : Datetime} {p : ResponseProposal}
    {decidedBy decision state rationale : String} {a : Approval} {db db' : Database}
    (h : decideApproval codec secretLike now p decidedBy decision state rationale db = .ok (a, db')) :
    db'.securityEvents = db.securityEvents ∧ db'.detectionSignals = db.detectionSignals ∧
      db'.incidents = db.incidents := by
  simp only [decideApproval] at h
  split at h
  · cases h
  simp only [raiseIf_bind_eq_ok, commitDecision] at h
  obtain ⟨-, -, h⟩ := h
  obtain ⟨row, -, h⟩ := bind_eq_ok.mp h
  simp only [raiseIf_bind_eq_ok, orRaise_bind_eq_ok] at h
  obtain ⟨-, -, stored, -, -, -, -, h⟩ := h
  split at h
  · split at h
    · obtain ⟨-, rfl⟩ := Prod.mk.inj (Except.ok.inj h)
      exact ⟨rfl, rfl, rfl⟩
    · cases h
  · obtain ⟨approval, -, h⟩ := bind_eq_ok.mp h
    obtain ⟨-, rfl⟩ := Prod.mk.inj (Except.ok.inj h)
    exact ⟨rfl, rfl, rfl⟩

end Frames

section Saves

variable {codec : Codec} {secretLike : Value → Bool} {d : Decision} {s t : IncidentStore}

lemma insertOrReplay_stores {ρ κ : Type} {key : ρ → κ} [DecidableEq κ] {tablename : String}
    {same clash : ρ → ρ → Bool} {row : ρ} {t t' : Table key} (hrefl : same row row = true)
    (h : insertOrReplay tablename same clash row t = .ok t') :
    (∃ x ∈ t', key x = key row ∧ same x row = true) ∧ ∀ x ∈ t', x ∈ t ∨ x = row := by
  rcases insertOrReplay_eq_ok h with ⟨x, hx, hkey, hsame, rfl⟩ | ⟨-, hrows, -⟩
  · exact ⟨⟨x, hx, hkey, hsame⟩, fun y hy => Or.inl hy⟩
  · refine ⟨⟨row, ?_, rfl, hrefl⟩, fun y hy => ?_⟩
    · rw [Table.mem_def, hrows]
      exact List.mem_cons_self
    · rw [Table.mem_def, hrows, List.mem_cons] at hy
      exact hy.symm

lemma sameInvestigation_iff {x y : IncidentInvestigation} : sameInvestigation x y = true ↔
    x.hypothesisId = y.hypothesisId ∧ x.scope = y.scope ∧ x.observationIds = y.observationIds ∧
      x.claimIds = y.claimIds := by
  simp only [sameInvestigation, Bool.and_eq_true, decide_eq_true_eq, and_assoc]

lemma AdjudicationRow.same_iff {x y : AdjudicationRow} : x.same y = true ↔
    x.engagementId = y.engagementId ∧ x.claimIds = y.claimIds ∧
      x.supportingEvidenceIds = y.supportingEvidenceIds ∧
      x.contradictingEvidenceIds = y.contradictingEvidenceIds ∧ x.verdict = y.verdict ∧
      x.rationale = y.rationale ∧ x.confidence = y.confidence ∧
      x.decidedByPrincipalId = y.decidedByPrincipalId := by
  simp only [AdjudicationRow.same, Bool.and_eq_true, decide_eq_true_eq, and_assoc]

lemma sameIncident_iff {x y : Incident} : sameIncident x y = true ↔
    x.differs y = false ∧ x.authorizedActionExecuted = y.authorizedActionExecuted := by
  simp only [sameIncident, Bool.and_eq_true, Bool.not_eq_true', decide_eq_true_eq]

lemma Incident.differs_self (x : Incident) : x.differs x = false := by simp [Incident.differs]

/-- The records of a decision are stored, but for their times. -/
structure Stored (d : Decision) (t : IncidentStore) : Prop where
  investigation : ∃ x ∈ t.incidentInvestigations, x.investigationId = d.investigation.investigationId ∧
    sameInvestigation x d.investigation = true
  adjudication : ∃ x ∈ t.adjudications, x.adjudicationId = d.adjudication.adjudicationId ∧
    x.same (adjudicationRow d.adjudication d.incident.state) = true
  incident : ∃ x ∈ t.database.incidents, x.incidentId = d.incident.incidentId ∧
    sameIncident x d.incident = true

lemma Stored.kept (h : Stored d s) (hkept : Kept s t) : Stored d t where
  investigation := by
    obtain ⟨x, hx, hsame⟩ := h.investigation
    exact ⟨x, hkept.investigations x hx, hsame⟩
  adjudication := by
    obtain ⟨x, hx, hsame⟩ := h.adjudication
    exact ⟨x, hkept.adjudications x hx, hsame⟩
  incident := by
    obtain ⟨x, hx, hsame⟩ := h.incident
    exact ⟨x, hkept.incidents x hx, hsame⟩

lemma save_eq_ok (h : saveInvestigationAndAdjudication codec secretLike d.investigation d.adjudication
    d.incident s = .ok t) :
    Kept s t ∧ Stored d t ∧ t.database.responseProposals = s.database.responseProposals ∧
      ∀ i ∈ t.database.incidents, i ∈ s.database.incidents ∨ i = d.incident := by
  obtain ⟨-, h⟩ := raiseIf_bind_eq_ok.mp h
  obtain ⟨-, h⟩ := raiseIf_bind_eq_ok.mp h
  obtain ⟨-, -, h⟩ := bind_eq_ok.mp h
  obtain ⟨investigations, hinvestigations, h⟩ := bind_eq_ok.mp h
  obtain ⟨adjudications, hadjudications, h⟩ := bind_eq_ok.mp h
  obtain ⟨incidents, hincidents, h⟩ := bind_eq_ok.mp h
  obtain ⟨-, h⟩ := raiseIf_bind_eq_ok.mp h
  obtain rfl := Except.ok.inj h
  obtain ⟨hinvestigation, -⟩ := insertOrReplay_stores
    (sameInvestigation_iff.mpr ⟨rfl, rfl, rfl, rfl⟩) hinvestigations
  obtain ⟨hadjudication, -⟩ := insertOrReplay_stores
    (AdjudicationRow.same_iff.mpr ⟨rfl, rfl, rfl, rfl, rfl, rfl, rfl, rfl⟩) hadjudications
  obtain ⟨hincident, hnew⟩ := insertOrReplay_stores
    (sameIncident_iff.mpr ⟨Incident.differs_self _, rfl⟩) hincidents
  exact ⟨⟨.refl _, insertOrReplay_extends hinvestigations, insertOrReplay_extends hadjudications,
    insertOrReplay_extends hincidents, .refl _, .refl _⟩, ⟨hinvestigation, hadjudication, hincident⟩, rfl, hnew⟩

/-- Where rows of its ids are stored already, saving a decision changes nothing. -/
lemma save_again (hinvestigation : ∃ x ∈ s.incidentInvestigations,
      x.investigationId = d.investigation.investigationId)
    (hadjudication : ∃ x ∈ s.adjudications, x.adjudicationId = d.adjudication.adjudicationId)
    (hincident : ∃ x ∈ s.database.incidents, x.incidentId = d.incident.incidentId)
    (h : saveInvestigationAndAdjudication codec secretLike d.investigation d.adjudication d.incident s =
      .ok t) : t = s := by
  obtain ⟨-, h⟩ := raiseIf_bind_eq_ok.mp h
  obtain ⟨-, h⟩ := raiseIf_bind_eq_ok.mp h
  obtain ⟨-, -, h⟩ := bind_eq_ok.mp h
  obtain ⟨investigations, hinvestigations, h⟩ := bind_eq_ok.mp h
  obtain ⟨adjudications, hadjudications, h⟩ := bind_eq_ok.mp h
  obtain ⟨incidents, hincidents, h⟩ := bind_eq_ok.mp h
  obtain ⟨-, h⟩ := raiseIf_bind_eq_ok.mp h
  obtain rfl := Except.ok.inj h
  have hreplay {ρ κ : Type} {key : ρ → κ} [DecidableEq κ] {tablename : String} {same clash : ρ → ρ → Bool}
      {row : ρ} {t t' : Table key} (hrow : ∃ x ∈ t, key x = key row)
      (h : insertOrReplay tablename same clash row t = .ok t') : t' = t := by
    obtain ⟨x, hx, hkey⟩ := hrow
    rcases insertOrReplay_eq_ok h with ⟨-, -, -, -, rfl⟩ | ⟨hnone, -, -⟩
    · rfl
    · exact absurd hkey (Table.get?_eq_none_iff.mp hnone x hx)
  rw [hreplay hinvestigation hinvestigations, hreplay hadjudication hadjudications,
    hreplay hincident hincidents]

end Saves

section Grounds

variable {codec : Codec} {dump : SecurityEvent → Value} {decode : Value → Option SecurityEvent}

/-- A stored signal of the incident and a stored event, both of its scope, have the evidence. -/
def Observed (store : IncidentStore) (scope : Scope) (signalIds : List String) (ref : String) : Prop :=
  (∃ x ∈ store.database.detectionSignals, x.signalId ∈ signalIds ∧ x.scope = scope ∧
    ref ∈ x.rawEvidenceRefs) ∧
    ∃ e ∈ store.database.securityEvents, e.scope = scope ∧ e.rawEvidenceRef = ref

lemma Observed.kept {s t : IncidentStore} {scope : Scope} {signalIds : List String} {ref : String}
    (h : Observed s scope signalIds ref) (hkept : Kept s t) : Observed t scope signalIds ref := by
  obtain ⟨⟨x, hx, hsignal⟩, e, he, hevent⟩ := h
  exact ⟨⟨x, hkept.signals x hx, hsignal⟩, e, hkept.events e he, hevent⟩

/-- What a judgement that passes the review rests on. -/
structure Grounded (v : AdjudicationViews) (h : IncidentHypothesis) (call : AdjudicateIncident) : Prop where
  observed : ∀ ref ∈ call.supportingEvidenceRefs ++ call.contradictingEvidenceRefs,
    (∃ x ∈ v.signals.database.detectionSignals, x.signalId ∈ h.sourceSignalIds ∧ x.scope = h.scope ∧
      ref ∈ x.rawEvidenceRefs) ∧
      ∃ e ∈ v.events.database.securityEvents, e.scope = h.scope ∧ e.rawEvidenceRef = ref
  supporting : ∀ ref ∈ call.supportingEvidenceRefs, ∃ id ∈ call.supportingClaimIds,
    Grounds [v.claimsAgain, v.evidence] h.scope id ref
  contradicting : ∀ ref ∈ call.contradictingEvidenceRefs, ∃ id ∈ call.contradictingClaimIds,
    Grounds [v.claimsAgain, v.evidence] h.scope id ref
  some : call.supportingClaimIds ≠ [] ∧ call.supportingEvidenceRefs ≠ []

open IncidentAdjudicator in
lemma evidenceOfClaims_grounds {a : IncidentAdjudicator} {records : List (String × DetectionResponse.Claim)}
    {evidence : List (String × List String)} {refs : List (String × List String)} {scope : Scope}
    {claimIds ids : List String} {claimsView evidenceView : IncidentStore}
    (hrefs : a.canonicalClaimEvidenceRefs = some (dictOf refs))
    (hload : loadClaimEvidenceRefs claimIds scope claimsView evidenceView = .ok refs)
    (hgrounds : records.mapM a.claimEvidence = .ok evidence) {ref : String}
    (href : ref ∈ evidenceOfClaims evidence ids) :
    ∃ id ∈ ids, Grounds [claimsView, evidenceView] scope id ref := by
  obtain ⟨entry, hentry, href⟩ := List.mem_flatMap.mp href
  obtain ⟨hentry, hid⟩ := List.mem_filter.mp hentry
  obtain ⟨record, -, hread⟩ := (mapM_eq_ok hgrounds).2 entry hentry
  obtain ⟨rfl, -, -⟩ := claimEvidence_eq_ok.mp hread
  refine ⟨record.1, of_decide_eq_true hid, ?_⟩
  simp only [claimEvidenceRefs, hrefs] at href
  cases hfound : (dictOf refs).find? record.1 with
  | none =>
    rw [hfound] at href
    cases href
  | some texts =>
    rw [hfound] at href
    exact loadClaimEvidenceRefs_eq_ok hload (dictOf_find hfound) href

lemma Decides.grounded {call : AdjudicateIncident} {clock : ℕ → Datetime} {now : Datetime}
    {v : AdjudicationViews} {h : IncidentHypothesis} {d : Decision}
    (hd : Decides codec dump decode call clock now v h d) : Grounded v h call := by
  obtain ⟨a, ha, hreview⟩ := hd.reviewed
  obtain ⟨claims, refs, detector, -, hrefs, hdetector, rfl⟩ := adjudicator_new ha
  obtain ⟨records, signals, events, evidence, hr⟩ := IncidentAdjudicator.reviewed_of_ok hreview
  obtain ⟨hsignals, hevents⟩ := engineOver_eq_ok hdetector
  have hsourced := not_not.mp hr.sourced
  have hbound := not_not.mp hr.bound
  refine ⟨fun ref href => ⟨?_, ?_⟩, fun ref href => ?_, fun ref href => ?_, ?_⟩
  · obtain ⟨x, hx, hmem⟩ := List.mem_flatMap.mp (hsourced ref href)
    obtain ⟨id, hid, hget⟩ := (mapM_eq_ok hr.sources).2 x hx
    obtain ⟨-, -, hget⟩ := bind_eq_ok.mp hget
    obtain ⟨hfind, -⟩ := Option.filter_eq_some_iff.mp (orRaise_eq_ok.mp hget)
    obtain ⟨hstored, hscope, rfl⟩ := hsignals id x hfind
    exact ⟨x, hstored, hid, hscope, hmem⟩
  · obtain ⟨e, he, rfl⟩ := List.mem_map.mp (hbound ref href)
    obtain ⟨hstored, hscope⟩ := hevents events hr.listed e he
    exact ⟨e, hstored, hscope, rfl⟩
  · exact evidenceOfClaims_grounds rfl hrefs hr.grounds (not_not.mp hr.supporting ref href)
  · exact evidenceOfClaims_grounds rfl hrefs hr.grounds (not_not.mp hr.contradicting ref href)
  · exact not_or.mp hr.supported

end Grounds

end SecScanMonitor.Application.LiveIncidentControlPlane
