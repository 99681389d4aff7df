import SecScanMonitor.DetectionResponse.Adjudication
import SecScanMonitor.DetectionResponse.Incremental
import SecScanMonitor.Foundations.History

/-! Any sequence of adjudications and registrations: stored incidents are backed by canonical records,
refused calls change nothing, and accepted calls are replayed. -/

namespace SecScanMonitor.DetectionResponse

open Foundations Domain ContinuousSecurity

section Lists

variable {α β : Type} {f g : α → Except Raised β} {l : List α} {bs : List β}

lemma mapM_of_le (h : l.mapM f = .ok bs) (hle : ∀ a ∈ l, ∀ b, f a = .ok b → g a = .ok b) :
    l.mapM g = .ok bs := by
  induction l generalizing bs with
  | nil => exact h
  | cons a l ih =>
    rw [List.mapM_cons] at h ⊢
    obtain ⟨b, hb, h⟩ := bind_eq_ok.mp h
    obtain ⟨bs', hbs', h⟩ := bind_eq_ok.mp h
    refine bind_eq_ok.mpr ⟨b, hle a List.mem_cons_self b hb, bind_eq_ok.mpr ⟨bs', ?_, h⟩⟩
    exact ih hbs' fun x hx => hle x (List.mem_cons_of_mem a hx)

lemma normalized_eq_nil {items : List String} : normalized items = [] ↔ items = [] := by
  rw [List.eq_nil_iff_forall_not_mem, List.eq_nil_iff_forall_not_mem]
  simp only [mem_normalized]

end Lists

lemma Incident.fields_of_same {x y : Incident} (h : x.differs y = false) :
    x.hypothesisId = y.hypothesisId ∧ x.investigationId = y.investigationId ∧
      x.adjudicationId = y.adjudicationId ∧ x.scope = y.scope ∧ x.state = y.state ∧
      x.severity = y.severity ∧ x.confidence = y.confidence ∧
      x.sourceSignalIds = y.sourceSignalIds ∧ x.observationIds = y.observationIds ∧
      x.claimIds = y.claimIds ∧ x.supportingEvidenceRefs = y.supportingEvidenceRefs ∧
      x.contradictingEvidenceRefs = y.contradictingEvidenceRefs := by
  simpa [Incident.differs, and_assoc] using h

lemma IncidentAdjudication.fields_of_same {x y : IncidentAdjudication} (h : x.differs y = false) :
    x.hypothesisId = y.hypothesisId ∧ x.scope = y.scope ∧
      x.supportingClaimIds = y.supportingClaimIds ∧
      x.supportingEvidenceRefs = y.supportingEvidenceRefs ∧
      x.contradictingClaimIds = y.contradictingClaimIds ∧
      x.contradictingEvidenceRefs = y.contradictingEvidenceRefs ∧ x.decidedBy = y.decidedBy ∧
      x.reason = y.reason ∧ x.confidence = y.confidence ∧ x.severity = y.severity := by
  simpa [IncidentAdjudication.differs, and_assoc] using h

namespace Judgement

lemma state_confirmed {j : Judgement} : j.state = .confirmed ↔
    j.contradictingClaimIds = [] ∧ j.contradictingEvidenceRefs = [] := by
  unfold state
  by_cases h : normalized j.contradictingClaimIds ≠ [] ∨ normalized j.contradictingEvidenceRefs ≠ []
  · rw [if_pos h]
    simp only [ne_eq, normalized_eq_nil] at h
    constructor
    · intro hstate
      cases hstate
    · rintro ⟨hclaims, hrefs⟩
      rcases h with h | h
      · exact absurd hclaims h
      · exact absurd hrefs h
  · rw [if_neg h]
    simp only [ne_eq, normalized_eq_nil, not_or, not_not] at h
    exact ⟨fun _ => h, fun _ => rfl⟩

end Judgement

namespace IncidentAdjudicator

/-- What the checks establish, with the records that they read. -/
structure Reviewed (a : IncidentAdjudicator) (j : Judgement) (records : List (String × Claim))
    (signals : List DetectionSignal) (events : List SecurityEvent)
    (evidence : List (String × List String)) : Prop where
  scope : ¬ a.scope.any fun s => decide (j.hypothesis.scope ≠ s)
  supported : ¬ (j.supportingClaimIds = [] ∨ j.supportingEvidenceRefs = [])
  authority : ¬ j.decidedBy ∉ a.canonicalAdjudicatorIds
  claimTexts : ¬ j.claimIds.any isBlank
  claimed : j.claimIds.mapM (a.canonicalClaim j.hypothesis.scope) = .ok records
  evidenceTexts : ¬ j.evidenceRefs.any isBlank
  accountable : ¬ ["llm", "model", "agent-opinion"].any fun token =>
    decide (token.toList <:+: j.decidedBy.toLower.toList)
  sources : (j.hypothesis.sourceSignalIds.mapM fun id =>
    a.detections.getSignal id j.hypothesis.scope) = .ok signals
  signalled : ¬ signals = []
  listed : a.detections.events.events (some j.hypothesis.scope) = .ok events
  bound : ¬ ¬ within j.evidenceRefs (events.map (·.rawEvidenceRef))
  sourced : ¬ ¬ within j.evidenceRefs (signals.flatMap (·.rawEvidenceRefs))
  grounds : records.mapM a.claimEvidence = .ok evidence
  supporting : ¬ ¬ within j.supportingEvidenceRefs (evidenceOfClaims evidence j.supportingClaimIds)
  contradicting :
    ¬ ¬ within j.contradictingEvidenceRefs (evidenceOfClaims evidence j.contradictingClaimIds)
  observationTexts : ¬ j.observationIds.any isBlank
  observed : ¬ ¬ within j.observationIds (records.flatMap (·.2.observationIds))
  pinned : ¬ ¬ a.pinned j.hypothesis

variable {a a' : IncidentAdjudicator} {j : Judgement} {records : List (String × Claim)}
  {signals : List DetectionSignal} {events : List SecurityEvent}
  {evidence : List (String × List String)}

lemma reviewed_of_ok (h : a.review j = .ok ()) :
    ∃ records signals events evidence, Reviewed a j records signals events evidence := by
  obtain ⟨h₁, h⟩ := raiseIf_bind_eq_ok.mp h
  obtain ⟨h₂, h⟩ := raiseIf_bind_eq_ok.mp h
  obtain ⟨h₃, h⟩ := raiseIf_bind_eq_ok.mp h
  obtain ⟨h₄, h⟩ := raiseIf_bind_eq_ok.mp h
  obtain ⟨records, h₅, h⟩ := bind_eq_ok.mp h
  obtain ⟨h₆, h⟩ := raiseIf_bind_eq_ok.mp h
  obtain ⟨h₇, h⟩ := raiseIf_bind_eq_ok.mp h
  obtain ⟨signals, h₈, h⟩ := bind_eq_ok.mp h
  obtain ⟨h₉, h⟩ := raiseIf_bind_eq_ok.mp h
  obtain ⟨events, h₁₀, h⟩ := bind_eq_ok.mp h
  obtain ⟨h₁₁, h⟩ := raiseIf_bind_eq_ok.mp h
  obtain ⟨h₁₂, h⟩ := raiseIf_bind_eq_ok.mp h
  obtain ⟨evidence, h₁₃, h⟩ := bind_eq_ok.mp h
  obtain ⟨h₁₄, h⟩ := raiseIf_bind_eq_ok.mp h
  obtain ⟨h₁₅, h⟩ := raiseIf_bind_eq_ok.mp h
  obtain ⟨h₁₆, h⟩ := raiseIf_bind_eq_ok.mp h
  obtain ⟨h₁₇, h⟩ := raiseIf_bind_eq_ok.mp h
  exact ⟨records, signals, events, evidence, h₁, h₂, h₃, h₄, h₅, h₆, h₇, h₈, h₉, h₁₀, h₁₁, h₁₂, h₁₃, h₁₄,
    h₁₅, h₁₆, h₁₇, raiseIf_eq_ok.mp h⟩

lemma Reviewed.ok (h : Reviewed a j records signals events evidence) : a.review j = .ok () :=
  raiseIf_bind_eq_ok.mpr ⟨h.scope, raiseIf_bind_eq_ok.mpr ⟨h.supported, raiseIf_bind_eq_ok.mpr
    ⟨h.authority, raiseIf_bind_eq_ok.mpr ⟨h.claimTexts, bind_eq_ok.mpr ⟨records, h.claimed,
    raiseIf_bind_eq_ok.mpr ⟨h.evidenceTexts, raiseIf_bind_eq_ok.mpr ⟨h.accountable, bind_eq_ok.mpr
    ⟨signals, h.sources, raiseIf_bind_eq_ok.mpr ⟨h.signalled, bind_eq_ok.mpr ⟨events, h.listed,
    raiseIf_bind_eq_ok.mpr ⟨h.bound, raiseIf_bind_eq_ok.mpr ⟨h.sourced, bind_eq_ok.mpr
    ⟨evidence, h.grounds, raiseIf_bind_eq_ok.mpr ⟨h.supporting, raiseIf_bind_eq_ok.mpr
    ⟨h.contradicting, raiseIf_bind_eq_ok.mpr ⟨h.observationTexts, raiseIf_bind_eq_ok.mpr
    ⟨h.observed, raiseIf_eq_ok.mpr h.pinned⟩⟩⟩⟩⟩⟩⟩⟩⟩⟩⟩⟩⟩⟩⟩⟩⟩

/-- What is canonical for the first is canonical for the second. -/
structure Grows (a a' : IncidentAdjudicator) : Prop where
  detections : Kept a.detections a'.detections
  bound : a'.detections.scope = a.detections.scope
  view : a'.detections.events.scope = a.detections.events.scope
  scope : a'.scope = a.scope
  adjudicators : ∀ id ∈ a.canonicalAdjudicatorIds, id ∈ a'.canonicalAdjudicatorIds
  claims : Table.Extends a'.canonicalClaims a.canonicalClaims
  evidence : ∀ refs, a.canonicalClaimEvidenceRefs = some refs →
    ∃ refs', a'.canonicalClaimEvidenceRefs = some refs' ∧ Table.Extends refs' refs
  own : a.canonicalClaimEvidenceRefs = none → a'.canonicalClaimEvidenceRefs = none

lemma Grows.refl (a : IncidentAdjudicator) : Grows a a where
  detections := Kept.refl _
  bound := rfl
  view := rfl
  scope := rfl
  adjudicators _ h := h
  claims := Table.Extends.refl _
  evidence refs h := ⟨refs, h, Table.Extends.refl _⟩
  own h := h

lemma Grows.trans {a'' : IncidentAdjudicator} (h : Grows a a') (h' : Grows a' a'') :
    Grows a a'' where
  detections := h.detections.trans h'.detections
  bound := h'.bound.trans h.bound
  view := h'.view.trans h.view
  scope := h'.scope.trans h.scope
  adjudicators id hid := h'.adjudicators id (h.adjudicators id hid)
  claims := h'.claims.trans h.claims
  evidence refs hrefs := by
    obtain ⟨refs', hrefs', hext⟩ := h.evidence refs hrefs
    obtain ⟨refs'', hrefs'', hext'⟩ := h'.evidence refs' hrefs'
    exact ⟨refs'', hrefs'', hext'.trans hext⟩
  own hnone := h'.own (h.own hnone)

lemma claimEvidence_eq_ok {r : String × Claim} {e : String × List String} :
    a.claimEvidence r = .ok e ↔ e = (r.1, a.claimEvidenceRefs r.1 r.2) ∧
      (a.claimEvidenceRefs r.1 r.2).any isBlank = false ∧ a.claimEvidenceRefs r.1 r.2 ≠ [] := by
  unfold claimEvidence
  rw [raiseIf_bind_eq_ok, raiseIf_bind_eq_ok, Bool.not_eq_true]
  constructor
  · rintro ⟨htext, hne, he⟩
    exact ⟨(Except.ok.inj he).symm, htext, hne⟩
  · rintro ⟨rfl, htext, hne⟩
    exact ⟨htext, hne, rfl⟩

lemma canonicalClaim_eq_ok {s : Scope} {id : String} {r : String × Claim} :
    a.canonicalClaim s id = .ok r ↔ ∃ claim, r = (id, claim) ∧
      a.canonicalClaims.find? id = some claim ∧ claim.claimId = id ∧ claim.engagementId = s.caseId ∧
      ¬ (claim.evidenceIds = [] ∧ claim.observationIds = []) := by
  simp only [canonicalClaim, orRaise_bind_eq_ok, raiseIf_bind_eq_ok, not_or, not_not]
  constructor
  · rintro ⟨claim, hfind, ⟨hid, hcase, hgrounded⟩, hr⟩
    exact ⟨claim, (Except.ok.inj hr).symm, hfind, hid, hcase, hgrounded⟩
  · rintro ⟨claim, rfl, hfind, hid, hcase, hgrounded⟩
    exact ⟨claim, hfind, ⟨hid, hcase, hgrounded⟩, rfl⟩

section Growth

variable (hg : Grows a a')

include hg

lemma Grows.canonicalClaim {s : Scope} {id : String} {r : String × Claim}
    (h : a.canonicalClaim s id = .ok r) : a'.canonicalClaim s id = .ok r := by
  obtain ⟨claim, rfl, hfind, h⟩ := canonicalClaim_eq_ok.mp h
  exact canonicalClaim_eq_ok.mpr ⟨claim, rfl, Dict.find?_of_extends hg.claims hfind, h⟩

lemma Grows.claimEvidenceRefs {id : String} {claim : Claim} (h : a.claimEvidenceRefs id claim ≠ []) :
    a'.claimEvidenceRefs id claim = a.claimEvidenceRefs id claim := by
  unfold IncidentAdjudicator.claimEvidenceRefs at h ⊢
  cases hrefs : a.canonicalClaimEvidenceRefs with
  | none => rw [hg.own hrefs]
  | some refs =>
    obtain ⟨refs', hrefs', hext⟩ := hg.evidence refs hrefs
    rw [hrefs']
    rw [hrefs] at h
    cases hid : refs.find? id with
    | none =>
      simp only [hid] at h
      exact absurd rfl h
    | some ids => simp only [hid, Dict.find?_of_extends hext hid]

lemma Grows.claimEvidence {r : String × Claim} {e : String × List String}
    (h : a.claimEvidence r = .ok e) : a'.claimEvidence r = .ok e := by
  obtain ⟨he, htext, hne⟩ := claimEvidence_eq_ok.mp h
  have hsame := hg.claimEvidenceRefs hne
  exact claimEvidence_eq_ok.mpr (by rw [hsame]; exact ⟨he, htext, hne⟩)

lemma Grows.getSignal {s : Scope} {id : String} {x : DetectionSignal}
    (h : a.detections.getSignal id s = .ok x) : a'.detections.getSignal id s = .ok x := by
  obtain ⟨u, hscope, h⟩ := bind_eq_ok.mp h
  obtain ⟨hfind, hx⟩ := Option.filter_eq_some_iff.mp (orRaise_eq_ok.mp h)
  refine bind_eq_ok.mpr ⟨u, ?_, orRaise_eq_ok.mpr (Option.filter_eq_some_iff.mpr ⟨?_, hx⟩)⟩
  · rw [DetectionEngine.requireScope, hg.bound]
    exact hscope
  · exact Dict.find?_of_extends hg.detections.signals hfind

lemma Grows.read {s : Scope} (h : a.detections.events.events (some s) = .ok events) :
    ∃ events', a'.detections.events.events (some s) = .ok events' ∧ ∀ e ∈ events, e ∈ events' := by
  obtain ⟨events', hread⟩ := events_total a'.detections.events h hg.view
  refine ⟨events', hread, ?_⟩
  intro e he
  obtain ⟨⟨k, hk⟩, hscope⟩ := (BoundedSecurityEventIngestor.mem_events h).mp he
  exact (BoundedSecurityEventIngestor.mem_events hread).mpr
    ⟨⟨k, Dict.find?_of_extends hg.detections.events hk⟩, hscope⟩

/-- A request that passed the checks passes them when more is canonical. -/
lemma Grows.reviewed (h : Reviewed a j records signals events evidence)
    (hpinned : a'.pinned j.hypothesis) :
    ∃ events', Reviewed a' j records signals events' evidence := by
  obtain ⟨events', hread, hevents⟩ := hg.read h.listed
  refine ⟨events', ?_⟩
  constructor
  · rw [hg.scope]
    exact h.scope
  · exact h.supported
  · exact fun hno => h.authority fun hid => hno (hg.adjudicators _ hid)
  · exact h.claimTexts
  · exact mapM_of_le h.claimed fun id _ r hr => hg.canonicalClaim hr
  · exact h.evidenceTexts
  · exact h.accountable
  · exact mapM_of_le h.sources fun id _ x hx => hg.getSignal hx
  · exact h.signalled
  · exact hread
  · rw [not_not]
    intro r hr
    obtain ⟨e, he, hre⟩ := List.mem_map.mp (not_not.mp h.bound r hr)
    exact List.mem_map.mpr ⟨e, hevents e he, hre⟩
  · exact h.sourced
  · exact mapM_of_le h.grounds fun r _ e he => hg.claimEvidence he
  · exact h.supporting
  · exact h.contradicting
  · exact h.observationTexts
  · exact h.observed
  · exact not_not.mpr hpinned

end Growth

/-- The state after a new decision. -/
def store (codec : Codec) (j : Judgement) (now : Datetime) (a : IncidentAdjudicator) :
    IncidentAdjudicator :=
  { a with
    investigations := a.investigations.set (j.investigationId codec) (j.investigation codec now)
    adjudications := a.adjudications.set (j.adjudicationId codec) (j.adjudication codec now)
    incidents := a.incidents.set (j.incidentId codec) (j.incident codec now)
    hypotheses := a.hypotheses.set j.hypothesis.hypothesisId j.hypothesis }

/-- What a call does: it refuses, it returns the stored incident, or it stores a new one. -/
inductive Decision (codec : Codec) (j : Judgement) (now : Datetime) (a : IncidentAdjudicator) :
    Except Raised Incident × IncidentAdjudicator → Prop
  | refused (e : Raised) : Decision codec j now a (.error e, a)
  | replayed {records : List (String × Claim)} {signals : List DetectionSignal}
      {events : List SecurityEvent} {evidence : List (String × List String)}
      {adjudication : IncidentAdjudication} {incident : Incident} :
      Reviewed a j records signals events evidence →
      a.adjudications.find? (j.adjudicationId codec) = some adjudication →
      a.incidents.find? (j.incidentId codec) = some incident →
      adjudication.differs (j.adjudication codec now) = false →
      incident.differs (j.incident codec now) = false → Decision codec j now a (.ok incident, a)
  | decided {records : List (String × Claim)} {signals : List DetectionSignal}
      {events : List SecurityEvent} {evidence : List (String × List String)} :
      Reviewed a j records signals events evidence →
      a.adjudications.find? (j.adjudicationId codec) = none →
      a.incidents.find? (j.incidentId codec) = none →
      Decision codec j now a (.ok (j.incident codec now), a.store codec j now)

variable {codec : Codec} {now : Datetime}

variable (a j codec now) in
lemma adjudicate_cases : Decision codec j now a (a.adjudicate codec j now) := by
  unfold adjudicate
  cases hreview : a.review j with
  | error e => exact .refused e
  | ok u =>
    obtain ⟨records, signals, events, evidence, hreviewed⟩ := reviewed_of_ok hreview
    cases hadjudication : a.adjudications.find? (j.adjudicationId codec) with
    | some adjudication =>
      cases hincident : a.incidents.find? (j.incidentId codec) with
      | none => exact .refused _
      | some incident =>
        by_cases hdiffers : (adjudication.differs (j.adjudication codec now) ||
            incident.differs (j.incident codec now)) = true
        · simp only [hdiffers, if_true]
          exact .refused _
        · simp only [hdiffers]
          rw [Bool.not_eq_true, Bool.or_eq_false_iff] at hdiffers
          exact .replayed hreviewed hadjudication hincident hdiffers.1 hdiffers.2
    | none =>
      cases hincident : a.incidents.find? (j.incidentId codec) with
      | some incident => exact .refused _
      | none =>
        simp only
        split
        · exact .refused _
        · rename_i incident hvalid
          obtain ⟨-, -, hvalid⟩ := bind_eq_ok.mp hvalid
          obtain ⟨-, -, hvalid⟩ := bind_eq_ok.mp hvalid
          have hsame : incident = j.incident codec now := by
            unfold Incident.validate at hvalid
            split at hvalid
            · cases hvalid
            · exact (Except.ok.inj hvalid).symm
          rw [hsame]
          exact .decided hreviewed hadjudication hincident

end IncidentAdjudicator

/-- The canonical records are registered anew, or an incident is adjudicated. -/
inductive AdjudicatorCall where
  | register (detections : DetectionEngine) (adjudicatorIds : List String)
      (claims : Dict String Claim) (evidenceRefs : Option (Dict String (List String)))
  | adjudicate (judgement : Judgement) (now : Datetime)

inductive AdjudicatorAnswer where
  | registered
  | adjudicated (result : Except Raised Incident)

def AdjudicatorCall.exec (codec : Codec) :
    AdjudicatorCall → IncidentAdjudicator → AdjudicatorAnswer × IncidentAdjudicator
  | .register detections adjudicatorIds claims evidenceRefs, a =>
    (.registered,
      { a with
        detections
        canonicalAdjudicatorIds := adjudicatorIds
        canonicalClaims := claims
        canonicalClaimEvidenceRefs := evidenceRefs })
  | .adjudicate j now, a => (.adjudicated (a.adjudicate codec j now).1, (a.adjudicate codec j now).2)

abbrev AdjudicatorEntry := Entry AdjudicatorCall IncidentAdjudicator AdjudicatorAnswer

namespace IncidentAdjudicator

/-- The hypotheses agree on what the adjudicator compares. -/
def SameHypothesis (h h' : IncidentHypothesis) : Prop :=
  h.scope = h'.scope ∧ h.question = h'.question ∧ h.sourceSignalIds = h'.sourceSignalIds ∧
    h.affectedEntities = h'.affectedEntities

/-- The records of the first are in the second, where an investigation may have been written again. -/
structure Later (a a' : IncidentAdjudicator) : Prop where
  incidents : Table.Extends a'.incidents a.incidents
  adjudications : Table.Extends a'.adjudications a.adjudications
  investigations : ∀ id, (a.investigations.find? id).isSome → (a'.investigations.find? id).isSome
  hypotheses : ∀ id h, a.hypotheses.find? id = some h →
    ∃ h', a'.hypotheses.find? id = some h' ∧ SameHypothesis h' h

lemma Later.refl (a : IncidentAdjudicator) : Later a a where
  incidents := Table.Extends.refl _
  adjudications := Table.Extends.refl _
  investigations _ h := h
  hypotheses _ h hh := ⟨h, hh, rfl, rfl, rfl, rfl⟩

lemma Later.trans {a a' a'' : IncidentAdjudicator} (h : Later a a') (h' : Later a' a'') :
    Later a a'' where
  incidents := h'.incidents.trans h.incidents
  adjudications := h'.adjudications.trans h.adjudications
  investigations id hid := h'.investigations id (h.investigations id hid)
  hypotheses id x hx := by
    obtain ⟨x', hx', h₁, h₂, h₃, h₄⟩ := h.hypotheses id x hx
    obtain ⟨x'', hx'', h₁', h₂', h₃', h₄'⟩ := h'.hypotheses id x' hx'
    exact ⟨x'', hx'', h₁'.trans h₁, h₂'.trans h₂, h₃'.trans h₃, h₄'.trans h₄⟩

/-- Records are stored under their ids, and the hypothesis of a stored incident is stored. -/
structure Keyed (a : IncidentAdjudicator) : Prop where
  incidents : ∀ k i, a.incidents.find? k = some i → i.incidentId = k ∧
    (a.hypotheses.find? i.hypothesisId).isSome ∧ (a.investigations.find? i.investigationId).isSome
  adjudications : ∀ k x, a.adjudications.find? k = some x → x.adjudicationId = k
  investigations : ∀ k x, a.investigations.find? k = some x → x.investigationId = k

/-- The records of an accepted request. -/
structure Recorded (codec : Codec) (j : Judgement) (i : Incident) (a : IncidentAdjudicator) :
    Prop where
  incident : a.incidents.find? (j.incidentId codec) = some i
  same : ∀ now, i.differs (j.incident codec now) = false
  adjudication : ∃ x, a.adjudications.find? (j.adjudicationId codec) = some x ∧
    ∀ now, x.differs (j.adjudication codec now) = false
  investigation : (a.investigations.find? (j.investigationId codec)).isSome
  hypothesis : ∃ h, a.hypotheses.find? j.hypothesis.hypothesisId = some h ∧
    SameHypothesis h j.hypothesis

section Records

variable {codec : Codec} {a a' : IncidentAdjudicator} {j : Judgement} {now : Datetime} {i : Incident}
  {result : Except Raised Incident} {records : List (String × Claim)}
  {signals : List DetectionSignal} {events : List SecurityEvent}
  {evidence : List (String × List String)}

lemma Recorded.later (h : Recorded codec j i a) (hl : Later a a') : Recorded codec j i a' where
  incident := Dict.find?_of_extends hl.incidents h.incident
  same := h.same
  adjudication := by
    obtain ⟨x, hx, hsame⟩ := h.adjudication
    exact ⟨x, Dict.find?_of_extends hl.adjudications hx, hsame⟩
  investigation := hl.investigations _ h.investigation
  hypothesis := by
    obtain ⟨x, hx, h₁, h₂, h₃, h₄⟩ := h.hypothesis
    obtain ⟨x', hx', h₁', h₂', h₃', h₄'⟩ := hl.hypotheses _ x hx
    exact ⟨x', hx', h₁'.trans h₁, h₂'.trans h₂, h₃'.trans h₃, h₄'.trans h₄⟩

lemma Recorded.pinned (h : Recorded codec j i a) : a.pinned j.hypothesis := by
  obtain ⟨x, hx, hsame⟩ := h.hypothesis
  intro y hy
  obtain rfl := Option.some.inj (hx.symm.trans hy)
  exact hsame

variable (now) in
lemma store_later (hadjudication : a.adjudications.find? (j.adjudicationId codec) = none)
    (hincident : a.incidents.find? (j.incidentId codec) = none) (hpinned : a.pinned j.hypothesis) :
    Later a (a.store codec j now) where
  incidents := Dict.extends_set hincident _
  adjudications := Dict.extends_set hadjudication _
  investigations id h := by
    rw [store, Dict.find?_set]
    by_cases hid : id = j.investigationId codec
    · rw [if_pos hid]
      rfl
    · rw [if_neg hid]
      exact h
  hypotheses id h hh := by
    by_cases hid : id = j.hypothesis.hypothesisId
    · subst hid
      obtain ⟨h₁, h₂, h₃, h₄⟩ := hpinned h hh
      exact ⟨j.hypothesis, Dict.find?_set_self _ _ _, h₁.symm, h₂.symm, h₃.symm, h₄.symm⟩
    · refine ⟨h, ?_, rfl, rfl, rfl, rfl⟩
      rw [store, Dict.find?_set_of_ne _ _ hid]
      exact hh

lemma store_keyed (h : Keyed a) (hl : Later a (a.store codec j now)) :
    Keyed (a.store codec j now) where
  incidents k x hx := by
    rcases Dict.find?_set_eq_some hx with ⟨rfl, rfl⟩ | hold
    · exact ⟨rfl, by simp [store, Judgement.incident], by simp [store, Judgement.incident]⟩
    · obtain ⟨hid, hhypothesis, hinvestigation⟩ := h.incidents k x hold
      obtain ⟨y, hy⟩ := Option.isSome_iff_exists.mp hhypothesis
      obtain ⟨y', hy', -⟩ := hl.hypotheses _ y hy
      exact ⟨hid, by rw [hy']; rfl, hl.investigations _ hinvestigation⟩
  adjudications k x hx := by
    rcases Dict.find?_set_eq_some hx with ⟨rfl, rfl⟩ | hold
    · rfl
    · exact h.adjudications k x hold
  investigations k x hx := by
    rcases Dict.find?_set_eq_some hx with ⟨rfl, rfl⟩ | hold
    · rfl
    · exact h.investigations k x hold

lemma store_recorded : Recorded codec j (j.incident codec now) (a.store codec j now) where
  incident := Dict.find?_set_self _ _ _
  same now' := by simp [Incident.differs, Judgement.incident]
  adjudication := ⟨j.adjudication codec now, Dict.find?_set_self _ _ _, fun now' => by
    simp [IncidentAdjudication.differs, Judgement.adjudication]⟩
  investigation := by simp [store]
  hypothesis := ⟨j.hypothesis, Dict.find?_set_self _ _ _, rfl, rfl, rfl, rfl⟩

variable (codec j now) in
/-- What every call leaves behind. -/
lemma adjudicate_step (h : Keyed a) :
    Later a (a.adjudicate codec j now).2 ∧ Keyed (a.adjudicate codec j now).2 ∧
      ((∃ e, (a.adjudicate codec j now) = (.error e, a)) ∨
        ∃ i records signals events evidence, (a.adjudicate codec j now).1 = .ok i ∧
          Reviewed a j records signals events evidence ∧
          Recorded codec j i (a.adjudicate codec j now).2 ∧
          ∀ k x, (a.adjudicate codec j now).2.incidents.find? k = some x →
            x = i ∨ a.incidents.find? k = some x) := by
  have hcases := adjudicate_cases a j codec now
  generalize a.adjudicate codec j now = r at hcases ⊢
  cases hcases with
  | refused e => exact ⟨Later.refl a, h, Or.inl ⟨e, rfl⟩⟩
  | replayed hreviewed hadjudication hincident hsame hsame' =>
    refine ⟨Later.refl a, h, Or.inr ⟨_, _, _, _, _, rfl, hreviewed, ?_, fun k x hx => Or.inr hx⟩⟩
    obtain ⟨-, hhypothesis, hinvestigation⟩ := h.incidents _ _ hincident
    obtain ⟨hid, hinvestigationId, -⟩ := Incident.fields_of_same hsame'
    obtain ⟨x, hx⟩ := Option.isSome_iff_exists.mp hhypothesis
    rw [hid] at hx
    rw [hinvestigationId] at hinvestigation
    exact ⟨hincident, fun now' => hsame', ⟨_, hadjudication, fun now' => hsame⟩, hinvestigation, x, hx,
      not_not.mp hreviewed.pinned x hx⟩
  | decided hreviewed hadjudication hincident =>
    have hl := store_later now hadjudication hincident (not_not.mp hreviewed.pinned)
    refine ⟨hl, store_keyed h hl, Or.inr ⟨_, _, _, _, _, rfl, hreviewed, store_recorded, ?_⟩⟩
    intro k x hx
    rcases Dict.find?_set_eq_some hx with ⟨-, rfl⟩ | hold
    · exact Or.inl rfl
    · exact Or.inr hold

end Records

/-- An incident rests on canonical records. -/
structure Backed (a : IncidentAdjudicator) (i : Incident) : Prop where
  supported : i.supportingEvidenceRefs ≠ []
  canonical : ∃ events, a.detections.events.events (some i.scope) = .ok events ∧
    ∀ r ∈ i.supportingEvidenceRefs, ∃ e ∈ events, e.rawEvidenceRef = r
  sourced : ∀ r ∈ i.supportingEvidenceRefs, ∃ id ∈ i.sourceSignalIds, ∃ x,
    a.detections.getSignal id i.scope = .ok x ∧ r ∈ x.rawEvidenceRefs
  claimed : ∀ r ∈ i.supportingEvidenceRefs, ∃ id ∈ i.claimIds, ∃ claim,
    a.canonicalClaims.find? id = some claim ∧ r ∈ a.claimEvidenceRefs id claim
  decided : ∃ x, a.adjudications.find? i.adjudicationId = some x ∧
    x.adjudicationId = i.adjudicationId ∧ x.hypothesisId = i.hypothesisId ∧ x.scope = i.scope ∧
    x.supportingClaimIds = i.claimIds ∧ x.decidedBy ∈ a.canonicalAdjudicatorIds ∧
    ∀ id ∈ x.supportingClaimIds ++ x.contradictingClaimIds, ∃ claim,
      a.canonicalClaims.find? id = some claim ∧ claim.claimId = id ∧
        claim.engagementId = i.scope.caseId
  investigated : ∃ x, a.investigations.find? i.investigationId = some x ∧
    x.investigationId = i.investigationId

section Backing

variable {codec : Codec} {a : IncidentAdjudicator} {j : Judgement} {i : Incident}
  {records : List (String × Claim)} {signals : List DetectionSignal} {events : List SecurityEvent}
  {evidence : List (String × List String)}

lemma mem_evidenceOfClaims {ids : List String} {r : String} (hr : r ∈ evidenceOfClaims evidence ids) :
    ∃ id ∈ ids, ∃ refs, (id, refs) ∈ evidence ∧ r ∈ refs := by
  obtain ⟨⟨id, refs⟩, he, hr⟩ := List.mem_flatMap.mp hr
  obtain ⟨he, hid⟩ := List.mem_filter.mp he
  exact ⟨id, of_decide_eq_true hid, refs, he, hr⟩

/-- Each part of the backing comes from its own check. -/
lemma Reviewed.backed (h : Reviewed a j records signals events evidence)
    (hrecorded : Recorded codec j i a) (hkeyed : Keyed a) : Backed a i := by
  obtain ⟨-, hinvestigation, hadjudication, hscope, -, -, -, hsources, -, hclaims, hsupporting, -⟩ :=
    Incident.fields_of_same (hrecorded.same 0)
  simp only [Judgement.incident] at hinvestigation hadjudication hscope hsources hclaims hsupporting
  have hrefs : ∀ r ∈ i.supportingEvidenceRefs, r ∈ j.supportingEvidenceRefs := by
    intro r hr
    rw [hsupporting] at hr
    exact mem_normalized.mp hr
  have hall : ∀ r ∈ i.supportingEvidenceRefs, r ∈ j.evidenceRefs := fun r hr =>
    List.mem_append_left _ (hrefs r hr)
  obtain ⟨hclaimed, hclaimed'⟩ := mapM_eq_ok h.claimed
  constructor
  · rw [hsupporting, ne_eq, normalized_eq_nil]
    exact fun hnil => h.supported (Or.inr hnil)
  · refine ⟨events, ?_, ?_⟩
    · rw [hscope]
      exact h.listed
    · exact fun r hr => List.mem_map.mp (not_not.mp h.bound r (hall r hr))
  · intro r hr
    obtain ⟨x, hx, hrx⟩ := List.mem_flatMap.mp (not_not.mp h.sourced r (hall r hr))
    obtain ⟨id, hid, hget⟩ := (mapM_eq_ok h.sources).2 x hx
    rw [hsources, hscope]
    exact ⟨id, hid, x, hget, hrx⟩
  · intro r hr
    obtain ⟨id, hid, refs, hmem, hr⟩ := mem_evidenceOfClaims (not_not.mp h.supporting r (hrefs r hr))
    obtain ⟨⟨id', claim⟩, hrecord, hevidence⟩ := (mapM_eq_ok h.grounds).2 _ hmem
    obtain ⟨heq, -, -⟩ := claimEvidence_eq_ok.mp hevidence
    obtain ⟨rfl, rfl⟩ := Prod.mk.inj heq
    obtain ⟨id', -, hcanonical⟩ := hclaimed' _ hrecord
    obtain ⟨claim', heq', hfind, -⟩ := canonicalClaim_eq_ok.mp hcanonical
    obtain ⟨rfl, rfl⟩ := Prod.mk.inj heq'
    rw [hclaims]
    exact ⟨id, mem_normalized.mpr hid, claim, hfind, hr⟩
  · obtain ⟨x, hx, hsame⟩ := hrecorded.adjudication
    obtain ⟨hhypothesis, hscope', hsupported, -, hcontradicted, -, hdecidedBy, -⟩ :=
      IncidentAdjudication.fields_of_same (hsame 0)
    simp only [Judgement.adjudication] at hhypothesis hscope' hsupported hcontradicted hdecidedBy
    have hid := (Incident.fields_of_same (hrecorded.same 0)).1
    refine ⟨x, ?_, ?_, hhypothesis.trans hid.symm, hscope'.trans hscope.symm,
      hsupported.trans hclaims.symm, ?_, ?_⟩
    · rw [hadjudication]
      exact hx
    · rw [hadjudication]
      exact hkeyed.adjudications _ x hx
    · rw [hdecidedBy]
      exact not_not.mp h.authority
    · intro id hid
      have hmem : id ∈ j.claimIds := by
        rw [hsupported, hcontradicted, List.mem_append, mem_normalized, mem_normalized] at hid
        exact List.mem_append.mpr hid
      obtain ⟨r, -, hcanonical⟩ := hclaimed id hmem
      obtain ⟨claim, -, hfind, hclaimId, hcase, -⟩ := canonicalClaim_eq_ok.mp hcanonical
      rw [hscope]
      exact ⟨claim, hfind, hclaimId, hcase⟩
  · obtain ⟨x, hx⟩ := Option.isSome_iff_exists.mp hrecorded.investigation
    rw [hinvestigation]
    exact ⟨x, hx, hkeyed.investigations _ x hx⟩

/-- A recorded request that still passes the checks is answered with its incident. -/
lemma Recorded.replay (hrecorded : Recorded codec j i a)
    (h : Reviewed a j records signals events evidence) (now : Datetime) :
    a.adjudicate codec j now = (.ok i, a) := by
  obtain ⟨x, hx, hsame⟩ := hrecorded.adjudication
  unfold adjudicate
  rw [h.ok, hx, hrecorded.incident]
  simp only [hsame now, hrecorded.same now, Bool.or_self, Bool.false_eq_true, if_false]

end Backing

end IncidentAdjudicator

end SecScanMonitor.DetectionResponse
