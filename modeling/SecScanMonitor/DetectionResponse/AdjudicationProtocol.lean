import SecScanMonitor.DetectionResponse.AdjudicationRecords
import SecScanMonitor.DetectionResponse.RunHistory

/-! Any sequence of adjudications and registrations: stored incidents are backed by canonical records,
refused calls change nothing, accepted calls are replayed, and exactly the calls that reopen an
investigation write over a record. -/

namespace SecScanMonitor.DetectionResponse.IncidentAdjudicator

open Foundations Domain ContinuousSecurity

section History

variable {codec : Codec} {start a a' : IncidentAdjudicator} {es : List AdjudicatorEntry}
  {e : AdjudicatorEntry} {j : Judgement} {now : Datetime} {i : Incident}

/-- The entry is an accepted request. -/
structure Accepts (e : AdjudicatorEntry) (j : Judgement) (now : Datetime) (i : Incident) : Prop where
  call : e.call = .adjudicate j now
  outcome : e.outcome = .adjudicated (.ok i)

/-- The state after an entry. -/
abbrev after (codec : Codec) (e : AdjudicatorEntry) : IncidentAdjudicator :=
  (e.call.exec codec e.before).2

/-- What a call does, told from the state that it finds. -/
structure AdjudicationStep (codec : Codec) (e : AdjudicatorEntry) : Prop where
  later : Later e.before (after codec e)
  keyed : Keyed (after codec e)
  accepted : ∀ j now i, Accepts e j now i → Recorded codec j i (after codec e) ∧
    ∃ records signals events evidence, Reviewed e.before j records signals events evidence
  stored : ∀ k x, (after codec e).incidents.find? k = some x →
    e.before.incidents.find? k = some x ∨ ∃ j now, Accepts e j now x
  refused : ∀ j now x, e.call = .adjudicate j now → e.outcome = .adjudicated (.error x) →
    after codec e = e.before

variable (codec) in
lemma exec_step (hkeyed : Keyed a) (call : AdjudicatorCall) :
    AdjudicationStep codec ⟨call, a, (call.exec codec a).1⟩ := by
  cases call with
  | register detections adjudicatorIds claims evidenceRefs =>
    refine ⟨⟨Table.Extends.refl _, Table.Extends.refl _, fun _ h => h,
      fun _ h hh => ⟨h, hh, rfl, rfl, rfl, rfl⟩⟩,
      ⟨hkeyed.incidents, hkeyed.adjudications, hkeyed.investigations⟩, ?_, fun k x hx => Or.inl hx, ?_⟩
    · intro j now i haccepts
      cases haccepts.call
    · intro j now x hcall
      cases hcall
  | adjudicate j now =>
    obtain ⟨hlater, hkeyed', hcases⟩ := adjudicate_step codec j now hkeyed
    rcases hcases with ⟨x, hx⟩ | ⟨i, records, signals, events, evidence, hi, hreviewed, hrecorded, hnew⟩
    · refine ⟨hlater, hkeyed', ?_, ?_, ?_⟩
      · intro j' now' i haccepts
        have houtcome := haccepts.outcome
        simp only [AdjudicatorCall.exec, hx] at houtcome
        cases houtcome
      · intro k y hy
        simp only [after, AdjudicatorCall.exec, hx] at hy
        exact Or.inl hy
      · intro j' now' y hcall houtcome
        simp only [after, AdjudicatorCall.exec, hx]
    · have hout : ∀ i', (AdjudicatorAnswer.adjudicated (a.adjudicate codec j now).1) =
          .adjudicated (.ok i') → i = i' := by
        intro i' h
        rw [hi] at h
        exact Except.ok.inj (AdjudicatorAnswer.adjudicated.inj h)
      refine ⟨hlater, hkeyed', ?_, ?_, ?_⟩
      · intro j' now' i' haccepts
        obtain ⟨rfl, rfl⟩ := AdjudicatorCall.adjudicate.inj haccepts.call
        obtain rfl := hout i' haccepts.outcome
        exact ⟨hrecorded, records, signals, events, evidence, hreviewed⟩
      · intro k x hx
        rcases hnew k x hx with rfl | hold
        · refine Or.inr ⟨j, now, rfl, ?_⟩
          change AdjudicatorAnswer.adjudicated (a.adjudicate codec j now).1 = _
          rw [hi]
        · exact Or.inl hold
      · intro j' now' x hcall houtcome
        change AdjudicatorAnswer.adjudicated (a.adjudicate codec j now).1 = _ at houtcome
        rw [hi] at houtcome
        cases houtcome

lemma history_steps (hkeyed : Keyed start) (hempty : ∀ k, start.incidents.find? k = none)
    (h : Foundations.History (AdjudicatorCall.exec codec) start es a) :
    Keyed a ∧ (∀ e ∈ es, AdjudicationStep codec e ∧ Later (after codec e) a) ∧
      ∀ k x, a.incidents.find? k = some x → ∃ e ∈ es, ∃ j now, Accepts e j now x := by
  induction h with
  | nil =>
    refine ⟨hkeyed, by simp, ?_⟩
    intro k x hx
    rw [hempty k] at hx
    cases hx
  | @call es a call h ih =>
    obtain ⟨hkeyed', hsteps, hstored⟩ := ih
    have hstep := exec_step codec hkeyed' call
    refine ⟨hstep.keyed, ?_, ?_⟩
    · intro e he
      rcases List.mem_cons.mp he with rfl | he
      · exact ⟨hstep, Later.refl _⟩
      · exact ⟨(hsteps e he).1, (hsteps e he).2.trans hstep.later⟩
    · intro k x hx
      rcases hstep.stored k x hx with hold | ⟨j, now, haccepts⟩
      · obtain ⟨e, he, haccepts⟩ := hstored k x hold
        exact ⟨e, List.mem_cons_of_mem _ he, haccepts⟩
      · exact ⟨_, List.mem_cons_self, j, now, haccepts⟩

lemma history_grows (h : Foundations.History (AdjudicatorCall.exec codec) start es a)
    (hgrows : ∀ e ∈ es, Grows e.before (after codec e)) : ∀ e ∈ es, Grows e.before a := by
  induction h with
  | nil => simp
  | @call es a call h ih =>
    intro e he
    rcases List.mem_cons.mp he with rfl | he
    · exact hgrows _ List.mem_cons_self
    · have hearlier := ih (fun e he => hgrows e (List.mem_cons_of_mem _ he)) e he
      exact hearlier.trans (hgrows _ List.mem_cons_self)

lemma adjudicate_grows : Grows a (a.adjudicate codec j now).2 := by
  have hcases := adjudicate_cases a j codec now
  generalize a.adjudicate codec j now = r at hcases ⊢
  cases hcases with
  | refused e => exact Grows.refl a
  | replayed => exact Grows.refl a
  | decided => exact ⟨Kept.refl _, rfl, rfl, rfl, fun _ h => h, Table.Extends.refl _,
      fun refs h => ⟨refs, h, Table.Extends.refl _⟩, fun h => h⟩

end History

/-- What a sequence of calls makes of the adjudicator. -/
structure AdjudicationProtocol (codec : Codec) (es : List AdjudicatorEntry) (a : IncidentAdjudicator) :
    Prop where
  stored : ∀ k i, a.incidents.find? k = some i →
    i.incidentId = k ∧ ∃ e ∈ es, ∃ j now, Accepts e j now i
  accepted : ∀ e ∈ es, ∀ j now i, Accepts e j now i → a.incidents.find? i.incidentId = some i ∧
    (i.state = .confirmed ↔ j.contradictingClaimIds = [] ∧ j.contradictingEvidenceRefs = []) ∧
    Backed (after codec e) i ∧ (Grows e.before a → Backed a i)
  backed : (∀ e ∈ es, Grows e.before (after codec e)) → ∀ k i, a.incidents.find? k = some i → Backed a i
  refused : ∀ e ∈ es, ∀ j now x, e.call = .adjudicate j now → e.outcome = .adjudicated (.error x) →
    after codec e = e.before
  replayed : ∀ e ∈ es, ∀ j now i, Accepts e j now i → Grows e.before a →
    ∀ now', a.adjudicate codec j now' = (.ok i, a)

theorem adjudicationProtocol {codec : Codec} {detections : DetectionEngine} {scope : Option Scope}
    {adjudicatorIds : List String} {claims : Dict String Claim}
    {evidenceRefs : Option (Dict String (List String))} {es : List AdjudicatorEntry}
    {a : IncidentAdjudicator} (h : Foundations.History
      (AdjudicatorCall.exec codec) (IncidentAdjudicator.init detections scope adjudicatorIds claims evidenceRefs) es a) :
    AdjudicationProtocol codec es a := by
  have hstart : Keyed (IncidentAdjudicator.init detections scope adjudicatorIds claims evidenceRefs) := by
    constructor <;> simp [IncidentAdjudicator.init]
  obtain ⟨hkeyed, hsteps, hstored⟩ := history_steps hstart (fun k => rfl) h
  have haccepted : ∀ e ∈ es, ∀ j now i, Accepts e j now i → Recorded codec j i a ∧
      ∀ a', Grows e.before a' → Recorded codec j i a' → Keyed a' →
        Backed a' i ∧ ∀ now', a'.adjudicate codec j now' = (.ok i, a') := by
    intro e he j now i haccepts
    obtain ⟨hstep, hlater⟩ := hsteps e he
    obtain ⟨hrecorded, records, signals, events, evidence, hreviewed⟩ :=
      hstep.accepted j now i haccepts
    refine ⟨hrecorded.later hlater, ?_⟩
    intro a' hgrows hrecorded' hkeyed'
    obtain ⟨events', hreviewed'⟩ := hgrows.reviewed hreviewed hrecorded'.pinned
    exact ⟨hreviewed'.backed hrecorded' hkeyed', hrecorded'.replay hreviewed'⟩
  have hids : ∀ k i, a.incidents.find? k = some i → i.incidentId = k := fun k i hi =>
    (hkeyed.incidents k i hi).1
  constructor
  · exact fun k i hi => ⟨hids k i hi, hstored k i hi⟩
  · intro e he j now i haccepts
    obtain ⟨hrecorded, hlaws⟩ := haccepted e he j now i haccepts
    obtain ⟨hstep, -⟩ := hsteps e he
    have hgrows : Grows e.before (after codec e) := by
      rw [after, haccepts.call]
      exact adjudicate_grows
    have hid := hids _ i hrecorded.incident
    refine ⟨?_, ?_, (hlaws _ hgrows (hstep.accepted j now i haccepts).1 hstep.keyed).1,
      fun hg => (hlaws a hg hrecorded hkeyed).1⟩
    · rw [hid]
      exact hrecorded.incident
    · obtain ⟨-, -, -, -, hstate, -⟩ := Incident.fields_of_same (hrecorded.same now)
      rw [hstate]
      exact Judgement.state_confirmed
  · intro hgrows k i hi
    obtain ⟨e, he, j, now, haccepts⟩ := hstored k i hi
    obtain ⟨hrecorded, hlaws⟩ := haccepted e he j now i haccepts
    exact (hlaws a (history_grows h hgrows e he) hrecorded hkeyed).1
  · exact fun e he => (hsteps e he).1.refused
  · intro e he j now i haccepts hg
    obtain ⟨hrecorded, hlaws⟩ := haccepted e he j now i haccepts
    exact (hlaws a hg hrecorded hkeyed).2

/-- Every record of the first is in the second, unchanged. -/
structure KeepsRecords (a a' : IncidentAdjudicator) : Prop where
  incidents : Table.Extends a'.incidents a.incidents
  adjudications : Table.Extends a'.adjudications a.adjudications
  investigations : Table.Extends a'.investigations a.investigations

/-- The request names a stored investigation with another content or instant, but no stored
adjudication. -/
def Reopens (codec : Codec) (j : Judgement) (now : Datetime) (a : IncidentAdjudicator) : Prop :=
  a.adjudications.find? (j.adjudicationId codec) = none ∧
    ∃ x ∈ a.investigations.find? (j.investigationId codec), x ≠ j.investigation codec now

instance (codec : Codec) (j : Judgement) (now : Datetime) (a : IncidentAdjudicator) :
    Decidable (Reopens codec j now a) := by
  unfold Reopens
  infer_instance

section Kept

variable {codec : Codec} {start a a' a'' : IncidentAdjudicator} {es : List AdjudicatorEntry}
  {j : Judgement} {now : Datetime}

lemma KeepsRecords.refl (a : IncidentAdjudicator) : KeepsRecords a a :=
  ⟨Table.Extends.refl _, Table.Extends.refl _, Table.Extends.refl _⟩

lemma KeepsRecords.trans (h : KeepsRecords a a') (h' : KeepsRecords a' a'') : KeepsRecords a a'' :=
  ⟨h'.incidents.trans h.incidents, h'.adjudications.trans h.adjudications,
    h'.investigations.trans h.investigations⟩

/-- The investigation that a new decision writes is the one that it finds, unless it reopens it. -/
lemma store_keeps_iff (hadjudication : a.adjudications.find? (j.adjudicationId codec) = none)
    (hincident : a.incidents.find? (j.incidentId codec) = none) :
    KeepsRecords a (a.store codec j now) ↔ ¬ Reopens codec j now a := by
  constructor
  · rintro hkeeps ⟨-, x, hx, hne⟩
    have hsame := Dict.find?_of_extends hkeeps.investigations hx
    rw [store, Dict.find?_set_self] at hsame
    exact hne (Option.some.inj hsame).symm
  · intro hno
    refine ⟨Dict.extends_set hincident _, Dict.extends_set hadjudication _, ?_⟩
    rintro ⟨k, x⟩ hx
    have hfind := Dict.find?_eq_some_iff.mpr hx
    apply Dict.find?_eq_some_iff.mp
    rw [store, Dict.find?_set]
    by_cases hk : k = j.investigationId codec
    · rw [if_pos hk]
      rw [hk] at hfind
      by_contra hne
      exact hno ⟨hadjudication, x, hfind, fun heq => hne (congrArg some heq.symm)⟩
    · rw [if_neg hk]
      exact hfind

/-- An accepted request keeps the records exactly when it does not reopen; a refused one keeps them. -/
lemma adjudicate_keeps_iff : KeepsRecords a (a.adjudicate codec j now).2 ↔
    ¬ (Reopens codec j now a ∧ ∃ i, (a.adjudicate codec j now).1 = .ok i) := by
  have hcases := adjudicate_cases a j codec now
  generalize a.adjudicate codec j now = r at hcases ⊢
  cases hcases with
  | refused e =>
    refine ⟨?_, fun _ => KeepsRecords.refl a⟩
    rintro - ⟨-, i, hi⟩
    cases hi
  | replayed hreviewed hadjudication =>
    refine ⟨?_, fun _ => KeepsRecords.refl a⟩
    rintro - ⟨⟨hnone, -⟩, -⟩
    rw [hadjudication] at hnone
    cases hnone
  | decided hreviewed hadjudication hincident =>
    rw [store_keeps_iff hadjudication hincident]
    constructor
    · exact fun hno h => hno h.1
    · exact fun hno h => hno ⟨h, _, rfl⟩

end Kept

/-- Which calls of a history write over a record. -/
structure RecordsKept (codec : Codec) (es : List AdjudicatorEntry) (a : IncidentAdjudicator) :
    Prop where
  accepted : ∀ e ∈ es, ∀ j now i, Accepts e j now i →
    (KeepsRecords e.before (after codec e) ↔ ¬ Reopens codec j now e.before)
  others : ∀ e ∈ es, (∀ j now i, ¬ Accepts e j now i) → KeepsRecords e.before (after codec e)
  kept : (∀ e ∈ es, ∀ j now, e.call = .adjudicate j now → ¬ Reopens codec j now e.before) →
    ∀ e ∈ es, KeepsRecords e.before a

theorem recordsKept {codec : Codec} {start a : IncidentAdjudicator} {es : List AdjudicatorEntry}
    (h : Foundations.History (AdjudicatorCall.exec codec) start es a) : RecordsKept codec es a := by
  have hstep : ∀ e ∈ es, KeepsRecords e.before (after codec e) ↔
      ¬ ∃ j now i, Accepts e j now i ∧ Reopens codec j now e.before := by
    intro e he
    have houtcome := h.outcome_eq he
    obtain ⟨call, before, outcome⟩ := e
    cases call with
    | register detections adjudicatorIds claims evidenceRefs =>
      refine ⟨?_, fun _ => ⟨Table.Extends.refl _, Table.Extends.refl _, Table.Extends.refl _⟩⟩
      rintro - ⟨j, now, i, haccepts, -⟩
      cases haccepts.call
    | adjudicate j now =>
      simp only at houtcome
      rw [show after codec ⟨.adjudicate j now, before, outcome⟩ = (before.adjudicate codec j now).2
        from rfl, adjudicate_keeps_iff]
      apply not_congr
      constructor
      · rintro ⟨hreopens, i, hi⟩
        refine ⟨j, now, i, ⟨rfl, ?_⟩, hreopens⟩
        rw [houtcome, AdjudicatorCall.exec, hi]
      · rintro ⟨j', now', i, haccepts, hreopens⟩
        obtain ⟨rfl, rfl⟩ := AdjudicatorCall.adjudicate.inj haccepts.call
        refine ⟨hreopens, i, ?_⟩
        exact AdjudicatorAnswer.adjudicated.inj (houtcome.symm.trans haccepts.outcome)
  constructor
  · intro e he j now i haccepts
    rw [hstep e he]
    apply not_congr
    constructor
    · rintro ⟨j', now', i', haccepts', hreopens⟩
      obtain ⟨rfl, rfl⟩ := AdjudicatorCall.adjudicate.inj (haccepts.call.symm.trans haccepts'.call)
      exact hreopens
    · exact fun hreopens => ⟨j, now, i, haccepts, hreopens⟩
  · intro e he hno
    rw [hstep e he]
    rintro ⟨j, now, i, haccepts, -⟩
    exact hno j now i haccepts
  · intro hno
    have hkeeps : ∀ e ∈ es, KeepsRecords e.before (after codec e) := by
      intro e he
      rw [hstep e he]
      rintro ⟨j, now, i, haccepts, hreopens⟩
      exact hno e he j now haccepts.call hreopens
    clear hstep hno
    induction h with
    | nil => simp
    | @call es a call h ih =>
      intro e he
      rcases List.mem_cons.mp he with rfl | he
      · exact hkeeps _ List.mem_cons_self
      · have hearlier := ih (fun e he => hkeeps e (List.mem_cons_of_mem _ he)) e he
        exact hearlier.trans (hkeeps _ List.mem_cons_self)

section Example

def caseHypothesis : IncidentHypothesis where
  hypothesisId := "HY-1"
  scope := toolScope
  question := "was the tool misused?"
  sourceSignalIds := ["SIG-e3107e3e83f737690a362076f9b0075f"]
  affectedEntities := ["tool"]
  createdAt := 0
  nonblank := by decide
  referenced := by decide

def caseJudgement : Judgement where
  hypothesis := caseHypothesis
  supportingClaimIds := ["CLM-1"]
  supportingEvidenceRefs := ["EV-1"]
  contradictingClaimIds := []
  contradictingEvidenceRefs := []
  decidedBy := "PR-1"
  reason := "the tool was used out of hours"
  severity := .high
  confidence := .high
  observationIds := ["OB-1"]

/-- The same investigation with a contradicting claim. -/
def contradictedJudgement : Judgement := { caseJudgement with contradictingClaimIds := ["CLM-2"] }

def caseClaims : Dict String Claim :=
  ⟨[("CLM-1", ⟨"CLM-1", "EN-1", ["OB-1"], ["EV-1"]⟩), ("CLM-2", ⟨"CLM-2", "EN-1", [], ["EV-1"]⟩)],
    by decide⟩

/-- The digests of the identities of the two requests. -/
def caseDigests : Codec where
  contentDigest
    | .arr [.str _, .arr _, .arr _] =>
      "18c91f2152cc041b5b751f2b08a856bba2ed4425229e8c07f5ee8199d426c025"
    | .arr [_, _, _, _, .arr [], _] =>
      "45a975d3704a0cf8830b38622567b27919e69d44bd439634db901072a7dc76c2"
    | .arr [_, _, _, _, .arr _, _] =>
      "7793968b06058516f4458095e5d1c8c59fe6db5aa790e4f39b2de6c9d975c1cd"
    | .arr [.str id, .arr _] =>
      if id = "ADJ-45a975d3704a0cf8830b38622567b279" then
        "a0d8f74e3f6fc5a37dcf8b76ad7c60b57b77c260bab14bc964ae6749a6816a81"
      else "0e3bb0cbfd68b44917c79ab7363e4805efab6e4ba63b6e643d63ed8e69b95a9e"
    | v => toolDigests.contentDigest v
  isoformat := toolDigests.isoformat
  dumpDatetime := toolDigests.dumpDatetime

/-- The engine holds the signal of the tool event. -/
def caseEngine : DetectionEngine :=
  (Foundations.History.ofCalls (DetectionCall.exec toolDigests toolText toolScope) toolStart
    [.run toolRule, .arrive toolEvent]).2

/-- The signal of the tool event is adjudicated, adjudicated again, and once more with a
contradicting claim. -/
def caseHistory : List AdjudicatorEntry × IncidentAdjudicator :=
  Foundations.History.ofCalls (AdjudicatorCall.exec caseDigests)
    (IncidentAdjudicator.init caseEngine none ["PR-1"] caseClaims none)
    [.adjudicate contradictedJudgement 9, .adjudicate caseJudgement 8, .adjudicate caseJudgement 7]

lemma case_records :
    caseHistory.2.incidents.values.map (fun i => (i.incidentId, i.state, i.adjudicatedAt)) =
        [("INC-0e3bb0cbfd68b44917c79ab7363e4805", .candidate, 9),
          ("INC-a0d8f74e3f6fc5a37dcf8b76ad7c60b5", .confirmed, 7)] ∧
      (caseHistory.1.head?.bind fun e => e.before.investigations.find?
        "INV-18c91f2152cc041b5b751f2b08a856bb").map (·.openedAt) = some 7 ∧
      (caseHistory.2.investigations.find? "INV-18c91f2152cc041b5b751f2b08a856bb").map
        (·.openedAt) = some 9 := by decide +kernel

theorem case_adjudicationProtocol :
    caseHistory.2.incidents.values.map (fun i => (i.incidentId, i.state, i.adjudicatedAt)) =
        [("INC-0e3bb0cbfd68b44917c79ab7363e4805", .candidate, 9),
          ("INC-a0d8f74e3f6fc5a37dcf8b76ad7c60b5", .confirmed, 7)] ∧
      AdjudicationProtocol caseDigests caseHistory.1 caseHistory.2 :=
  ⟨case_records.1, adjudicationProtocol (Foundations.History.ofCalls_history _)⟩

/-- The first two calls alone: the second is a replay. -/
def replayHistory : List AdjudicatorEntry × IncidentAdjudicator :=
  Foundations.History.ofCalls (AdjudicatorCall.exec caseDigests)
    (IncidentAdjudicator.init caseEngine none ["PR-1"] caseClaims none)
    [.adjudicate caseJudgement 8, .adjudicate caseJudgement 7]

theorem replay_recordsKept : RecordsKept caseDigests replayHistory.1 replayHistory.2 ∧
    ∀ e ∈ replayHistory.1, KeepsRecords e.before replayHistory.2 := by
  have hlaws : RecordsKept caseDigests replayHistory.1 replayHistory.2 :=
    recordsKept (Foundations.History.ofCalls_history _)
  refine ⟨hlaws, hlaws.kept ?_⟩
  have hno : ∀ e ∈ replayHistory.1, ∀ now ∈ [(7 : Datetime), 8],
      ¬ Reopens caseDigests caseJudgement now e.before := by decide +kernel
  intro e he j now hcall
  have hmem := Foundations.History.ofCalls_call he
  rw [hcall] at hmem
  simp only [List.mem_cons, AdjudicatorCall.adjudicate.injEq, List.not_mem_nil, or_false] at hmem
  rcases hmem with ⟨rfl, rfl⟩ | ⟨rfl, rfl⟩
  · exact hno e he 8 (by simp)
  · exact hno e he 7 (by simp)

/-- The third call writes the investigation of the first again, with its own instant. -/
theorem investigation_rewritten : ¬ ∀ e ∈ caseHistory.1, KeepsRecords e.before caseHistory.2 := by
  intro hkept
  obtain ⟨-, hbefore, hafter⟩ := case_records
  obtain ⟨x, hx, hopened⟩ := Option.map_eq_some_iff.mp hbefore
  obtain ⟨e, he, hfind⟩ := Option.bind_eq_some_iff.mp hx
  have hsame := Dict.find?_of_extends (hkept e (List.mem_of_mem_head? he)).investigations hfind
  rw [hsame, Option.map_some, hopened] at hafter
  exact absurd (Option.some.inj hafter) (by decide)

end Example

end SecScanMonitor.DetectionResponse.IncidentAdjudicator
