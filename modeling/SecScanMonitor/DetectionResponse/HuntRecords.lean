import SecScanMonitor.DetectionResponse.Growth
import SecScanMonitor.DetectionResponse.Hunting

/-! What a hunt finds, as the detector grows: findings of one identity differ only in the events of the
window that do not match, which a refutation refers to. -/

namespace SecScanMonitor.DetectionResponse

open Foundations Domain ContinuousSecurity

/-- The messages of an identity that is reused. -/
def reuseMessages : List String :=
  ["hunt hypothesis identity was reused for different content",
    "hunt plan identity was reused for different content",
    "hunt execution identity was reused for different content",
    "hunt execution identity has incomplete canonical state"]

def IdentityReuse (x : Raised) : Prop := x.message ∈ reuseMessages

instance (x : Raised) : Decidable (IdentityReuse x) := by
  unfold IdentityReuse
  infer_instance

/-- What a search raises is neither a refusal of permission nor the reuse of an identity. -/
def SearchFailure (x : Raised) : Prop := x.kind ≠ .permissionError ∧ ¬ IdentityReuse x

instance (x : Raised) : Decidable (SearchFailure x) := by
  unfold SearchFailure
  infer_instance

section Errors

variable {codec : Codec} {render : Value → String} {h : HuntHypothesis} {p : HuntPlan}

lemma validatePredicates_raises (predicates : List (String × Value)) :
    Raises SearchFailure (validatePredicates predicates) := by
  induction predicates with
  | nil => exact Raises.ok ()
  | cons predicate predicates ih =>
    refine Raises.bind ?_ fun _ _ => ih
    refine Raises.bind (Raises.raiseIf (by decide)) fun _ _ => ?_
    refine Raises.bind (Raises.raiseIf (by decide)) fun _ _ => ?_
    split
    · exact Raises.raise (by decide)
    · exact Raises.raiseIf (by decide)
    · exact Raises.raiseIf (by decide)

lemma matchesEvent_raises (event : SecurityEvent) (predicates : List (String × Value)) :
    Raises SearchFailure (matchesEvent render event predicates) := by
  refine Raises.bind (validatePredicates_raises predicates) fun _ _ => ?_
  split
  · exact Raises.ok _
  · exact Raises.ok _

lemma matchingEvents_raises (predicates : List (String × Value)) (events : List SecurityEvent) :
    Raises SearchFailure (matchingEvents render predicates events) := by
  induction events with
  | nil => exact Raises.ok _
  | cons event events ih =>
    refine Raises.bind (matchesEvent_raises event predicates) fun _ _ => ?_
    exact Raises.bind ih fun _ _ => Raises.ok _

lemma search_raises (detections : DetectionEngine) :
    Raises SearchFailure (search render h p detections) := by
  refine Raises.bind ?_ fun events _ => ?_
  · refine Raises.bind (Raises.orRaise (by decide)) fun _ _ => ?_
    exact Raises.bind (Raises.raiseIf (by decide)) fun _ _ => Raises.ok _
  refine Raises.bind (Raises.raiseIf (by decide)) fun _ _ => ?_
  refine Raises.bind ?_ fun predicates _ => ?_
  · rw [HuntPlan.predicates]
    split
    · exact Raises.ok _
    · exact Raises.raise (by decide)
  refine Raises.bind (matchingEvents_raises predicates _) fun _ _ => ?_
  refine Raises.bind ?_ fun _ _ => ?_
  · rw [requestedSignals]
    split
    · exact Raises.ok _
    · exact Raises.ok _
    · exact Raises.raise (by decide)
  refine Raises.bind ?_ fun _ _ => Raises.ok _
  refine Raises.bind (Raises.orRaise (by decide)) fun _ _ => ?_
  exact Raises.bind (Raises.raiseIf (by decide)) fun _ _ => Raises.ok _

end Errors

section Findings

variable {codec : Codec} {render : Value → String} {h : HuntHypothesis} {p : HuntPlan}
  {d d' : DetectionEngine} {f f' : HuntFindings}

lemma matchingEvents_eq_ok {predicates : List (String × Value)} {events matched : List SecurityEvent}
    (hm : matchingEvents render predicates events = .ok matched) :
    (∀ e ∈ matched, e ∈ events) ∧
      (matched = [] ↔ ∀ e ∈ events, ∃ fields, matchesEvent render e predicates = .ok (false, fields)) := by
  induction events generalizing matched with
  | nil =>
    obtain rfl := Except.ok.inj hm
    exact ⟨by simp, by simp⟩
  | cons event events ih =>
    obtain ⟨⟨matches', fields⟩, hevent, hm⟩ := bind_eq_ok.mp hm
    obtain ⟨later, hlater, hm⟩ := bind_eq_ok.mp hm
    obtain ⟨hsub, hempty⟩ := ih hlater
    obtain rfl := Except.ok.inj hm
    cases matches' with
    | true =>
      refine ⟨?_, ?_⟩
      · intro e he
        rcases List.mem_cons.mp he with rfl | he
        · exact List.mem_cons_self
        · exact List.mem_cons_of_mem event (hsub e he)
      · simp [hevent]
    | false =>
      refine ⟨fun e he => List.mem_cons_of_mem event (hsub e he), ?_⟩
      simp only [Bool.false_eq_true, if_false, hempty, List.mem_cons, forall_eq_or_imp, hevent]
      constructor
      · exact fun hall => ⟨⟨fields, rfl⟩, hall⟩
      · exact fun hall => hall.2

/-- The events and the signals that a hunt finds are stored, under their ids. -/
lemma search_stored (hkeyed : Keyed d) (hs : search render h p d = .ok f) :
    (∀ e ∈ f.events, d.events.plane.events.find? e.eventId = some e) ∧
      ∀ x ∈ f.signals, d.signals.find? x.signalId = some x := by
  obtain ⟨events, hevents, hs⟩ := bind_eq_ok.mp hs
  obtain ⟨-, hs⟩ := raiseIf_bind_eq_ok.mp hs
  obtain ⟨predicates, -, hs⟩ := bind_eq_ok.mp hs
  obtain ⟨matched, hmatched, hs⟩ := bind_eq_ok.mp hs
  obtain ⟨requested, -, hs⟩ := bind_eq_ok.mp hs
  obtain ⟨signals, hsignals, hs⟩ := bind_eq_ok.mp hs
  obtain rfl := Except.ok.inj hs
  constructor
  · intro e he
    have havailable := (matchingEvents_eq_ok hmatched).1 e he
    have hread := (List.mem_filter.mp havailable).1
    obtain ⟨⟨k, hk⟩, -⟩ := (BoundedSecurityEventIngestor.mem_events hevents).mp hread
    rw [hkeyed.events k e hk]
    exact hk
  · intro x hx
    obtain ⟨s, -, hsignals⟩ := orRaise_bind_eq_ok.mp hsignals
    obtain ⟨-, -, hsignals⟩ := bind_eq_ok.mp hsignals
    have hread := (List.mem_filter.mp hx).1
    rw [← Except.ok.inj hsignals, List.mem_insertionSort, List.mem_filter] at hread
    obtain ⟨k, hk⟩ := Dict.mem_values_iff_find?.mp hread.1
    rw [hkeyed.signals k x hk]
    exact hk

/-- The ids tell what was found, in every detector that the two have grown into. -/
lemma found_of_ids {now : DetectionEngine} (hkeyed : Keyed d) (hkeyed' : Keyed d')
    (hgrown : Grown d now) (hgrown' : Grown d' now) (hs : search render h p d = .ok f)
    (hs' : search render h p d' = .ok f') (hevents : f.eventIds = f'.eventIds)
    (hsignals : f.signalIds = f'.signalIds) : f.events = f'.events ∧ f.signals = f'.signals := by
  obtain ⟨hstored, hstoredSignals⟩ := search_stored hkeyed hs
  obtain ⟨hstored', hstoredSignals'⟩ := search_stored hkeyed' hs'
  constructor
  · apply eq_of_map_eq hevents
    intro e he e' he' hid
    have hfind := Dict.find?_of_extends hgrown.events (hstored e he)
    rw [hid, Dict.find?_of_extends hgrown'.events (hstored' e' he')] at hfind
    exact (Option.some.inj hfind).symm
  · apply eq_of_map_eq hsignals
    intro x hx x' hx' hid
    have hfind := Dict.find?_of_extends hgrown.signals (hstoredSignals x hx)
    rw [hid, Dict.find?_of_extends hgrown'.signals (hstoredSignals' x' hx')] at hfind
    exact (Option.some.inj hfind).symm

namespace HuntFindings

lemma disposition_refutes_iff : f.disposition = .refutes ↔ f.events = [] ∧ f.signals = [] := by
  rw [disposition, eventIds, signalIds]
  by_cases hfound : f.events.map (·.eventId) ≠ [] ∨ f.signals.map (·.signalId) ≠ []
  · rw [if_pos hfound]
    simp only [ne_eq, List.map_eq_nil_iff] at hfound
    simp only [reduceCtorEq, false_iff, not_and_or]
    exact hfound
  · rw [if_neg hfound]
    simpa using hfound

lemma disposition_eq (hevents : f.events = f'.events) (hsignals : f.signals = f'.signals) :
    f.disposition = f'.disposition := by
  rw [disposition, disposition, eventIds, eventIds, signalIds, signalIds, hevents, hsignals]

lemma execution_eq (hevents : f.events = f'.events) (hsignals : f.signals = f'.signals)
    (started completed : Datetime) :
    f.execution codec h p started completed = f'.execution codec h p started completed := by
  simp only [execution, executionId, resultId, identity, eventIds, signalIds, hevents, hsignals]

lemma result_eq_iff (hevents : f.events = f'.events) (hsignals : f.signals = f'.signals) :
    f.result codec h p = f'.result codec h p ↔
      (f.disposition = .refutes → f.availableRefs = f'.availableRefs) := by
  have hdisposition := disposition_eq hevents hsignals
  simp only [result, executionId, resultId, identity, eventIds, signalIds, evidenceRefs, hevents,
    hsignals, hdisposition, HuntResult.mk.injEq, true_and, and_true]
  by_cases hrefutes : f'.disposition = .supports
  · simp [hrefutes]
  · have hcases : f'.disposition = .refutes := by
      rw [disposition] at hrefutes ⊢
      split at hrefutes
      · exact absurd rfl hrefutes
      · rename_i hnone
        rw [if_neg hnone]
    simp [hcases]

lemma refutingRefs_of_refutes (hrefutes : f.disposition = .refutes) :
    (f.result codec h p).refutingEvidenceRefs = f.availableRefs := by
  rw [result, hrefutes]
  rfl

/-- What found nothing is of one execution. -/
lemma executionId_of_refutes (hrefutes : f.disposition = .refutes)
    (hrefutes' : f'.disposition = .refutes) :
    f.executionId codec h p = f'.executionId codec h p := by
  obtain ⟨hevents, hsignals⟩ := disposition_refutes_iff.mp hrefutes
  obtain ⟨hevents', hsignals'⟩ := disposition_refutes_iff.mp hrefutes'
  simp only [executionId, identity, eventIds, signalIds, hevents, hsignals, hevents', hsignals']

/-- Among findings of the same events and signals the comparison of a replay is equality. -/
lemma result_differs (hevents : f.events = f'.events) (hsignals : f.signals = f'.signals) :
    (f.result codec h p).differs (f'.result codec h p) =
      decide (f.result codec h p ≠ f'.result codec h p) := by
  have hdisposition := disposition_eq hevents hsignals
  rw [Bool.eq_iff_iff, decide_eq_true_eq, ne_eq, HuntResult.mk.injEq]
  simp [HuntResult.differs, result, executionId, resultId, identity, eventIds, signalIds,
    evidenceRefs, hdisposition, hevents, hsignals]

end HuntFindings

end Findings

end SecScanMonitor.DetectionResponse
