import SecScanMonitor.DetectionResponse.Hunting
import SecScanMonitor.Domain.Atomicity

/-! What a hunt that raises leaves behind: the bindings of its hypothesis and its plan are stored before
its events are read. -/

namespace SecScanMonitor.DetectionResponse

open Foundations Domain ContinuousSecurity

section Search

variable {render : Value → String} {h : HuntHypothesis} {p : HuntPlan} {d : DetectionEngine}

/-- The stored events of the plan's scope and window. -/
def HuntPlan.eventsWithin (p : HuntPlan) (d : DetectionEngine) : List SecurityEvent :=
  ((d.events.plane.eventsOf p.scope.tenantId p.scope.caseId).filter fun event =>
    event.scope.targetId = p.scope.targetId).filter p.covers

/-- What a hunt asks of its plan and of the engine that it searches. Predicates are looked at only where the
window has an event. -/
structure Huntable (p : HuntPlan) (d : DetectionEngine) : Prop where
  readable : ∀ s ∈ d.events.scope, s = p.scope
  bounded : (p.eventsWithin d).length ≤ p.maxEvents
  query : ∃ predicates, p.eventQuery = .obj predicates ∧
    (p.eventsWithin d ≠ [] → ∀ q ∈ predicates, validatePredicate q.1 q.2 = .ok ())
  signals : ∀ v ∈ p.query.lookup "signal_ids", ∃ items, v = .arr items

def HuntPlan.predicateList (p : HuntPlan) : List (String × Value) :=
  match p.eventQuery with
  | .obj predicates => predicates
  | _ => []

def signalIdsOf (render : Value → String) (h : HuntHypothesis) (p : HuntPlan) : List String :=
  match p.query.lookup "signal_ids" with
  | none => h.supportingSignalIds
  | some (.arr items) => items.map (text render)
  | some _ => []

/-- What a hunt finds where nothing raises. -/
def findings (render : Value → String) (h : HuntHypothesis) (p : HuntPlan) (d : DetectionEngine) :
    HuntFindings where
  available := p.eventsWithin d
  events := (p.eventsWithin d).filter fun event =>
    p.predicateList.all fun q => predicateMatches render event q.1 q.2
  signals := (((d.signals.values).filter fun x => x.scope = p.scope).insertionSort
    fun a b => a.signalId ≤ b.signalId).filter fun s =>
      decide (s.signalId ∈ signalIdsOf render h p) && signalIsInWindow (p.eventsWithin d)
        (((d.signals.values).filter fun x => x.scope = p.scope).insertionSort
          fun a b => a.signalId ≤ b.signalId) s.signalId

lemma matchesEvent_eq_ok {event : SecurityEvent} {predicates : List (String × Value)} {matched : Bool} :
    (∃ fields, matchesEvent render event predicates = .ok (matched, fields)) ↔
      validatePredicates predicates = .ok () ∧
        matched = predicates.all fun q => predicateMatches render event q.1 q.2 := by
  rw [matchesEvent]
  cases validatePredicates predicates with
  | error x =>
    exact iff_of_false (fun ⟨_, hmatches⟩ => nomatch hmatches) fun ⟨hvalid, _⟩ => nomatch hvalid
  | ok u =>
    rw [ok_bind]
    cases hall : predicates.all fun q => predicateMatches render event q.1 q.2 with
    | true =>
      rw [if_pos rfl]
      constructor
      · rintro ⟨fields, hmatches⟩
        exact ⟨rfl, (Prod.mk.inj (Except.ok.inj hmatches)).1.symm⟩
      · rintro ⟨-, rfl⟩
        exact ⟨_, rfl⟩
    | false =>
      rw [if_neg Bool.false_ne_true]
      constructor
      · rintro ⟨fields, hmatches⟩
        exact ⟨rfl, (Prod.mk.inj (Except.ok.inj hmatches)).1.symm⟩
      · rintro ⟨-, rfl⟩
        exact ⟨_, rfl⟩

lemma matchingEvents_iff {predicates : List (String × Value)} {events matched : List SecurityEvent} :
    matchingEvents render predicates events = .ok matched ↔
      (events ≠ [] → validatePredicates predicates = .ok ()) ∧
        matched = events.filter fun event =>
          predicates.all fun q => predicateMatches render event q.1 q.2 := by
  induction events generalizing matched with
  | nil =>
    simp only [matchingEvents, Except.ok.injEq, ne_eq, not_true_eq_false, false_implies, true_and,
      List.filter_nil]
    exact eq_comm
  | cons event events ih =>
    constructor
    · intro hmatching
      obtain ⟨⟨found, fields⟩, hevent, hmatching⟩ := bind_eq_ok.mp hmatching
      obtain ⟨later, hlater, hmatching⟩ := bind_eq_ok.mp hmatching
      obtain ⟨hvalid, rfl⟩ := matchesEvent_eq_ok.mp ⟨fields, hevent⟩
      obtain ⟨-, rfl⟩ := ih.mp hlater
      obtain rfl := Except.ok.inj hmatching
      refine ⟨fun _ => hvalid, ?_⟩
      rw [List.filter_cons]
    · rintro ⟨hvalid, rfl⟩
      have hvalid := hvalid (List.cons_ne_nil _ _)
      obtain ⟨fields, hevent⟩ := (@matchesEvent_eq_ok render event _ _).mpr ⟨hvalid, rfl⟩
      refine bind_eq_ok.mpr ⟨_, hevent, bind_eq_ok.mpr ⟨_, ih.mpr ⟨fun _ => hvalid, rfl⟩, ?_⟩⟩
      rw [List.filter_cons]
      rfl

lemma bound_to_iff {scope : Option Scope} {s : Scope} :
    ¬ ((scope.any fun x => decide (x ≠ s)) = true) ↔ ∀ x ∈ scope, x = s := by
  rw [Bool.not_eq_true, Option.any_eq_false]
  simp

lemma predicates_iff {predicates : List (String × Value)} :
    p.predicates = .ok predicates ↔ p.eventQuery = .obj predicates := by
  rw [HuntPlan.predicates]
  split
  · rename_i members hmembers
    rw [hmembers, Except.ok.injEq, Value.obj.injEq]
  · rename_i hother
    exact iff_of_false nofun (hother predicates)

lemma requestedSignals_iff {ids : List String} : requestedSignals render h p = .ok ids ↔
    (∀ v ∈ p.query.lookup "signal_ids", ∃ items, v = .arr items) ∧ ids = signalIdsOf render h p := by
  rw [requestedSignals, signalIdsOf]
  cases p.query.lookup "signal_ids" with
  | none => simp [eq_comm]
  | some v =>
    cases v with
    | arr items => simp [eq_comm]
    | _ => exact iff_of_false nofun fun hlist => by simp at hlist

/-- A search answers exactly where it may be made, and then with what there is to find. -/
lemma search_eq_ok (hscope : ∀ s ∈ d.scope, s = p.scope) {f : HuntFindings} :
    search render h p d = .ok f ↔ Huntable p d ∧ f = findings render h p d := by
  constructor
  · intro hsearch
    obtain ⟨events, hevents, hsearch⟩ := bind_eq_ok.mp hsearch
    obtain ⟨hbounded, hsearch⟩ := raiseIf_bind_eq_ok.mp hsearch
    obtain ⟨predicates, hpredicates, hsearch⟩ := bind_eq_ok.mp hsearch
    obtain ⟨matched, hmatched, hsearch⟩ := bind_eq_ok.mp hsearch
    obtain ⟨requested, hrequested, hsearch⟩ := bind_eq_ok.mp hsearch
    obtain ⟨signals, hsignals, hsearch⟩ := bind_eq_ok.mp hsearch
    obtain ⟨s, hs, hevents⟩ := orRaise_bind_eq_ok.mp hevents
    obtain rfl := Option.some.inj hs
    obtain ⟨u, hreadable, hevents⟩ := bind_eq_ok.mp hevents
    obtain rfl := Except.ok.inj hevents
    obtain ⟨s, hs, hsignals⟩ := orRaise_bind_eq_ok.mp hsignals
    obtain rfl := Option.some.inj hs
    obtain ⟨-, -, hsignals⟩ := bind_eq_ok.mp hsignals
    obtain rfl := Except.ok.inj hsignals
    have hquery := predicates_iff.mp hpredicates
    have hlist : p.predicateList = predicates := by rw [HuntPlan.predicateList, hquery]
    obtain ⟨hvalid, rfl⟩ := matchingEvents_iff.mp hmatched
    obtain ⟨hids, rfl⟩ := requestedSignals_iff.mp hrequested
    refine ⟨⟨bound_to_iff.mp (raiseIf_eq_ok.mp hreadable), not_lt.mp hbounded,
      ⟨predicates, hquery, fun hne => validatePredicates_eq_ok.mp (hvalid hne)⟩, hids⟩, ?_⟩
    rw [findings, hlist]
    exact (Except.ok.inj hsearch).symm
  · rintro ⟨⟨hreadable, hbounded, ⟨predicates, hquery, hvalid⟩, hids⟩, rfl⟩
    have hlist : p.predicateList = predicates := by rw [HuntPlan.predicateList, hquery]
    have hevents : d.events.events (some p.scope) =
        .ok ((d.events.plane.eventsOf p.scope.tenantId p.scope.caseId).filter fun event =>
          event.scope.targetId = p.scope.targetId) :=
      orRaise_bind_eq_ok.mpr ⟨p.scope, rfl, bind_eq_ok.mpr
        ⟨(), raiseIf_eq_ok.mpr (bound_to_iff.mpr hreadable), rfl⟩⟩
    have hsignals : d.signalsOf (some p.scope) =
        .ok (((d.signals.values).filter fun x => x.scope = p.scope).insertionSort
          fun a b => a.signalId ≤ b.signalId) :=
      orRaise_bind_eq_ok.mpr ⟨p.scope, rfl, bind_eq_ok.mpr
        ⟨(), raiseIf_eq_ok.mpr (bound_to_iff.mpr hscope), rfl⟩⟩
    refine bind_eq_ok.mpr ⟨_, hevents, raiseIf_bind_eq_ok.mpr ⟨not_lt.mpr hbounded, ?_⟩⟩
    refine bind_eq_ok.mpr ⟨predicates, predicates_iff.mpr hquery, ?_⟩
    refine bind_eq_ok.mpr ⟨_, matchingEvents_iff.mpr
      ⟨fun hne => validatePredicates_eq_ok.mpr (hvalid hne), rfl⟩, ?_⟩
    refine bind_eq_ok.mpr ⟨_, requestedSignals_iff.mpr ⟨hids, rfl⟩, ?_⟩
    refine bind_eq_ok.mpr ⟨_, hsignals, ?_⟩
    rw [findings, hlist]
    rfl

end Search

namespace ThreatHuntEngine

section Failures

variable (codec : Codec) (render : Value → String) (h : HuntHypothesis) (p : HuntPlan)

/-- The engines hold the same executions, results and bindings over the same detection engine. -/
structure SameContent (engine engine' : ThreatHuntEngine) : Prop where
  detections : engine.detections = engine'.detections
  executions : ∀ k, engine.executions.find? k = engine'.executions.find? k
  results : ∀ k, engine.results.find? k = engine'.results.find? k
  planBindings : ∀ k, engine.planBindings.find? k = engine'.planBindings.find? k
  hypothesisBindings : ∀ k, engine.hypothesisBindings.find? k = engine'.hypothesisBindings.find? k

/-- The hypothesis is already bound to its content. -/
def HypothesisBound (engine : ThreatHuntEngine) : Prop :=
  engine.hypothesisBindings.find? h.hypothesisId = some (h.digest codec)

def HypothesisTaken (engine : ThreatHuntEngine) : Prop :=
  ∃ digest, engine.hypothesisBindings.find? h.hypothesisId = some digest ∧ digest ≠ h.digest codec

/-- The plan is already bound to its content. -/
def PlanBound (engine : ThreatHuntEngine) : Prop :=
  engine.planBindings.find? p.planId = some (codec.contentDigest (p.toValue codec))

def PlanTaken (engine : ThreatHuntEngine) : Prop :=
  ∃ digest, engine.planBindings.find? p.planId = some digest ∧
    digest ≠ codec.contentDigest (p.toValue codec)

/-- Under the ids of an execution and its result there is nothing, or what was found before. -/
def Unconflicted (f : HuntFindings) (engine : ThreatHuntEngine) : Prop :=
  engine.executions.find? (f.executionId codec h p) = none ∧
      engine.results.find? (f.resultId codec h p) = none ∨
    ∃ x r, engine.executions.find? (f.executionId codec h p) = some x ∧
      engine.results.find? (f.resultId codec h p) = some r ∧
      (∀ started completed, x.differs (f.execution codec h p started completed) = false) ∧
      r.differs (f.result codec h p) = false

/-- Nothing is bound before an exception, or what is bound was so before. -/
inductive Undisturbed (engine : ThreatHuntEngine) : Prop
  | scope (hscope : ¬ engine.checkScope h p = .ok ())
  | hypothesis (htaken : HypothesisTaken codec h engine)
  | plan (hbound : HypothesisBound codec h engine) (htaken : PlanTaken codec p engine)
  | bound (hhypothesis : HypothesisBound codec h engine) (hplan : PlanBound codec p engine)
  | answers (hplan : ¬ PlanTaken codec p engine) (hunt : Huntable p engine.detections)
      (hconflict : Unconflicted codec h p (findings render h p engine.detections) engine)

variable {codec render h p} {engine : ThreatHuntEngine} {started completed : Datetime}

lemma sameContent_refl (engine : ThreatHuntEngine) : SameContent engine engine :=
  ⟨rfl, fun _ => rfl, fun _ => rfl, fun _ => rfl, fun _ => rfl⟩

lemma set_same_iff {d : Dict String String} {k v : String} :
    (∀ l, (d.set k v).find? l = d.find? l) ↔ d.find? k = some v := by
  constructor
  · intro hsame
    rw [← hsame k, Dict.find?_set_self]
  · intro hk l
    rw [Dict.find?_set]
    split
    · rename_i hl
      rw [hl, hk]
    · rfl

lemma any_ne_iff {v : Option String} {digest : String} :
    (v.any fun d => decide (d ≠ digest)) = true ↔ ∃ other, v = some other ∧ other ≠ digest := by
  cases v with
  | none => simp
  | some d => simp

lemma bindHypothesis_taken (htaken : HypothesisTaken codec h engine) :
    ∃ x, bindHypothesis codec h engine = (.error x, engine) := by
  rw [bindHypothesis, if_pos (any_ne_iff.mpr htaken)]
  exact ⟨_, rfl⟩

lemma bindHypothesis_free (hfree : ¬ HypothesisTaken codec h engine) :
    bindHypothesis codec h engine = (.ok (), { engine with
      hypothesisBindings := engine.hypothesisBindings.set h.hypothesisId (h.digest codec) }) := by
  rw [bindHypothesis, if_neg (fun hany => hfree (any_ne_iff.mp hany))]

lemma bindPlan_taken (htaken : PlanTaken codec p engine) :
    ∃ x, bindPlan codec p engine = (.error x, engine) := by
  simp only [bindPlan]
  rw [if_pos (any_ne_iff.mpr htaken)]
  exact ⟨_, rfl⟩

lemma bindPlan_free (hfree : ¬ PlanTaken codec p engine) :
    bindPlan codec p engine = (.ok (), { engine with
      planBindings := engine.planBindings.set p.planId (codec.contentDigest (p.toValue codec)) }) := by
  simp only [bindPlan]
  rw [if_neg (fun hany => hfree (any_ne_iff.mp hany))]

/-- An execution's times are not compared. -/
lemma differs_times {x : HuntExecution} {f : HuntFindings} (started' completed' : Datetime) :
    x.differs (f.execution codec h p started completed) =
      x.differs (f.execution codec h p started' completed') := rfl

lemma record_cases (f : HuntFindings) : (∃ r engine', record codec h p f started completed engine =
      (.ok r, engine') ∧ Unconflicted codec h p f engine) ∨
    ∃ x, record codec h p f started completed engine = (.error x, engine) ∧
      ¬ Unconflicted codec h p f engine := by
  have hids : (f.execution codec h p started completed).executionId = f.executionId codec h p ∧
      (f.result codec h p).resultId = f.resultId codec h p := ⟨rfl, rfl⟩
  rw [record, Unconflicted]
  simp only [hids.1, hids.2]
  cases hx : engine.executions.find? (f.executionId codec h p) with
  | none =>
    cases hr : engine.results.find? (f.resultId codec h p) with
    | none => exact Or.inl ⟨_, _, rfl, Or.inl ⟨rfl, rfl⟩⟩
    | some r => exact Or.inr ⟨_, rfl, by simp⟩
  | some x =>
    cases hr : engine.results.find? (f.resultId codec h p) with
    | none => exact Or.inr ⟨_, rfl, by simp⟩
    | some r =>
      simp only
      by_cases hdiffers : (x.differs (f.execution codec h p started completed) ||
          r.differs (f.result codec h p)) = true
      · rw [if_pos hdiffers]
        refine Or.inr ⟨_, rfl, ?_⟩
        rintro (⟨hnone, -⟩ | ⟨x', r', hx', hr', hexecution, hresult⟩)
        · cases hnone
        · obtain rfl := Option.some.inj hx'
          obtain rfl := Option.some.inj hr'
          rw [hexecution, hresult] at hdiffers
          cases hdiffers
      · rw [if_neg hdiffers]
        rw [Bool.not_eq_true, Bool.or_eq_false_iff] at hdiffers
        refine Or.inl ⟨_, _, rfl, Or.inr ⟨x, r, rfl, rfl, fun started' completed' => ?_, hdiffers.2⟩⟩
        rw [differs_times started completed]
        exact hdiffers.1

variable (codec h engine) in
/-- The engine once the hypothesis is bound. -/
def withHypothesis : ThreatHuntEngine :=
  { engine with
    hypothesisBindings := engine.hypothesisBindings.set h.hypothesisId (h.digest codec) }

variable (codec h p engine) in
/-- The engine once the hypothesis and the plan are bound. -/
def withBindings : ThreatHuntEngine :=
  { withHypothesis codec h engine with
    planBindings := engine.planBindings.set p.planId (codec.contentDigest (p.toValue codec)) }

lemma sameContent_withHypothesis :
    SameContent (withHypothesis codec h engine) engine ↔ HypothesisBound codec h engine :=
  ⟨fun hsame => set_same_iff.mp hsame.hypothesisBindings,
    fun hbound => { sameContent_refl engine with hypothesisBindings := set_same_iff.mpr hbound }⟩

lemma sameContent_withBindings : SameContent (withBindings codec h p engine) engine ↔
    HypothesisBound codec h engine ∧ PlanBound codec p engine :=
  ⟨fun hsame => ⟨set_same_iff.mp hsame.hypothesisBindings, set_same_iff.mp hsame.planBindings⟩,
    fun hbound => { sameContent_refl engine with
      hypothesisBindings := set_same_iff.mpr hbound.1
      planBindings := set_same_iff.mpr hbound.2 }⟩

lemma not_taken_of_bound (hbound : HypothesisBound codec h engine) : ¬ HypothesisTaken codec h engine := by
  rintro ⟨digest, hdigest, hne⟩
  exact hne (Option.some.inj (hdigest.symm.trans hbound))

lemma not_planTaken_of_bound (hbound : PlanBound codec p engine) : ¬ PlanTaken codec p engine := by
  rintro ⟨digest, hdigest, hne⟩
  exact hne (Option.some.inj (hdigest.symm.trans hbound))

lemma scope_of_check (hscope : engine.checkScope h p = .ok ()) :
    ∀ s ∈ engine.detections.scope, s = p.scope := by
  have hnone := raiseIf_eq_ok.mp hscope
  rw [not_or, not_or] at hnone
  exact bound_to_iff.mp hnone.2.2

variable (render started completed) in
/-- A run whose bindings go through raises, with both of them stored, or it answers. -/
lemma run_bound (hscope : engine.checkScope h p = .ok ()) (hhypothesis : ¬ HypothesisTaken codec h engine)
    (hplan : ¬ PlanTaken codec p engine) :
    ((∃ r engine', run codec render h p started completed engine = (.ok r, engine')) ∧
        Huntable p engine.detections ∧
        Unconflicted codec h p (findings render h p engine.detections) engine) ∨
      (∃ x, run codec render h p started completed engine = (.error x, withBindings codec h p engine)) ∧
        ¬ (Huntable p engine.detections ∧
          Unconflicted codec h p (findings render h p engine.detections) engine) := by
  have hbegin : begin codec h p engine = (.ok (), withBindings codec h p engine) := by
    have hbindPlan : ¬ PlanTaken codec p (withHypothesis codec h engine) := hplan
    rw [begin, hscope]
    simp only
    rw [bindHypothesis_free hhypothesis]
    exact bindPlan_free hbindPlan
  cases hsearch : search render h p engine.detections with
  | error x =>
    have hrun : run codec render h p started completed engine = (.error x, withBindings codec h p engine) := by
      have hsearch' : search render h p (withBindings codec h p engine).detections = .error x := hsearch
      rw [run, hbegin]
      simp only [hsearch']
    refine Or.inr ⟨⟨x, hrun⟩, fun hanswers => ?_⟩
    have hok := (@search_eq_ok render h _ _ (scope_of_check hscope) _).mpr ⟨hanswers.1, rfl⟩
    rw [hsearch] at hok
    cases hok
  | ok f =>
    have hrun : run codec render h p started completed engine =
        record codec h p f started completed (withBindings codec h p engine) := by
      have hsearch' : search render h p (withBindings codec h p engine).detections = .ok f := hsearch
      rw [run, hbegin]
      simp only [hsearch']
    obtain ⟨hunt, rfl⟩ := (search_eq_ok (scope_of_check hscope)).mp hsearch
    rcases @record_cases codec h p (withBindings codec h p engine) started completed
      (findings render h p engine.detections) with ⟨r, engine', hrecord, hconflict⟩ | ⟨x, hrecord, hconflict⟩
    · exact Or.inl ⟨⟨r, engine', hrun.trans hrecord⟩, hunt, hconflict⟩
    · exact Or.inr ⟨⟨x, hrun.trans hrecord⟩, fun hanswers => hconflict hanswers.2⟩

/-- A run that raises leaves the engine as it was exactly where nothing is bound before the exception that
was not bound to the same content already. -/
theorem run_unharmed_iff (codec : Codec) (render : Value → String) (h : HuntHypothesis) (p : HuntPlan)
    (started completed : Datetime) (engine : ThreatHuntEngine) :
    Effect.Unharmed SameContent (run codec render h p started completed) engine ↔
      Undisturbed codec render h p engine := by
  by_cases hscope : engine.checkScope h p = .ok ()
  swap
  · obtain ⟨x, hx⟩ : ∃ x, engine.checkScope h p = .error x := by
      cases hcheck : engine.checkScope h p with
      | error x => exact ⟨x, rfl⟩
      | ok u => exact absurd hcheck hscope
    have hrun : run codec render h p started completed engine = (.error x, engine) := by
      rw [run, begin, hx]
    exact iff_of_true (Effect.unharmed_of_kept sameContent_refl hrun) (.scope hscope)
  by_cases hhypothesis : HypothesisTaken codec h engine
  · obtain ⟨x, hx⟩ := bindHypothesis_taken hhypothesis
    have hrun : run codec render h p started completed engine = (.error x, engine) := by
      rw [run, begin, hscope]
      simp only [hx]
    exact iff_of_true (Effect.unharmed_of_kept sameContent_refl hrun) (.hypothesis hhypothesis)
  by_cases hplan : PlanTaken codec p engine
  · have hplan' : PlanTaken codec p (withHypothesis codec h engine) := hplan
    obtain ⟨x, hx⟩ := bindPlan_taken hplan'
    have hrun : run codec render h p started completed engine =
        (.error x, withHypothesis codec h engine) := by
      rw [withHypothesis] at hx
      rw [run, begin, hscope]
      simp only
      rw [bindHypothesis_free hhypothesis]
      simp only [hx]
      rfl
    rw [Effect.unharmed_error hrun, sameContent_withHypothesis]
    constructor
    · exact fun hbound => .plan hbound hplan
    · intro hkept
      cases hkept with
      | scope hnot => exact absurd hscope hnot
      | hypothesis htaken => exact absurd htaken hhypothesis
      | plan hbound _ => exact hbound
      | bound hbound _ => exact hbound
      | answers hfree _ _ => exact absurd hplan hfree
  · rcases run_bound render started completed hscope hhypothesis hplan with
      ⟨⟨r, engine', hrun⟩, hunt, hconflict⟩ | ⟨⟨x, hrun⟩, hraises⟩
    · exact iff_of_true (Effect.unharmed_of_ok hrun) (.answers hplan hunt hconflict)
    · rw [Effect.unharmed_error hrun, sameContent_withBindings]
      constructor
      · exact fun hbound => .bound hbound.1 hbound.2
      · intro hkept
        cases hkept with
        | scope hnot => exact absurd hscope hnot
        | hypothesis htaken => exact absurd htaken hhypothesis
        | plan _ htaken => exact absurd htaken hplan
        | bound hbound hplanBound => exact ⟨hbound, hplanBound⟩
        | answers _ hunt hconflict => exact absurd ⟨hunt, hconflict⟩ hraises

end Failures

section Example

def malformedScope : Scope := ⟨"CL-1", "EN-1", "TG-1", sampleNames_nonblank⟩

def malformedHypothesis : HuntHypothesis where
  hypothesisId := "HH-1"
  scope := malformedScope
  question := "was a tool invoked?"
  entityKeys := ["svc"]
  supportingSignalIds := []
  requiredEvidenceRefs := []
  createdAt := 0
  nonblank := by decide

/-- A plan whose event query is no mapping. -/
def malformedPlan : HuntPlan where
  planId := "HP-1"
  hypothesisId := "HH-1"
  scope := malformedScope
  windowStart := 0
  windowEnd := 0
  query := [("event", .str "invoke")]
  exitCriteria := "one match"
  maxEvents := 500
  nonblank := by decide
  window := by decide
  bounded := by decide

/-- A hunt engine over no events. -/
def idleEngine : ThreatHuntEngine :=
  init (DetectionEngine.init ⟨SecurityEventPlane.empty, some malformedScope⟩ none fun n => n)

/-- The malformed query is refused, and the hypothesis and the plan stay bound. -/
theorem malformed_plan_bound : ¬ ∀ (codec : Codec) (render : Value → String) (h : HuntHypothesis)
    (p : HuntPlan) (started completed : Datetime) (engine : ThreatHuntEngine),
    Effect.Unharmed SameContent (run codec render h p started completed) engine := by
  intro hall
  let codec : Codec := ⟨fun _ => "5f", fun _ => "", fun _ => ""⟩
  have hraised : (run codec (fun _ => "") malformedHypothesis malformedPlan 0 0 idleEngine).1 =
      raise .detectionInputError "hunt event query must be a mapping" := rfl
  have hsame := (hall codec (fun _ => "") malformedHypothesis malformedPlan 0 0 idleEngine _ hraised).planBindings
    "HP-1"
  have hbound : (run codec (fun _ => "") malformedHypothesis malformedPlan 0 0 idleEngine).2.planBindings.find?
      "HP-1" = some "5f" := by decide +kernel
  rw [hbound] at hsame
  cases hsame

end Example

end ThreatHuntEngine

end SecScanMonitor.DetectionResponse
