import SecScanMonitor.DetectionResponse.HuntRecords
import SecScanMonitor.Persistence.HuntProtocol

/-! One hypothesis and its plan are hunted again and again while events arrive, by the same engine or
by new ones, and what is found is saved. -/

namespace SecScanMonitor.Persistence

open Foundations Domain DetectionResponse ContinuousSecurity ThreatHuntEngine

/-- A hunt engine, what hunts have found so far, and the repository. -/
structure Hunting where
  engine : ThreatHuntEngine
  found : List (HuntExecution × HuntResult)
  db : Database

/-- Events arrive and rules are run; a new engine takes over the detector; the plan is hunted; the
repository is called. -/
inductive HuntingCall where
  | detect (call : DetectionCall)
  | restart
  | hunt (started completed : Datetime)
  | store (now : Datetime) (call : HuntCall)

inductive HuntingAnswer where
  | done
  | hunted (r : Except Raised (HuntExecution × HuntResult))
  | stored (r : Except Raised Bool)

/-- What is saved was found by a hunt. -/
def HuntCall.backed (found : List (HuntExecution × HuntResult)) : HuntCall → Prop
  | .save execution result _ => (execution, result) ∈ found
  | _ => True

instance (found : List (HuntExecution × HuntResult)) (call : HuntCall) :
    Decidable (call.backed found) := by
  cases call <;> unfold HuntCall.backed <;> infer_instance

section System

variable (codec : Codec) (render : Value → String) (secretLike : Value → Bool) (h : HuntHypothesis)
  (p : HuntPlan)

def HuntingCall.exec : HuntingCall → Hunting → HuntingAnswer × Hunting
  | .detect call, s =>
    let detections := (call.exec codec render p.scope s.engine.detections).2
    (.done, { s with engine := { s.engine with detections } })
  | .restart, s => (.done, { s with engine := ThreatHuntEngine.init s.engine.detections })
  | .hunt started completed, s =>
    match ThreatHuntEngine.hunt codec render h p started completed s.engine with
    | (.ok found, engine) => (.hunted (.ok found), { s with engine, found := found :: s.found })
    | (.error e, engine) => (.hunted (.error e), { s with engine })
  | .store now call, s =>
    if call.backed s.found then
      let r := HuntCall.exec codec secretLike (now, call) s.db
      (.stored r.1, { s with db := r.2 })
    else (.done, s)

abbrev HuntingEntry := Entry HuntingCall Hunting HuntingAnswer

/-- The findings of the hunts that were possible so far. -/
def Searched (es : List HuntingEntry) (s : Hunting) (f : HuntFindings) : Prop :=
  ∃ x, (x = s ∨ ∃ e ∈ es, x = e.before) ∧ search render h p x.engine.detections = .ok f

/-- The documents whose digests name executions and results. -/
inductive HuntDigested (searched : HuntFindings → Prop) : Value → Prop
  | execution {f : HuntFindings} : searched f → HuntDigested searched (.arr (f.identity codec h p))
  | result {f : HuntFindings} : searched f →
      HuntDigested searched (.arr [.str (f.executionId codec h p)])

lemma HuntDigested.mono {codec : Codec} {h : HuntHypothesis} {p : HuntPlan}
    {searched searched' : HuntFindings → Prop} (hle : ∀ f, searched f → searched' f) {v : Value}
    (hv : HuntDigested codec h p searched v) : HuntDigested codec h p searched' v := by
  cases hv with
  | execution hf => exact .execution (hle _ hf)
  | result hf => exact .result (hle _ hf)

def HuntCollisionFree (searched : HuntFindings → Prop) : Prop :=
  ∀ a b, HuntDigested codec h p searched a → HuntDigested codec h p searched b →
    shortDigest codec a = shortDigest codec b → a = b

/-- A result that the engine or the repository holds. -/
def Hunting.Stored (s : Hunting) (r : HuntResult) : Prop :=
  (∃ id, s.engine.results.find? id = some r) ∨ ∃ x ∈ s.db.huntExecutions, x.result = r

/-- The hunt of the plan finds nothing among the events of the window. -/
structure FindsNothing (d : DetectionEngine) (window : List SecurityEvent) : Prop where
  scope : h.hypothesisId = p.hypothesisId ∧ h.scope = p.scope ∧ ∀ s ∈ d.scope, s = p.scope
  read : ∃ events, d.events.events (some p.scope) = .ok events ∧ window = events.filter p.covers
  bounded : window.length ≤ p.maxEvents
  events : ∃ predicates, p.predicates = .ok predicates ∧
    ∀ e ∈ window, ∃ fields, matchesEvent render e predicates = .ok (false, fields)
  signals : ∃ requested signals, requestedSignals render h p = .ok requested ∧
    d.signalsOf (some p.scope) = .ok signals ∧
    ∀ x ∈ signals, x.signalId ∈ requested → signalIsInWindow window signals x.signalId = false

def refsOf (window : List SecurityEvent) : List String :=
  (window.map (·.rawEvidenceRef)).insertionSort (· ≤ ·)

/-- A hunt or a save that fails does not fail over a reused identity, and a result that differs from a
stored one has another execution. -/
def Stable (e : HuntingEntry) : Prop :=
  match e.call, e.outcome with
  | .hunt _ _, .hunted (.error x) => ¬ IdentityReuse x
  | .hunt _ _, .hunted (.ok (_, r)) => ∀ r', e.before.Stored r' → r'.executionId = r.executionId → r' = r
  | .store _ (.save _ _ _), .stored (.error x) => ¬ IdentityReuse x
  | _, _ => True

/-- A hunt that finds nothing has the window of every stored result that found nothing, and a result
that found nothing is saved only beside such results of the same window. -/
def Steady (e : HuntingEntry) : Prop :=
  match e.call with
  | .hunt _ _ => ∀ window, FindsNothing render h p e.before.engine.detections window →
      ∀ r, e.before.Stored r → r.disposition = .refutes → r.refutingEvidenceRefs = refsOf window
  | .store now (.save execution result workerId) =>
      (execution, result) ∈ e.before.found →
      (admitHunt now execution workerId e.before.db).isOk = true →
      result.disposition = .refutes → ∀ x ∈ e.before.db.huntExecutions,
        x.result.disposition = .refutes → x.result.refutingEvidenceRefs = result.refutingEvidenceRefs
  | _ => True

end System

section Search

variable {render : Value → String} {h : HuntHypothesis} {p : HuntPlan} {engine : ThreatHuntEngine}

lemma checkScope_eq_ok : engine.checkScope h p = .ok () ↔
    h.hypothesisId = p.hypothesisId ∧ h.scope = p.scope ∧ ∀ s ∈ engine.detections.scope, s = p.scope := by
  rw [checkScope, raiseIf_eq_ok, not_or, not_or, not_not, not_not, Bool.not_eq_true,
    Option.any_eq_false]
  simp

lemma findsNothing_iff {window : List SecurityEvent} :
    FindsNothing render h p engine.detections window ↔
      engine.checkScope h p = .ok () ∧
        search render h p engine.detections = .ok ⟨window, [], []⟩ := by
  rw [checkScope_eq_ok]
  constructor
  · rintro ⟨hscope, ⟨events, hevents, rfl⟩, hbounded, ⟨predicates, hpredicates, hnone⟩, requested,
      signals, hrequested, hsignals, hnoSignal⟩
    have hmatched : matchingEvents render predicates (events.filter p.covers) = .ok [] := by
      generalize events.filter p.covers = window at hnone
      induction window with
      | nil => rfl
      | cons e window ih =>
        obtain ⟨fields, he⟩ := hnone e List.mem_cons_self
        rw [matchingEvents, he, ok_bind, ih fun x hx => hnone x (List.mem_cons_of_mem e hx)]
        rfl
    refine ⟨hscope, bind_eq_ok.mpr ⟨events, hevents, raiseIf_bind_eq_ok.mpr ⟨not_lt.mpr hbounded,
      bind_eq_ok.mpr ⟨predicates, hpredicates, bind_eq_ok.mpr ⟨[], hmatched, bind_eq_ok.mpr
        ⟨requested, hrequested, bind_eq_ok.mpr ⟨signals, hsignals, ?_⟩⟩⟩⟩⟩⟩⟩
    have hfilter : (signals.filter fun s => decide (s.signalId ∈ requested) &&
        signalIsInWindow (events.filter p.covers) signals s.signalId) = [] := by
      apply List.filter_eq_nil_iff.mpr
      intro x hx hin
      rw [Bool.and_eq_true, decide_eq_true_eq] at hin
      rw [hnoSignal x hx hin.1] at hin
      exact absurd hin.2 Bool.false_ne_true
    rw [hfilter]
    rfl
  · rintro ⟨hscope, hs⟩
    obtain ⟨events, hevents, hs⟩ := bind_eq_ok.mp hs
    obtain ⟨hbounded, hs⟩ := raiseIf_bind_eq_ok.mp hs
    obtain ⟨predicates, hpredicates, hs⟩ := bind_eq_ok.mp hs
    obtain ⟨matched, hmatched, hs⟩ := bind_eq_ok.mp hs
    obtain ⟨requested, hrequested, hs⟩ := bind_eq_ok.mp hs
    obtain ⟨signals, hsignals, hs⟩ := bind_eq_ok.mp hs
    obtain ⟨rfl, rfl, hfilter⟩ := HuntFindings.mk.inj (Except.ok.inj hs)
    refine ⟨hscope, ⟨events, hevents, rfl⟩, not_lt.mp hbounded,
      ⟨predicates, hpredicates, (matchingEvents_eq_ok hmatched).2.mp rfl⟩, requested, signals,
      hrequested, hsignals, ?_⟩
    intro x hx hin
    have hout := List.filter_eq_nil_iff.mp hfilter x hx
    rw [decide_eq_true hin, Bool.true_and, Bool.not_eq_true] at hout
    exact hout

end Search

section Records

variable (codec : Codec) (render : Value → String) (h : HuntHypothesis) (p : HuntPlan)
  (searched : HuntFindings → Prop)

/-- The searched findings come from detectors that have grown into this one. -/
def Readable (now : DetectionEngine) : Prop :=
  ∀ f, searched f → ∃ d, Keyed d ∧ Grown d now ∧ search render h p d = .ok f

/-- Whatever is stored is what some hunt found. -/
structure Recorded (s : Hunting) : Prop where
  executions : ∀ id x, s.engine.executions.find? id = some x → ∃ f a b, searched f ∧
    x = f.execution codec h p a b ∧ id = f.executionId codec h p
  results : ∀ id r, s.engine.results.find? id = some r → ∃ f, searched f ∧
    r = f.result codec h p ∧ id = f.resultId codec h p
  resulted : ∀ id, (s.engine.executions.find? id).isSome →
    (s.engine.results.find? (stableId codec "HUNT-RESULT-" [.str id])).isSome
  executed : ∀ id r, s.engine.results.find? id = some r →
    (s.engine.executions.find? r.executionId).isSome
  found : ∀ x r, (x, r) ∈ s.found → ∃ f a b, searched f ∧ x = f.execution codec h p a b ∧
    r = f.result codec h p
  rows : ∀ row ∈ s.db.huntExecutions, ∃ f a b, searched f ∧
    row = ⟨f.execution codec h p a b, h.hypothesisId, f.result codec h p⟩
  hypothesis : ∀ d ∈ s.engine.hypothesisBindings.find? h.hypothesisId, d = h.digest codec
  plan : ∀ d ∈ s.engine.planBindings.find? p.planId, d = codec.contentDigest (p.toValue codec)

variable {codec render h p searched} {searched' : HuntFindings → Prop} {s : Hunting}

lemma Recorded.stored (hs : Recorded codec h p searched s) {r : HuntResult} (hr : s.Stored r) :
    ∃ f, searched f ∧ r = f.result codec h p := by
  rcases hr with ⟨id, hid⟩ | ⟨row, hrow, rfl⟩
  · obtain ⟨f, hf, heq, -⟩ := hs.results id r hid
    exact ⟨f, hf, heq⟩
  · obtain ⟨f, a, b, hf, rfl⟩ := hs.rows row hrow
    exact ⟨f, hf, rfl⟩

lemma Recorded.mono (hs : Recorded codec h p searched s) (hle : ∀ f, searched f → searched' f) :
    Recorded codec h p searched' s where
  executions id x hx := by
    obtain ⟨f, a, b, hf, heq⟩ := hs.executions id x hx
    exact ⟨f, a, b, hle f hf, heq⟩
  results id r hr := by
    obtain ⟨f, hf, heq⟩ := hs.results id r hr
    exact ⟨f, hle f hf, heq⟩
  resulted := hs.resulted
  executed := hs.executed
  found x r hxr := by
    obtain ⟨f, a, b, hf, heq⟩ := hs.found x r hxr
    exact ⟨f, a, b, hle f hf, heq⟩
  rows row hrow := by
    obtain ⟨f, a, b, hf, heq⟩ := hs.rows row hrow
    exact ⟨f, a, b, hle f hf, heq⟩
  hypothesis := hs.hypothesis
  plan := hs.plan

section Identity

variable (hfree : HuntCollisionFree codec h p searched) {now : DetectionEngine}
  (hread : Readable render h p searched now) {f f' : HuntFindings} (hf : searched f)
  (hf' : searched f')

include hfree hf hf'

lemma executionId_of_resultId (hid : f.resultId codec h p = f'.resultId codec h p) :
    f.executionId codec h p = f'.executionId codec h p := by
  have hdoc := hfree _ _ (.result hf) (.result hf') (shortDigest_of_stableId hid)
  exact Value.str.inj (List.cons.inj (Value.arr.inj hdoc)).1

include hread

lemma found_of_executionId (hid : f.executionId codec h p = f'.executionId codec h p) :
    f.events = f'.events ∧ f.signals = f'.signals := by
  have hdoc := hfree _ _ (.execution hf) (.execution hf') (shortDigest_of_stableId hid)
  simp only [HuntFindings.identity, Value.arr.injEq, List.cons.injEq, true_and, and_true] at hdoc
  have hstr : Function.Injective Value.str := fun _ _ => Value.str.inj
  obtain ⟨d, hkeyed, hgrown, hs⟩ := hread f hf
  obtain ⟨d', hkeyed', hgrown', hs'⟩ := hread f' hf'
  exact found_of_ids hkeyed hkeyed' hgrown hgrown' hs hs' (List.map_injective_iff.mpr hstr hdoc.1)
    (List.map_injective_iff.mpr hstr hdoc.2)

/-- A result of the same execution is the same result, unless both found nothing in windows of other
evidence. -/
lemma result_eq_iff_refs (hid : f.executionId codec h p = f'.executionId codec h p) :
    f'.result codec h p = f.result codec h p ↔
      (f.disposition = .refutes → f'.availableRefs = f.availableRefs) := by
  obtain ⟨hevents, hsignals⟩ := found_of_executionId hfree hread hf hf' hid
  rw [eq_comm, HuntFindings.result_eq_iff hevents hsignals]
  exact forall_congr' fun _ => eq_comm

end Identity

end Records

section Hunt

variable (codec : Codec) (h : HuntHypothesis) (p : HuntPlan)

/-- The engine once the hypothesis and the plan are bound. -/
def bound (engine : ThreatHuntEngine) : ThreatHuntEngine :=
  { engine with
    hypothesisBindings := engine.hypothesisBindings.set h.hypothesisId (h.digest codec)
    planBindings := engine.planBindings.set p.planId (codec.contentDigest (p.toValue codec)) }

def remember (f : HuntFindings) (started completed : Datetime) (engine : ThreatHuntEngine) :
    ThreatHuntEngine :=
  { bound codec h p engine with
    executions := engine.executions.set (f.executionId codec h p)
      (f.execution codec h p started completed)
    results := engine.results.set (f.resultId codec h p) (f.result codec h p) }

variable {codec h p} {render : Value → String} {searched : HuntFindings → Prop} {s : Hunting}
  {started completed : Datetime} {f : HuntFindings}

lemma begin_eq (hs : Recorded codec h p searched s) (hscope : s.engine.checkScope h p = .ok ()) :
    ThreatHuntEngine.begin codec h p s.engine = (.ok (), bound codec h p s.engine) := by
  have hhypothesis : (s.engine.hypothesisBindings.find? h.hypothesisId).any
      (fun d => decide (d ≠ h.digest codec)) = false := by
    rw [Option.any_eq_false]
    intro d hd
    simpa using hs.hypothesis d hd
  have hplan : (s.engine.planBindings.find? p.planId).any
      (fun d => decide (d ≠ codec.contentDigest (p.toValue codec))) = false := by
    rw [Option.any_eq_false]
    intro d hd
    simpa using hs.plan d hd
  rw [ThreatHuntEngine.begin, hscope]
  simp only [bindHypothesis, hhypothesis, bindPlan, hplan, Bool.false_eq_true, if_false, bound]

variable (codec render started completed) in
/-- A hunt that the checks of `run` before its search refuse. -/
lemma hunt_scope {x : Raised} (hscope : s.engine.checkScope h p = .error x) :
    ThreatHuntEngine.hunt codec render h p started completed s.engine = (.error x, s.engine) := by
  rw [ThreatHuntEngine.hunt, run, ThreatHuntEngine.begin, hscope]

variable (started completed) in
lemma hunt_search {x : Raised} (hs : Recorded codec h p searched s)
    (hscope : s.engine.checkScope h p = .ok ())
    (hsearch : search render h p s.engine.detections = .error x) :
    ThreatHuntEngine.hunt codec render h p started completed s.engine =
      (.error x, bound codec h p s.engine) := by
  have hbound : search render h p (bound codec h p s.engine).detections = .error x := hsearch
  rw [ThreatHuntEngine.hunt, run, begin_eq hs hscope]
  simp only [hbound]

lemma execution_eq_ok {engine : ThreatHuntEngine} {r : HuntResult} {x : HuntExecution}
    (hscope : ∀ s ∈ engine.detections.scope, s = p.scope)
    (hr : engine.results.find? r.resultId = some r) (hrscope : r.scope = p.scope)
    (hx : engine.executions.find? r.executionId = some x) :
    engine.execution r.resultId p.scope = .ok x := by
  refine raiseIf_bind_eq_ok.mpr ⟨?_, orRaise_bind_eq_ok.mpr ⟨r, ?_, orRaise_eq_ok.mpr hx⟩⟩
  · rw [Bool.not_eq_true, Option.any_eq_false]
    intro s hs
    simpa using hscope s hs
  · rw [hr, Option.filter_some, if_pos (by simpa using hrscope)]

variable (hfree : HuntCollisionFree codec h p searched)
  (hread : Readable render h p searched s.engine.detections)
  (hs : Recorded codec h p searched s) (hscope : s.engine.checkScope h p = .ok ())
  (hsearch : search render h p s.engine.detections = .ok f) (hf : searched f)

include hfree hs hscope hsearch hf

variable (started completed) in
lemma hunt_new (hnone : s.engine.executions.find? (f.executionId codec h p) = none) :
    ThreatHuntEngine.hunt codec render h p started completed s.engine =
      (.ok (f.execution codec h p started completed, f.result codec h p),
        remember codec h p f started completed s.engine) := by
  have hresult : s.engine.results.find? (f.resultId codec h p) = none := by
    by_contra hsome
    obtain ⟨r, hr⟩ := Option.ne_none_iff_exists'.mp hsome
    obtain ⟨f', hf', rfl, hid⟩ := hs.results _ r hr
    have hexecuted := hs.executed _ _ hr
    rw [show (f'.result codec h p).executionId = f'.executionId codec h p from rfl,
      executionId_of_resultId hfree hf' hf hid.symm, hnone] at hexecuted
    cases hexecuted
  have hbound : search render h p (bound codec h p s.engine).detections = .ok f := hsearch
  have hrecord : record codec h p f started completed (bound codec h p s.engine) =
      (.ok (f.result codec h p), remember codec h p f started completed s.engine) := by
    have hnone' : (bound codec h p s.engine).executions.find?
        (f.execution codec h p started completed).executionId = none := hnone
    have hresult' : (bound codec h p s.engine).results.find? (f.result codec h p).resultId = none :=
      hresult
    simp only [record, hnone', hresult']
    rfl
  have hexecution : (remember codec h p f started completed s.engine).execution
      (f.result codec h p).resultId p.scope = .ok (f.execution codec h p started completed) :=
    execution_eq_ok (checkScope_eq_ok.mp hscope).2.2 (Dict.find?_set_self _ _ _) rfl
      (Dict.find?_set_self _ _ _)
  rw [ThreatHuntEngine.hunt, run, begin_eq hs hscope]
  simp only [hbound, hrecord, hexecution]
  rfl

include hread

variable (started completed) in
/-- A hunt whose execution is stored answers with the stored result, or it fails because the stored
result is another. -/
lemma hunt_again {x : HuntExecution}
    (hx : s.engine.executions.find? (f.executionId codec h p) = some x) :
    ∃ r, s.engine.results.find? (f.resultId codec h p) = some r ∧
      r.executionId = f.executionId codec h p ∧
      ThreatHuntEngine.hunt codec render h p started completed s.engine =
        if r = f.result codec h p then (.ok (x, r), bound codec h p s.engine)
        else (raise .detectionInputError
          "hunt execution identity was reused for different content", bound codec h p s.engine) := by
  have hresulted := hs.resulted _ (by rw [hx]; rfl)
  obtain ⟨r, hr⟩ := Option.isSome_iff_exists.mp hresulted
  obtain ⟨f', hf', rfl, hid⟩ := hs.results _ r hr
  obtain ⟨f'', a, b, hf'', rfl, hid''⟩ := hs.executions _ x hx
  have hsame := executionId_of_resultId hfree hf' hf hid.symm
  refine ⟨f'.result codec h p, hr, hsame, ?_⟩
  obtain ⟨hevents, hsignals⟩ := found_of_executionId hfree hread hf' hf hsame
  obtain ⟨hevents'', hsignals''⟩ := found_of_executionId hfree hread hf'' hf hid''.symm
  have hexecutionDiffers : (f''.execution codec h p a b).differs
      (f.execution codec h p started completed) = false := by
    rw [HuntFindings.execution_eq hevents'' hsignals'']
    simp [HuntExecution.differs, HuntFindings.execution]
  have hcompare : ((f''.execution codec h p a b).differs (f.execution codec h p started completed) ||
      (f'.result codec h p).differs (f.result codec h p)) =
        decide (f'.result codec h p ≠ f.result codec h p) := by
    rw [hexecutionDiffers, HuntFindings.result_differs hevents hsignals, Bool.false_or]
  have hbound : search render h p (bound codec h p s.engine).detections = .ok f := hsearch
  have hx' : (bound codec h p s.engine).executions.find?
      (f.execution codec h p started completed).executionId = some (f''.execution codec h p a b) := hx
  have hr' : (bound codec h p s.engine).results.find? (f.result codec h p).resultId =
      some (f'.result codec h p) := hr
  by_cases hequal : f'.result codec h p = f.result codec h p
  · have hrecord : record codec h p f started completed (bound codec h p s.engine) =
        (.ok (f'.result codec h p), bound codec h p s.engine) := by
      simp only [record, hx', hr', hcompare]
      rw [if_neg (by simpa using hequal)]
    have hexecution : (bound codec h p s.engine).execution (f'.result codec h p).resultId p.scope =
        .ok (f''.execution codec h p a b) := by
      apply execution_eq_ok (checkScope_eq_ok.mp hscope).2.2
      · rw [show (f'.result codec h p).resultId = f'.resultId codec h p from rfl, ← hid]
        exact hr
      · rfl
      · rw [show (f'.result codec h p).executionId = f'.executionId codec h p from rfl, hsame]
        exact hx
    rw [if_pos hequal, ThreatHuntEngine.hunt, run, begin_eq hs hscope]
    simp only [hbound, hrecord, hexecution]
    rfl
  · have hrecord : record codec h p f started completed (bound codec h p s.engine) =
        (raise .detectionInputError "hunt execution identity was reused for different content",
          bound codec h p s.engine) := by
      simp only [record, hx', hr', hcompare]
      rw [if_pos (by simpa using hequal)]
    rw [if_neg hequal, ThreatHuntEngine.hunt, run, begin_eq hs hscope]
    simp only [hbound, hrecord]
    rfl

/-- The stored results that found nothing have the window of this hunt, if it finds nothing, exactly
when the stored results of its execution are its result. -/
lemma steady_hunt_iff :
    (∀ window, FindsNothing render h p s.engine.detections window →
      ∀ r, s.Stored r → r.disposition = .refutes → r.refutingEvidenceRefs = refsOf window) ↔
      ∀ r, s.Stored r → r.executionId = f.executionId codec h p → r = f.result codec h p := by
  constructor
  · intro hsteady r hr hid
    obtain ⟨f', hf', rfl⟩ := hs.stored hr
    obtain ⟨hevents, hsignals⟩ := found_of_executionId hfree hread hf' hf hid
    refine (result_eq_iff_refs hfree hread hf hf' hid.symm).mpr fun hrefutes => ?_
    have hrefutes' : f'.disposition = .refutes :=
      (HuntFindings.disposition_eq hevents hsignals).trans hrefutes
    have hnothing : FindsNothing render h p s.engine.detections f.available := by
      refine findsNothing_iff.mpr ⟨hscope, ?_⟩
      obtain ⟨hnone, hnone'⟩ := HuntFindings.disposition_refutes_iff.mp hrefutes
      rw [hsearch, ← hnone, ← hnone']
    have hrefs := hsteady _ hnothing _ hr hrefutes'
    rw [HuntFindings.refutingRefs_of_refutes hrefutes'] at hrefs
    exact hrefs
  · intro hsame window hnothing r hr hrefutes
    obtain ⟨f', hf', rfl⟩ := hs.stored hr
    have hfound := (findsNothing_iff.mp hnothing).2
    obtain rfl : f = ⟨window, [], []⟩ := Except.ok.inj (hsearch.symm.trans hfound)
    have hnone : (HuntFindings.mk window [] []).disposition = .refutes :=
      HuntFindings.disposition_refutes_iff.mpr ⟨rfl, rfl⟩
    rw [hsame _ hr (HuntFindings.executionId_of_refutes hrefutes hnone),
      HuntFindings.refutingRefs_of_refutes hnone]
    rfl

end Hunt

section Save

variable {codec : Codec} {h : HuntHypothesis} {p : HuntPlan} {render : Value → String}
  {searched : HuntFindings → Prop} {s : Hunting} {a b : Datetime} {f : HuntFindings}
  (hfree : HuntCollisionFree codec h p searched) {now : DetectionEngine}
  (hread : Readable render h p searched now) (hs : Recorded codec h p searched s)
  (hf : searched f)

include hfree hread hs hf

lemma saveHuntExecution_found :
    ((∀ x ∈ s.db.huntExecutions, x.execution.executionId = f.executionId codec h p →
        x.result = f.result codec h p) ∧
      ∃ t, saveHuntExecution (f.execution codec h p a b) (f.result codec h p) s.db.huntExecutions =
        .ok t) ∨
    (¬ (∀ x ∈ s.db.huntExecutions, x.execution.executionId = f.executionId codec h p →
        x.result = f.result codec h p) ∧
      saveHuntExecution (f.execution codec h p a b) (f.result codec h p) s.db.huntExecutions =
        raise .detectionInputError "hunt execution identity was reused for different content") := by
  have hbinding : ¬ ((f.execution codec h p a b).scope ≠ (f.result codec h p).scope ∨
      (f.execution codec h p a b).resultId ≠ (f.result codec h p).resultId) :=
    not_or.mpr ⟨not_not.mpr rfl, not_not.mpr rfl⟩
  have hexecution : ¬ (f.execution codec h p a b).executionId ≠ (f.result codec h p).executionId :=
    not_not.mpr rfl
  rw [saveHuntExecution, raiseIf, if_neg hbinding, ok_bind, raiseIf, if_neg hexecution, ok_bind]
  cases hx : s.db.huntExecutions.get? (f.execution codec h p a b).executionId with
  | none =>
    have hnew : ∀ x ∈ s.db.huntExecutions,
        x.execution.executionId ≠ f.executionId codec h p := Table.get?_eq_none_iff.mp hx
    refine Or.inl ⟨fun x hmem hid => absurd hid (hnew x hmem), ?_⟩
    have hclash : ∀ x ∈ s.db.huntExecutions,
        decide (x.execution.resultId = (f.execution codec h p a b).resultId) = false := by
      intro x hmem
      obtain ⟨f', a', b', hf', rfl⟩ := hs.rows x hmem
      refine decide_eq_false fun hid => hnew _ hmem ?_
      exact executionId_of_resultId hfree hf' hf hid
    obtain ⟨t, ht⟩ := Option.isSome_iff_exists.mp (Table.insert?_isSome
      (r := ⟨f.execution codec h p a b, h.hypothesisId, f.result codec h p⟩) hx hclash)
    exact ⟨t, unique_eq_ok.mpr ht⟩
  | some x =>
    obtain ⟨hmem, hid⟩ := Table.get?_eq_some_iff.mp hx
    have hother : ∀ y ∈ s.db.huntExecutions, y.execution.executionId = f.executionId codec h p →
        y = x := fun y hy hyid => Table.eq_of_key_eq hy hmem (hyid.trans hid.symm)
    obtain ⟨f', a', b', hf', rfl⟩ := hs.rows x hmem
    obtain ⟨hevents, hsignals⟩ := found_of_executionId hfree hread hf' hf hid
    rw [HuntFindings.execution_eq hevents hsignals a' b']
    by_cases hequal : f'.result codec h p = f.result codec h p
    · refine Or.inl ⟨?_, _, raiseIf_bind_eq_ok.mpr ⟨not_not.mpr rfl, raiseIf_bind_eq_ok.mpr ⟨?_, rfl⟩⟩⟩
      · intro y hy hyid
        rw [hother y hy hyid]
        exact hequal
      · simp only [not_or, not_not]
        exact ⟨rfl, rfl, rfl, rfl, rfl, rfl, hequal⟩
    · refine Or.inr ⟨?_, ?_⟩
      · intro hall
        exact hequal (hall _ hmem hid)
      · have hscope : ¬ (f.execution codec h p a' b').scope ≠ (f.execution codec h p a b).scope :=
          not_not.mpr rfl
        simp only [raiseIf]
        rw [if_neg hscope, ok_bind,
          if_pos (Or.inr (Or.inr (Or.inr (Or.inr (Or.inr (Or.inr hequal))))))]
        rfl

end Save

section Step

variable {codec : Codec} {h : HuntHypothesis} {p : HuntPlan} {render : Value → String}
  {secretLike : Value → Bool} {searched : HuntFindings → Prop} {s : Hunting}

lemma Recorded.bind (hs : Recorded codec h p searched s) :
    Recorded codec h p searched { s with engine := bound codec h p s.engine } where
  executions := hs.executions
  results := hs.results
  resulted := hs.resulted
  executed := hs.executed
  found := hs.found
  rows := hs.rows
  hypothesis d hd := by
    rw [bound, Dict.find?_set_self] at hd
    exact (Option.some.inj hd).symm
  plan d hd := by
    rw [bound, Dict.find?_set_self] at hd
    exact (Option.some.inj hd).symm

lemma Recorded.remember (hs : Recorded codec h p searched s) {f : HuntFindings} (hf : searched f)
    (started completed : Datetime) : Recorded codec h p searched
      { s with engine := Persistence.remember codec h p f started completed s.engine } where
  executions id x hx := by
    rcases Dict.find?_set_eq_some hx with ⟨rfl, rfl⟩ | hold
    · exact ⟨f, started, completed, hf, rfl, rfl⟩
    · exact hs.executions id x hold
  results id r hr := by
    rcases Dict.find?_set_eq_some hr with ⟨rfl, rfl⟩ | hold
    · exact ⟨f, hf, rfl, rfl⟩
    · exact hs.results id r hold
  resulted id hid := by
    change ((s.engine.results.set (f.resultId codec h p) (f.result codec h p)).find? _).isSome
    rw [Dict.find?_set]
    split
    · rfl
    · rename_i hother
      apply hs.resulted
      have hne : id ≠ f.executionId codec h p := by
        rintro rfl
        exact hother rfl
      change ((s.engine.executions.set _ _).find? id).isSome at hid
      rw [Dict.find?_set_of_ne _ _ hne] at hid
      exact hid
  executed id r hr := by
    change ((s.engine.executions.set (f.executionId codec h p) _).find? r.executionId).isSome
    rw [Dict.find?_set]
    split
    · rfl
    · rename_i hother
      rcases Dict.find?_set_eq_some hr with ⟨rfl, rfl⟩ | hold
      · exact absurd rfl hother
      · exact hs.executed id r hold
  found := hs.found
  rows := hs.rows
  hypothesis := hs.bind.hypothesis
  plan := hs.bind.plan

lemma Recorded.addFound (hs : Recorded codec h p searched s) {x : HuntExecution} {r : HuntResult}
    (hnew : ∃ f a b, searched f ∧ x = f.execution codec h p a b ∧ r = f.result codec h p) :
    Recorded codec h p searched { s with found := (x, r) :: s.found } where
  executions := hs.executions
  results := hs.results
  resulted := hs.resulted
  executed := hs.executed
  found x' r' hmem := by
    rcases List.mem_cons.mp hmem with heq | hold
    · obtain ⟨rfl, rfl⟩ := Prod.mk.inj heq
      exact hnew
    · exact hs.found x' r' hold
  rows := hs.rows
  hypothesis := hs.hypothesis
  plan := hs.plan

/-- What one call keeps, and when it keeps the identities apart. -/
structure HuntingStep (codec : Codec) (render : Value → String) (secretLike : Value → Bool)
    (h : HuntHypothesis) (p : HuntPlan) (searched : HuntFindings → Prop) (call : HuntingCall)
    (s : Hunting) : Prop where
  recorded : Recorded codec h p searched (call.exec codec render secretLike h p s).2
  grown : Grown s.engine.detections (call.exec codec render secretLike h p s).2.engine.detections
  stable : Stable ⟨call, s, (call.exec codec render secretLike h p s).1⟩ ↔
    Steady render h p ⟨call, s, (call.exec codec render secretLike h p s).1⟩

variable (secretLike) in
lemma exec_hunt {started completed : Datetime} {r : Except Raised (HuntExecution × HuntResult)}
    {engine : ThreatHuntEngine}
    (hr : ThreatHuntEngine.hunt codec render h p started completed s.engine = (r, engine)) :
    HuntingCall.exec codec render secretLike h p (.hunt started completed) s =
      (.hunted r, { s with engine, found := r.toOption.toList ++ s.found }) := by
  rw [HuntingCall.exec, hr]
  cases r <;> rfl

/-- The repository stores nothing but what hunts found. -/
lemma Recorded.store (hs : Recorded codec h p searched s)
    {now : Datetime} {call : HuntCall} (hbacked : call.backed s.found) : Recorded codec h p searched
      { s with db := (HuntCall.exec codec secretLike (now, call) s.db).2 } where
  executions := hs.executions
  results := hs.results
  resulted := hs.resulted
  executed := hs.executed
  found := hs.found
  rows x hx := by
    rcases (exec_huntStep codec secretLike (now, call) s.db).written x hx with
      hold | ⟨row, workerId, hwritten⟩
    · exact hs.rows x hold
    · have hcall : call = .save x.execution x.result workerId := hwritten.call
      rw [hcall] at hbacked
      obtain ⟨f, a, b, hf, hexecution, hresult⟩ := hs.found _ _ hbacked
      have hhypothesis : x.hypothesisId = h.hypothesisId := by
        rw [hwritten.hypothesis, hresult]
        rfl
      obtain ⟨execution, hypothesisId, result⟩ := x
      simp only at hexecution hresult hhypothesis
      rw [hexecution, hresult, hhypothesis]
      exact ⟨f, a, b, hf, rfl⟩
  hypothesis := hs.hypothesis
  plan := hs.plan

lemma admitHunt_raises {now : Datetime} {execution : HuntExecution} {workerId : Option String} :
    Raises (fun x => ¬ IdentityReuse x) (admitHunt now execution workerId s.db) := by
  refine Raises.bind (Raises.orRaise (by decide)) fun row _ => ?_
  refine Raises.bind (Raises.raiseIf (by decide)) fun _ _ => ?_
  refine Raises.bind ?_ fun _ _ => Raises.ok _
  rw [checkHuntLease]
  split
  · exact Raises.raiseIf (by decide)
  · exact Raises.ok _
  · exact Raises.raiseIf (by decide)

variable (hfree : HuntCollisionFree codec h p searched)
  (hread : Readable render h p searched s.engine.detections)
  (hs : Recorded codec h p searched s)
  (hsearched : ∀ f, search render h p s.engine.detections = .ok f → searched f)

include hfree hread hs hsearched

lemma hunt_step (started completed : Datetime) :
    HuntingStep codec render secretLike h p searched (.hunt started completed) s := by
  cases hscope : s.engine.checkScope h p with
  | error x =>
    have hexec := exec_hunt secretLike (hunt_scope codec render started completed hscope)
    refine ⟨by rw [hexec]; exact hs, by rw [hexec]; exact Grown.refl _, ?_⟩
    rw [hexec]
    constructor
    · intro _ window hnothing
      rw [(findsNothing_iff.mp hnothing).1] at hscope
      cases hscope
    · intro _
      exact Raises.raiseIf (p := fun x => ¬ IdentityReuse x) (by decide) x hscope
  | ok u =>
    cases hsearch : search render h p s.engine.detections with
    | error x =>
      have hexec := exec_hunt secretLike (hunt_search started completed hs hscope hsearch)
      refine ⟨by rw [hexec]; exact hs.bind, by rw [hexec]; exact Grown.refl _, ?_⟩
      rw [hexec]
      constructor
      · intro _ window hnothing
        rw [(findsNothing_iff.mp hnothing).2] at hsearch
        cases hsearch
      · intro _
        exact (search_raises _ x hsearch).2
    | ok f =>
      have hf := hsearched f hsearch
      have hsteady := steady_hunt_iff hfree hread hs hscope hsearch hf
      cases hx : s.engine.executions.find? (f.executionId codec h p) with
      | none =>
        have hexec := exec_hunt secretLike
          (hunt_new started completed hfree hs hscope hsearch hf hx)
        refine ⟨?_, by rw [hexec]; exact Grown.refl _, ?_⟩
        · rw [hexec]
          exact (hs.remember hf started completed).addFound ⟨f, started, completed, hf, rfl, rfl⟩
        · rw [hexec]
          exact hsteady.symm
      | some x =>
        obtain ⟨r, hr, hid, hhunt⟩ := hunt_again started completed hfree
          hread hs hscope hsearch hf hx
        by_cases hequal : r = f.result codec h p
        · rw [if_pos hequal] at hhunt
          have hexec := exec_hunt secretLike hhunt
          refine ⟨?_, by rw [hexec]; exact Grown.refl _, ?_⟩
          · rw [hexec]
            obtain ⟨f', a, b, hf', rfl, hid'⟩ := hs.executions _ x hx
            obtain ⟨hevents, hsignals⟩ := found_of_executionId hfree hread hf' hf hid'.symm
            exact hs.bind.addFound
              ⟨f, a, b, hf, HuntFindings.execution_eq hevents hsignals a b, hequal⟩
          · rw [hexec, hequal]
            exact hsteady.symm
        · rw [if_neg hequal] at hhunt
          have hexec := exec_hunt secretLike hhunt
          refine ⟨by rw [hexec]; exact hs.bind, by rw [hexec]; exact Grown.refl _, ?_⟩
          rw [hexec]
          constructor
          · intro hstable
            exact absurd (by decide) hstable
          · intro hsame
            exact absurd (hsteady.mp hsame r (Or.inl ⟨_, hr⟩) hid) hequal

omit hsearched in
/-- A save fails over its identity exactly when it is admitted and a stored execution of that identity
has another result. -/
lemma save_stable {f : HuntFindings} {a b now : Datetime} {workerId : Option String}
    (hf : searched f)
    (hfound : (f.execution codec h p a b, f.result codec h p) ∈ s.found) :
    Stable ⟨.store now (.save (f.execution codec h p a b) (f.result codec h p) workerId), s,
        .stored (HuntCall.exec codec secretLike (now, .save (f.execution codec h p a b)
          (f.result codec h p) workerId) s.db).1⟩ ↔
      Steady render h p ⟨.store now (.save (f.execution codec h p a b) (f.result codec h p) workerId),
        s, .stored (HuntCall.exec codec secretLike (now, .save (f.execution codec h p a b)
          (f.result codec h p) workerId) s.db).1⟩ := by
  have hsame : (∀ x ∈ s.db.huntExecutions, x.execution.executionId = f.executionId codec h p →
      x.result = f.result codec h p) ↔
      ((f.result codec h p).disposition = .refutes → ∀ x ∈ s.db.huntExecutions,
        x.result.disposition = .refutes →
          x.result.refutingEvidenceRefs = (f.result codec h p).refutingEvidenceRefs) := by
    constructor
    · intro hall hrefutes x hx hxrefutes
      obtain ⟨f', a', b', hf', rfl⟩ := hs.rows x hx
      rw [hall _ hx (HuntFindings.executionId_of_refutes hxrefutes hrefutes)]
    · intro hall x hx hid
      obtain ⟨f', a', b', hf', rfl⟩ := hs.rows x hx
      obtain ⟨hevents, hsignals⟩ := found_of_executionId hfree hread hf' hf hid
      refine (result_eq_iff_refs hfree hread hf hf' hid.symm).mpr fun hrefutes => ?_
      have hrefutes' := (HuntFindings.disposition_eq hevents hsignals).trans hrefutes
      have hrefs := hall hrefutes _ hx hrefutes'
      rw [HuntFindings.refutingRefs_of_refutes hrefutes',
        HuntFindings.refutingRefs_of_refutes hrefutes] at hrefs
      exact hrefs
  have hanswer : (HuntCall.exec codec secretLike (now, .save (f.execution codec h p a b)
      (f.result codec h p) workerId) s.db).1 =
        (saveHunt now (f.execution codec h p a b) (f.result codec h p) workerId s.db).map
          fun _ => true := rfl
  cases hadmission : admitHunt now (f.execution codec h p a b) workerId s.db with
  | error x =>
    have hrefused : saveHunt now (f.execution codec h p a b) (f.result codec h p) workerId s.db =
        .error x := by
      rw [saveHunt, hadmission]
      rfl
    rw [hanswer, hrefused]
    constructor
    · intro _ _ hok
      rw [hadmission] at hok
      cases hok
    · intro _
      exact admitHunt_raises x hadmission
  | ok row =>
    have hsteady : Steady render h p ⟨.store now (.save (f.execution codec h p a b)
        (f.result codec h p) workerId), s, .stored ((saveHunt now (f.execution codec h p a b)
          (f.result codec h p) workerId s.db).map fun _ => true)⟩ ↔
        ((f.result codec h p).disposition = .refutes → ∀ x ∈ s.db.huntExecutions,
          x.result.disposition = .refutes →
            x.result.refutingEvidenceRefs = (f.result codec h p).refutingEvidenceRefs) := by
      constructor
      · intro hall
        exact hall hfound (by rw [hadmission]; rfl)
      · intro hall _ _
        exact hall
    rw [hanswer, hsteady, ← hsame, saveHunt, hadmission, ok_bind]
    rcases saveHuntExecution_found hfree hread hs hf (a := a) (b := b) with
      ⟨hall, t, ht⟩ | ⟨hother, hraised⟩
    · rw [ht]
      exact ⟨fun _ => hall, fun _ => trivial⟩
    · rw [hraised]
      constructor
      · intro hstable
        exact absurd (by decide) hstable
      · intro hall
        exact absurd hall hother

omit hsearched in
lemma store_step (now : Datetime) (call : HuntCall) :
    HuntingStep codec render secretLike h p searched (.store now call) s := by
  by_cases hbacked : call.backed s.found
  · have hexec : HuntingCall.exec codec render secretLike h p (.store now call) s =
        (.stored (HuntCall.exec codec secretLike (now, call) s.db).1,
          { s with db := (HuntCall.exec codec secretLike (now, call) s.db).2 }) := by
      rw [HuntingCall.exec, if_pos hbacked]
    refine ⟨by rw [hexec]; exact hs.store hbacked, by rw [hexec]; exact Grown.refl _, ?_⟩
    rw [hexec]
    cases call with
    | save execution result workerId =>
      obtain ⟨f, a, b, hf, rfl, rfl⟩ := hs.found _ _ hbacked
      exact save_stable hfree hread hs hf hbacked
    | _ => exact Iff.rfl
  · have hexec : HuntingCall.exec codec render secretLike h p (.store now call) s = (.done, s) := by
      rw [HuntingCall.exec, if_neg hbacked]
    refine ⟨by rw [hexec]; exact hs, by rw [hexec]; exact Grown.refl _, ?_⟩
    rw [hexec]
    cases call with
    | save execution result workerId => exact ⟨fun _ hfound => absurd hfound hbacked, fun _ => trivial⟩
    | _ => exact Iff.rfl

omit hfree hread hs hsearched in
/-- A detector that has grown, or another engine over the detector, has stored nothing more. -/
lemma Recorded.detections (hs : Recorded codec h p searched s) (detections : DetectionEngine) :
    Recorded codec h p searched { s with engine := { s.engine with detections } } :=
  ⟨hs.executions, hs.results, hs.resulted, hs.executed, hs.found, hs.rows, hs.hypothesis, hs.plan⟩

omit hfree hread hs hsearched in
lemma Recorded.init {detections : DetectionEngine} {db : Database}
    (hempty : db.huntExecutions = Table.empty) :
    Recorded codec h p searched ⟨ThreatHuntEngine.init detections, [], db⟩ where
  executions id x hx := by cases hx
  results id r hr := by cases hr
  resulted id hid := by cases hid
  executed id r hr := by cases hr
  found x r hxr := by cases hxr
  rows row hrow := by
    rw [hempty] at hrow
    cases hrow
  hypothesis d hd := by cases hd
  plan d hd := by cases hd

omit hfree hread hs hsearched in
lemma Recorded.restart (hs : Recorded codec h p searched s) :
    Recorded codec h p searched { s with engine := ThreatHuntEngine.init s.engine.detections } where
  executions id x hx := by cases hx
  results id r hr := by cases hr
  resulted id hid := by cases hid
  executed id r hr := by cases hr
  found := hs.found
  rows := hs.rows
  hypothesis d hd := by cases hd
  plan d hd := by cases hd

lemma call_step (call : HuntingCall) :
    HuntingStep codec render secretLike h p searched call s := by
  cases call with
  | detect call => exact ⟨hs.detections _, exec_grown codec render p.scope call _, Iff.rfl⟩
  | restart => exact ⟨hs.restart, Grown.refl _, Iff.rfl⟩
  | hunt started completed => exact hunt_step hfree hread hs hsearched started completed
  | store now call => exact store_step hfree hread hs now call

end Step

section History

variable {codec : Codec} {h : HuntHypothesis} {p : HuntPlan} {render : Value → String}
  {secretLike : Value → Bool} {detections : DetectionEngine} {db : Database}
  {es : List HuntingEntry} {s : Hunting}

lemma Searched.later {s' : Hunting} {call : HuntingCall} {answer : HuntingAnswer} {f : HuntFindings}
    (hf : Searched render h p es s f) : Searched render h p (⟨call, s, answer⟩ :: es) s' f := by
  obtain ⟨x, rfl | ⟨e, he, rfl⟩, hsearch⟩ := hf
  · exact ⟨x, Or.inr ⟨_, List.mem_cons_self, rfl⟩, hsearch⟩
  · exact ⟨e.before, Or.inr ⟨e, List.mem_cons_of_mem _ he, rfl⟩, hsearch⟩

lemma Searched.cases {s' : Hunting} {call : HuntingCall} {answer : HuntingAnswer} {f : HuntFindings}
    (hf : Searched render h p (⟨call, s, answer⟩ :: es) s' f) :
    Searched render h p es s f ∨ search render h p s'.engine.detections = .ok f := by
  obtain ⟨x, rfl | ⟨e, he, rfl⟩, hsearch⟩ := hf
  · exact Or.inr hsearch
  · rcases List.mem_cons.mp he with rfl | he
    · exact Or.inl ⟨_, Or.inl rfl, hsearch⟩
    · exact Or.inl ⟨e.before, Or.inr ⟨e, he, rfl⟩, hsearch⟩

lemma Searched.state {f : HuntFindings} (hf : Searched render h p es s f) :
    ∃ x ∈ s :: es.map (·.before), search render h p x.engine.detections = .ok f := by
  obtain ⟨x, rfl | ⟨e, he, rfl⟩, hsearch⟩ := hf
  · exact ⟨x, List.mem_cons_self, hsearch⟩
  · exact ⟨e.before, List.mem_cons_of_mem _ (List.mem_map_of_mem he), hsearch⟩

/-- What holds after every call. -/
structure HuntingInvariant (codec : Codec) (render : Value → String) (h : HuntHypothesis)
    (p : HuntPlan) (es : List HuntingEntry) (s : Hunting) : Prop where
  recorded : Recorded codec h p (Searched render h p es s) s
  readable : Readable render h p (Searched render h p es s) s.engine.detections
  keyed : Keyed s.engine.detections
  stable : ∀ e ∈ es, Stable e ↔ Steady render h p e

lemma hunting_invariant (hkeyed : Keyed detections) (hempty : db.huntExecutions = Table.empty)
    (hhistory : Foundations.History (HuntingCall.exec codec render secretLike h p)
      ⟨ThreatHuntEngine.init detections, [], db⟩ es s)
    (hfree : HuntCollisionFree codec h p (Searched render h p es s)) :
    HuntingInvariant codec render h p es s := by
  induction hhistory with
  | nil =>
    refine ⟨Recorded.init hempty, ?_, hkeyed, ?_⟩
    · rintro f ⟨x, rfl | ⟨e, he, rfl⟩, hsearch⟩
      · exact ⟨detections, hkeyed, Grown.refl _, hsearch⟩
      · cases he
    · intro e he
      cases he
  | @call es s call hhistory ih =>
    have hfree' : HuntCollisionFree codec h p (Searched render h p es s) := by
      intro a b ha hb
      exact hfree a b (ha.mono fun _ hf => hf.later) (hb.mono fun _ hf => hf.later)
    have hold := ih hfree'
    have hstep : HuntingStep codec render secretLike h p (Searched render h p es s) call s :=
      call_step hfree' hold.readable hold.recorded (fun f hf => ⟨s, Or.inl rfl, hf⟩) call
    have hkeyed' := hstep.grown.keyed hold.keyed
    refine ⟨hstep.recorded.mono fun _ hf => hf.later, ?_, hkeyed', ?_⟩
    · intro f hf
      rcases hf.cases with hbefore | hafter
      · obtain ⟨d, hd, hgrown, hsearch⟩ := hold.readable f hbefore
        exact ⟨d, hd, hgrown.trans hstep.grown, hsearch⟩
      · exact ⟨_, hkeyed', Grown.refl _, hafter⟩
    · intro e he
      rcases List.mem_cons.mp he with rfl | he
      · exact hstep.stable
      · exact hold.stable e he

/-- A hunt or a save keeps the identities apart exactly when no event has arrived in the window between
the results that found nothing. -/
theorem rerun_stability (hkeyed : Keyed detections) (hempty : db.huntExecutions = Table.empty)
    (hhistory : Foundations.History (HuntingCall.exec codec render secretLike h p)
      ⟨ThreatHuntEngine.init detections, [], db⟩ es s)
    (hfree : HuntCollisionFree codec h p (Searched render h p es s)) :
    ∀ e ∈ es, Stable e ↔ Steady render h p e :=
  (hunting_invariant hkeyed hempty hhistory hfree).stable

end History

section Example

def missPlan : HuntPlan where
  planId := "HP-1"
  hypothesisId := "HH-1"
  scope := toolScope
  windowStart := 0
  windowEnd := 0
  query := [("action", .str "delete")]
  exitCriteria := "one match"
  maxEvents := 500
  nonblank := huntPlan.nonblank
  window := huntPlan.window
  bounded := huntPlan.bounded

/-- The digests of the documents that arise from the plan, which the event does not match. -/
def missDigests : Codec :=
  { huntDigests with
    contentDigest
      | .arr [.str _] => "896b1814f92d3bbf3138b2d07d5fa807ee7d4fe6c6abf4b14cd8921342677019"
      | .arr [_, _, _, _, _, _] => "723c11047221dab2fbec85e68e7ac43c9587ec05f3fc1267d672fa7e4d543cb5"
      | .obj [_] => "5dbdccf01f4581863a0087b9a760833521dbaaaf59dbe86f871029d76ab4871a"
      | .obj members =>
        if members.length = 8 then "7c650b33bba3000a97a0b84fee1a6ce3b4f8e0d19015b4aaaf5cc85911538117"
        else huntDigests.contentDigest (.obj members)
      | v => huntDigests.contentDigest v }

def foundOther : HuntFindings := ⟨[toolEvent], [], []⟩

def HuntFindings.store (f : HuntFindings) (now hunted : Datetime) : HuntingCall :=
  .store now (.save (f.execution missDigests huntHypothesis missPlan hunted hunted)
    (f.result missDigests huntHypothesis missPlan) none)

/-- A hunt that finds nothing is saved, an event arrives in the window that does not match, and the plan
is hunted again, by the same engine and by a new one. -/
def rerun : List HuntingEntry × Hunting :=
  Foundations.History.ofCalls
    (HuntingCall.exec missDigests toolText (fun _ => false) huntHypothesis missPlan)
    ⟨ThreatHuntEngine.init (huntEngine missDigests huntDatabase).detections, [], huntDatabase⟩
    [HuntFindings.store foundOther 6 5, .hunt 5 5, .restart, .hunt 4 4,
      .detect (.arrive toolEvent), HuntFindings.store foundNothing 2 1, .hunt 1 1,
      .store 0 (.request huntHypothesis missPlan)]

def HuntingAnswer.raised : HuntingAnswer → Option String
  | .hunted (.error e) => some e.message
  | .stored (.error e) => some e.message
  | _ => none

theorem identity_reused :
    Foundations.History
        (HuntingCall.exec missDigests toolText (fun _ => false) huntHypothesis missPlan)
        ⟨ThreatHuntEngine.init (huntEngine missDigests huntDatabase).detections, [], huntDatabase⟩
        rerun.1 rerun.2 ∧
      (rerun.1.map fun e => e.outcome.raised) =
        [some "hunt execution identity was reused for different content", none, none,
          some "hunt execution identity was reused for different content", none, none, none, none] :=
  ⟨Foundations.History.ofCalls_history _, by decide +kernel⟩

deriving instance DecidableEq for HuntFindings

lemma rerun_searched {f : HuntFindings}
    (hf : Searched toolText huntHypothesis missPlan rerun.1 rerun.2 f) :
    f = foundNothing ∨ f = foundOther := by
  have hall : ∀ x ∈ rerun.2 :: rerun.1.map (·.before),
      (search toolText huntHypothesis missPlan x.engine.detections).toOption = some foundNothing ∨
        (search toolText huntHypothesis missPlan x.engine.detections).toOption = some foundOther := by
    decide +kernel
  obtain ⟨x, hmem, hsearch⟩ := hf.state
  have hcases := hall x hmem
  rw [hsearch] at hcases
  rcases hcases with hnothing | hother
  · exact Or.inl (Option.some.inj hnothing)
  · exact Or.inr (Option.some.inj hother)

lemma rerun_digested {v : Value} (hv : HuntDigested missDigests huntHypothesis missPlan
      (Searched toolText huntHypothesis missPlan rerun.1 rerun.2) v) :
    v = .arr (foundNothing.identity missDigests huntHypothesis missPlan) ∨
      v = .arr [.str (foundNothing.executionId missDigests huntHypothesis missPlan)] := by
  cases hv with
  | execution hf =>
    rcases rerun_searched hf with rfl | rfl
    · exact Or.inl rfl
    · exact Or.inl rfl
  | result hf =>
    rcases rerun_searched hf with rfl | rfl
    · exact Or.inr rfl
    · exact Or.inr rfl

theorem rerun_stable :
    rerun.1.Forall fun e => Stable e ↔ Steady toolText huntHypothesis missPlan e := by
  rw [List.forall_iff_forall_mem]
  refine @rerun_stability missDigests _ _ _ _ _ _ _ _ ⟨?_, ?_⟩ rfl
    (Foundations.History.ofCalls_history _) ?_
  · intro id e he
    cases he
  · intro id x hx
    cases hx
  · intro a b ha hb hdigest
    rcases rerun_digested ha with rfl | rfl <;> rcases rerun_digested hb with rfl | rfl
    · rfl
    · exact absurd hdigest (by decide +kernel)
    · exact absurd hdigest (by decide +kernel)
    · rfl

end Example

end SecScanMonitor.Persistence
