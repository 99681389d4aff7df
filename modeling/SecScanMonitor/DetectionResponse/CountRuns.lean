import SecScanMonitor.DetectionResponse.CountWindow

/-! Runs of COUNT_OVER_WINDOW rules: they signal exactly the windows that reach the threshold, whatever the order
in which the events arrived (`run` of `detection_response/engine.py`). -/

namespace SecScanMonitor.DetectionResponse

open Foundations Domain ContinuousSecurity DetectionEngine

section Run

variable (codec : Codec) (render : Value → String)

/-- The windows that end at the events that a reading counts. -/
def countWindows (r : Reading) : List (List SecurityEvent) :=
  (r.events.filter (counts render r.plan)).map (windowOf r.plan (r.events.filter (counts render r.plan)))

/-- An engine that has run nothing yet. -/
structure Fresh (x : DetectionEngine) : Prop where
  evaluations : ∀ k, x.evaluations.find? k = none
  signals : ∀ k, x.signals.find? k = none
  runs : ∀ k, x.runs.find? k = none
  plans : ∀ k p, x.plans.find? k = some p → validatePredicates p.predicates = .ok ()

/-- The calls are made on the engine one after the other. -/
def prepare (calls : List EngineCall) (x : DetectionEngine) : DetectionEngine :=
  calls.foldl (fun x call => (call.exec codec render x).2) x

def isRun : EngineCall → Bool
  | .run _ _ _ => true
  | _ => false

variable {codec render} {x y : DetectionEngine} {r : Reading}

lemma Fresh.init (i : BoundedSecurityEventIngestor) (view : Option Scope) (clock : ℕ → Datetime) :
    Fresh (DetectionEngine.init i view clock) :=
  ⟨fun _ => rfl, fun _ => rfl, fun _ => rfl, fun _ _ h => nomatch h⟩

lemma Fresh.enter (hx : Fresh x) {rule : DetectionRule} {plan : Option DetectionPlan} {number : Option Int}
    {c : DetectionRuleVersion × DetectionPlan} (h : registration codec rule plan number x = .ok c) :
    Fresh (enter codec rule c.1 c.2 x) := by
  refine ⟨hx.evaluations, hx.signals, hx.runs, fun k p hp => ?_⟩
  rcases Dict.find?_set_eq_some hp with ⟨-, rfl⟩ | hold
  · exact (registration_eq_ok h).validated
  · exact hx.plans k p hold

lemma Fresh.call (hx : Fresh x) {call : EngineCall} (hcall : isRun call = false) :
    Fresh (call.exec codec render x).2 := by
  by_cases hbrings : call.brings = true
  · obtain ⟨plane, hplane, -⟩ := exec_brings codec render x hbrings
    rw [hplane]
    exact ⟨hx.evaluations, hx.signals, hx.runs, hx.plans⟩
  · cases call with
    | arrive event => exact absurd rfl hbrings
    | ingest event scope => exact absurd rfl hbrings
    | run ref scope version => cases hcall
    | register rule plan number =>
      rw [EngineCall.exec, registerRule_eq]
      cases hregister : registration codec rule plan number x with
      | error e => exact hx
      | ok c => exact hx.enter hregister

lemma prepare_fresh {calls : List EngineCall} (hcalls : calls.all fun call => !isRun call) (hx : Fresh x) :
    Fresh (prepare codec render calls x) := by
  induction calls generalizing x with
  | nil => exact hx
  | cons call calls ih =>
    rw [List.all_cons, Bool.and_eq_true, Bool.not_eq_true'] at hcalls
    exact ih hcalls.2 (hx.call hcalls.1)

variable (codec render) in
lemma prepare_grown (calls : List EngineCall) (x : DetectionEngine) : Grown x (prepare codec render calls x) := by
  induction calls generalizing x with
  | nil => exact Grown.refl x
  | cons call calls ih => exact (call_grown call x).trans (ih _)

/-- The engine that a run is admitted to, and what it reads there. -/
lemma admitted_fresh {ref : RuleRef} {requested : Option Scope} {version : Option Int} {s : Scope}
    {v : DetectionRuleVersion} (hx : Fresh x) (h : admission codec ref requested version x = .ok ((s, v), y)) :
    Fresh y ∧ y.events = x.events := by
  obtain ⟨-, -, -, hbind⟩ := admission_eq_ok h
  cases ref with
  | id ruleId =>
    obtain rfl := Except.ok.inj hbind
    exact ⟨hx, rfl⟩
  | rule rule =>
    rw [DetectionEngine.bind, registerRule_eq] at hbind
    cases hregister : registration codec rule none (some v.version) x with
    | error e =>
      rw [hregister] at hbind
      cases hbind
    | ok c =>
      rw [hregister] at hbind
      obtain rfl := Except.ok.inj hbind
      exact ⟨hx.enter hregister, rfl⟩

lemma read_eq_ok {s : Scope} {v : DetectionRuleVersion} (h : read s v y = .ok r) :
    r.scope = s ∧ r.rule = v ∧ (∃ k, y.plans.find? k = some r.plan) ∧
      ∃ events, y.events.events (some s) = .ok events ∧
        r.events = events.filter fun e => decide (e.sourceFamily ∈ r.plan.supportedSourceFamilies) := by
  obtain ⟨plan, hplan, h⟩ := orRaise_bind_eq_ok.mp h
  obtain ⟨events, hevents, h⟩ := bind_eq_ok.mp h
  obtain rfl := Except.ok.inj h
  exact ⟨rfl, rfl, ⟨_, hplan⟩, events, hevents, rfl⟩

/-- A run of a fresh engine raises the windows that reach the threshold. -/
lemma conclude_windows (hx : Fresh x) (htype : r.plan.ruleType = .countOverWindow)
    (hvalid : validatePredicates r.plan.predicates = .ok ()) (hids : (r.events.map (·.eventId)).Nodup)
    (hscalar : ∀ e ∈ r.events, counts render r.plan e = true → (correlationKey r.plan e).any unhashable = false)
    (hapart : WindowsApart codec r (countWindows render r)) :
    ∃ (ws : List (List SecurityEvent)) (run : DetectionRun) (y : DetectionEngine),
      conclude codec render r x = (.ok run, y) ∧
      run.signalIds = (ws.map (windowSignalId codec r)).eraseDups ∧ Holds codec r ws.reverse y ∧
      ∀ w, w ∈ ws ↔ ∃ e ∈ r.events.filter (counts render r.plan),
        w = windowOf r.plan (r.events.filter (counts render r.plan)) e ∧ r.plan.threshold ≤ w.length := by
  obtain ⟨groups, hgroups, hgrouped⟩ := groupEvents_grouped hvalid Grouped.nil hscalar
  rw [List.nil_append] at hgrouped
  have hcounted : ((r.events.filter (counts render r.plan)).map (·.eventId)).Nodup :=
    hids.sublist (List.filter_sublist.map _)
  have hmem := fun w => mem_windows hgrouped hcounted (w := w)
  generalize hws : groups.flatMap (fun g => windowsOf r.plan g.2) = ws at hmem
  have hitems : items render r.plan r.events = .ok (ws.map windowItem) := by
    rw [items, htype]
    simp only [hgroups, ok_bind, hws]
    rfl
  have hall : WindowsApart codec r (ws ++ []) := by
    intro a ha b hb
    rw [List.append_nil] at ha hb
    obtain ⟨e, he, rfl, -⟩ := (hmem a).mp ha
    obtain ⟨f, hf, rfl, -⟩ := (hmem b).mp hb
    exact hapart _ (List.mem_map_of_mem he) _ (List.mem_map_of_mem hf)
  have hnothing : Holds codec r [] x.tick := by
    refine ⟨fun k ev hev => ?_, fun k sg hsg => ?_, fun w hw => absurd hw List.not_mem_nil⟩
    · have hnone : x.tick.evaluations.find? k = none := hx.evaluations k
      rw [hnone] at hev
      cases hev
    · have hnone : x.tick.signals.find? k = none := hx.signals k
      rw [hnone] at hsg
      cases hsg
  obtain ⟨emitted, y, hevaluated, hemitted, hy⟩ := evaluateItems_windows hall hnothing
  rw [List.append_nil] at hy
  refine ⟨ws, r.run codec emitted y.engineVersion x.now y.now,
    { y.tick with
      runs := y.runs.set (r.runId codec) (r.run codec emitted y.engineVersion x.now y.now) }, ?_, ?_, ?_, hmem⟩
  · rw [conclude, hx.runs]
    simp only [hitems, hevaluated]
  · rw [Reading.run, hemitted]
  · exact ⟨hy.evaluations, hy.signals, hy.raised⟩

end Run

section Result

variable (render : Value → String) (x : DetectionEngine) (s : Scope) (plan : DetectionPlan)

/-- The events that a plan counts in a scope: matching events of its families whose key is not blank. -/
structure Counted (e : SecurityEvent) : Prop where
  stored : ∃ id, x.events.plane.events.find? id = some e
  scope : e.scope = s
  family : e.sourceFamily ∈ plan.supportedSourceFamilies
  matched : (plan.predicates.all fun p => predicateMatches render e p.1 p.2) = true
  keyed : (correlationKey plan e).any missing = false

def SameKey (a b : SecurityEvent) : Prop :=
  (Value.arr (correlationKey plan a)).pyEq (.arr (correlationKey plan b)) = true

/-- As many events as the threshold asks for, of one key and no further apart than the window is long. -/
structure Burst (es : List SecurityEvent) : Prop where
  distinct : es.Nodup
  enough : plan.threshold ≤ es.length
  counted : ∀ e ∈ es, Counted render x s plan e
  alike : ∀ a ∈ es, ∀ b ∈ es, SameKey plan a b
  span : ∀ a ∈ es, ∀ b ∈ es, a.occurredAt - b.occurredAt ≤ plan.width

/-- An event of the trailing window that ends at `e`. -/
structure Trails (e c : SecurityEvent) : Prop where
  counted : Counted render x s plan c
  key : SameKey plan c e
  order : occurredBefore c e
  recent : e.occurredAt - c.occurredAt ≤ plan.width

/-- The signal's events are the trailing window that ends at `e`, and there are enough of them. -/
structure RaisedAt (e : SecurityEvent) (signal : DetectionSignal) : Prop where
  events : ∀ id, id ∈ signal.eventIds ↔ ∃ c, Trails render x s plan e c ∧ c.eventId = id
  distinct : signal.eventIds.Nodup
  enough : plan.threshold ≤ signal.eventIds.length

/-- What a run of a COUNT_OVER_WINDOW plan on an engine emits, where `y` is the engine after it. -/
structure CountRun (r : Reading) (run : DetectionRun) (y : DetectionEngine) : Prop where
  emits : run.signalIds ≠ [] ↔ ∃ es, Burst render x r.scope r.plan es
  stored : ∀ id ∈ run.signalIds, ∃ signal, y.signals.find? id = some signal ∧ signal.scope = r.scope ∧
    signal.ruleId = r.rule.ruleId ∧ signal.ruleVersion = r.rule.version
  trailing : ∀ id ∈ run.signalIds, ∀ signal, y.signals.find? id = some signal →
    ∃ e, Counted render x r.scope r.plan e ∧ RaisedAt render x r.scope r.plan e signal
  complete : ∀ e (es : List SecurityEvent), Counted render x r.scope r.plan e → es.Nodup →
    r.plan.threshold ≤ es.length → (∀ c ∈ es, Trails render x r.scope r.plan e c) →
    ∃ id ∈ run.signalIds, ∃ signal, y.signals.find? id = some signal ∧
      RaisedAt render x r.scope r.plan e signal
  apart : ∀ id ∈ run.signalIds, ∀ id' ∈ run.signalIds, ∀ signal signal',
    y.signals.find? id = some signal → y.signals.find? id' = some signal' →
    (∀ k, k ∈ signal.eventIds ↔ k ∈ signal'.eventIds) → id = id'

variable {codec : Codec} {render x s plan} {y z : DetectionEngine} {r : Reading}

lemma sameKey_iff {a b : SecurityEvent} : SameKey plan a b ↔
    keyForm (correlationKey plan a) = keyForm (correlationKey plan b) := decide_eq_true_iff

lemma mem_counted (hread : read s r.rule y = .ok r) (hevents : y.events = x.events) {e : SecurityEvent} :
    e ∈ r.events.filter (counts render r.plan) ↔ Counted render x r.scope r.plan e := by
  obtain ⟨rfl, -, -, events, hread, hr⟩ := read_eq_ok hread
  rw [hr, List.mem_filter, List.mem_filter, BoundedSecurityEventIngestor.mem_events hread, hevents,
    decide_eq_true_eq, counts, Bool.and_eq_true, Bool.not_eq_true']
  constructor
  · rintro ⟨⟨⟨hstored, hscope⟩, hfamily⟩, hmatched, hkeyed⟩
    exact ⟨hstored, hscope, hfamily, hmatched, hkeyed⟩
  · rintro ⟨hstored, hscope, hfamily, hmatched, hkeyed⟩
    exact ⟨⟨⟨hstored, hscope⟩, hfamily⟩, hmatched, hkeyed⟩

lemma two_le_threshold (p : DetectionPlan) (htype : p.ruleType = .countOverWindow) : 2 ≤ p.threshold := by
  have hbounded := p.valid.bounded
  rw [RuleContent.Bounded, htype] at hbounded
  exact hbounded.2.2.1

variable {l : List SecurityEvent}

lemma mem_windowOf_iff (hl : ∀ e, e ∈ l ↔ Counted render x s plan e) {e c : SecurityEvent} :
    c ∈ windowOf plan l e ↔ Trails render x s plan e c := by
  rw [mem_windowOf, hl, ← sameKey_iff]
  exact ⟨fun ⟨h₁, h₂, h₃, h₄⟩ => ⟨h₁, h₂, h₃, h₄⟩, fun h => ⟨h.counted, h.key, h.order, h.recent⟩⟩

lemma window_iff_burst (htype : plan.ruleType = .countOverWindow) (hids : (l.map (·.eventId)).Nodup)
    (hl : ∀ e, e ∈ l ↔ Counted render x s plan e) :
    (∃ e ∈ l, plan.threshold ≤ (windowOf plan l e).length) ↔ ∃ es, Burst render x s plan es := by
  have htwo := two_le_threshold plan htype
  have hreaches : ∀ e₀ : SecurityEvent, _ := fun e₀ =>
    @Windows.reaches_iff _ occurredBefore _ SecurityEvent.occurredAt plan.width _ _
      (fun _ _ => occurredAt_of_before) _ (@groupOf_ids plan _ hids e₀).of_map plan.threshold.toNat (by omega)
  constructor
  · rintro ⟨e, he, hlength⟩
    obtain ⟨es, hes, henough, hsub, hspan⟩ :=
      (hreaches e).mp ⟨e, mem_groupOf.mpr ⟨he, rfl⟩, by rw [windowOf] at hlength; omega⟩
    refine ⟨es, hes, by omega, fun c hc => (hl c).mp (mem_groupOf.mp (hsub c hc)).1, ?_, hspan⟩
    intro a ha b hb
    exact sameKey_iff.mpr ((mem_groupOf.mp (hsub a ha)).2.trans (mem_groupOf.mp (hsub b hb)).2.symm)
  · rintro ⟨es, hburst⟩
    have henough := hburst.enough
    obtain ⟨e₀, he₀⟩ := List.exists_mem_of_length_pos (by omega : 0 < es.length)
    obtain ⟨a, ha, hlength⟩ := (hreaches e₀).mpr ⟨es, hburst.distinct, by omega, fun e he =>
      mem_groupOf.mpr ⟨(hl e).mpr (hburst.counted e he), sameKey_iff.mp (hburst.alike e he e₀ he₀)⟩, hburst.span⟩
    refine ⟨a, (mem_groupOf.mp ha).1, ?_⟩
    rw [windowOf, groupOf_congr (mem_groupOf.mp ha).2]
    omega

lemma raisedAt_window (hids : (l.map (·.eventId)).Nodup) (hl : ∀ e, e ∈ l ↔ Counted render x s plan e)
    {e : SecurityEvent} (henough : plan.threshold ≤ (windowOf plan l e).length) {signal : DetectionSignal}
    (hsignal : signal.eventIds = orderedIds (windowOf plan l e)) : RaisedAt render x s plan e signal := by
  have hperm : signal.eventIds.Perm ((windowOf plan l e).map (·.eventId)) := by
    rw [hsignal]
    exact List.perm_insertionSort _ _
  refine ⟨fun id => ?_, hperm.nodup_iff.mpr (windowOf_ids hids e), ?_⟩
  · rw [hperm.mem_iff, List.mem_map]
    simp only [mem_windowOf_iff hl]
  · rwa [hperm.length_eq, List.length_map]

lemma orderedIds_congr {a b : List SecurityEvent} (ha : (a.map (·.eventId)).Nodup)
    (hb : (b.map (·.eventId)).Nodup) (h : ∀ k, k ∈ orderedIds a ↔ k ∈ orderedIds b) :
    orderedIds a = orderedIds b := by
  have hpa : (orderedIds a).Perm (a.map (·.eventId)) := List.perm_insertionSort _ _
  have hpb : (orderedIds b).Perm (b.map (·.eventId)) := List.perm_insertionSort _ _
  have hperm := (List.perm_ext_iff_of_nodup (hpa.nodup_iff.mpr ha) (hpb.nodup_iff.mpr hb)).mpr h
  exact hperm.eq_of_pairwise (fun _ _ _ _ => String.le_antisymm) (List.pairwise_insertionSort _ _)
    (List.pairwise_insertionSort _ _)

lemma countRun_of_windows (htype : r.plan.ruleType = .countOverWindow) (hids : (l.map (·.eventId)).Nodup)
    (hl : ∀ e, e ∈ l ↔ Counted render x r.scope r.plan e) {ws : List (List SecurityEvent)} {run : DetectionRun}
    (hrun : run.signalIds = (ws.map (windowSignalId codec r)).eraseDups) (hy : Holds codec r ws.reverse y)
    (hws : ∀ w, w ∈ ws ↔ ∃ e ∈ l, w = windowOf r.plan l e ∧ r.plan.threshold ≤ w.length) :
    CountRun render x r run y := by
  have hid : ∀ id, id ∈ run.signalIds ↔ ∃ w ∈ ws, windowSignalId codec r w = id := by
    intro id
    rw [hrun, List.mem_eraseDups, List.mem_map]
  have hheld : ∀ w ∈ ws, ∃ signal, y.signals.find? (windowSignalId codec r w) = some signal ∧
      SignalOf codec r w signal := fun w hw => (hy.raised w (List.mem_reverse.mpr hw)).2
  have hsignal : ∀ w ∈ ws, ∀ signal, y.signals.find? (windowSignalId codec r w) = some signal →
      signal.eventIds = orderedIds w := by
    intro w hw signal hfind
    obtain ⟨signal', hfind', hof⟩ := hheld w hw
    obtain rfl := Option.some.inj (hfind'.symm.trans hfind)
    exact hof.eventIds
  refine ⟨?_, fun id hmem => ?_, fun id hmem signal hfind => ?_, ?_, ?_⟩
  · rw [← window_iff_burst htype hids hl]
    constructor
    · intro hne
      obtain ⟨id, hmem⟩ := List.exists_mem_of_ne_nil _ hne
      obtain ⟨w, hw, -⟩ := (hid id).mp hmem
      obtain ⟨e, he, rfl, hlength⟩ := (hws w).mp hw
      exact ⟨e, he, hlength⟩
    · rintro ⟨e, he, hlength⟩
      exact List.ne_nil_of_mem ((hid _).mpr ⟨_, (hws _).mpr ⟨e, he, rfl, hlength⟩, rfl⟩)
  · obtain ⟨w, hw, rfl⟩ := (hid id).mp hmem
    obtain ⟨signal, hfind, hof⟩ := hheld w hw
    exact ⟨signal, hfind, hof.scope, hof.rule⟩
  · obtain ⟨w, hw, rfl⟩ := (hid id).mp hmem
    have hevents := hsignal w hw signal hfind
    obtain ⟨e, he, rfl, hlength⟩ := (hws w).mp hw
    exact ⟨e, (hl e).mp he, raisedAt_window hids hl hlength hevents⟩
  · intro e es he hes henough htrails
    have hsub := (List.subperm_of_subset hes fun c hc => (mem_windowOf_iff hl).mpr (htrails c hc)).length_le
    have hlength : r.plan.threshold ≤ (windowOf r.plan l e).length := by omega
    have hw := (hws _).mpr ⟨e, (hl e).mpr he, rfl, hlength⟩
    obtain ⟨signal, hfind, hof⟩ := hheld _ hw
    exact ⟨_, (hid _).mpr ⟨_, hw, rfl⟩, signal, hfind, raisedAt_window hids hl hlength hof.eventIds⟩
  · intro id hmem id' hmem' signal signal' hfind hfind' hsame
    obtain ⟨w, hw, rfl⟩ := (hid id).mp hmem
    obtain ⟨w', hw', rfl⟩ := (hid id').mp hmem'
    rw [hsignal w hw signal hfind, hsignal w' hw' signal' hfind'] at hsame
    obtain ⟨e, -, rfl, -⟩ := (hws w).mp hw
    obtain ⟨e', -, rfl, -⟩ := (hws w').mp hw'
    exact (ids_congr _ _ (orderedIds_congr (windowOf_ids hids e) (windowOf_ids hids e') hsame)).2

end Result

section Order

variable {codec : Codec} {render : Value → String} {x y : DetectionEngine} {r : Reading}

/-- The engine over another view of events. -/
def watching (i : BoundedSecurityEventIngestor) (x : DetectionEngine) : DetectionEngine := { x with events := i }

variable (i : BoundedSecurityEventIngestor)

variable (codec r x) in
lemma evaluate_watching (item : Item) :
    evaluateItem codec r item (watching i x) = (evaluateItem codec r item x).map fun a => (a.1, watching i a.2) := by
  cases hfound : x.evaluations.find? (evaluationIdFor codec r.rule r.plan r.scope item.events item.matched
      (r.runId codec)) with
  | some ev =>
    have hfound' : (watching i x).evaluations.find? (evaluationIdFor codec r.rule r.plan r.scope item.events
        item.matched (r.runId codec)) = some ev := hfound
    rw [evaluateItem, evaluateItem, evaluate_found hfound, evaluate_found hfound']
    by_cases hmissing : ev.result = .match ∧ (signalIdFor codec r.scope r.rule (orderedIds item.events)
        r.plan.contentDigest item.matched).bind x.signals.find? = none
    · rw [if_pos hmissing]
      exact if_pos hmissing
    · rw [if_neg hmissing]
      exact if_neg hmissing
  | none =>
    have hfound' : (watching i x).evaluations.find? (evaluationIdFor codec r.rule r.plan r.scope item.events
        item.matched (r.runId codec)) = none := hfound
    rw [evaluateItem, evaluateItem, evaluate_fresh hfound, evaluate_fresh hfound', Domain.map_bind]
    congr 1
    funext _
    cases signalIdFor codec r.scope r.rule (orderedIds item.events) r.plan.contentDigest item.matched with
    | none => rfl
    | some id =>
      have hsame : (watching i x).signals.find? id = x.signals.find? id := rfl
      simp only [hsame]
      cases x.signals.find? id with
      | none => rfl
      | some signal => rfl

lemma evaluateItems_watching (its : List Item) (x : DetectionEngine) :
    evaluateItems codec r.rule r.plan r.scope (r.runId codec) its (watching i x) =
      ((evaluateItems codec r.rule r.plan r.scope (r.runId codec) its x).1,
        watching i (evaluateItems codec r.rule r.plan r.scope (r.runId codec) its x).2) := by
  induction its generalizing x with
  | nil => rfl
  | cons item its ih =>
    have hover := evaluate_watching codec x r i item
    rw [evaluateItem, evaluateItem] at hover
    rw [evaluateItems, evaluateItems, hover]
    cases evaluate codec r.rule r.plan r.scope item.events item.predicates item.matched (r.runId codec) x with
    | error e => rfl
    | ok a =>
      obtain ⟨⟨ev, sg⟩, y⟩ := a
      simp only [Except.map, ih]
      cases evaluateItems codec r.rule r.plan r.scope (r.runId codec) its y with
      | mk answer z => cases answer <;> rfl

variable (codec render r) in
lemma conclude_watching (x : DetectionEngine) : conclude codec render r (watching i x) =
    ((conclude codec render r x).1, watching i (conclude codec render r x).2) := by
  have hruns : (watching i x).runs.find? (r.runId codec) = x.runs.find? (r.runId codec) := rfl
  rw [conclude, conclude, hruns]
  cases x.runs.find? (r.runId codec) with
  | some existing => rfl
  | none =>
    have htick : (watching i x).tick = watching i x.tick := rfl
    simp only [htick]
    cases items render r.plan r.events with
    | error e => rfl
    | ok its =>
      simp only [evaluateItems_watching]
      cases evaluateItems codec r.rule r.plan r.scope (r.runId codec) its x.tick with
      | mk answer z => cases answer <;> rfl

variable (codec x) in
lemma registerRule_watching (rule : DetectionRule) (plan : Option DetectionPlan) (number : Option Int) :
    registerRule codec rule plan number (watching i x) =
      (registerRule codec rule plan number x).map fun a => (a.1, watching i a.2) := by
  have hsame : registration codec rule plan number (watching i x) = registration codec rule plan number x := rfl
  rw [registerRule_eq, registerRule_eq, hsame]
  cases registration codec rule plan number x with
  | error e => rfl
  | ok c => rfl

lemma admission_watching {ref : RuleRef} {requested : Option Scope} {version : Option Int}
    {a : Scope × DetectionRuleVersion} (h : admission codec ref requested version x = .ok (a, y)) :
    admission codec ref requested version (watching i x) = .ok (a, watching i y) := by
  obtain ⟨s, v⟩ := a
  obtain ⟨hrequested, hscope, hselect, hbind⟩ := admission_eq_ok h
  have hbind' : DetectionEngine.bind codec ref v (watching i x) = .ok (watching i y) := by
    cases ref with
    | id ruleId =>
      obtain rfl := Except.ok.inj hbind
      rfl
    | rule rule =>
      obtain ⟨a, ha, rfl⟩ := map_eq_ok.mp hbind
      rw [DetectionEngine.bind, registerRule_watching, ha]
      rfl
  have hselect' : selectVersion codec ref version (watching i x) = .ok v := hselect
  have hscope' : (watching i x).requireScope s = .ok () := hscope
  rw [admission, show (requested <|> (watching i x).scope) = some s from hrequested]
  rw [show orRaise (some s) _ _ = .ok s from rfl, ok_bind, hscope', ok_bind, hselect', ok_bind, hbind', ok_bind]
  rfl

lemma prepare_watching (calls : List EngineCall) (hcalls : calls.all fun call => !isRun call)
    {x x' : DetectionEngine} (h : watching i x = watching i x') : watching i (prepare codec render calls x) =
      watching i (prepare codec render (calls.filter fun call => !call.brings) x') := by
  induction calls generalizing x x' with
  | nil => exact h
  | cons call calls ih =>
    rw [List.all_cons, Bool.and_eq_true, Bool.not_eq_true'] at hcalls
    by_cases hbrings : call.brings = true
    · rw [List.filter_cons_of_neg (by rw [hbrings]; decide)]
      refine ih hcalls.2 ?_
      obtain ⟨plane, hplane, -⟩ := exec_brings codec render x hbrings
      have hkept : watching i (call.exec codec render x).2 = watching i x := by rw [hplane]; rfl
      exact hkept.trans h
    · rw [List.filter_cons_of_pos (by rw [Bool.not_eq_true] at hbrings; rw [hbrings]; rfl)]
      refine ih hcalls.2 ?_
      cases call with
      | arrive event => exact absurd rfl hbrings
      | ingest event scope => exact absurd rfl hbrings
      | run ref scope version => cases hcalls.1
      | register rule plan number =>
        have hregister := fun z => registerRule_watching codec z i rule plan number
        have hboth := (hregister x).symm.trans ((congrArg (registerRule codec rule plan number) h).trans
          (hregister x'))
        simp only [EngineCall.exec]
        cases hx : registerRule codec rule plan number x with
        | error e =>
          cases hx' : registerRule codec rule plan number x' with
          | error e' => exact h
          | ok b =>
            rw [hx, hx'] at hboth
            cases hboth
        | ok a =>
          cases hx' : registerRule codec rule plan number x' with
          | error e' =>
            rw [hx, hx'] at hboth
            cases hboth
          | ok b =>
            rw [hx, hx'] at hboth
            exact congrArg Prod.snd (Except.ok.inj hboth)

end Order

section Settled

variable (codec : Codec) (render : Value → String)

/-- An engine without rules and events. -/
def emptyEngine (bound view : Option Scope) (clock : ℕ → Datetime) : DetectionEngine :=
  DetectionEngine.init ⟨SecurityEventPlane.empty, bound⟩ view clock

lemma emptyEngine_keyed (bound view : Option Scope) (clock : ℕ → Datetime) :
    Keyed (emptyEngine bound view clock) :=
  ⟨fun _ _ h => (nomatch h), fun _ _ h => nomatch h⟩

variable {codec render}

lemma run_of_conclude {ref : RuleRef} {requested : Option Scope} {version : Option Int} {s : Scope}
    {v : DetectionRuleVersion} {x y z : DetectionEngine} {r : Reading} {run : DetectionRun}
    (hadmitted : admission codec ref requested version x = .ok ((s, v), y)) (hread : read s v y = .ok r)
    (hrun : conclude codec render r y = (.ok run, z)) :
    DetectionEngine.run codec render ref requested version x = .ok (run, z) := by
  have hperform : perform codec render ref requested version x = (.ok run, z) := by
    rw [perform, hadmitted]
    simp only [resume, hread]
    exact hrun
  rw [← perform_eq, hperform]
  rfl

variable (codec render) in
lemma prepare_eq_watching (calls calls' : List EngineCall) (hcalls : calls.all fun call => !isRun call)
    (hcalls' : calls'.all fun call => !isRun call)
    (hrules : calls'.filter (fun call => !call.brings) = calls.filter fun call => !call.brings)
    (x : DetectionEngine) : prepare codec render calls' x =
      watching (prepare codec render calls' x).events (prepare codec render calls x) := by
  have hfirst := @prepare_watching codec render (prepare codec render calls' x).events
    calls hcalls x _ rfl
  have hsecond := @prepare_watching codec render (prepare codec render calls' x).events
    calls' hcalls' x _ rfl
  rw [hfirst, ← hrules, ← hsecond]
  rfl

theorem countOverWindow_run (codec : Codec) (render : Value → String) (bound view : Option Scope)
    (clock : ℕ → Datetime) (calls : List EngineCall) (hcalls : calls.all fun call => !isRun call)
    (ref : RuleRef) (requested : Option Scope) (version : Option Int) (s : Scope) (v : DetectionRuleVersion)
    (y : DetectionEngine) (r : Reading)
    (hadmitted : admission codec ref requested version
      (prepare codec render calls (emptyEngine bound view clock)) = .ok ((s, v), y))
    (hread : read s v y = .ok r) (htype : r.plan.ruleType = .countOverWindow)
    (hscalar : ∀ e ∈ r.events, counts render r.plan e = true → (correlationKey r.plan e).any unhashable = false)
    (hapart : WindowsApart codec r (countWindows render r)) :
    ∃ run z, DetectionEngine.run codec render ref requested version
        (prepare codec render calls (emptyEngine bound view clock)) = .ok (run, z) ∧
      CountRun render (prepare codec render calls (emptyEngine bound view clock)) r run z ∧
      ∀ calls' : List EngineCall, (calls'.all fun call => !isRun call) →
        (calls'.filter (fun call => !call.brings) = calls.filter fun call => !call.brings) →
        SameEvents s (prepare codec render calls (emptyEngine bound view clock))
          (prepare codec render calls' (emptyEngine bound view clock)) →
        ∃ z', DetectionEngine.run codec render ref requested version
            (prepare codec render calls' (emptyEngine bound view clock)) = .ok (run, z') ∧
          z'.signals = z.signals := by
  have hkeyed := fun cs => (prepare_grown codec render cs
    (emptyEngine bound view clock)).keyed (emptyEngine_keyed bound view clock)
  obtain ⟨hfresh, hevents⟩ := admitted_fresh (prepare_fresh hcalls (Fresh.init _ _ _)) hadmitted
  obtain ⟨rfl, rfl, ⟨k, hplan⟩, events, hfound, hr⟩ := read_eq_ok hread
  have hids : (r.events.map (·.eventId)).Nodup := by
    rw [hr]
    refine (events_nodup ?_ hfound).sublist (List.filter_sublist.map _)
    rw [hevents]
    exact (hkeyed calls).events
  obtain ⟨ws, run, z, hrun, hsignals, hz, hws⟩ :=
    conclude_windows hfresh htype (hfresh.plans k _ hplan) hids hscalar hapart
  refine ⟨run, z, run_of_conclude hadmitted hread hrun, ?_, fun calls' hcalls' hrules hsame => ?_⟩
  · exact countRun_of_windows htype (hids.sublist (List.filter_sublist.map _))
      (fun e => mem_counted hread hevents) hsignals hz hws
  · have hview : ∀ cs, (prepare codec render cs (emptyEngine bound view clock)).events.scope = bound :=
      fun cs => (prepare_grown codec render cs _).view
    have hsameEvents := events_same ((hview calls).trans (hview calls').symm) (hkeyed calls) (hkeyed calls') hsame
    have hread' : read r.scope r.rule
        (watching (prepare codec render calls' (emptyEngine bound view clock)).events y) = .ok r := by
      rw [← hread, DetectionEngine.read, DetectionEngine.read, hevents]
      simp only [watching]
      rw [← hsameEvents]
      rfl
    have hover := prepare_eq_watching codec render calls calls' hcalls hcalls' hrules
      (emptyEngine bound view clock)
    have hconclude := conclude_watching codec render r
      (prepare codec render calls' (emptyEngine bound view clock)).events y
    rw [hrun] at hconclude
    have hrun' := run_of_conclude (admission_watching _ hadmitted) hread' hconclude
    rw [← hover] at hrun'
    exact ⟨_, hrun', rfl⟩

end Settled

section Example

def laterEvent : SecurityEvent :=
  { toolEvent with
    eventId := "SE-49dabda94267d85c8b66edf051563e17"
    occurredAt := 30000000
    observedAt := 30000000
    rawEvidenceRef := "EV-3"
    provenance := ⟨"R-3", "agent", "1", "EV-3", "d1", by decide⟩
    nonblank := by decide
    ordered := by decide
    evidence := by decide }

/-- Two uses of the tool by one actor in a minute. -/
def burstVersion : DetectionRuleVersion :=
  { toolVersion with
    ruleType := .countOverWindow
    contentDigest := "c2"
    correlationKeys := ["actor"]
    windowSeconds := 60
    threshold := 2
    ruleId := "DR-2"
    valid := by decide
    nonblank := by decide }

def burstRule : DetectionRule :=
  { toolRule with
    ruleId := "DR-2"
    versions := [burstVersion]
    nonblank := by decide
    activeExists := by decide
    belongs := by decide
    unique := by decide
    owned := by decide }

def burstDates : Codec where
  contentDigest _ := ""
  isoformat t := if t = 0 then "1970-01-01T00:00:00+00:00" else "1970-01-01T00:00:30+00:00"
  dumpDatetime t := if t = 0 then "1970-01-01T00:00:00Z" else "1970-01-01T00:00:30Z"

def burstRunId : String := "RUN-c69eabf9fe88c90b73a945c3b7a7d203"

def burstPlanId : String := "PLAN-d263fdf5e5d6f68eace11dddae25eeba"

/-- The documents of the rule, the events and their windows with their digests. -/
def burstDocuments : List (Value × String) :=
  [(.obj [("source", .str "agent"), ("source_record_id", .str "R-1"),
        ("occurred_at", .str "1970-01-01T00:00:00+00:00"), ("source_digest", .str "d1")],
      "2e7d656e26cd336166fa1155f0ee57d0f3065cb20529a77a40046b894e3a76e9"),
    (.obj [("source", .str "agent"), ("source_record_id", .str "R-3"),
        ("occurred_at", .str "1970-01-01T00:00:30+00:00"), ("source_digest", .str "d1")],
      "49dabda94267d85c8b66edf051563e17153694677dde63421b24c5ef4b4753ca"),
    (toolEvent.canonicalDict burstDates, "32609f0db66e86af5caa2c9997e4146bc75b0e5a2fabb8c0b833ec063a02477e"),
    (laterEvent.canonicalDict burstDates, "c606ccffd2d1f464a0d48f837715a79f089c0859febbf545056b1a0f54158f0f"),
    (.arr [.str "DR-2", .int 1, .str "c2"], "d263fdf5e5d6f68eace11dddae25eeba42048f88f44dbb37040041c28c416870"),
    (.obj (burstVersion.members ++ [("created_at", .str "1970-01-01T00:00:00Z"),
        ("modified_at", .str "1970-01-01T00:00:00Z")]),
      "6f8ce193296aa3ff07f1eaf2395458656a4c7bc8362a77e02e6f158bfd752655"),
    (.obj (burstVersion.toRuleContent.members ++ [("plan_id", .str burstPlanId), ("rule_id", .str "DR-2"),
        ("rule_version", .int 1)]), "91bbda4c120e4904baaa34b3b4fe376d041585cfdaa9627e18c0081234204014"),
    (.arr [evaluationKey toolScope burstVersion burstRunId [toolEvent.eventId] .match "c2"],
      "8b54d65690ddb0dc2ec8584312b33c0d5f79622c5625731b6c959c61bf64b77c"),
    (evaluationKey toolScope burstVersion burstRunId [toolEvent.eventId] .match "c2",
      "bfa1e689f41a05ceb71f126a4c9e68f7f8bf9e35efc660ac52d43d95a501b97d"),
    (.arr (identity toolScope burstVersion [toolEvent.eventId] "c2"),
      "37d3a1901ec8927f4ca4b3e68e32a14ae29abd8a99c265f8086e23f41ffa4b4b"),
    (.arr [evaluationKey toolScope burstVersion burstRunId [toolEvent.eventId, laterEvent.eventId] .match "c2"],
      "ad14df84f20635fc20eca03486d59c7df7c276d68f23133d7b55db8dc83613cc"),
    (evaluationKey toolScope burstVersion burstRunId [toolEvent.eventId, laterEvent.eventId] .match "c2",
      "2004998f8a6459920699bdee3239c7828fa780e8b38b5eb9a7f45c3a2d26d91a"),
    (.arr (identity toolScope burstVersion [toolEvent.eventId, laterEvent.eventId] "c2"),
      "c69eabf9fe88c90b73a945c3b7a7d2033977010637863b9472ac39554231d267")]

def burstDigests : Codec := { burstDates with contentDigest v := (burstDocuments.lookup v).getD "" }

def burstEngine (calls : List EngineCall) : DetectionEngine :=
  prepare burstDigests toolText calls (emptyEngine none (some toolScope) fun n => n)

def burstCalls : List EngineCall := [.register burstRule none none, .arrive toolEvent, .arrive laterEvent]

/-- The same events in the other order. -/
def lateCalls : List EngineCall := [.arrive laterEvent, .register burstRule none none, .arrive toolEvent]

def burstReading : Reading where
  scope := toolScope
  rule := burstVersion
  plan := burstVersion.plan burstDigests
  events := [toolEvent, laterEvent]

lemma admission_by_id {codec : Codec} {ruleId : String} {version : Option Int} {x : DetectionEngine} {s : Scope}
    {v : DetectionRuleVersion} (hscope : x.scope = some s) (hselect : selectVersion codec (.id ruleId) version x = .ok v) :
    admission codec (.id ruleId) none version x = .ok ((s, v), x) := by
  have hrequire : x.requireScope s = .ok () := by
    rw [DetectionEngine.requireScope, hscope]
    simp [raiseIf]
  rw [admission, hscope]
  rw [show orRaise (none <|> some s) _ _ = .ok s from rfl, ok_bind, hrequire, ok_bind, hselect, ok_bind,
    show DetectionEngine.bind codec (.id ruleId) v x = .ok x from rfl, ok_bind]
  rfl

lemma sameEvents_of_perm {s : Scope} {x x' : DetectionEngine}
    (h : x.events.plane.events.rows.Perm x'.events.plane.events.rows) : SameEvents s x x' := by
  intro id e _
  rw [Dict.find?_eq_some_iff, Dict.find?_eq_some_iff, Table.mem_def, Table.mem_def]
  exact h.mem_iff

theorem count_run :
    ∃ run z, DetectionEngine.run burstDigests toolText (.id "DR-2") none none (burstEngine burstCalls) =
        .ok (run, z) ∧
      CountRun toolText (burstEngine burstCalls) burstReading run z ∧
      ∃ z', DetectionEngine.run burstDigests toolText (.id "DR-2") none none (burstEngine lateCalls) =
          .ok (run, z') ∧ z'.signals = z.signals := by
  obtain ⟨run, z, hrun, hcount, horder⟩ := countOverWindow_run burstDigests toolText none (some toolScope)
    (fun n => n) burstCalls rfl (.id "DR-2") none none toolScope burstVersion (burstEngine burstCalls) burstReading
    (admission_by_id rfl (by decide +kernel)) (by decide +kernel) rfl (by decide +kernel) (by decide +kernel)
  exact ⟨run, z, hrun, hcount, horder lateCalls rfl rfl (sameEvents_of_perm (by decide +kernel))⟩

end Example

end SecScanMonitor.DetectionResponse
