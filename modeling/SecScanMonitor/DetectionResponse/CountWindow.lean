import SecScanMonitor.DetectionResponse.Isolation
import SecScanMonitor.Foundations.Windows

/-! What a COUNT_OVER_WINDOW rule raises: one signal for each event at which a trailing window of events with
the same correlation key reaches the threshold (`run` of `detection_response/engine.py`). -/

namespace SecScanMonitor.DetectionResponse

open Foundations Domain ContinuousSecurity DetectionEngine

section Groups

def correlationKey (plan : DetectionPlan) (event : SecurityEvent) : List Value :=
  plan.correlationKeys.map (fieldValue event)

/-- The form of a key that equal keys have in common. -/
def keyForm (key : List Value) : Value := (Value.arr key).normal true

variable {render : Value → String} {plan : DetectionPlan}

/-- The event is counted, if it is one of the source events. -/
def counts (render : Value → String) (plan : DetectionPlan) (e : SecurityEvent) : Bool :=
  (plan.predicates.all fun p => predicateMatches render e p.1 p.2) && !(correlationKey plan e).any missing

/-- Groups of events by their keys. -/
structure Grouped (plan : DetectionPlan) (events : List SecurityEvent) (groups : List Group) : Prop where
  members : ∀ g ∈ groups, g.2 = events.filter fun e => keyForm (correlationKey plan e) = keyForm g.1
  covers : ∀ e ∈ events, ∃ g ∈ groups, keyForm g.1 = keyForm (correlationKey plan e)
  distinct : (groups.map fun g => keyForm g.1).Nodup

lemma addToGroup_cases (key : List Value) (e : SecurityEvent) (groups : List Group) :
    (∃ front g back, groups = front ++ g :: back ∧ keyForm g.1 = keyForm key ∧
        addToGroup key e groups = front ++ (g.1, g.2 ++ [e]) :: back) ∨
      (∀ g ∈ groups, keyForm g.1 ≠ keyForm key) ∧ addToGroup key e groups = groups ++ [(key, [e])] := by
  induction groups with
  | nil => exact Or.inr ⟨nofun, rfl⟩
  | cons g groups ih =>
    rw [addToGroup]
    by_cases hkey : keyForm g.1 = keyForm key
    · have hsame : (Value.arr g.1).pyEq (.arr key) = true := decide_eq_true hkey
      exact Or.inl ⟨[], g, groups, rfl, hkey, by rw [if_pos hsame]; rfl⟩
    · have hother : ¬ (Value.arr g.1).pyEq (.arr key) = true := fun h => hkey (of_decide_eq_true h)
      rw [if_neg hother]
      rcases ih with ⟨front, g', back, rfl, hg', hadd⟩ | ⟨hnew, hadd⟩
      · exact Or.inl ⟨g :: front, g', back, rfl, hg', by rw [hadd]; rfl⟩
      · refine Or.inr ⟨fun g' hg' => ?_, by rw [hadd]; rfl⟩
        rcases List.mem_cons.mp hg' with rfl | hg'
        · exact hkey
        · exact hnew g' hg'

lemma Grouped.nil : Grouped plan [] [] where
  members _ hg := absurd hg List.not_mem_nil
  covers _ he := absurd he List.not_mem_nil
  distinct := List.nodup_nil

lemma Grouped.add {events : List SecurityEvent} {groups : List Group} (h : Grouped plan events groups)
    (e : SecurityEvent) : Grouped plan (events ++ [e]) (addToGroup (correlationKey plan e) e groups) := by
  rcases addToGroup_cases (correlationKey plan e) e groups with
    ⟨front, g, back, rfl, hkey, hadd⟩ | ⟨hnew, hadd⟩
  · rw [hadd]
    have hdistinct := h.distinct
    rw [List.map_append, List.map_cons, List.nodup_middle, List.nodup_cons, ← List.map_append] at hdistinct
    -- the event leaves the other groups as they are
    have hother : ∀ g' ∈ front ++ back, keyForm (correlationKey plan e) ≠ keyForm g'.1 := by
      intro g' hg' heq
      refine hdistinct.1 (List.mem_map.mpr ⟨g', hg', ?_⟩)
      exact (hkey.trans heq).symm
    refine ⟨fun g' hg' => ?_, fun e' he' => ?_, ?_⟩
    · have hmem : g' ∈ front ++ back ∨ g' = (g.1, g.2 ++ [e]) := by
        simp only [List.mem_append, List.mem_cons] at hg' ⊢
        tauto
      rw [List.filter_append]
      rcases hmem with hg' | rfl
      · have hin : g' ∈ front ++ g :: back := by
          simp only [List.mem_append, List.mem_cons] at hg' ⊢
          tauto
        rw [← h.members g' hin, List.filter_singleton, decide_eq_false (hother g' hg')]
        simp
      · have hmembers := h.members g (List.mem_append_right front List.mem_cons_self)
        rw [← hmembers, List.filter_singleton, decide_eq_true hkey.symm]
        rfl
    · rcases List.mem_append.mp he' with he' | he'
      · obtain ⟨g', hg', hform⟩ := h.covers e' he'
        rcases List.mem_append.mp hg' with hg' | hg'
        · exact ⟨g', List.mem_append_left _ hg', hform⟩
        · rcases List.mem_cons.mp hg' with rfl | hg'
          · exact ⟨(g'.1, g'.2 ++ [e]), List.mem_append_right front List.mem_cons_self, hform⟩
          · exact ⟨g', List.mem_append_right front (List.mem_cons_of_mem _ hg'), hform⟩
      · obtain rfl := List.mem_singleton.mp he'
        exact ⟨(g.1, g.2 ++ [e']), List.mem_append_right front List.mem_cons_self, hkey⟩
    · have hsame := h.distinct
      rwa [List.map_append, List.map_cons] at hsame ⊢
  · rw [hadd]
    have hnone : (events.filter fun e' => keyForm (correlationKey plan e') =
        keyForm (correlationKey plan e)) = [] := by
      refine List.filter_eq_nil_iff.mpr fun e' he' heq => ?_
      obtain ⟨g, hg, hform⟩ := h.covers e' he'
      exact hnew g hg (hform.trans (of_decide_eq_true heq))
    refine ⟨fun g hg => ?_, fun e' he' => ?_, ?_⟩
    · rw [List.filter_append]
      rcases List.mem_append.mp hg with hg | hg
      · rw [← h.members g hg, List.filter_singleton, decide_eq_false (hnew g hg).symm]
        simp
      · obtain rfl := List.mem_singleton.mp hg
        rw [hnone]
        simp
    · rcases List.mem_append.mp he' with he' | he'
      · obtain ⟨g, hg, hform⟩ := h.covers e' he'
        exact ⟨g, List.mem_append_left _ hg, hform⟩
      · obtain rfl := List.mem_singleton.mp he'
        exact ⟨_, List.mem_append_right _ (List.mem_singleton_self _), rfl⟩
    · rw [List.map_append, List.nodup_append']
      refine ⟨h.distinct, List.nodup_singleton _, fun k hk hk' => ?_⟩
      obtain ⟨g, hg, rfl⟩ := List.mem_map.mp hk
      obtain ⟨g', hg', hform⟩ := List.mem_map.mp hk'
      obtain rfl := List.mem_singleton.mp hg'
      exact hnew g hg hform.symm

/-- Hashable keys are grouped, and the events that are counted fall into groups. -/
lemma groupEvents_grouped (hvalid : validatePredicates plan.predicates = .ok ())
    {events done : List SecurityEvent} {groups : List Group} (h : Grouped plan done groups)
    (hscalar : ∀ e ∈ events, counts render plan e = true → (correlationKey plan e).any unhashable = false) :
    ∃ groups', groupEvents render plan events groups = .ok groups' ∧
      Grouped plan (done ++ events.filter (counts render plan)) groups' := by
  induction events generalizing done groups with
  | nil => exact ⟨groups, rfl, by rwa [List.filter_nil, List.append_nil]⟩
  | cons e events ih =>
    have hrest := fun e' he' => hscalar e' (List.mem_cons_of_mem e he')
    have hmatch : ∃ fields, matchesEvent render e plan.predicates =
        .ok (plan.predicates.all fun p => predicateMatches render e p.1 p.2, fields) := by
      rw [matchesEvent, hvalid, ok_bind]
      cases plan.predicates.all fun p => predicateMatches render e p.1 p.2 with
      | true => exact ⟨_, rfl⟩
      | false => exact ⟨_, rfl⟩
    obtain ⟨fields, hfields⟩ := hmatch
    rw [groupEvents, hfields, ok_bind]
    by_cases hcounts : counts render plan e = true
    · have hkept : ¬ ((plan.predicates.all fun p => predicateMatches render e p.1 p.2) = false ∨
          (correlationKey plan e).any missing = true) := by
        rw [counts, Bool.and_eq_true, Bool.not_eq_true'] at hcounts
        rw [hcounts.1, hcounts.2]
        decide
      have hhash := hscalar e List.mem_cons_self hcounts
      obtain ⟨groups', hgroups', hgrouped⟩ := ih (h.add e) hrest
      refine ⟨groups', ?_, ?_⟩
      · simp only [correlationKey] at hkept hhash hgroups'
        simp only [if_neg hkept]
        rw [raiseIf_bind_eq_ok]
        exact ⟨by rw [hhash]; decide, hgroups'⟩
      · rwa [List.filter_cons_of_pos hcounts, ← List.singleton_append, ← List.append_assoc]
    · have hskip : (plan.predicates.all fun p => predicateMatches render e p.1 p.2) = false ∨
          (correlationKey plan e).any missing = true := by
        rw [counts, Bool.and_eq_true, not_and_or, Bool.not_eq_true, Bool.not_eq_true, Bool.not_eq_false'] at hcounts
        exact hcounts
      obtain ⟨groups', hgroups', hgrouped⟩ := ih h hrest
      refine ⟨groups', ?_, ?_⟩
      · simp only [correlationKey] at hskip
        simp only [if_pos hskip]
        exact hgroups'
      · rwa [List.filter_cons_of_neg hcounts]

end Groups

section Windows

instance : Std.Total occurredBefore where
  total a b := by
    have hid := String.le_total a.eventId b.eventId
    unfold occurredBefore
    rcases lt_trichotomy a.occurredAt b.occurredAt with h | h | h
    · exact Or.inl (Or.inl h)
    · rcases hid with hle | hle
      · exact Or.inl (Or.inr ⟨h, hle⟩)
      · exact Or.inr (Or.inr ⟨h.symm, hle⟩)
    · exact Or.inr (Or.inl h)

instance : IsTrans SecurityEvent occurredBefore where
  trans a b c hab hbc := by
    unfold occurredBefore at *
    rcases hab with h | ⟨h, hle⟩
    · rcases hbc with k | ⟨k, -⟩
      · exact Or.inl (h.trans k)
      · exact Or.inl (k ▸ h)
    · rcases hbc with k | ⟨k, hle'⟩
      · exact Or.inl (h ▸ k)
      · exact Or.inr ⟨h.trans k, String.le_trans hle hle'⟩

lemma occurredAt_of_before {a b : SecurityEvent} (h : occurredBefore a b) : a.occurredAt ≤ b.occurredAt := by
  rcases h with h | ⟨h, -⟩
  · exact h.le
  · exact h.le

lemma eventId_of_occurredBefore {a b : SecurityEvent} (h : occurredBefore a b) (h' : occurredBefore b a) :
    a.eventId = b.eventId := by
  rcases h with h | ⟨h, hle⟩
  · exact absurd (occurredAt_of_before h') (not_le.mpr h)
  · rcases h' with h' | ⟨-, hle'⟩
    · exact absurd h h'.ne'
    · exact String.le_antisymm hle hle'

/-- The length of a plan's window. -/
abbrev DetectionPlan.width (plan : DetectionPlan) : Int := Datetime.addSeconds 0 plan.windowSeconds

/-- The events of a list that have the key of an event. -/
def groupOf (plan : DetectionPlan) (events : List SecurityEvent) (e : SecurityEvent) : List SecurityEvent :=
  (events.filter fun c => keyForm (correlationKey plan c) = keyForm (correlationKey plan e)).insertionSort
    occurredBefore

/-- The window of the events counted that ends at an event. -/
def windowOf (plan : DetectionPlan) (events : List SecurityEvent) (e : SecurityEvent) : List SecurityEvent :=
  Windows.windowAt occurredBefore SecurityEvent.occurredAt plan.width (groupOf plan events e) e

variable {plan : DetectionPlan} {events : List SecurityEvent}

lemma mem_groupOf {c e : SecurityEvent} : c ∈ groupOf plan events e ↔
    c ∈ events ∧ keyForm (correlationKey plan c) = keyForm (correlationKey plan e) := by
  rw [groupOf, List.mem_insertionSort, List.mem_filter, decide_eq_true_eq]

lemma mem_windowOf {c e : SecurityEvent} : c ∈ windowOf plan events e ↔ c ∈ events ∧
    keyForm (correlationKey plan c) = keyForm (correlationKey plan e) ∧ occurredBefore c e ∧
      e.occurredAt - c.occurredAt ≤ plan.width := by
  rw [windowOf, Windows.mem_windowAt, mem_groupOf, and_assoc]

lemma groupOf_ids (hids : (events.map (·.eventId)).Nodup) (e : SecurityEvent) :
    ((groupOf plan events e).map (·.eventId)).Nodup := by
  have hperm := List.perm_insertionSort occurredBefore
    (events.filter fun c => keyForm (correlationKey plan c) = keyForm (correlationKey plan e))
  refine (hperm.map (·.eventId)).nodup_iff.mpr (hids.sublist ?_)
  exact List.filter_sublist.map _

lemma windowOf_ids (hids : (events.map (·.eventId)).Nodup) (e : SecurityEvent) :
    ((windowOf plan events e).map (·.eventId)).Nodup :=
  (groupOf_ids hids e).sublist (List.filter_sublist.map _)

lemma groupOf_congr {a e : SecurityEvent}
    (h : keyForm (correlationKey plan a) = keyForm (correlationKey plan e)) :
    groupOf plan events a = groupOf plan events e := by
  rw [groupOf, groupOf, h]

lemma windowsOf_groupOf (hids : (events.map (·.eventId)).Nodup) (e : SecurityEvent) :
    windowsOf plan (events.filter fun c => keyForm (correlationKey plan c) = keyForm (correlationKey plan e)) =
      ((groupOf plan events e).map (windowOf plan events)).filter fun w => plan.threshold ≤ w.length := by
  have hsorted : (groupOf plan events e).Pairwise occurredBefore := List.pairwise_insertionSort _ _
  have hne : (groupOf plan events e).Pairwise fun a b => a.eventId ≠ b.eventId :=
    List.pairwise_map.mp (groupOf_ids hids e)
  have hstrict : (groupOf plan events e).Pairwise fun a b => ¬ occurredBefore b a :=
    (hsorted.and hne).imp fun hab hba => hab.2 (eventId_of_occurredBefore hab.1 hba)
  have hwindows : (groupOf plan events e).map (Windows.windowAt occurredBefore SecurityEvent.occurredAt
      plan.width (groupOf plan events e)) = (groupOf plan events e).map (windowOf plan events) := by
    refine List.map_congr_left fun a ha => ?_
    rw [windowOf, groupOf_congr (mem_groupOf.mp ha).2]
  rw [← hwindows, ← Windows.trailing_eq_map hsorted hstrict]
  rfl

/-- The windows of all groups are those that end at the events counted. -/
lemma mem_windows {groups : List Group} (h : Grouped plan events groups)
    (hids : (events.map (·.eventId)).Nodup) {w : List SecurityEvent} :
    w ∈ groups.flatMap (fun g => windowsOf plan g.2) ↔
      ∃ e ∈ events, w = windowOf plan events e ∧ plan.threshold ≤ w.length := by
  have hwindows : ∀ e, w ∈ ((groupOf plan events e).map (windowOf plan events)).filter
      (fun w => plan.threshold ≤ w.length) ↔
        ∃ a ∈ groupOf plan events e, w = windowOf plan events a ∧ plan.threshold ≤ w.length := by
    intro e
    rw [List.mem_filter, List.mem_map, decide_eq_true_eq]
    constructor
    · rintro ⟨⟨a, ha, rfl⟩, hlength⟩
      exact ⟨a, ha, rfl, hlength⟩
    · rintro ⟨a, ha, rfl, hlength⟩
      exact ⟨⟨a, ha, rfl⟩, hlength⟩
  rw [List.mem_flatMap]
  constructor
  · rintro ⟨g, hg, hw⟩
    have hmembers := h.members g hg
    cases hfirst : g.2 with
    | nil =>
      rw [hfirst] at hw
      cases hw
    | cons e es =>
      have he : e ∈ events.filter fun c => keyForm (correlationKey plan c) = keyForm g.1 := by
        rw [← hmembers, hfirst]
        exact List.mem_cons_self
      have hkey := of_decide_eq_true (List.mem_filter.mp he).2
      rw [hmembers, ← hkey, windowsOf_groupOf hids, hwindows] at hw
      obtain ⟨a, ha, hw⟩ := hw
      exact ⟨a, (mem_groupOf.mp ha).1, hw⟩
  · rintro ⟨e, he, hw⟩
    obtain ⟨g, hg, hkey⟩ := h.covers e he
    refine ⟨g, hg, ?_⟩
    rw [h.members g hg, hkey, windowsOf_groupOf hids, hwindows]
    exact ⟨e, mem_groupOf.mpr ⟨he, rfl⟩, hw⟩

end Windows

section Raise

variable (codec : Codec) (r : Reading)

def windowItem (w : List SecurityEvent) : Item := ⟨w, ["COUNT_OVER_WINDOW"], true⟩

def windowEvaluationId (w : List SecurityEvent) : String := stableId codec "EVAL-" [r.key codec (windowItem w)]

def windowSignalId (w : List SecurityEvent) : String := stableId codec "SIG-" (r.signalIdentity (windowItem w))

/-- The digests that name what windows raise do not collide. -/
def WindowsApart (ws : List (List SecurityEvent)) : Prop :=
  ∀ a ∈ ws, ∀ b ∈ ws,
    (shortDigest codec (.arr [r.key codec (windowItem a)]) = shortDigest codec (.arr [r.key codec (windowItem b)]) ∨
      shortDigest codec (.arr (r.signalIdentity (windowItem a))) =
        shortDigest codec (.arr (r.signalIdentity (windowItem b)))) → orderedIds a = orderedIds b

instance (ws : List (List SecurityEvent)) : Decidable (WindowsApart codec r ws) := by
  unfold WindowsApart
  infer_instance

/-- The signal stands for the window. -/
structure SignalOf (w : List SecurityEvent) (x : DetectionSignal) : Prop where
  signalId : x.signalId = windowSignalId codec r w
  scope : x.scope = r.scope
  rule : x.ruleId = r.rule.ruleId ∧ x.ruleVersion = r.rule.version
  eventIds : x.eventIds = orderedIds w

/-- The engine holds what the windows raised, and of evaluations and signals nothing else. -/
structure Holds (ws : List (List SecurityEvent)) (x : DetectionEngine) : Prop where
  evaluations : ∀ k ev, x.evaluations.find? k = some ev → ∃ w ∈ ws, k = windowEvaluationId codec r w
  signals : ∀ k sg, x.signals.find? k = some sg → ∃ w ∈ ws, k = windowSignalId codec r w
  raised : ∀ w ∈ ws, (∃ ev, x.evaluations.find? (windowEvaluationId codec r w) = some ev) ∧
    ∃ sg, x.signals.find? (windowSignalId codec r w) = some sg ∧ SignalOf codec r w sg

variable {codec r} {ws : List (List SecurityEvent)} {w : List SecurityEvent} {x : DetectionEngine}

variable (codec r) in
lemma ids_congr {a b : List SecurityEvent} (h : orderedIds a = orderedIds b) :
    windowEvaluationId codec r a = windowEvaluationId codec r b ∧
      windowSignalId codec r a = windowSignalId codec r b := by
  simp only [windowEvaluationId, windowSignalId, Reading.key, Reading.signalIdentity, windowItem, h, and_self]

lemma SignalOf.congr {a b : List SecurityEvent} {sg : DetectionSignal} (h : SignalOf codec r a sg)
    (hids : orderedIds a = orderedIds b) : SignalOf codec r b sg where
  signalId := h.signalId.trans (ids_congr codec r hids).2
  scope := h.scope
  rule := h.rule
  eventIds := h.eventIds.trans hids

lemma WindowsApart.evaluation (h : WindowsApart codec r ws) {a b : List SecurityEvent} (ha : a ∈ ws) (hb : b ∈ ws)
    (hid : windowEvaluationId codec r a = windowEvaluationId codec r b) : orderedIds a = orderedIds b :=
  h a ha b hb (Or.inl (shortDigest_of_stableId hid))

lemma WindowsApart.signal (h : WindowsApart codec r ws) {a b : List SecurityEvent} (ha : a ∈ ws) (hb : b ∈ ws)
    (hid : windowSignalId codec r a = windowSignalId codec r b) : orderedIds a = orderedIds b :=
  h a ha b hb (Or.inr (shortDigest_of_stableId hid))

lemma evaluate_window (hapart : WindowsApart codec r (w :: ws)) (hx : Holds codec r ws x) :
    ∃ ev sg y, evaluateItem codec r (windowItem w) x = .ok ((ev, some sg), y) ∧
      sg.signalId = windowSignalId codec r w ∧ Holds codec r (w :: ws) y := by
  cases hfound : x.evaluations.find? (windowEvaluationId codec r w) with
  | some ev =>
    -- the same events have been evaluated
    obtain ⟨w', hw', hid⟩ := hx.evaluations _ _ hfound
    have hids := hapart.evaluation List.mem_cons_self (List.mem_cons_of_mem w hw') hid
    obtain ⟨-, sg, hsg, hof⟩ := hx.raised w' hw'
    have hof : SignalOf codec r w sg := hof.congr hids.symm
    have hsg : x.signals.find? (windowSignalId codec r w) = some sg := by
      rwa [(ids_congr codec r hids).2]
    refine ⟨ev, sg, x, ?_, hof.signalId, ⟨fun k e he => ?_, fun k e he => ?_, fun v hv => ?_⟩⟩
    · have hsignal : (signalIdFor codec r.scope r.rule (orderedIds (windowItem w).events) r.plan.contentDigest
          (windowItem w).matched).bind x.signals.find? = some sg := hsg
      rw [evaluateItem, evaluate_found hfound, if_neg, hsignal]
      rintro ⟨-, hnone⟩
      rw [hsignal] at hnone
      cases hnone
    · obtain ⟨v, hv, hk⟩ := hx.evaluations k e he
      exact ⟨v, List.mem_cons_of_mem w hv, hk⟩
    · obtain ⟨v, hv, hk⟩ := hx.signals k e he
      exact ⟨v, List.mem_cons_of_mem w hv, hk⟩
    · rcases List.mem_cons.mp hv with rfl | hv
      · exact ⟨⟨ev, hfound⟩, sg, hsg, hof⟩
      · exact hx.raised v hv
  | none =>
    -- no signal has the id either, since one is stored together with its evaluation
    have hnone : x.signals.find? (windowSignalId codec r w) = none := by
      cases hsignal : x.signals.find? (windowSignalId codec r w) with
      | none => rfl
      | some sg =>
        obtain ⟨w', hw', hid⟩ := hx.signals _ _ hsignal
        have hids := hapart.signal List.mem_cons_self (List.mem_cons_of_mem w hw') hid
        obtain ⟨⟨ev, hev⟩, -⟩ := hx.raised w' hw'
        rw [(ids_congr codec r hids).1, hev] at hfound
        cases hfound
    have hother : ∀ v ∈ ws, windowEvaluationId codec r w ≠ windowEvaluationId codec r v ∧
        windowSignalId codec r w ≠ windowSignalId codec r v := by
      intro v hv
      obtain ⟨⟨ev, hev⟩, sg, hsg, -⟩ := hx.raised v hv
      refine ⟨fun heq => ?_, fun heq => ?_⟩
      · rw [heq, hev] at hfound
        cases hfound
      · rw [heq, hsg] at hnone
        cases hnone
    have hevaluate : evaluateItem codec r (windowItem w) x =
        .ok ((newEvaluation codec r.rule r.plan r.scope w ["COUNT_OVER_WINDOW"] true (r.runId codec) x,
          some (newSignal r.rule r.plan r.scope w ["COUNT_OVER_WINDOW"] (windowSignalId codec r w) x)),
          { (addEvaluation codec r.rule r.plan r.scope w ["COUNT_OVER_WINDOW"] true (r.runId codec) x).tick with
            signals := x.signals.set (windowSignalId codec r w)
              (newSignal r.rule r.plan r.scope w ["COUNT_OVER_WINDOW"] (windowSignalId codec r w) x) }) := by
      have hsignal : signalIdFor codec r.scope r.rule (orderedIds w) r.plan.contentDigest true =
          some (windowSignalId codec r w) := rfl
      rw [evaluateItem, evaluate_fresh hfound]
      simp only [windowItem, hsignal, Option.bind_some, hnone]
      rfl
    refine ⟨_, _, _, hevaluate, rfl, ⟨fun k e he => ?_, fun k e he => ?_, fun v hv => ?_⟩⟩
    · rcases Dict.find?_set_eq_some he with ⟨rfl, -⟩ | hold
      · exact ⟨w, List.mem_cons_self, rfl⟩
      · obtain ⟨v, hv, hk⟩ := hx.evaluations k e hold
        exact ⟨v, List.mem_cons_of_mem w hv, hk⟩
    · rcases Dict.find?_set_eq_some he with ⟨rfl, -⟩ | hold
      · exact ⟨w, List.mem_cons_self, rfl⟩
      · obtain ⟨v, hv, hk⟩ := hx.signals k e hold
        exact ⟨v, List.mem_cons_of_mem w hv, hk⟩
    · rcases List.mem_cons.mp hv with rfl | hv
      · exact ⟨⟨_, Dict.find?_set_self _ _ _⟩, _, Dict.find?_set_self _ _ _, rfl, rfl, ⟨rfl, rfl⟩, rfl⟩
      · obtain ⟨⟨ev, hev⟩, sg, hsg, hof⟩ := hx.raised v hv
        refine ⟨⟨ev, ?_⟩, sg, ?_, hof⟩
        · exact (Dict.find?_set_of_ne _ _ (hother v hv).1.symm).trans hev
        · exact (Dict.find?_set_of_ne _ _ (hother v hv).2.symm).trans hsg

lemma evaluateItems_windows {done : List (List SecurityEvent)} (hapart : WindowsApart codec r (ws ++ done))
    (hx : Holds codec r done x) :
    ∃ emitted y, evaluateItems codec r.rule r.plan r.scope (r.runId codec) (ws.map windowItem) x = (.ok emitted, y) ∧
      emitted.2 = ws.map (windowSignalId codec r) ∧ Holds codec r (ws.reverse ++ done) y := by
  induction ws generalizing done x with
  | nil => exact ⟨([], []), x, rfl, rfl, hx⟩
  | cons w ws ih =>
    have hhere : WindowsApart codec r (w :: done) := fun a ha b hb =>
      hapart a (by simp only [List.cons_append, List.mem_cons, List.mem_append] at ha ⊢; tauto) b
        (by simp only [List.cons_append, List.mem_cons, List.mem_append] at hb ⊢; tauto)
    have hlater : WindowsApart codec r (ws ++ w :: done) := fun a ha b hb =>
      hapart a (by simp only [List.cons_append, List.mem_cons, List.mem_append] at ha ⊢; tauto) b
        (by simp only [List.cons_append, List.mem_cons, List.mem_append] at hb ⊢; tauto)
    obtain ⟨ev, sg, y, hevaluate, hid, hy⟩ := evaluate_window hhere hx
    obtain ⟨emitted, z, hrest, hemitted, hz⟩ := ih hlater hy
    refine ⟨Emitted.add ev (some sg) emitted, z, ?_, ?_, ?_⟩
    · rw [List.map_cons, evaluateItems]
      rw [evaluateItem] at hevaluate
      rw [hevaluate]
      simp only [hrest]
    · simp only [Emitted.add, Option.map_some, Option.toList_some, hid, hemitted, List.map_cons,
        List.singleton_append]
    · rwa [List.reverse_cons, List.append_assoc, List.singleton_append]

end Raise

end SecScanMonitor.DetectionResponse
