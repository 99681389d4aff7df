import SecScanMonitor.DetectionResponse.Growth
import SecScanMonitor.DetectionResponse.HuntFailures
import SecScanMonitor.Foundations.Unfolding

/-! Which signals a hunt finds in its window: those whose sources unfold to finitely many signals, all of them
stored, grounded, and observed in the window. -/

namespace SecScanMonitor.DetectionResponse

open Foundations ContinuousSecurity

section Recursion

variable (available : List String) (signalsById : Dict String DetectionSignal)

/-- `signal_is_in_window`, as it calls itself -/
def isInWindow (seen : List String) (signalId : String) : Bool :=
  if _ : signalId ∈ seen then false
  else
    match _ : signalsById.find? signalId with
    | none => false
    | some signal =>
      if signal.eventIds ≠ [] ∧ ¬ signal.eventIds.all fun id => decide (id ∈ available) then false
      else if signal.sourceSignalIds ≠ [] ∧
          ¬ signal.sourceSignalIds.all fun id => isInWindow (signalId :: seen) id then false
      else decide (signal.eventIds ≠ [] ∨ signal.sourceSignalIds ≠ [])
-- the path takes a stored signal that it has not taken before
termination_by Paths.room signalsById.keys seen
decreasing_by exact Paths.room_cons (Dict.mem_keys.mpr ⟨_, ‹_›⟩) ‹_›

/-- One signal of the recursion, given the answers for its sources. -/
def visitById (signalId : String) (isIn : String → Bool) : Bool :=
  match signalsById.find? signalId with
  | none => false
  | some signal =>
    if signal.eventIds ≠ [] ∧ ¬ signal.eventIds.all fun id => decide (id ∈ available) then false
    else if signal.sourceSignalIds ≠ [] ∧ ¬ signal.sourceSignalIds.all isIn then false
    else decide (signal.eventIds ≠ [] ∨ signal.sourceSignalIds ≠ [])

def sourcesById (signalId : String) : List String :=
  match signalsById.find? signalId with
  | some signal => signal.sourceSignalIds
  | none => []

/-- A signal is stored, has a source or an event, and all its events are available. -/
def Observed (signalId : String) : Prop :=
  ∃ signal, signalsById.find? signalId = some signal ∧
    (signal.sourceSignalIds ≠ [] ∨ signal.eventIds ≠ []) ∧ ∀ id ∈ signal.eventIds, id ∈ available

variable {available signalsById}

/-- The recursion is bounded by the number of the signals. -/
lemma isInWindow_eq_along {n : ℕ} {seen : List String} (hn : Paths.room signalsById.keys seen < n)
    (signalId : String) : isInWindow available signalsById seen signalId =
      Paths.along false (visitById available signalsById) n seen signalId := by
  induction n generalizing seen signalId with
  | zero => exact absurd hn (Nat.not_lt_zero _)
  | succ n ih =>
    rw [isInWindow, Paths.along]
    by_cases hseen : signalId ∈ seen
    · rw [dif_pos hseen, if_pos hseen]
    rw [dif_neg hseen, if_neg hseen, visitById]
    split
    · rename_i hnone
      rw [hnone]
    · rename_i signal hsignal
      have hroom := Paths.room_cons (Dict.mem_keys.mpr ⟨signal, hsignal⟩) hseen
      rw [hsignal]
      simp only [ih (by omega : Paths.room signalsById.keys (signalId :: seen) < n)]

lemma not_nil_and_not_all {l : List String} {p : String → Bool} :
    ¬ (l ≠ [] ∧ ¬ l.all p = true) ↔ ∀ id ∈ l, p id = true := by
  rw [not_and_not_right, List.all_eq_true]
  constructor
  · exact fun h id hid => h (List.ne_nil_of_mem hid) id hid
  · exact fun h _ => h

lemma visitById_iff {signalId : String} {isIn : String → Bool} :
    visitById available signalsById signalId isIn = true ↔
      Observed available signalsById signalId ∧ ∀ id ∈ sourcesById signalsById signalId, isIn id = true := by
  rw [visitById, Observed, sourcesById]
  cases signalsById.find? signalId with
  | none => exact iff_of_false nofun fun h => nomatch h.1
  | some signal =>
    simp only [Option.some.injEq, exists_eq_left']
    have hevents := not_nil_and_not_all (l := signal.eventIds) (p := fun id => decide (id ∈ available))
    simp only [decide_eq_true_eq] at hevents
    have hsources := not_nil_and_not_all (l := signal.sourceSignalIds) (p := isIn)
    rw [← hevents, ← hsources]
    split
    · rename_i hevents
      exact iff_of_false nofun fun h => h.1.2 hevents
    split
    · rename_i hsources
      exact iff_of_false nofun fun h => h.2 hsources
    rename_i hevents hsources
    rw [decide_eq_true_eq, or_comm]
    exact ⟨fun h => ⟨⟨h, hevents⟩, hsources⟩, fun h => h.1.1⟩

/-- A signal is in the window exactly if its sources unfold to finitely many signals, all of them observed. -/
lemma isInWindow_iff_unfolds {signalId : String} : isInWindow available signalsById [] signalId = true ↔
    (Paths.walks (sourcesById signalsById) signalId).Finite ∧
      ∀ id, Paths.Unfolds (sourcesById signalsById) signalId id → Observed available signalsById id := by
  rw [isInWindow_eq_along (Nat.lt_succ_self _)]
  refine Paths.along_iff (· = true) Bool.false_ne_true (fun _ _ => visitById_iff) (fun id hid => ?_)
    (Nat.lt_succ_self _)
  obtain ⟨signal, hsignal, -⟩ := hid
  exact Dict.mem_keys.mpr ⟨signal, hsignal⟩

/-- A call of the recursion makes another: its signal is not on the path yet, and has the other's as a source. -/
def Calls (signalsById : Dict String DetectionSignal) (call caller : List String × String) : Prop :=
  caller.2 ∉ caller.1 ∧ call.1 = caller.2 :: caller.1 ∧ call.2 ∈ sourcesById signalsById caller.2

lemma mem_keys_of_source {id source : String} (h : source ∈ sourcesById signalsById id) : id ∈ signalsById.keys := by
  rw [sourcesById] at h
  split at h
  · rename_i signal hsignal
    exact Dict.mem_keys.mpr ⟨signal, hsignal⟩
  · cases h

lemma calls_wellFounded (signalsById : Dict String DetectionSignal) : WellFounded (Calls signalsById) := by
  refine Subrelation.wf ?_ (measure fun call : List String × String => Paths.room signalsById.keys call.1).wf
  rintro ⟨seen', source⟩ ⟨seen, id⟩ ⟨hseen, rfl, hsource⟩
  exact Paths.room_cons (mem_keys_of_source hsource) hseen

end Recursion

/-- A signal is stored, has a source or an event, and all its events lie in the window of the plan. -/
def ObservedWithin (p : HuntPlan) (events : List SecurityEvent) (signalsById : Dict String DetectionSignal)
    (signalId : String) : Prop :=
  ∃ signal, signalsById.find? signalId = some signal ∧
    (signal.sourceSignalIds ≠ [] ∨ signal.eventIds ≠ []) ∧ ∀ id ∈ signal.eventIds, ∃ event ∈ events,
      event.eventId = id ∧ p.windowStart ≤ event.occurredAt ∧ event.occurredAt ≤ p.windowEnd

/-- `available_event_ids` -/
def availableIds (p : HuntPlan) (events : List SecurityEvent) : List String :=
  (events.filter p.covers).map (·.eventId)

lemma mem_availableIds {p : HuntPlan} {events : List SecurityEvent} {id : String} : id ∈ availableIds p events ↔
    ∃ event ∈ events, event.eventId = id ∧ p.windowStart ≤ event.occurredAt ∧ event.occurredAt ≤ p.windowEnd := by
  simp only [availableIds, List.mem_map, List.mem_filter, HuntPlan.covers, Bool.and_eq_true, decide_eq_true_eq]
  exact exists_congr fun event => by tauto

/-- Over any store of signals the recursion comes to its end, and finds the signals whose sources unfold to
finitely many, each observed in the window. -/
theorem signal_window_iff (p : HuntPlan) (events : List SecurityEvent)
    (signalsById : Dict String DetectionSignal) : WellFounded (Calls signalsById) ∧
      ∀ signalId, isInWindow (availableIds p events) signalsById [] signalId = true ↔
        (Paths.walks (sourcesById signalsById) signalId).Finite ∧
          ∀ id, Paths.Unfolds (sourcesById signalsById) signalId id → ObservedWithin p events signalsById id := by
  refine ⟨calls_wellFounded signalsById, fun signalId => isInWindow_iff_unfolds.trans ?_⟩
  refine and_congr_right fun _ => forall₂_congr fun id _ => ?_
  simp only [Observed, ObservedWithin, mem_availableIds]

section Searched

/-- `{signal.signal_id: signal for signal in signals}` -/
def signalsById (signals : List DetectionSignal) : Dict String DetectionSignal :=
  signals.foldl (fun byId signal => byId.put signal.signalId signal) Table.empty

variable {signals : List DetectionSignal}

lemma find?_signalsById (hids : (signals.map (·.signalId)).Nodup) (id : String) :
    (signalsById signals).find? id = signals.find? fun s => decide (s.signalId = id) := by
  induction signals using List.reverseRecOn with
  | nil => rfl
  | append_singleton signals s ih =>
    rw [List.map_append, List.nodup_append] at hids
    obtain ⟨hids, -, hdisjoint⟩ := hids
    rw [signalsById, List.foldl_append, List.foldl_cons, List.foldl_nil, Dict.find?_put, List.find?_append]
    by_cases hid : id = s.signalId
    · subst hid
      have hnone : (signals.find? fun t => decide (t.signalId = s.signalId)) = none := by
        refine List.find?_eq_none.mpr fun t ht => ?_
        rw [decide_eq_true_eq]
        exact hdisjoint _ (List.mem_map_of_mem ht) _ (List.mem_singleton.mpr rfl)
      rw [if_pos rfl, hnone, Option.none_or, List.find?_cons, decide_eq_true rfl]
    · have hlast : ([s].find? fun t => decide (t.signalId = id)) = none := by
        rw [List.find?_eq_none]
        intro t ht
        rw [List.mem_singleton.mp ht, decide_eq_true_eq]
        exact fun h => hid h.symm
      rw [if_neg hid, hlast, Option.or_none]
      exact ih hids

/-- The bounded recursion of a search is the recursion itself. -/
lemma signalIsInWindow_eq_isInWindow {p : HuntPlan} {events : List SecurityEvent}
    (hids : (signals.map (·.signalId)).Nodup) (signalId : String) :
    signalIsInWindow (events.filter p.covers) signals signalId =
      isInWindow (availableIds p events) (signalsById signals) [] signalId := by
  have hvisit : visitSignal (events.filter p.covers) signals =
      visitById (availableIds p events) (signalsById signals) := by
    funext id isIn
    rw [visitSignal, Bool.eq_iff_iff, visitById_iff, Observed, sourcesById, find?_signalsById hids]
    cases signals.find? fun s => decide (s.signalId = id) with
    | none =>
      refine iff_of_false Bool.false_ne_true ?_
      rintro ⟨⟨signal, hsignal, -⟩, -⟩
      cases hsignal
    | some signal =>
      simp only [Bool.and_eq_true, List.all_eq_true, Bool.or_eq_true, decide_eq_true_eq, Option.some.injEq,
        exists_eq_left', availableIds]
      tauto
  let n := signals.length + Paths.room (signalsById signals).keys [] + 1
  rw [← signalIsInWindow_eq (events.filter p.covers) signals (n := n) (by omega), hvisit,
    isInWindow_eq_along (n := n) (by omega)]

lemma stored_nodup {d : DetectionEngine} (hkeyed : Keyed d) (scope : Scope) :
    ((((d.signals.values).filter fun x => x.scope = scope).insertionSort
      fun a b => a.signalId ≤ b.signalId).map (·.signalId)).Nodup := by
  have hvalues : (d.signals.values.map (·.signalId)).Nodup := by
    have hkeys : d.signals.values.map (·.signalId) = d.signals.rows.map Prod.fst := by
      rw [Dict.values, List.map_map, List.map_inj_left]
      rintro ⟨id, signal⟩ hrow
      exact hkeyed.signals id signal (Dict.find?_eq_some_iff.mpr hrow)
    rw [hkeys]
    exact d.signals.nodup
  refine ((List.perm_insertionSort _ _).map _).nodup_iff.mpr ?_
  exact hvalues.sublist (List.filter_sublist.map _)

/-- A hunt finds the signals of its scope that it asks for and that are in its window. -/
theorem mem_searched_signals {render : Value → String} {h : HuntHypothesis} {p : HuntPlan} {d : DetectionEngine}
    {f : HuntFindings} (hkeyed : Keyed d) (hscope : ∀ s ∈ d.scope, s = p.scope) (hsearch : search render h p d = .ok f)
    (signal : DetectionSignal) : signal ∈ f.signals ↔
      (signal ∈ d.signals.values ∧ signal.scope = p.scope ∧ signal.signalId ∈ signalIdsOf render h p) ∧
        isInWindow ((p.eventsWithin d).map (·.eventId)) (signalsById (((d.signals.values).filter
          fun x => x.scope = p.scope).insertionSort fun a b => a.signalId ≤ b.signalId)) [] signal.signalId = true := by
  obtain ⟨-, rfl⟩ := (search_eq_ok hscope).mp hsearch
  rw [findings, List.mem_filter, Bool.and_eq_true, decide_eq_true_eq, List.mem_insertionSort, List.mem_filter,
    decide_eq_true_eq, HuntPlan.eventsWithin, signalIsInWindow_eq_isInWindow (stored_nodup hkeyed p.scope)]
  rw [availableIds]
  tauto

end Searched

end SecScanMonitor.DetectionResponse
