import SecScanMonitor.Application.HuntRecovery
import SecScanMonitor.Application.LiveIncidentControlPlane
import SecScanMonitor.DetectionResponse.HuntRecords
import SecScanMonitor.Persistence.SignalRequests

/-! A hunt is requested for the signals that its hypothesis and its query refer to (`request_hunt` of
`application/live_incident_control_plane.py`). -/

namespace SecScanMonitor.Application.LiveIncidentControlPlane

open Foundations Domain DetectionResponse ContinuousSecurity Persistence

structure RequestHunt where
  hypothesis : HuntHypothesis
  plan : HuntPlan
  requestedBy : String
  accessPrincipalId : Option String

/-- The ids that the call refers to. -/
def RequestHunt.signalIds (codec : Codec) (secretLike : Value → Bool) (render : Value → String)
    (call : RequestHunt) (db : Database) : Except Raised (List String) := do
  requireOperator db call.requestedBy call.accessPrincipalId
  raiseIf (call.hypothesis.scope ≠ call.plan.scope ∨ call.hypothesis.hypothesisId ≠ call.plan.hypothesisId)
    .permissionError "hunt request crossed its canonical scope"
  raiseIf (secretLike (.obj [("hypothesis", huntHypothesisValue codec call.hypothesis),
      ("plan", call.plan.toValue codec)])) .valueError
    "live control-plane text must not contain secret-like content"
  match call.plan.query.lookup "signal_ids" with
  | none | some .null => return call.hypothesis.supportingSignalIds
  | some (.arr items) => return (call.hypothesis.supportingSignalIds ++ items.map (text render)).eraseDups
  | some _ => raise .valueError "hunt signal_ids must be a bounded sequence"

section Evidence

variable (codec : Codec) (dump : SecurityEvent → Value) (decode : Value → Option SecurityEvent)

/-- What `load_signals` answers on the database. -/
def signalsFor (scope : Scope) (ids : List String) (db : Database) :
    Except Raised (List DetectionSignal) :=
  loadSignals codec decode scope (db.detectionTables codec dump) ids

/-- The signals that a request refers to. -/
def requestedHuntSignals (scope : Scope) (ids : List String) (db : Database) :
    Except Raised (List DetectionSignal) := do
  let signals ← signalsFor codec dump decode scope ids db
  raiseIf (signals.length ≠ ids.eraseDups.length) .permissionError "hunt references an unknown signal"
  return signals

/-- The sources of a batch that are not among the signals so far. -/
def pendingSources (known batch : List DetectionSignal) : List String :=
  normalized ((batch.flatMap (·.sourceSignalIds)).filter fun id =>
    decide (id ∉ known.map (·.signalId)))

/-- The stored ids that are not among the signals so far. -/
def unknownIds (scope : Scope) (db : Database) (known : List DetectionSignal) : List String :=
  ((held scope (db.detectionTables codec dump)).map (·.signalId)).filter fun id =>
    decide (id ∉ known.map (·.signalId))

variable {codec dump decode} in
/-- A round adds signals, or it was the first one and leaves only sources that are new. -/
lemma round_decreases {scope : Scope} {db : Database} {known dependencies : List DetectionSignal}
    {pending : List String} (hpending : pending ≠ [])
    (hload : signalsFor codec dump decode scope pending db = .ok dependencies)
    (hfound : pending ⊆ dependencies.map (·.signalId) ∧ dependencies.map (·.signalId) ⊆ pending) :
    Prod.Lex (· < ·) (· < ·)
      ((unknownIds codec dump scope db (dependencies ++ known)).length,
        if pendingSources (dependencies ++ known) dependencies ≠ [] ∧
          pendingSources (dependencies ++ known) dependencies ⊆ (dependencies ++ known).map (·.signalId)
        then 1 else 0)
      ((unknownIds codec dump scope db known).length,
        if pending ≠ [] ∧ pending ⊆ known.map (·.signalId) then 1 else 0) := by
  have hsplit : unknownIds codec dump scope db (dependencies ++ known) =
      (unknownIds codec dump scope db known).filter fun id =>
        decide (id ∉ dependencies.map (·.signalId)) := by
    rw [unknownIds, unknownIds, List.filter_filter]
    apply List.filter_congr
    intro id _
    simp only [List.map_append, List.mem_append, not_or, Bool.decide_and]
  rw [hsplit]
  by_cases hknown : pending ⊆ known.map (·.signalId)
  · have hsame : (unknownIds codec dump scope db known).filter
        (fun id => decide (id ∉ dependencies.map (·.signalId))) = unknownIds codec dump scope db known := by
      refine List.filter_eq_self.mpr fun id hid => decide_eq_true fun hin => ?_
      exact of_decide_eq_true (List.mem_filter.mp hid).2 (hknown (hfound.2 hin))
    have hnew : ¬ (pendingSources (dependencies ++ known) dependencies ≠ [] ∧
        pendingSources (dependencies ++ known) dependencies ⊆ (dependencies ++ known).map (·.signalId)) := by
      rintro ⟨hsome, hsubset⟩
      obtain ⟨id, hid⟩ := List.exists_mem_of_ne_nil _ hsome
      have hout := (List.mem_filter.mp (mem_normalized.mp hid)).2
      exact of_decide_eq_true hout (hsubset hid)
    rw [hsame, if_neg hnew, if_pos ⟨hpending, hknown⟩]
    exact Prod.Lex.right _ Nat.zero_lt_one
  · apply Prod.Lex.left
    rw [List.subset_def] at hknown
    push Not at hknown
    obtain ⟨id, hid, hout⟩ := hknown
    apply List.length_filter_lt_length_iff_exists.mpr
    rcases loadSignals_trusted codec decode scope (db.detectionTables codec dump) hpending with
      ⟨e, he⟩ | ⟨signals, hsignals, htrusted⟩
    · rw [signalsFor, he] at hload
      cases hload
    obtain rfl := Except.ok.inj (hload.symm.trans hsignals)
    have hin := hfound.1 hid
    obtain ⟨s, hs, rfl⟩ := List.mem_map.mp hin
    obtain ⟨row, hrow, hscope, hvalid⟩ := htrusted.stored s hs
    rw [(validatedSignal_row hvalid).1] at hout hin
    have hheld := List.mem_map_of_mem (f := (·.signalId)) (mem_held.mpr ⟨hrow, hscope⟩)
    refine ⟨row.signalId, List.mem_filter.mpr ⟨hheld, decide_eq_true hout⟩, fun hnew => ?_⟩
    exact of_decide_eq_true hnew hin

/-- The loop over `pending_source_ids`. -/
def withDependencies (scope : Scope) (db : Database) (known : List DetectionSignal)
    (pending : List String) : Except Raised (List DetectionSignal) :=
  if hpending : pending = [] then .ok known
  else
    match hload : signalsFor codec dump decode scope pending db with
    | .error e => .error e
    | .ok dependencies =>
      if hfound : pending ⊆ dependencies.map (·.signalId) ∧ dependencies.map (·.signalId) ⊆ pending then
        have := @round_decreases codec dump decode scope db known _ _ hpending hload hfound
        withDependencies scope db (dependencies ++ known)
          (pendingSources (dependencies ++ known) dependencies)
      else raise .permissionError "hunt signal evidence references an unknown source signal"
termination_by ((unknownIds codec dump scope db known).length,
  if pending ≠ [] ∧ pending ⊆ known.map (·.signalId) then 1 else 0)
decreasing_by assumption

/-- The events of one signal, given those of its sources. -/
def visitHuntSignal (known : List DetectionSignal) (id : String)
    (eventIdsOf : String → Except Raised (List String)) : Except Raised (List String) := do
  let signal ← orRaise (signalNamed known id) .permissionError
    "hunt signal evidence references an unknown source signal"
  let inherited ← signal.sourceSignalIds.mapM eventIdsOf
  return signal.eventIds ++ inherited.flatten

/-- `signal_event_ids` -/
def signalEventIds (known : List DetectionSignal) (id : String) : Except Raised (List String) :=
  Paths.along (raise .permissionError "hunt signal evidence contains a cycle") (visitHuntSignal known)
    (known.length + 1) [] id

/-- The signals in turn; the evidence of a signal may be referred to after it. -/
def checkHuntSignals (plan : HuntPlan) (events : List SecurityEvent) (known : List DetectionSignal) :
    List DetectionSignal → List String → Except Raised (List String)
  | [], allowed => .ok allowed
  | signal :: signals, allowed => do
    let eventIds ← signalEventIds known signal.signalId
    raiseIf (eventIds.any fun id => (events.find? fun e => decide (e.eventId = id)).all fun e =>
        !plan.covers e) .permissionError "hunt signal evidence is stale or outside its window"
    raiseIf (¬ signal.rawEvidenceRefs ⊆ allowed) .permissionError
      "hunt signal evidence is stale or outside its window"
    checkHuntSignals plan events known signals (allowed ++ signal.rawEvidenceRefs)

/-- `_validate_hunt_evidence` -/
def validateHuntEvidence (hypothesis : HuntHypothesis) (plan : HuntPlan)
    (signals : List DetectionSignal) (db : Database) : Except Raised Unit := do
  let events := loadEvents plan.scope db
  let known ← withDependencies codec dump decode plan.scope db signals
    (normalized (signals.flatMap (·.sourceSignalIds)))
  let allowed ← checkHuntSignals plan events known signals
    ((events.filter plan.covers).map (·.rawEvidenceRef))
  raiseIf (¬ hypothesis.requiredEvidenceRefs ⊆ allowed) .permissionError
    "hunt evidence is not canonical"

end Evidence

section Request

variable (codec : Codec) (secretLike : Value → Bool) (render : Value → String)
  (dump : SecurityEvent → Value) (decode : Value → Option SecurityEvent)

/-- What is checked before the request is saved. -/
def RequestHunt.prepare (call : RequestHunt) (db : Database) : Except Raised Unit := do
  let ids ← call.signalIds codec secretLike render db
  let signals ← requestedHuntSignals codec dump decode call.plan.scope ids db
  validateHuntEvidence codec dump decode call.hypothesis call.plan signals db

/-- `execute_hunt` -/
def executeHunt (t : HuntInstants) (worker planId : String) : Effect Database HuntResult := fun db =>
  match claimHunt t.claimed planId worker 120 db with
  | .error e => (.error e, db)
  | .ok (false, db) => (raise .runtimeError "hunt plan is currently leased by another worker", db)
  | .ok (true, db) => executeClaimedHunt codec render dump decode t worker planId db

/-- `request_hunt`; the worker is a new id. -/
def requestHunt (t : HuntInstants) (worker : String) (call : RequestHunt) :
    Effect Database HuntResult := fun db =>
  match call.prepare codec secretLike render dump decode db with
  | .error e => (.error e, db)
  | .ok () =>
    match saveHuntRequest codec secretLike call.hypothesis call.plan db with
    | .error e => (.error e, db)
    | .ok ((), db) => executeHunt codec render dump decode t worker call.plan.planId db

end Request

/-- The refusals of a request for a signal that is not stored: that of the loader and that of the service. -/
def UnknownSignal (e : Raised) : Prop :=
  e.kind = .permissionError ∧ e.message ∈
    ["one or more signals are absent or outside the requested scope", "hunt references an unknown signal"]

instance : DecidablePred UnknownSignal := fun e => by
  unfold UnknownSignal
  infer_instance

section Stages

variable {codec : Codec} {secretLike : Value → Bool} {render : Value → String}
  {dump : SecurityEvent → Value} {decode : Value → Option SecurityEvent}

abbrev RaisesOther {α : Type} (m : Except Raised α) : Prop := Raises (fun e => ¬ UnknownSignal e) m

/-- What a part of a call raises is raised by the call. -/
lemma raises_error {α β : Type} {p : Raised → Prop} {m : Except Raised α} {e : Raised} (h : Raises p m)
    (hm : m = .error e) : Raises p (.error e : Except Raised β) := by
  intro x hx
  obtain rfl := Except.error.inj hx
  exact h e hm

/-- What is raised of another kind is not a refusal. -/
lemma not_unknown {kind : ExceptionKind} {message : String} (h : kind ≠ .permissionError) :
    ¬ UnknownSignal ⟨kind, message⟩ :=
  fun hunknown => h hunknown.1

section Loader

variable {scope : Scope} {tables : DetectionTables}

lemma loadEvent_raises (row : SecurityEventRow) : RaisesOther (loadEvent codec decode row) := by
  refine Raises.bind (Raises.orRaise (by decide)) fun _ _ => ?_
  exact Raises.bind (Raises.raiseIf (by decide)) fun _ _ => Raises.ok _

lemma readSignal_raises (row : DetectionSignalRow) : RaisesOther (readSignal codec scope tables row) := by
  refine Raises.bind (Raises.orRaise (by decide)) fun signal _ => ?_
  refine Raises.bind (Raises.raiseIf (by decide)) fun _ _ => ?_
  refine Raises.bind ?_ fun rule _ => ?_
  · refine Raises.bind (Raises.orRaise (by decide)) fun _ _ => ?_
    refine Raises.bind (Raises.raiseIf (by decide)) fun _ _ => ?_
    exact Raises.bind (Raises.raiseIf (by decide)) fun _ _ => Raises.ok _
  · exact Raises.bind (Raises.raiseIf (by decide)) fun _ _ => Raises.ok _

/-- A walk along the sources raises what its visits do. -/
lemma along_raises {visit : String → (String → Except Raised (List String)) → Except Raised (List String)}
    {message : String} (hmessage : ¬ UnknownSignal ⟨.permissionError, message⟩)
    (hvisit : ∀ id f, (∀ id, RaisesOther (f id)) → RaisesOther (visit id f)) (n : ℕ) (seen : List String)
    (id : String) : RaisesOther (Paths.along (raise .permissionError message) visit n seen id) := by
  induction n generalizing seen id with
  | zero => exact Raises.raise hmessage
  | succ n ih =>
    rw [Paths.along]
    split
    · exact Raises.raise hmessage
    · exact hvisit id _ (ih _)

lemma evidenceRefs_raises (events : List SecurityEvent) (signals : List DetectionSignal) (id : String) :
    RaisesOther (evidenceRefs events signals id) := by
  refine along_raises (by decide) (fun id f hf => ?_) _ _ id
  refine Raises.bind (Raises.orRaise (by decide)) fun signal _ => ?_
  refine Raises.bind (Raises.mapM fun eventId _ => ?_) fun own _ => ?_
  · exact Raises.bind (Raises.orRaise (by decide)) fun _ _ => Raises.ok _
  refine Raises.bind (Raises.mapM fun source _ => hf source) fun inherited _ => ?_
  exact Raises.bind (Raises.raiseIf (by decide)) fun _ _ => Raises.ok _

/-- Where all that is asked for is stored, the loader raises for another reason only. -/
lemma loadSignals_raises {ids : List String} (hheld : ∀ id ∈ ids, IsHeld scope tables id) :
    RaisesOther (loadSignals codec decode scope tables ids) := by
  have hfound : ids.eraseDups ⊆ (requestedRows scope tables ids.eraseDups).map (·.signalId) := by
    intro id hid
    obtain ⟨row, hrow, rfl⟩ := hheld id (List.mem_eraseDups.mp hid)
    have hrequested := List.ne_nil_of_mem hid
    exact List.mem_map_of_mem ((mem_requestedRows hrequested).mpr ⟨hrow, hid⟩)
  refine Raises.bind (fun e he => ?_) fun _ _ => ?_
  · rw [raiseIf, if_neg (not_not.mpr hfound)] at he
    cases he
  split
  · exact Raises.ok _
  refine Raises.bind ?_ fun rows _ => ?_
  · rw [loadedRows]
    split
    · exact Raises.ok _
    · exact Raises.orRaise (by decide)
  refine Raises.bind (Raises.mapM fun row _ => loadEvent_raises row) fun events _ => ?_
  refine Raises.bind (Raises.mapM fun row _ => readSignal_raises row) fun signals _ => ?_
  refine Raises.bind (Raises.mapM fun s _ => ?_) fun _ _ => ?_
  · refine Raises.bind (evidenceRefs_raises events signals s.signalId) fun _ _ => ?_
    exact Raises.raiseIf (by decide)
  refine Raises.bind (Raises.mapM fun s _ => Raises.raiseIf (by decide)) fun _ _ => ?_
  split
  · exact Raises.ok _
  · exact Raises.mapM fun id _ => Raises.orRaise (not_unknown (by decide))

end Loader

section Evidence

variable {scope : Scope} {db : Database}

/-- All that the signals are derived from is stored. -/
def SourcesHeld (codec : Codec) (dump : SecurityEvent → Value) (scope : Scope) (db : Database)
    (signals : List DetectionSignal) : Prop :=
  ∀ s ∈ signals, ∀ id ∈ s.sourceSignalIds, IsHeld scope (db.detectionTables codec dump) id

lemma signalsFor_sources (hread : SignalsReadable codec decode scope (db.detectionTables codec dump))
    {ids : List String} (hids : ids ≠ []) {signals : List DetectionSignal}
    (hload : signalsFor codec dump decode scope ids db = .ok signals) :
    SourcesHeld codec dump scope db signals := by
  rcases loadSignals_trusted codec decode scope (db.detectionTables codec dump) hids with
    ⟨e, he⟩ | ⟨signals', hsignals, htrusted⟩
  · rw [signalsFor, he] at hload
    cases hload
  obtain rfl := Except.ok.inj (hload.symm.trans hsignals)
  intro s hs id hid
  obtain ⟨row, hrow, hscope, hvalid⟩ := htrusted.stored s hs
  rw [(validatedSignal_row hvalid).2.2] at hid
  exact hread.source (mem_held.mpr ⟨hrow, hscope⟩) hid

lemma withDependencies_raises
    (hread : SignalsReadable codec decode scope (db.detectionTables codec dump))
    (known : List DetectionSignal) (pending : List String)
    (hpending : ∀ id ∈ pending, IsHeld scope (db.detectionTables codec dump) id) :
    RaisesOther (withDependencies codec dump decode scope db known pending) := by
  fun_induction withDependencies codec dump decode scope db known pending with
  | case1 known => exact Raises.ok _
  | case2 known pending hsome e hload => exact raises_error (loadSignals_raises hpending) hload
  | case3 known pending hsome dependencies hload hfound hless ih =>
    refine ih fun id hid => ?_
    obtain ⟨hsource, -⟩ := List.mem_filter.mp (mem_normalized.mp hid)
    obtain ⟨s, hs, hid⟩ := List.mem_flatMap.mp hsource
    exact signalsFor_sources hread hsome hload s hs id hid
  | case4 known pending hsome dependencies hload hfound => exact Raises.raise (by decide)

lemma signalEventIds_raises (known : List DetectionSignal) (id : String) :
    RaisesOther (signalEventIds known id) := by
  refine along_raises (by decide) (fun id f hf => ?_) _ _ id
  refine Raises.bind (Raises.orRaise (by decide)) fun signal _ => ?_
  exact Raises.bind (Raises.mapM fun source _ => hf source) fun inherited _ => Raises.ok _

lemma checkHuntSignals_raises (plan : HuntPlan) (events : List SecurityEvent)
    (known signals : List DetectionSignal) (allowed : List String) :
    RaisesOther (checkHuntSignals plan events known signals allowed) := by
  induction signals generalizing allowed with
  | nil => exact Raises.ok _
  | cons signal signals ih =>
    refine Raises.bind (signalEventIds_raises known signal.signalId) fun eventIds _ => ?_
    refine Raises.bind (Raises.raiseIf (by decide)) fun _ _ => ?_
    exact Raises.bind (Raises.raiseIf (by decide)) fun _ _ => ih _

lemma validateHuntEvidence_raises {hypothesis : HuntHypothesis} {plan : HuntPlan}
    {signals : List DetectionSignal}
    (hread : SignalsReadable codec decode plan.scope (db.detectionTables codec dump))
    (hsources : SourcesHeld codec dump plan.scope db signals) :
    RaisesOther (validateHuntEvidence codec dump decode hypothesis plan signals db) := by
  refine Raises.bind (withDependencies_raises hread signals _ fun id hid => ?_) fun known _ => ?_
  · obtain ⟨s, hs, hid⟩ := List.mem_flatMap.mp (mem_normalized.mp hid)
    exact hsources s hs id hid
  refine Raises.bind (checkHuntSignals_raises plan _ known signals _) fun allowed _ => ?_
  exact Raises.raiseIf (by decide)

end Evidence

section Execution

variable {db : Database}

lemma unique_raises {ρ κ : Type} {key : ρ → κ} (t : Option (Table key)) : RaisesOther (unique t) := by
  cases t with
  | none => exact Raises.raise (by decide)
  | some t => exact Raises.ok t

lemma insertOrReplay_raises {ρ κ : Type} [DecidableEq κ] {key : ρ → κ} (tablename : String)
    (same clash : ρ → ρ → Bool) (row : ρ) (t : Table key) :
    RaisesOther (insertOrReplay tablename same clash row t) := by
  rw [insertOrReplay]
  split
  · split
    · exact Raises.ok _
    · exact Raises.raise (not_unknown (by decide))
  · exact unique_raises _

lemma validateEngagementScope_raises (scope : Scope) : RaisesOther (validateEngagementScope db scope) := by
  rw [validateEngagementScope]
  split
  · exact Raises.raise (by decide)
  split
  · exact Raises.raise (by decide)
  split
  · exact Raises.ok _
  · exact Raises.raise (by decide)

lemma saveHuntRequest_raises (hypothesis : HuntHypothesis) (plan : HuntPlan) :
    RaisesOther (saveHuntRequest codec secretLike hypothesis plan db) := by
  refine Raises.bind (Raises.raiseIf (by decide)) fun _ _ => ?_
  refine Raises.bind (Raises.raiseIf (by decide)) fun _ _ => ?_
  refine Raises.bind (validateEngagementScope_raises plan.scope) fun _ _ => ?_
  refine Raises.bind (insertOrReplay_raises _ _ _ _ _) fun hypotheses _ => ?_
  exact Raises.bind (insertOrReplay_raises _ _ _ _ _) fun plans _ => Raises.ok _

lemma claimHunt_raises (now : Datetime) (planId worker : String) (seconds : Int) :
    RaisesOther (claimHunt now planId worker seconds db) := by
  rw [claimHunt]
  split
  · exact Raises.raise (by decide)
  split
  · exact Raises.raise (by decide)
  split
  · exact Raises.ok _
  split
  · exact Raises.ok _
  · exact Raises.ok _

lemma saveHunt_raises (now : Datetime) (execution : HuntExecution) (result : HuntResult)
    (worker : Option String) : RaisesOther (saveHunt now execution result worker db) := by
  refine Raises.bind ?_ fun row _ => Raises.bind ?_ fun executions _ => Raises.ok _
  · refine Raises.bind (Raises.orRaise (by decide)) fun row _ => ?_
    refine Raises.bind (Raises.raiseIf (by decide)) fun _ _ => ?_
    refine Raises.bind ?_ fun _ _ => Raises.ok _
    rw [checkHuntLease]
    split
    · exact Raises.raiseIf (by decide)
    · exact Raises.ok _
    · exact Raises.raiseIf (by decide)
  · refine Raises.bind (Raises.raiseIf (by decide)) fun _ _ => ?_
    refine Raises.bind (Raises.raiseIf (by decide)) fun _ _ => ?_
    split
    · refine Raises.bind (Raises.raiseIf (by decide)) fun _ _ => ?_
      exact Raises.bind (Raises.raiseIf (by decide)) fun _ _ => Raises.ok _
    · exact unique_raises _

lemma begin_raises (hypothesis : HuntHypothesis) (plan : HuntPlan) (engine : ThreatHuntEngine) :
    RaisesOther (ThreatHuntEngine.begin codec hypothesis plan engine).1 := by
  have hcheck : RaisesOther (engine.checkScope hypothesis plan) := Raises.raiseIf (by decide)
  have hhypothesis : RaisesOther (ThreatHuntEngine.bindHypothesis codec hypothesis engine).1 := by
    rw [ThreatHuntEngine.bindHypothesis]
    split
    · exact Raises.raise (by decide)
    · exact Raises.ok _
  rw [ThreatHuntEngine.begin]
  cases hscope : engine.checkScope hypothesis plan with
  | error e => exact raises_error hcheck hscope
  | ok u =>
    rcases hbound : ThreatHuntEngine.bindHypothesis codec hypothesis engine with ⟨e | v, engine'⟩
    · exact raises_error hhypothesis (congrArg Prod.fst hbound)
    · simp only [ThreatHuntEngine.bindPlan]
      split
      · exact Raises.raise (by decide)
      · exact Raises.ok _

lemma run_raises (hypothesis : HuntHypothesis) (plan : HuntPlan) (started completed : Datetime)
    (engine : ThreatHuntEngine) :
    RaisesOther (ThreatHuntEngine.run codec render hypothesis plan started completed engine).1 := by
  have hbegin := @begin_raises codec hypothesis plan engine
  rw [ThreatHuntEngine.run]
  rcases hbegun : ThreatHuntEngine.begin codec hypothesis plan engine with ⟨e | u, engine'⟩
  · exact raises_error hbegin (congrArg Prod.fst hbegun)
  have hsearch : RaisesOther (search render hypothesis plan engine'.detections) := fun e he =>
    not_unknown (search_raises _ e he).1
  simp only
  cases hfound : search render hypothesis plan engine'.detections with
  | error e => exact raises_error hsearch hfound
  | ok f =>
    simp only [ThreatHuntEngine.record]
    split
    · split
      · exact Raises.raise (by decide)
      · exact Raises.ok _
    · exact Raises.ok _
    · exact Raises.raise (by decide)

lemma hunt_raises (hypothesis : HuntHypothesis) (plan : HuntPlan) (started completed : Datetime)
    (engine : ThreatHuntEngine) :
    RaisesOther (ThreatHuntEngine.hunt codec render hypothesis plan started completed engine).1 := by
  have hrun := @run_raises codec render hypothesis plan started completed engine
  rw [ThreatHuntEngine.hunt]
  rcases hran : ThreatHuntEngine.run codec render hypothesis plan started completed engine with
    ⟨e | result, engine'⟩
  · exact raises_error hrun (congrArg Prod.fst hran)
  have hexecution : RaisesOther (engine'.execution result.resultId plan.scope) := by
    refine Raises.bind (Raises.raiseIf (by decide)) fun _ _ => ?_
    refine Raises.bind (Raises.orRaise (by decide)) fun _ _ => ?_
    exact Raises.orRaise (by decide)
  intro x hx
  simp only at hx
  cases hmap : engine'.execution result.resultId plan.scope with
  | error e =>
    rw [hmap] at hx
    obtain rfl := Except.error.inj hx
    exact hexecution _ hmap
  | ok execution =>
    rw [hmap] at hx
    cases hx

lemma ingest_raises (event : SecurityEvent) (scope : Scope) (i : BoundedSecurityEventIngestor) :
    RaisesOther (i.ingest codec event (some scope)) := by
  refine Raises.bind (Raises.raiseIf (by decide)) fun _ _ => Raises.bind ?_ fun _ _ => ?_
  · refine Raises.bind (Raises.raiseIf (not_unknown (by decide))) fun _ _ => ?_
    refine Raises.bind (Raises.raiseIf (not_unknown (by decide))) fun _ _ => ?_
    refine Raises.bind (Raises.raiseIf (by decide)) fun _ _ => ?_
    exact Raises.bind (Raises.raiseIf (by decide)) fun _ _ => Raises.raiseIf (by decide)
  have hplane : RaisesOther (i.plane.ingest codec event).1 := by
    rw [SecurityEventPlane.ingest]
    split
    · exact Raises.raise (by decide)
    split
    · split
      · exact Raises.raise (not_unknown (by decide))
      · exact Raises.ok _
    · split
      · exact Raises.raise (by decide)
      · exact Raises.ok _
  rcases hran : i.plane.ingest codec event with ⟨e | result, plane⟩
  · exact raises_error hplane (congrArg Prod.fst hran)
  · exact Raises.ok _

lemma canonicalEngine_raises (scope : Scope) (clock : ℕ → Datetime) :
    RaisesOther (canonicalEngine codec dump decode scope clock db) := by
  have hingest : ∀ (events : List SecurityEvent) (i : BoundedSecurityEventIngestor),
      RaisesOther (ingestAll codec scope events i) := by
    intro events
    induction events with
    | nil => exact fun i => Raises.ok i
    | cons event events ih => exact fun i => Raises.bind (ingest_raises event scope i) fun _ _ => ih _
  have hbind : ∀ (known : List String) (signals : List DetectionSignal) (engine : DetectionEngine),
      RaisesOther (bindSignals known signals engine) := by
    intro known signals
    induction signals with
    | nil => exact fun engine => Raises.ok engine
    | cons signal signals ih =>
      intro engine
      refine Raises.bind (Raises.raiseIf (by decide)) fun _ _ => Raises.bind ?_ fun engine _ => ih engine
      refine Raises.bind (Raises.raiseIf (by decide)) fun _ _ => ?_
      exact Raises.bind (Raises.raiseIf (by decide)) fun _ _ => Raises.ok _
  refine Raises.bind ?_ fun engine _ => ?_
  · exact Raises.bind (hingest _ _) fun _ _ => Raises.ok _
  refine Raises.bind (loadSignals_raises fun _ hid => absurd hid List.not_mem_nil) fun signals _ => ?_
  exact hbind _ _ _

lemma executeClaimedHunt_raises (t : HuntInstants) (worker planId : String) :
    RaisesOther (executeClaimedHunt codec render dump decode t worker planId db).1 := by
  have hplanned : RaisesOther (huntPlanned codec render dump decode t planId db) := by
    refine Raises.bind ?_ fun request _ => ?_
    · rw [loadHuntRequest]
      split
      · exact Raises.ok _
      · exact Raises.bind (Raises.orRaise (by decide)) fun _ _ => Raises.ok _
    refine Raises.bind (Raises.orRaise (by decide)) fun found _ => ?_
    exact Raises.bind (canonicalEngine_raises _ _) fun detector _ => hunt_raises _ _ _ _ _
  rw [executeClaimedHunt]
  cases hran : huntPlanned codec render dump decode t planId db with
  | error e => exact raises_error hplanned hran
  | ok found =>
    simp only
    cases hsaved : saveHunt t.saved found.1 found.2 (some worker) db with
    | error e => exact raises_error (saveHunt_raises _ _ _ _) hsaved
    | ok saved => exact Raises.ok _

lemma executeHunt_raises (t : HuntInstants) (worker planId : String) :
    RaisesOther (executeHunt codec render dump decode t worker planId db).1 := by
  rw [executeHunt]
  rcases hclaimed : claimHunt t.claimed planId worker 120 db with e | ⟨_ | _, db'⟩
  · exact raises_error (claimHunt_raises _ _ _ _) hclaimed
  · exact Raises.raise (by decide)
  · exact executeClaimedHunt_raises t worker planId

end Execution

end Stages

section References

variable {codec : Codec} {secretLike : Value → Bool} {render : Value → String}
  {dump : SecurityEvent → Value} {decode : Value → Option SecurityEvent} {db : Database}

/-- A signal of the id is stored in the scope. -/
def SignalStored (scope : Scope) (db : Database) (id : String) : Prop :=
  ∃ s ∈ db.detectionSignals, s.scope = scope ∧ s.signalId = id

lemma isHeld_iff {scope : Scope} {id : String} :
    IsHeld scope (db.detectionTables codec dump) id ↔ SignalStored scope db id := by
  constructor
  · rintro ⟨row, hrow, rfl⟩
    obtain ⟨hmem, hscope⟩ := mem_held.mp hrow
    obtain ⟨s, hs, rfl⟩ := List.mem_map.mp (Table.mem_def.mp hmem)
    exact ⟨s, hs, hscope, rfl⟩
  · rintro ⟨s, hs, hscope, rfl⟩
    exact ⟨.of s, mem_held.mpr ⟨Table.mem_def.mpr (List.mem_map_of_mem hs), hscope⟩, rfl⟩

def Refused (r : Except Raised HuntResult) : Prop := ∃ e, r = .error e ∧ UnknownSignal e

variable {call : RequestHunt} {ids : List String}

section Signals

variable (hread : SignalsReadable codec decode call.plan.scope (db.detectionTables codec dump))

include hread

/-- The references are refused for an id that is not stored; a request without any is refused for every signal
that is. -/
lemma references_refused_iff :
    (∃ e, requestedHuntSignals codec dump decode call.plan.scope ids db = .error e ∧ UnknownSignal e) ↔
      (∃ id ∈ ids, ¬ SignalStored call.plan.scope db id) ∨
        ids = [] ∧ held call.plan.scope (db.detectionTables codec dump) ≠ [] := by
  rw [requestedHuntSignals, signalsFor]
  by_cases hall : ∀ id ∈ ids, SignalStored call.plan.scope db id
  · rw [or_iff_right (fun ⟨id, hid, hnot⟩ => hnot (hall id hid))]
    by_cases hids : ids = []
    · subst hids
      obtain ⟨signals, hsignals⟩ := hread
      rw [hsignals, ok_bind]
      by_cases hnone : signals = []
      · subst hnone
        exact iff_of_false (fun ⟨e, he, _⟩ => nomatch he) fun h => h.2 ((load_nil_iff hsignals).mp rfl)
      · have hlength : signals.length ≠ ([] : List String).eraseDups.length :=
          fun hzero => hnone (List.length_eq_zero_iff.mp hzero)
        refine iff_of_true ⟨⟨.permissionError, "hunt references an unknown signal"⟩, ?_, by decide⟩
          ⟨rfl, fun h => hnone ((load_nil_iff hsignals).mpr h)⟩
        rw [raiseIf, if_pos hlength]
        rfl
    · refine iff_of_false ?_ fun h => hids h.1
      obtain ⟨signals, hsignals⟩ := hread.loads hids fun id hid => isHeld_iff.mpr (hall id hid)
      rcases loadSignals_trusted codec decode call.plan.scope (db.detectionTables codec dump) hids with
        ⟨e, he⟩ | ⟨signals', hsignals', htrusted⟩
      · rw [hsignals] at he
        cases he
      obtain rfl := Except.ok.inj (hsignals.symm.trans hsignals')
      have hlength : signals.length = ids.eraseDups.length := by
        rw [← htrusted.requested, List.length_map]
      rintro ⟨e, he, -⟩
      rw [hsignals, ok_bind, raiseIf, if_neg (not_not.mpr hlength)] at he
      cases he
  · push Not at hall
    obtain ⟨id, hid, hnot⟩ := hall
    refine iff_of_true ?_ (Or.inl ⟨id, hid, hnot⟩)
    have hmissing : ¬ ids.eraseDups ⊆ (requestedRows call.plan.scope (db.detectionTables codec dump)
        ids.eraseDups).map (·.signalId) := by
      intro hfound
      obtain ⟨row, hrow, rfl⟩ := List.mem_map.mp (hfound (List.mem_eraseDups.mpr hid))
      exact hnot (isHeld_iff.mp ⟨row, List.mem_of_mem_filter hrow, rfl⟩)
    refine ⟨⟨.permissionError, "one or more signals are absent or outside the requested scope"⟩, ?_, by decide⟩
    rw [loadSignals, raiseIf, if_pos hmissing]
    rfl

/-- A request is refused where its references are, and nothing after them refuses it. -/
lemma refused_iff (t : HuntInstants) (worker : String)
    (hids : call.signalIds codec secretLike render db = .ok ids) :
    Refused (requestHunt codec secretLike render dump decode t worker call db).1 ↔
      ∃ e, requestedHuntSignals codec dump decode call.plan.scope ids db = .error e ∧ UnknownSignal e := by
  have hprepare : call.prepare codec secretLike render dump decode db =
      requestedHuntSignals codec dump decode call.plan.scope ids db >>= fun signals =>
        validateHuntEvidence codec dump decode call.hypothesis call.plan signals db := by
    rw [RequestHunt.prepare, hids, ok_bind]
  rw [Refused, requestHunt, hprepare]
  cases hsignals : requestedHuntSignals codec dump decode call.plan.scope ids db with
  | error e =>
    constructor
    · rintro ⟨e', he, hunknown⟩
      exact ⟨e, rfl, Except.error.inj he ▸ hunknown⟩
    · rintro ⟨e', he, hunknown⟩
      exact ⟨e, rfl, Except.error.inj he ▸ hunknown⟩
  | ok signals =>
    have hloaded : ¬ ∃ e, (Except.ok signals : Except Raised (List DetectionSignal)) = .error e ∧ UnknownSignal e := by
      rintro ⟨e, he, -⟩
      cases he
    refine iff_of_false ?_ hloaded
    rintro ⟨e, he, hunknown⟩
    have hsources : SourcesHeld codec dump call.plan.scope db signals := by
      obtain ⟨loaded, hload, h⟩ := bind_eq_ok.mp hsignals
      obtain ⟨hlength, h⟩ := raiseIf_bind_eq_ok.mp h
      obtain rfl := Except.ok.inj h
      by_cases hnil : ids = []
      · subst hnil
        obtain rfl := List.length_eq_zero_iff.mp (not_not.mp hlength)
        exact fun s hs => absurd hs List.not_mem_nil
      · exact signalsFor_sources hread hnil hload
    rw [ok_bind] at he
    cases hvalid : validateHuntEvidence codec dump decode call.hypothesis call.plan signals db with
    | error e' =>
      rw [hvalid] at he
      exact raises_error (validateHuntEvidence_raises hread hsources) hvalid e he hunknown
    | ok u =>
      rw [hvalid] at he
      simp only at he
      cases hsaved : saveHuntRequest codec secretLike call.hypothesis call.plan db with
      | error e' =>
        rw [hsaved] at he
        exact raises_error (saveHuntRequest_raises _ _) hsaved e he hunknown
      | ok saved =>
        rw [hsaved] at he
        exact executeHunt_raises t worker call.plan.planId e he hunknown

/-- A request is refused over an unknown signal for exactly the ids that are not stored, if it refers to any or
if no signal of its scope is stored. -/
theorem unknown_refused_iff (t : HuntInstants) (worker : String)
    (hids : call.signalIds codec secretLike render db = .ok ids) :
    (Refused (requestHunt codec secretLike render dump decode t worker call db).1 ↔
        ∃ id ∈ ids, ¬ SignalStored call.plan.scope db id) ↔
      ids ≠ [] ∨ ∀ s ∈ db.detectionSignals, s.scope ≠ call.plan.scope := by
  rw [refused_iff hread t worker hids, references_refused_iff hread]
  by_cases hnil : ids = []
  · subst hnil
    have hnone : ¬ ∃ id ∈ ([] : List String), ¬ SignalStored call.plan.scope db id :=
      fun ⟨id, hid, _⟩ => absurd hid List.not_mem_nil
    have hheld : held call.plan.scope (db.detectionTables codec dump) ≠ [] ↔
        ¬ ∀ s ∈ db.detectionSignals, s.scope ≠ call.plan.scope := by
      constructor
      · intro hsome hall
        obtain ⟨row, hrow⟩ := List.exists_mem_of_ne_nil _ hsome
        obtain ⟨s, hs, hscope, -⟩ := isHeld_iff.mp ⟨row, hrow, rfl⟩
        exact hall s hs hscope
      · intro hall hnone
        push Not at hall
        obtain ⟨s, hs, hscope⟩ := hall
        obtain ⟨row, hrow, -⟩ := isHeld_iff.mpr ⟨s, hs, hscope, rfl⟩
        exact List.ne_nil_of_mem hrow hnone
    rw [iff_false_right hnone, or_iff_right hnone, hheld]
    simp
  · refine iff_of_true ⟨fun h => ?_, Or.inl⟩ (Or.inl hnil)
    exact h.resolve_right fun hboth => hnil hboth.1

end Signals

section Example

def observedSignal : DetectionSignal where
  signalId := "SIG-1"
  scope := sampleScope
  ruleId := "DR-1"
  ruleVersion := 1
  eventIds := [sampleEvent.eventId]
  sourceSignalIds := []
  detectedAt := 0
  severity := .high
  confidence := .high
  matchedPredicates := ["action"]
  rawEvidenceRefs := ["EV-1"]
  ruleDigest := "c1"
  status := "NEW"

/-- One signal of a completed run is stored, and an operator. -/
def observedDatabase : Database :=
  { Database.empty with
    principals := .single ⟨"PR-1", "operator"⟩
    securityEvents := .single sampleEvent
    detectionSignals := .single observedSignal
    detectionEvaluations := .single
      { evaluationId := "EVAL-1"
        runId := "RUN-1"
        scope := sampleScope
        ruleId := "DR-1"
        ruleVersion := 1
        inputEventIds := [sampleEvent.eventId]
        evaluatedAt := 0
        matchedPredicates := ["action"]
        result := .match
        signalId := some "SIG-1"
        engineVersion := "1"
        ruleDigest := "c1"
        idempotencyKey := "I-1" }
    detectionRuns := .single
      { runId := "RUN-1"
        scope := sampleScope
        ruleIds := ["DR-1"]
        inputEventIds := [sampleEvent.eventId]
        evaluationIds := ["EVAL-1"]
        signalIds := ["SIG-1"]
        engineVersion := "1"
        startedAt := 0
        completedAt := 0
        status := "COMPLETED" }
    detectionRuleVersions := .single (.of ruleDigests invocation)
    detectionPlans := .single (invocation.plan ruleDigests) }

def noText (_ : Value) : String := ""

def allClear (_ : Value) : Bool := false

def sampleInstants : HuntInstants := ⟨0, fun n => n, 0, 0, 0⟩

/-- A request whose hypothesis names these signals, and whose query none. -/
def requestFor (ids : List String) : RequestHunt where
  hypothesis := { huntHypothesis with scope := sampleScope, supportingSignalIds := ids }
  plan := { huntPlan with scope := sampleScope }
  requestedBy := "PR-1"
  accessPrincipalId := none

lemma observed_readable : SignalsReadable ruleDigests decodeSample sampleScope
    (observedDatabase.detectionTables ruleDigests fun _ => .null) :=
  ⟨[observedSignal], rfl⟩

lemma requestFor_signalIds (ids : List String) :
    (requestFor ids).signalIds ruleDigests allClear noText observedDatabase = .ok ids := rfl

/-- A request that names no signal is refused over an unknown one. -/
theorem empty_request_refused :
    SignalsReadable ruleDigests decodeSample sampleScope
        (observedDatabase.detectionTables ruleDigests fun _ => .null) ∧
      (requestFor []).signalIds ruleDigests allClear noText observedDatabase = .ok [] ∧
      ¬ (Refused (requestHunt ruleDigests allClear noText (fun _ => .null) decodeSample sampleInstants "W-1"
          (requestFor []) observedDatabase).1 ↔
        ∃ id ∈ ([] : List String), ¬ SignalStored sampleScope observedDatabase id) := by
  refine ⟨observed_readable, requestFor_signalIds [], fun hiff => ?_⟩
  have hrefused : (requestHunt ruleDigests allClear noText (fun _ => .null) decodeSample sampleInstants "W-1"
      (requestFor []) observedDatabase).1 =
        raise .permissionError "hunt references an unknown signal" := rfl
  obtain ⟨id, hid, -⟩ := hiff.mp ⟨_, hrefused, by decide⟩
  cases hid

/-- A request for the stored signal is refused over it only if it is not stored. -/
theorem named_request_refused_iff :
    Refused (requestHunt ruleDigests allClear noText (fun _ => .null) decodeSample sampleInstants "W-1"
        (requestFor ["SIG-1"]) observedDatabase).1 ↔
      ∃ id ∈ ["SIG-1"], ¬ SignalStored sampleScope observedDatabase id :=
  (unknown_refused_iff observed_readable sampleInstants "W-1" (requestFor_signalIds ["SIG-1"])).mpr
    (Or.inl (List.cons_ne_nil _ _))

end Example

end References

end SecScanMonitor.Application.LiveIncidentControlPlane
