import SecScanMonitor.Persistence.RuleRegistry
import SecScanMonitor.Persistence.SignalRead
import SecScanMonitor.Persistence.WorkProtocol

/-! What a reader of stored signals can rely on: whatever the tables hold, a signal is only returned with the whole
of its provenance. -/

namespace SecScanMonitor.Persistence

open Foundations Domain DetectionResponse ContinuousSecurity Relation

section Provenance

variable (codec : Codec) (decode : Value → Option SecurityEvent) (scope : Scope)
  (tables : DetectionTables)

/-- A stored signal of the scope names another as its source. -/
def Sources : String → String → Prop :=
  Closure.Names DetectionSignalRow.signalId DetectionSignalRow.sourceSignalIds (held scope tables)

/-- The signals that are asked for and all that they are derived from. -/
def Reached (ids : List String) (id : String) : Prop :=
  ∃ root ∈ ids, ReflTransGen (Sources scope tables) root id

/-- The evidence of one of the signal's own events. -/
def Cites (id ref : String) : Prop :=
  ∃ row ∈ held scope tables, row.signalId = id ∧ ∃ e ∈ tables.events, e.scope = scope ∧
    e.eventId ∈ row.eventIds ∧ ∃ event, loadEvent codec decode e = .ok event ∧
      event.rawEvidenceRef = ref

/-- A completed run of the scope that lists the signal and the evaluation. -/
structure Ran (signal : DetectionSignal) (evaluation : DetectionEvaluationRow) (run : DetectionRunRow) :
    Prop where
  completed : run.status = "COMPLETED"
  inScope : run.scope = scope
  engine : isBlank run.engineVersion = false ∧ evaluation.engineVersion = run.engineVersion
  ofRule : signal.ruleId ∈ run.ruleIds
  listsSignal : signal.signalId ∈ run.signalIds
  listsEvaluation : evaluation.evaluationId ∈ run.evaluationIds
  inputs : ∀ id ∈ signal.eventIds, id ∈ run.inputEventIds

structure Backs (signal : DetectionSignal) (evaluation : DetectionEvaluationRow) : Prop where
  inScope : evaluation.scope = scope
  matched : evaluation.signalId = some signal.signalId ∧ evaluation.result = "MATCH"
  ofRule : evaluation.ruleId = signal.ruleId ∧ evaluation.ruleVersion = signal.ruleVersion ∧
    evaluation.ruleDigest = signal.ruleDigest
  inputs : evaluation.inputEventIds = signal.eventIds
  predicates : evaluation.matchedPredicates = signal.matchedPredicates
  ran : ∃ run ∈ tables.runs, run.runId = evaluation.runId ∧ Ran scope signal evaluation run

/-- The signals are those that were asked for, with the whole of their provenance. -/
structure Trusted (ids : List String) (signals : List DetectionSignal) : Prop where
  requested : signals.map (·.signalId) = ids.eraseDups
  stored : ∀ s ∈ signals, ∃ row ∈ tables.signals, row.scope = scope ∧ validatedSignal scope row = some s
  present : ∀ id, Reached scope tables ids id →
    ∃ row ∈ tables.signals, row.scope = scope ∧ row.signalId = id
  acyclic : ∀ id, Reached scope tables ids id → ¬ TransGen (Sources scope tables) id id
  evidence : ∀ s ∈ signals, ∀ ref, ref ∈ s.rawEvidenceRefs ↔
    ∃ id, ReflTransGen (Sources scope tables) s.signalId id ∧ Cites codec decode scope tables id ref
  backed : ∀ s ∈ signals, ∃ e ∈ tables.evaluations, Backs scope tables s e

end Provenance

variable {codec : Codec} {decode : Value → Option SecurityEvent} {scope : Scope}
  {tables : DetectionTables} {row : DetectionSignalRow} {signal : DetectionSignal}

section Rows

lemma mem_held : row ∈ held scope tables ↔ row ∈ tables.signals ∧ row.scope = scope := by
  rw [held, Table.mem_select, decide_eq_true_eq]

lemma held_unique {row' : DetectionSignalRow} (h : row ∈ held scope tables)
    (h' : row' ∈ held scope tables) (hid : row.signalId = row'.signalId) : row = row' :=
  Table.eq_of_key_eq (mem_held.mp h).1 (mem_held.mp h').1 hid

/-- What a validated signal repeats of its row. -/
lemma validatedSignal_row (h : validatedSignal scope row = some signal) :
    signal.signalId = row.signalId ∧ signal.eventIds = row.eventIds ∧
      signal.sourceSignalIds = row.sourceSignalIds := by
  rw [validatedSignal] at h
  obtain ⟨severity, -, h⟩ := Option.bind_eq_some_iff.mp h
  obtain ⟨confidence, -, h⟩ := Option.bind_eq_some_iff.mp h
  split at h
  · cases h
  · obtain rfl := Option.some.inj h
    exact ⟨rfl, rfl, rfl⟩

lemma readSignal_valid (h : readSignal codec scope tables row = .ok signal) :
    validatedSignal scope row = some signal := by
  obtain ⟨s, hs, h⟩ := orRaise_bind_eq_ok.mp h
  obtain ⟨-, h⟩ := raiseIf_bind_eq_ok.mp h
  obtain ⟨rule, -, h⟩ := bind_eq_ok.mp h
  obtain ⟨-, h⟩ := raiseIf_bind_eq_ok.mp h
  rw [hs, Except.ok.inj h]

lemma signalNamed_eq_some {signals : List DetectionSignal} {id : String}
    (h : signalNamed signals id = some signal) : signal ∈ signals ∧ signal.signalId = id := by
  have hid := List.find?_some h
  exact ⟨List.mem_of_find?_eq_some h, of_decide_eq_true hid⟩

lemma loadEvent_id {row : SecurityEventRow} {event : SecurityEvent}
    (h : loadEvent codec decode row = .ok event) : event.eventId = row.eventId := by
  obtain ⟨e, -, h⟩ := orRaise_bind_eq_ok.mp h
  obtain ⟨hsame, h⟩ := raiseIf_bind_eq_ok.mp h
  rw [← Except.ok.inj h]
  rw [not_or, not_not] at hsame
  exact hsame.1

end Rows

section Evidence

/-- The sources of the stored signal of an id. -/
def sourcesOf (scope : Scope) (tables : DetectionTables) (id : String) : List String :=
  (((held scope tables).find? fun r => decide (r.signalId = id)).map (·.sourceSignalIds)).getD []

lemma sourcesOf_row (h : row ∈ held scope tables) :
    sourcesOf scope tables row.signalId = row.sourceSignalIds := by
  rw [sourcesOf]
  cases hfind : (held scope tables).find? fun r => decide (r.signalId = row.signalId) with
  | none => exact absurd (List.find?_eq_none.mp hfind row h) (by simp)
  | some r =>
    have hid := List.find?_some hfind
    rw [held_unique (List.mem_of_find?_eq_some hfind) h (of_decide_eq_true hid)]
    rfl

lemma sources_eq : Sources scope tables = fun a b => b ∈ sourcesOf scope tables a := by
  funext a b
  apply propext
  constructor
  · rintro ⟨row, hrow, rfl, hb⟩
    rw [sourcesOf_row hrow]
    exact hb
  · intro hb
    rw [sourcesOf] at hb
    cases hfind : (held scope tables).find? fun r => decide (r.signalId = a) with
    | none =>
      rw [hfind] at hb
      cases hb
    | some row =>
      rw [hfind] at hb
      have hid := List.find?_some hfind
      exact ⟨row, List.mem_of_find?_eq_some hfind, of_decide_eq_true hid, hb⟩

def Resolved (r : Except Raised (List String)) : Prop := ∃ refs, r = .ok refs

def Yields (r : Except Raised (List String)) (ref : String) : Prop := ∃ refs, r = .ok refs ∧ ref ∈ refs

/-- The events and the signals that a call has read from some rows. -/
structure Read (codec : Codec) (decode : Value → Option SecurityEvent) (scope : Scope)
    (tables : DetectionTables) (rows : List DetectionSignalRow) (events : List SecurityEvent)
    (signals : List DetectionSignal) : Prop where
  inScope : ∀ row ∈ rows, row ∈ held scope tables
  loads : (tables.events.select fun r => r.scope = scope).mapM (loadEvent codec decode) = .ok events
  reads : (sortBy DetectionSignalRow.signalId rows).mapM (readSignal codec scope tables) = .ok signals

namespace Read

variable {rows : List DetectionSignalRow} {events : List SecurityEvent} {signals : List DetectionSignal}
  (h : Read codec decode scope tables rows events signals)

include h

lemma of_row (hrow : row ∈ rows) : ∃ s ∈ signals, readSignal codec scope tables row = .ok s :=
  (mapM_eq_ok h.reads).1 row (mem_sortBy.mpr hrow)

/-- Every signal that is read is the one of its row. -/
lemma of_signal (hsignal : signal ∈ signals) :
    ∃ row ∈ rows, row.signalId = signal.signalId ∧ readSignal codec scope tables row = .ok signal := by
  obtain ⟨row, hrow, hread⟩ := (mapM_eq_ok h.reads).2 signal hsignal
  exact ⟨row, mem_sortBy.mp hrow, (validatedSignal_row (readSignal_valid hread)).1.symm, hread⟩

lemma mem_event {eventId : String} {event : SecurityEvent}
    (hfind : (events.find? fun e => decide (e.eventId = eventId)) = some event) :
    ∃ e ∈ tables.events, e.scope = scope ∧ e.eventId = eventId ∧ loadEvent codec decode e = .ok event := by
  obtain ⟨e, he, hload⟩ := (mapM_eq_ok h.loads).2 event (List.mem_of_find?_eq_some hfind)
  obtain ⟨he, hscope⟩ := Table.mem_select.mp he
  have hid := List.find?_some hfind
  exact ⟨e, he, of_decide_eq_true hscope, (loadEvent_id hload).symm.trans (of_decide_eq_true hid), hload⟩

lemma gather_collects {id : String} {evidenceOf : String → Except Raised (List String)}
    {refs : List String} (hgather : gather events signals id evidenceOf = .ok refs) :
    ∃ s ∈ signals, s.signalId = id ∧ sourcesOf scope tables id = s.sourceSignalIds ∧
      (∀ b ∈ s.sourceSignalIds, ∃ found, evidenceOf b = .ok found) ∧
      ∀ ref, ref ∈ refs ↔ Cites codec decode scope tables id ref ∨
        ∃ b ∈ s.sourceSignalIds, ∃ found, evidenceOf b = .ok found ∧ ref ∈ found := by
  obtain ⟨s, hs, hgather⟩ := orRaise_bind_eq_ok.mp hgather
  obtain ⟨own, hown, hgather⟩ := bind_eq_ok.mp hgather
  obtain ⟨inherited, hinherited, hgather⟩ := bind_eq_ok.mp hgather
  obtain ⟨-, hgather⟩ := raiseIf_bind_eq_ok.mp hgather
  obtain rfl := Except.ok.inj hgather
  obtain ⟨hmem, rfl⟩ := signalNamed_eq_some hs
  obtain ⟨row, hrow, hid, hread⟩ := h.of_signal hmem
  obtain ⟨-, hevents, hsources⟩ := validatedSignal_row (readSignal_valid hread)
  have hheld := h.inScope row hrow
  refine ⟨s, hmem, rfl, ?_, fun b hb => ?_, fun ref => ?_⟩
  · rw [← hid, sourcesOf_row hheld, hsources]
  · obtain ⟨found, -, hfound⟩ := (mapM_eq_ok hinherited).1 b hb
    exact ⟨found, hfound⟩
  rw [List.mem_append, List.mem_flatten]
  refine or_congr ⟨fun href => ?_, ?_⟩ ⟨?_, ?_⟩
  · obtain ⟨eventId, heventId, hown⟩ := (mapM_eq_ok hown).2 ref href
    obtain ⟨event, hfind, href⟩ := orRaise_bind_eq_ok.mp hown
    obtain ⟨e, he, hscope, heq, hload⟩ := h.mem_event hfind
    rw [hevents, ← heq] at heventId
    exact ⟨row, hheld, hid, e, he, hscope, heventId, event, hload, Except.ok.inj href⟩
  · rintro ⟨row', hrow', hid', e, he, hscope, heventId, event, hload, rfl⟩
    obtain rfl := held_unique hrow' hheld (hid'.trans hid.symm)
    rw [← hevents] at heventId
    obtain ⟨ref, href, hown⟩ := (mapM_eq_ok hown).1 e.eventId heventId
    obtain ⟨event', hfind, hread⟩ := orRaise_bind_eq_ok.mp hown
    obtain ⟨e', he', -, hid', hload'⟩ := h.mem_event hfind
    rw [Table.eq_of_key_eq he' he hid', hload] at hload'
    rw [Except.ok.inj hload', Except.ok.inj hread]
    exact href
  · rintro ⟨found, hfound, href⟩
    obtain ⟨b, hb, hread⟩ := (mapM_eq_ok hinherited).2 found hfound
    exact ⟨b, hb, found, hread, href⟩
  · rintro ⟨b, hb, found, hread, href⟩
    obtain ⟨found', hfound', hread'⟩ := (mapM_eq_ok hinherited).1 b hb
    obtain rfl := Except.ok.inj (hread'.symm.trans hread)
    exact ⟨found', hfound', href⟩

/-- The evidence of a signal is resolved only along present sources, without a cycle, and is what all of them
cite. -/
lemma evidence {id : String} {refs : List String} (hrefs : evidenceRefs events signals id = .ok refs) :
    (∀ b, ReflTransGen (Sources scope tables) id b →
      (∃ row ∈ held scope tables, row.signalId = b) ∧ ¬ TransGen (Sources scope tables) b b) ∧
    ∀ ref, ref ∈ refs ↔
      ∃ b, ReflTransGen (Sources scope tables) id b ∧ Cites codec decode scope tables b ref := by
  have hcycle : ¬ Resolved (raise .permissionError "canonical signal provenance contains a cycle") := nofun
  have hvisit : ∀ a f, Resolved (gather events signals a f) →
      ∀ b ∈ sourcesOf scope tables a, Resolved (f b) := by
    rintro a f ⟨found, hfound⟩ b hb
    obtain ⟨s, -, -, hsources, hevidence, -⟩ := h.gather_collects hfound
    rw [hsources] at hb
    exact hevidence b hb
  have hgood : Resolved (evidenceRefs events signals id) := ⟨refs, hrefs⟩
  rw [sources_eq]
  refine ⟨fun b hb => ⟨?_, Paths.along_acyclic hcycle hvisit hgood hb⟩, fun ref => ?_⟩
  · obtain ⟨-, m, path, found, hfound⟩ := Paths.along_path hcycle hvisit hgood hb
    cases m with
    | zero => cases hfound
    | succ m =>
      rw [Paths.along] at hfound
      split at hfound
      · cases hfound
      obtain ⟨s, hs, rfl, -⟩ := h.gather_collects hfound
      obtain ⟨row, hrow, hid, -⟩ := h.of_signal hs
      exact ⟨row, h.inScope row hrow, hid⟩
  · have hcollect : ∀ a f, Resolved (gather events signals a f) →
        ∀ c, Yields (gather events signals a f) c ↔ Cites codec decode scope tables a c ∨
          ∃ b ∈ sourcesOf scope tables a, Yields (f b) c := by
      rintro a f ⟨found, hfound⟩ c
      obtain ⟨s, -, -, hsources, -, hcollects⟩ := h.gather_collects hfound
      rw [hsources]
      refine Iff.trans ?_ (hcollects c)
      constructor
      · rintro ⟨found', hfound', hc⟩
        rw [Except.ok.inj (hfound.symm.trans hfound')]
        exact hc
      · exact fun hc => ⟨found, hfound, hc⟩
    refine Iff.trans ?_ (Paths.along_collects hcycle hvisit hcollect hgood ref)
    constructor
    · exact fun href => ⟨refs, hrefs, href⟩
    · rintro ⟨found, hfound, href⟩
      rw [Except.ok.inj (hrefs.symm.trans hfound)]
      exact href

end Read

end Evidence

lemma backs_iff {evaluation : DetectionEvaluationRow} :
    backs scope tables signal evaluation = true ↔ Backs scope tables signal evaluation := by
  simp only [backs, Bool.and_eq_true, decide_eq_true_eq, Option.any_eq_true, Bool.not_eq_true',
    List.contains_iff_mem, List.all_eq_true, and_assoc]
  constructor
  · rintro ⟨hscope, hid, hresult, hrule, hversion, hinputs, hpredicates, hdigest, run, hrun, hcompleted,
      hrunScope, hengine, hsame, hruleIds, hsignalIds, hevaluationIds, hall⟩
    obtain ⟨hrun, hrunId⟩ := Table.get?_eq_some_iff.mp hrun
    exact ⟨hscope, ⟨hid, hresult⟩, ⟨hrule, hversion, hdigest⟩, hinputs, hpredicates, run, hrun, hrunId,
      ⟨hcompleted, hrunScope, ⟨hengine, hsame⟩, hruleIds, hsignalIds, hevaluationIds, hall⟩⟩
  · rintro ⟨hscope, ⟨hid, hresult⟩, ⟨hrule, hversion, hdigest⟩, hinputs, hpredicates, run, hrun, hrunId,
      ⟨hcompleted, hrunScope, ⟨hengine, hsame⟩, hruleIds, hsignalIds, hevaluationIds, hall⟩⟩
    exact ⟨hscope, hid, hresult, hrule, hversion, hinputs, hpredicates, hdigest, run,
      Table.get?_eq_some_iff.mpr ⟨hrun, hrunId⟩, hcompleted, hrunScope, hengine, hsame, hruleIds,
      hsignalIds, hevaluationIds, hall⟩

lemma checkBacked_eq_ok {u : Unit} :
    checkBacked scope tables signal = .ok u ↔ ∃ e ∈ tables.evaluations, Backs scope tables signal e := by
  simp only [checkBacked, raiseIf_eq_ok, Bool.not_eq_false, List.any_eq_true, backs_iff]
  rfl

lemma mem_requestedRows {requested : List String} (hrequested : requested ≠ []) :
    row ∈ requestedRows scope tables requested ↔
      row ∈ held scope tables ∧ row.signalId ∈ requested := by
  rw [requestedRows, List.mem_filter, decide_eq_true_eq, or_iff_right hrequested]

lemma loadedRows_requested {requested : List String} {rows : List DetectionSignalRow}
    (h : loadedRows scope tables requested = .ok rows) :
    (∀ row ∈ rows, row ∈ held scope tables) ∧
      ∀ row ∈ requestedRows scope tables requested, row ∈ rows := by
  have hheld : ∀ row ∈ requestedRows scope tables requested, row ∈ held scope tables :=
    fun row hrow => List.mem_of_mem_filter hrow
  rw [loadedRows] at h
  split at h
  · obtain rfl := Except.ok.inj h
    exact ⟨hheld, fun _ hrow => hrow⟩
  · obtain ⟨hkept, hout, -⟩ := Closure.closeOver_sound hheld (fun _ hrow => hrow)
      (fun row hrow => Or.inl hrow) (orRaise_eq_ok.mp h)
    exact ⟨fun row hrow => (hout row hrow).1, hkept⟩

/-- A call for some ids comes to an end, and it either raises or returns those signals with the whole of their
provenance. -/
theorem loadSignals_trusted (codec : Codec) (decode : Value → Option SecurityEvent) (scope : Scope)
    (tables : DetectionTables) {ids : List String} (hids : ids ≠ []) :
    (∃ e, loadSignals codec decode scope tables ids = .error e) ∨
      ∃ signals, loadSignals codec decode scope tables ids = .ok signals ∧
        Trusted codec decode scope tables ids signals := by
  cases hload : loadSignals codec decode scope tables ids with
  | error e => exact Or.inl ⟨e, rfl⟩
  | ok out =>
    refine Or.inr ⟨out, rfl, ?_⟩
    have hrequested : ids.eraseDups ≠ [] := by
      cases ids with
      | nil => exact absurd rfl hids
      | cons id ids => rw [List.eraseDups_cons]; exact List.cons_ne_nil _ _
    obtain ⟨hfound, h⟩ := raiseIf_bind_eq_ok.mp hload
    rw [not_not] at hfound
    have hsome : (requestedRows scope tables ids.eraseDups).map (·.signalId) ≠ [] := by
      intro hnil
      rw [hnil, List.subset_nil] at hfound
      exact hrequested hfound
    rw [if_neg hsome] at h
    obtain ⟨rows, hrows, h⟩ := bind_eq_ok.mp h
    obtain ⟨events, hevents, h⟩ := bind_eq_ok.mp h
    obtain ⟨signals, hsignals, h⟩ := bind_eq_ok.mp h
    obtain ⟨us, hevidence, h⟩ := bind_eq_ok.mp h
    obtain ⟨vs, hbacked, h⟩ := bind_eq_ok.mp h
    rw [if_neg hrequested] at h
    obtain ⟨hheld, hkept⟩ := loadedRows_requested hrows
    have hread : Read codec decode scope tables rows events signals := ⟨hheld, hevents, hsignals⟩
    -- each signal that was read has its evidence
    have hresolved : ∀ s ∈ signals, ∃ refs, evidenceRefs events signals s.signalId = .ok refs ∧
        s.rawEvidenceRefs ⊆ refs ∧ refs ⊆ s.rawEvidenceRefs := by
      intro s hs
      obtain ⟨u, -, hu⟩ := (mapM_eq_ok hevidence).1 s hs
      obtain ⟨refs, hrefs, hsame⟩ := bind_eq_ok.mp hu
      rw [raiseIf_eq_ok, not_not] at hsame
      exact ⟨refs, hrefs, hsame⟩
    have hroot : ∀ root ∈ ids, ∃ s ∈ signals, s.signalId = root := by
      intro root hroot
      obtain ⟨row, hrow, rfl⟩ := List.mem_map.mp (hfound (List.mem_eraseDups.mpr hroot))
      obtain ⟨s, hs, hs'⟩ := hread.of_row (hkept row hrow)
      exact ⟨s, hs, (validatedSignal_row (readSignal_valid hs')).1⟩
    have hreached : ∀ id, Reached scope tables ids id →
        (∃ row ∈ held scope tables, row.signalId = id) ∧ ¬ TransGen (Sources scope tables) id id := by
      rintro id ⟨root, hin, hpath⟩
      obtain ⟨s, hs, rfl⟩ := hroot root hin
      obtain ⟨refs, hrefs, -⟩ := hresolved s hs
      exact (hread.evidence hrefs).1 id hpath
    have hout : ∀ s ∈ out, s ∈ signals := by
      intro s hs
      obtain ⟨id, -, hnamed⟩ := (mapM_eq_ok h).2 s hs
      exact (signalNamed_eq_some (orRaise_eq_ok.mp hnamed)).1
    refine ⟨?_, fun s hs => ?_, fun id hid => ?_, fun id hid => (hreached id hid).2, fun s hs ref => ?_,
      fun s hs => ?_⟩
    · rw [mapM_map_eq h (fun id s hs => (signalNamed_eq_some (orRaise_eq_ok.mp hs)).2), List.map_id']
    · obtain ⟨row, hrow, -, hs⟩ := hread.of_signal (hout s hs)
      obtain ⟨hmem, hscope⟩ := mem_held.mp (hheld row hrow)
      exact ⟨row, hmem, hscope, readSignal_valid hs⟩
    · obtain ⟨row, hrow, hid⟩ := (hreached id hid).1
      obtain ⟨hmem, hscope⟩ := mem_held.mp hrow
      exact ⟨row, hmem, hscope, hid⟩
    · obtain ⟨refs, hrefs, hforth, hback⟩ := hresolved s (hout s hs)
      rw [← (hread.evidence hrefs).2 ref]
      exact ⟨fun href => hforth href, fun href => hback href⟩
    · obtain ⟨v, -, hv⟩ := (mapM_eq_ok hbacked).1 s (hout s hs)
      exact checkBacked_eq_ok.mp hv

section Example

def observedRow : DetectionSignalRow where
  signalId := "SIG-1"
  scope := sampleScope
  ruleId := "DR-1"
  ruleVersion := 1
  eventIds := [sampleEvent.eventId]
  sourceSignalIds := []
  detectedAt := 0
  severity := "high"
  confidence := "high"
  matchedPredicates := ["action"]
  rawEvidenceRefs := ["EV-1"]
  ruleDigest := "c1"
  status := "NEW"

/-- A signal that has its evidence from another one. -/
def derivedRow : DetectionSignalRow :=
  { observedRow with signalId := "SIG-2", eventIds := [], sourceSignalIds := ["SIG-1"] }

def evaluationOf (row : DetectionSignalRow) (evaluationId : String) : DetectionEvaluationRow where
  evaluationId
  runId := "RUN-1"
  scope := sampleScope
  ruleId := "DR-1"
  ruleVersion := 1
  inputEventIds := row.eventIds
  matchedPredicates := row.matchedPredicates
  result := "MATCH"
  signalId := some row.signalId
  engineVersion := "1"
  ruleDigest := "c1"

def derivedTables : DetectionTables where
  events := ⟨[⟨sampleEvent.eventId, sampleScope, .str "event", sampleEvent.fingerprint ruleDigests⟩],
    by decide⟩
  signals := ⟨[derivedRow, observedRow], by decide⟩
  evaluations := ⟨[evaluationOf observedRow "EVAL-1", evaluationOf derivedRow "EVAL-2"], by decide⟩
  runs := ⟨[⟨"RUN-1", sampleScope, ["DR-1"], [sampleEvent.eventId], ["EVAL-1", "EVAL-2"],
    ["SIG-1", "SIG-2"], "1", "COMPLETED"⟩], by decide⟩
  ruleVersions := ⟨[.of ruleDigests invocation], by decide⟩
  plans := ⟨[invocation.plan ruleDigests], by decide⟩

def decodeSample (_ : Value) : Option SecurityEvent := some sampleEvent

lemma derived_closed : Closure.closeOver DetectionSignalRow.signalId DetectionSignalRow.sourceSignalIds
    (held sampleScope derivedTables) [derivedRow] [derivedRow] = some [derivedRow, observedRow] := by
  rw [Closure.closeOver, dif_neg (by decide), dif_pos (by decide), Closure.closeOver, dif_pos (by decide)]
  rfl

lemma derived_loaded : ∃ s, loadSignals ruleDigests decodeSample sampleScope derivedTables ["SIG-2"] =
    .ok [s] := by
  have hrows : loadedRows sampleScope derivedTables ["SIG-2"] = .ok [derivedRow, observedRow] := by
    rw [loadedRows, if_neg (by decide)]
    exact orRaise_eq_ok.mpr derived_closed
  have hrequested : (["SIG-2"] : List String).eraseDups = ["SIG-2"] := rfl
  simp only [loadSignals, hrequested, hrows]
  exact ⟨_, rfl⟩

theorem derived_trusted : ∃ s, loadSignals ruleDigests decodeSample sampleScope derivedTables ["SIG-2"] =
    .ok [s] ∧ Trusted ruleDigests decodeSample sampleScope derivedTables ["SIG-2"] [s] := by
  obtain ⟨s, hs⟩ := derived_loaded
  have hids : (["SIG-2"] : List String) ≠ [] := by decide
  rcases loadSignals_trusted ruleDigests decodeSample sampleScope derivedTables hids with
    ⟨e, he⟩ | ⟨signals, hsignals, htrusted⟩
  · rw [hs] at he
    cases he
  · obtain rfl := Except.ok.inj (hs.symm.trans hsignals)
    exact ⟨s, hs, htrusted⟩

end Example

end SecScanMonitor.Persistence
