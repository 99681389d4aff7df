import SecScanMonitor.DetectionResponse.Engine

/-! What an EVENT_MATCH rule emits, as a function of the rule version and of the events that were read.
Whatever an engine holds has this form, and two such records of one identity differ only in their
instants. -/

namespace SecScanMonitor.DetectionResponse

open Foundations Domain ContinuousSecurity DetectionEngine

section Forms

variable (codec : Codec) (render : Value → String) (s : Scope)

/-- The first 32 characters of a digest, which is what an identifier keeps of it. -/
def shortDigest (d : Value) : String := String.ofList ((codec.contentDigest d).toList.take 32)

def sourcesOf (v : DetectionRuleVersion) (events : List SecurityEvent) : List SecurityEvent :=
  events.filter fun e => decide (e.sourceFamily ∈ v.supportedSourceFamilies)

def verdict (v : DetectionRuleVersion) (e : SecurityEvent) : Bool × List String :=
  match matchesEvent render e v.predicates with
  | .ok r => r
  | .error _ => (false, [])

def resultOf (v : DetectionRuleVersion) (e : SecurityEvent) : EvaluationResult :=
  EvaluationResult.of (verdict render v e).1

def runIdentity (v : DetectionRuleVersion) (sources : List SecurityEvent) : List Value :=
  identity s v (sources.map (·.eventId)) v.contentDigest

def runIdOf (v : DetectionRuleVersion) (sources : List SecurityEvent) : String :=
  stableId codec "RUN-" (runIdentity s v sources)

def evaluationKeyOf (v : DetectionRuleVersion) (sources : List SecurityEvent) (e : SecurityEvent) :
    Value :=
  evaluationKey s v (runIdOf codec s v sources) [e.eventId] (resultOf render v e) v.contentDigest

def evaluationIdOf (v : DetectionRuleVersion) (sources : List SecurityEvent) (e : SecurityEvent) :
    String :=
  stableId codec "EVAL-" [evaluationKeyOf codec render s v sources e]

def signalIdOf (v : DetectionRuleVersion) (e : SecurityEvent) : String :=
  stableId codec "SIG-" (identity s v [e.eventId] v.contentDigest)

def evaluationOf (v : DetectionRuleVersion) (sources : List SecurityEvent) (e : SecurityEvent)
    (at_ : Datetime) : DetectionEvaluation where
  evaluationId := evaluationIdOf codec render s v sources e
  runId := runIdOf codec s v sources
  scope := s
  ruleId := v.ruleId
  ruleVersion := v.version
  inputEventIds := [e.eventId]
  evaluatedAt := at_
  matchedPredicates := (verdict render v e).2
  result := resultOf render v e
  signalId := signalIdFor codec s v [e.eventId] v.contentDigest (verdict render v e).1
  engineVersion := DetectionResponse.engineVersion
  ruleDigest := v.contentDigest
  idempotencyKey := codec.contentDigest (evaluationKeyOf codec render s v sources e)

def signalOf (v : DetectionRuleVersion) (e : SecurityEvent) (at_ : Datetime) : DetectionSignal where
  signalId := signalIdOf codec s v e
  scope := s
  ruleId := v.ruleId
  ruleVersion := v.version
  eventIds := [e.eventId]
  sourceSignalIds := []
  detectedAt := at_
  severity := v.severity
  confidence := v.confidence
  matchedPredicates := (verdict render v e).2
  rawEvidenceRefs := [e.rawEvidenceRef]
  ruleDigest := v.contentDigest
  status := "NEW"

def emittedOf (v : DetectionRuleVersion) (sources events : List SecurityEvent) : Emitted :=
  (events.map (evaluationIdOf codec render s v sources),
    (events.filter fun e => (verdict render v e).1).map (signalIdOf codec s v))

def runOf (v : DetectionRuleVersion) (sources : List SecurityEvent) (started completed : Datetime) :
    DetectionRun where
  runId := runIdOf codec s v sources
  scope := s
  ruleIds := [v.ruleId]
  inputEventIds := sources.map (·.eventId)
  evaluationIds := (emittedOf codec render s v sources sources).1.eraseDups
  signalIds := (emittedOf codec render s v sources sources).2.eraseDups
  engineVersion := DetectionResponse.engineVersion
  startedAt := started
  completedAt := completed
  status := "COMPLETED"

/-- The event lists that engines may have read. -/
abbrev History := List SecurityEvent → Prop

variable (rules : List DetectionRuleVersion) (history : History)

/-- A rule version and a list of events it was run on. -/
structure Input (v : DetectionRuleVersion) (sources : List SecurityEvent) : Prop where
  rule : v ∈ rules
  read : ∃ events, history events ∧ sources = sourcesOf v events

def IsEvaluation (x : DetectionEvaluation) : Prop :=
  ∃ v sources, Input rules history v sources ∧ ∃ e ∈ sources, ∃ at_,
    x = evaluationOf codec render s v sources e at_

def IsSignal (x : DetectionSignal) : Prop :=
  ∃ v sources, Input rules history v sources ∧ ∃ e ∈ sources, (verdict render v e).1 = true ∧ ∃ at_,
    x = signalOf codec render s v e at_

def IsRun (x : DetectionRun) : Prop :=
  ∃ v sources, Input rules history v sources ∧ ∃ started completed,
    x = runOf codec render s v sources started completed

/-- The documents whose digests name what is emitted. -/
inductive Digested : Value → Prop
  | run {v : DetectionRuleVersion} {sources : List SecurityEvent} :
      Input rules history v sources → Digested (.arr (runIdentity s v sources))
  | evaluation {v : DetectionRuleVersion} {sources : List SecurityEvent} {e : SecurityEvent} :
      Input rules history v sources → e ∈ sources →
      Digested (.arr [evaluationKeyOf codec render s v sources e])
  | idempotency {v : DetectionRuleVersion} {sources : List SecurityEvent} {e : SecurityEvent} :
      Input rules history v sources → e ∈ sources →
      Digested (evaluationKeyOf codec render s v sources e)
  | signal {v : DetectionRuleVersion} {sources : List SecurityEvent} {e : SecurityEvent} :
      Input rules history v sources → e ∈ sources →
      Digested (.arr (identity s v [e.eventId] v.contentDigest))

/-- The digest does not collide on those documents. -/
def CollisionFree : Prop :=
  ∀ d d', Digested codec render s rules history d → Digested codec render s rules history d' →
    shortDigest codec d = shortDigest codec d' → d = d'

/-- Rule versions and events are determined by their identities. -/
structure Named : Prop where
  rule : ∀ v ∈ rules, ∀ w ∈ rules, v.ruleId = w.ruleId → v.version = w.version → v = w
  event : ∀ a b, history a → history b → ∀ e ∈ a, ∀ e' ∈ b, e.eventId = e'.eventId → e = e'

end Forms

section Monotone

variable {codec : Codec} {render : Value → String} {s : Scope}
  {rules rules' : List DetectionRuleVersion} {history history' : History}
  {v : DetectionRuleVersion} {sources : List SecurityEvent}

lemma Input.mono (h : Input rules history v sources) (hrules : ∀ w ∈ rules, w ∈ rules')
    (hle : ∀ a, history a → history' a) : Input rules' history' v sources := by
  obtain ⟨events, hevents, heq⟩ := h.read
  exact ⟨hrules v h.rule, events, hle events hevents, heq⟩

lemma IsEvaluation.mono {x : DetectionEvaluation} (h : IsEvaluation codec render s rules history x)
    (hle : ∀ a, history a → history' a) : IsEvaluation codec render s rules history' x := by
  obtain ⟨v, sources, hinput, h⟩ := h
  exact ⟨v, sources, hinput.mono (fun _ hw => hw) hle, h⟩

lemma IsSignal.mono {x : DetectionSignal} (h : IsSignal codec render s rules history x)
    (hle : ∀ a, history a → history' a) : IsSignal codec render s rules history' x := by
  obtain ⟨v, sources, hinput, h⟩ := h
  exact ⟨v, sources, hinput.mono (fun _ hw => hw) hle, h⟩

lemma IsRun.mono {x : DetectionRun} (h : IsRun codec render s rules history x)
    (hle : ∀ a, history a → history' a) : IsRun codec render s rules history' x := by
  obtain ⟨v, sources, hinput, h⟩ := h
  exact ⟨v, sources, hinput.mono (fun _ hw => hw) hle, h⟩

lemma CollisionFree.mono (h : CollisionFree codec render s rules' history')
    (hrules : ∀ w ∈ rules, w ∈ rules') (hle : ∀ a, history a → history' a) :
    CollisionFree codec render s rules history := by
  have hdigested : ∀ d, Digested codec render s rules history d →
      Digested codec render s rules' history' d := by
    intro d hd
    cases hd with
    | run hinput => exact .run (hinput.mono hrules hle)
    | evaluation hinput he => exact .evaluation (hinput.mono hrules hle) he
    | idempotency hinput he => exact .idempotency (hinput.mono hrules hle) he
    | signal hinput he => exact .signal (hinput.mono hrules hle) he
  intro d d' hd hd'
  exact h d d' (hdigested d hd) (hdigested d' hd')

end Monotone

section Identity

variable {codec : Codec} {render : Value → String} {s : Scope} {rules : List DetectionRuleVersion}
  {history : History}

lemma shortDigest_of_stableId {lead : String} {parts parts' : List Value}
    (h : stableId codec lead parts = stableId codec lead parts') :
    shortDigest codec (.arr parts) = shortDigest codec (.arr parts') := by
  have hl := congrArg String.toList h
  simp only [stableId, String.toList_append, List.append_cancel_left_eq] at hl
  exact String.toList_injective hl

lemma identity_inj {v w : DetectionRuleVersion} {ids ids' : List String} {d d' : String}
    (h : identity s v ids d = identity s w ids' d') :
    v.ruleId = w.ruleId ∧ v.version = w.version ∧ ids = ids' := by
  simp only [identity, List.cons.injEq, Value.str.injEq, Value.int.injEq, Value.arr.injEq] at h
  obtain ⟨-, hrule, hversion, hids, -⟩ := h
  exact ⟨hrule, hversion, List.map_injective_iff.mpr (fun _ _ => Value.str.inj) hids⟩

lemma evaluationKey_inj {v w : DetectionRuleVersion} {r r' : String} {ids ids' : List String}
    {result result' : EvaluationResult} {d d' : String}
    (h : evaluationKey s v r ids result d = evaluationKey s w r' ids' result' d') :
    v.ruleId = w.ruleId ∧ v.version = w.version ∧ r = r' ∧ ids = ids' := by
  simp only [evaluationKey, Value.arr.injEq, List.cons.injEq, Value.str.injEq, Value.int.injEq] at h
  obtain ⟨-, hrule, hversion, hrun, hids, -⟩ := h
  exact ⟨hrule, hversion, hrun, List.map_injective_iff.mpr (fun _ _ => Value.str.inj) hids⟩

lemma eq_of_map_eq {α β : Type} {f : α → β} {l m : List α} (h : l.map f = m.map f)
    (hinj : ∀ a ∈ l, ∀ b ∈ m, f a = f b → a = b) : l = m := by
  induction l generalizing m with
  | nil => exact (List.map_eq_nil_iff.mp h.symm).symm
  | cons a l ih =>
    cases m with
    | nil => cases h
    | cons b m =>
      obtain ⟨hab, hlm⟩ := List.cons.inj h
      have hhead := hinj a List.mem_cons_self b List.mem_cons_self hab
      have htail := ih hlm fun x hx y hy =>
        hinj x (List.mem_cons_of_mem a hx) y (List.mem_cons_of_mem b hy)
      rw [hhead, htail]

variable (hfree : CollisionFree codec render s rules history) (hnamed : Named rules history)

include hnamed

lemma Named.sources {v : DetectionRuleVersion} {a b : List SecurityEvent}
    (ha : Input rules history v a) (hb : Input rules history v b) {e e' : SecurityEvent}
    (he : e ∈ a) (he' : e' ∈ b) (hid : e.eventId = e'.eventId) : e = e' := by
  obtain ⟨events, hevents, rfl⟩ := ha.read
  obtain ⟨events', hevents', rfl⟩ := hb.read
  exact hnamed.event events events' hevents hevents' e (List.mem_filter.mp he).1 e'
    (List.mem_filter.mp he').1 hid

include hfree

lemma run_identity {v w : DetectionRuleVersion} {a b : List SecurityEvent}
    (ha : Input rules history v a) (hb : Input rules history w b)
    (h : runIdOf codec s v a = runIdOf codec s w b) : v = w ∧ a = b := by
  have hdoc := hfree _ _ (.run ha) (.run hb) (shortDigest_of_stableId h)
  obtain ⟨hrule, hversion, hids⟩ := identity_inj (Value.arr.inj hdoc)
  obtain rfl := hnamed.rule v ha.rule w hb.rule hrule hversion
  exact ⟨rfl, eq_of_map_eq hids fun e he e' he' => hnamed.sources ha hb he he'⟩

lemma key_identity {v w : DetectionRuleVersion} {a b : List SecurityEvent} {e e' : SecurityEvent}
    (ha : Input rules history v a) (hb : Input rules history w b) (he : e ∈ a) (he' : e' ∈ b)
    (h : evaluationKeyOf codec render s v a e = evaluationKeyOf codec render s w b e') :
    v = w ∧ a = b ∧ e = e' := by
  obtain ⟨-, -, hrun, hids⟩ := evaluationKey_inj h
  obtain ⟨rfl, rfl⟩ := run_identity hfree hnamed ha hb hrun
  exact ⟨rfl, rfl, hnamed.sources ha hb he he' (List.cons.inj hids).1⟩

lemma evaluation_identity {v w : DetectionRuleVersion} {a b : List SecurityEvent}
    {e e' : SecurityEvent} (ha : Input rules history v a) (hb : Input rules history w b)
    (he : e ∈ a) (he' : e' ∈ b)
    (h : evaluationIdOf codec render s v a e = evaluationIdOf codec render s w b e') :
    v = w ∧ a = b ∧ e = e' := by
  have hdoc := hfree _ _ (.evaluation ha he) (.evaluation hb he') (shortDigest_of_stableId h)
  exact key_identity hfree hnamed ha hb he he' (List.cons.inj (Value.arr.inj hdoc)).1

lemma signal_identity {v w : DetectionRuleVersion} {a b : List SecurityEvent} {e e' : SecurityEvent}
    (ha : Input rules history v a) (hb : Input rules history w b) (he : e ∈ a) (he' : e' ∈ b)
    (h : signalIdOf codec s v e = signalIdOf codec s w e') : v = w ∧ e = e' := by
  have hdoc := hfree _ _ (.signal ha he) (.signal hb he') (shortDigest_of_stableId h)
  obtain ⟨hrule, hversion, hids⟩ := identity_inj (Value.arr.inj hdoc)
  obtain rfl := hnamed.rule v ha.rule w hb.rule hrule hversion
  exact ⟨rfl, hnamed.sources ha hb he he' (List.cons.inj hids).1⟩

lemma IsEvaluation.unique {x y : DetectionEvaluation} (hx : IsEvaluation codec render s rules history x)
    (hy : IsEvaluation codec render s rules history y) (h : x.evaluationId = y.evaluationId) :
    x = { y with evaluatedAt := x.evaluatedAt } := by
  obtain ⟨v, a, ha, e, he, at_, rfl⟩ := hx
  obtain ⟨w, b, hb, e', he', at', rfl⟩ := hy
  obtain ⟨rfl, rfl, rfl⟩ := evaluation_identity hfree hnamed ha hb he he' h
  rfl

lemma IsEvaluation.idempotency {x y : DetectionEvaluation}
    (hx : IsEvaluation codec render s rules history x)
    (hy : IsEvaluation codec render s rules history y) (h : x.idempotencyKey = y.idempotencyKey) :
    x.evaluationId = y.evaluationId := by
  obtain ⟨v, a, ha, e, he, at_, rfl⟩ := hx
  obtain ⟨w, b, hb, e', he', at', rfl⟩ := hy
  have hshort : shortDigest codec (evaluationKeyOf codec render s v a e) =
      shortDigest codec (evaluationKeyOf codec render s w b e') := by
    unfold shortDigest
    rw [show codec.contentDigest _ = codec.contentDigest _ from h]
  have hdoc := hfree _ _ (.idempotency ha he) (.idempotency hb he') hshort
  obtain ⟨rfl, rfl, rfl⟩ := key_identity hfree hnamed ha hb he he' hdoc
  rfl

lemma IsSignal.unique {x y : DetectionSignal} (hx : IsSignal codec render s rules history x)
    (hy : IsSignal codec render s rules history y) (h : x.signalId = y.signalId) :
    x = { y with detectedAt := x.detectedAt } := by
  obtain ⟨v, a, ha, e, he, -, at_, rfl⟩ := hx
  obtain ⟨w, b, hb, e', he', -, at', rfl⟩ := hy
  obtain ⟨rfl, rfl⟩ := signal_identity hfree hnamed ha hb he he' h
  rfl

lemma IsRun.unique {x y : DetectionRun} (hx : IsRun codec render s rules history x)
    (hy : IsRun codec render s rules history y) (h : x.runId = y.runId) :
    x = { y with startedAt := x.startedAt, completedAt := x.completedAt } := by
  obtain ⟨v, a, ha, started, completed, rfl⟩ := hx
  obtain ⟨w, b, hb, started', completed', rfl⟩ := hy
  obtain ⟨rfl, rfl⟩ := run_identity hfree hnamed ha hb h
  rfl

end Identity

end SecScanMonitor.DetectionResponse
