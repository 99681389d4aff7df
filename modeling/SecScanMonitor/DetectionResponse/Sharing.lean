import SecScanMonitor.Foundations.Parts
import SecScanMonitor.ContinuousSecurity.EventLaws
import SecScanMonitor.DetectionResponse.Growth

/-! One engine serves several scopes. What it stores for one of them depends on the events of that scope
and on the rules alone, up to the instants at which it was stored. -/

namespace SecScanMonitor.DetectionResponse

open Foundations Domain ContinuousSecurity DetectionEngine

def DetectionEvaluation.undated (x : DetectionEvaluation) : DetectionEvaluation :=
  { x with evaluatedAt := 0 }

def DetectionSignal.undated (x : DetectionSignal) : DetectionSignal := { x with detectedAt := 0 }

def DetectionRun.undated (x : DetectionRun) : DetectionRun :=
  { x with startedAt := 0, completedAt := 0 }

/-- Two engines with the same rules and, for a scope, the same records. -/
structure Alike (s : Scope) (x x' : DetectionEngine) : Prop where
  scope : x.scope = x'.scope
  view : x.events.scope = x'.events.scope
  version : x.engineVersion = x'.engineVersion
  rules : x.rules = x'.rules
  plans : x.plans = x'.plans
  ruleBindings : x.ruleBindings = x'.ruleBindings
  planBindings : x.planBindings = x'.planBindings
  evaluations : x.evaluations.part (fun e => e.scope = s) DetectionEvaluation.undated =
    x'.evaluations.part (fun e => e.scope = s) DetectionEvaluation.undated
  signals : x.signals.part (fun e => e.scope = s) DetectionSignal.undated =
    x'.signals.part (fun e => e.scope = s) DetectionSignal.undated
  runs : x.runs.part (fun e => e.scope = s) DetectionRun.undated =
    x'.runs.part (fun e => e.scope = s) DetectionRun.undated

namespace Alike

variable {s : Scope} {x x' x'' : DetectionEngine}

lemma refl (s : Scope) (x : DetectionEngine) : Alike s x x :=
  ⟨rfl, rfl, rfl, rfl, rfl, rfl, rfl, rfl, rfl, rfl⟩

lemma symm (h : Alike s x x') : Alike s x' x :=
  ⟨h.scope.symm, h.view.symm, h.version.symm, h.rules.symm, h.plans.symm, h.ruleBindings.symm,
    h.planBindings.symm, h.evaluations.symm, h.signals.symm, h.runs.symm⟩

lemma trans (h : Alike s x x') (h' : Alike s x' x'') : Alike s x x'' :=
  ⟨h.scope.trans h'.scope, h.view.trans h'.view, h.version.trans h'.version,
    h.rules.trans h'.rules, h.plans.trans h'.plans, h.ruleBindings.trans h'.ruleBindings,
    h.planBindings.trans h'.planBindings, h.evaluations.trans h'.evaluations,
    h.signals.trans h'.signals, h.runs.trans h'.runs⟩

end Alike

section Derived

variable (codec : Codec)

/-- What the id of the evaluation of an item is derived from. -/
def DetectionEngine.Reading.key (r : Reading) (item : Item) : Value :=
  evaluationKey r.scope r.rule (r.runId codec) (orderedIds item.events) (.of item.matched)
    r.plan.contentDigest

def DetectionEngine.Reading.signalIdentity (r : Reading) (item : Item) : List Value :=
  DetectionEngine.identity r.scope r.rule (orderedIds item.events) r.plan.contentDigest

/-- The records stand under ids that are derived from documents of their scopes. -/
structure Derived (documents : Scope → Value → Prop) (x : DetectionEngine) : Prop where
  evaluations : ∀ id e, x.evaluations.find? id = some e →
    e.evaluationId = id ∧ ∃ d, documents e.scope (.arr d) ∧ id = stableId codec "EVAL-" d
  signals : ∀ id e, x.signals.find? id = some e →
    e.signalId = id ∧ ∃ d, documents e.scope (.arr d) ∧ id = stableId codec "SIG-" d
  runs : ∀ id e, x.runs.find? id = some e →
    e.runId = id ∧ ∃ d, documents e.scope (.arr d) ∧ id = stableId codec "RUN-" d

/-- The digest tells the scopes of documents. -/
def Separate (documents : Scope → Value → Prop) : Prop :=
  ∀ t t' d d', documents t d → documents t' d' → shortDigest codec d = shortDigest codec d' → t = t'

variable {codec} {documents : Scope → Value → Prop} {x : DetectionEngine} {s : Scope} {d : List Value}

lemma Derived.own (hsep : Separate codec documents) (hd : documents s (.arr d)) {lead : String}
    {t : Scope} (hfound : ∃ d', documents t (.arr d') ∧ stableId codec lead d = stableId codec lead d') :
    t = s := by
  obtain ⟨d', hd', hid⟩ := hfound
  exact hsep t s _ _ hd' hd (shortDigest_of_stableId hid).symm

lemma Derived.evaluation_part (hx : Derived codec documents x) (hsep : Separate codec documents)
    (hd : documents s (.arr d)) :
    x.evaluations.part (fun e => e.scope = s) DetectionEvaluation.undated (stableId codec "EVAL-" d) =
      (x.evaluations.find? (stableId codec "EVAL-" d)).map DetectionEvaluation.undated := by
  apply Dict.part_of_own
  intro e he
  exact decide_eq_true (Derived.own hsep hd (hx.evaluations _ e he).2)

lemma Derived.signal_part (hx : Derived codec documents x) (hsep : Separate codec documents)
    (hd : documents s (.arr d)) :
    x.signals.part (fun e => e.scope = s) DetectionSignal.undated (stableId codec "SIG-" d) =
      (x.signals.find? (stableId codec "SIG-" d)).map DetectionSignal.undated := by
  apply Dict.part_of_own
  intro e he
  exact decide_eq_true (Derived.own hsep hd (hx.signals _ e he).2)

lemma Derived.run_part (hx : Derived codec documents x) (hsep : Separate codec documents)
    (hd : documents s (.arr d)) :
    x.runs.part (fun e => e.scope = s) DetectionRun.undated (stableId codec "RUN-" d) =
      (x.runs.find? (stableId codec "RUN-" d)).map DetectionRun.undated := by
  apply Dict.part_of_own
  intro e he
  exact decide_eq_true (Derived.own hsep hd (hx.runs _ e he).2)

end Derived

section Evaluate

variable {codec : Codec} {documents documents' : Scope → Value → Prop} {x x' y : DetectionEngine}
  {r : Reading} {item : Item}

/-- The documents of an evaluation are documents of its scope. -/
structure Documented (codec : Codec) (documents : Scope → Value → Prop) (r : Reading) (item : Item) :
    Prop where
  evaluation : documents r.scope (.arr [r.key codec item])
  signal : documents r.scope (.arr (r.signalIdentity item))

abbrev evaluateItem (codec : Codec) (r : Reading) (item : Item) (x : DetectionEngine) :=
  evaluate codec r.rule r.plan r.scope item.events item.predicates item.matched (r.runId codec) x

/-- An evaluation adds records of its scope only, under ids that are derived. -/
lemma evaluate_derived {ev : DetectionEvaluation} {sg : Option DetectionSignal}
    (hx : Derived codec documents x) (hitem : Documented codec documents r item)
    (h : evaluateItem codec r item x = .ok ((ev, sg), y)) :
    Derived codec documents y ∧ ∀ s, s ≠ r.scope → Alike s x y := by
  rcases evaluate_cases h with ⟨-, -, rfl⟩ | ⟨hfresh, hev, hcases⟩
  · exact ⟨hx, fun s _ => Alike.refl s _⟩
  have hevaluations : ∀ id e, (x.evaluations.set (evaluationIdFor codec r.rule r.plan r.scope
      item.events item.matched (r.runId codec)) (newEvaluation codec r.rule r.plan r.scope
      item.events item.predicates item.matched (r.runId codec) x)).find? id = some e →
      e.evaluationId = id ∧ ∃ d, documents e.scope (.arr d) ∧ id = stableId codec "EVAL-" d := by
    intro id e he
    rcases Dict.find?_set_eq_some he with ⟨rfl, rfl⟩ | hold
    · exact ⟨rfl, _, hitem.evaluation, rfl⟩
    · exact hx.evaluations id e hold
  have hpart : ∀ s, s ≠ r.scope → x.evaluations.part (fun e => e.scope = s)
      DetectionEvaluation.undated = (x.evaluations.set (evaluationIdFor codec r.rule r.plan r.scope
      item.events item.matched (r.runId codec)) (newEvaluation codec r.rule r.plan r.scope
      item.events item.predicates item.matched (r.runId codec) x)).part (fun e => e.scope = s)
      DetectionEvaluation.undated := by
    intro s hs
    symm
    apply Dict.part_set_other _ hfresh
    exact decide_eq_false (Ne.symm hs)
  rcases hcases with ⟨-, -, rfl⟩ | ⟨id, hid, ⟨sg', -, -, -, rfl⟩ | ⟨hnone, -, rfl⟩⟩
  · exact ⟨⟨hevaluations, hx.signals, hx.runs⟩, fun s hs =>
      ⟨rfl, rfl, rfl, rfl, rfl, rfl, rfl, hpart s hs, rfl, rfl⟩⟩
  · exact ⟨⟨hevaluations, hx.signals, hx.runs⟩, fun s hs =>
      ⟨rfl, rfl, rfl, rfl, rfl, rfl, rfl, hpart s hs, rfl, rfl⟩⟩
  · refine ⟨⟨hevaluations, ?_, hx.runs⟩, fun s hs =>
      ⟨rfl, rfl, rfl, rfl, rfl, rfl, rfl, hpart s hs, ?_, rfl⟩⟩
    · intro k e he
      rcases Dict.find?_set_eq_some he with ⟨rfl, rfl⟩ | hold
      · refine ⟨rfl, r.signalIdentity item, hitem.signal, ?_⟩
        rw [hev] at hid
        simp only [newEvaluation, signalIdFor] at hid
        split at hid
        · exact (Option.some.inj hid).symm
        · cases hid
      · exact hx.signals k e hold
    · symm
      apply Dict.part_set_other _ hnone
      exact decide_eq_false (Ne.symm hs)

lemma newEvaluation_undated (codec : Codec) (h : x.engineVersion = x'.engineVersion) (r : Reading) (item : Item) :
    (newEvaluation codec r.rule r.plan r.scope item.events item.predicates item.matched
      (r.runId codec) x).undated =
      (newEvaluation codec r.rule r.plan r.scope item.events item.predicates item.matched
        (r.runId codec) x').undated := by
  simp only [newEvaluation, DetectionEvaluation.undated, h]

lemma differs_undated {sg sg' : DetectionSignal} (h : sg.undated = sg'.undated) (s : Scope)
    (rule : DetectionRuleVersion) (plan : DetectionPlan) (eventIds predicates evidence : List String) :
    differs sg s rule plan eventIds predicates evidence =
      differs sg' s rule plan eventIds predicates evidence := by
  change differs sg.undated s rule plan eventIds predicates evidence =
    differs sg'.undated s rule plan eventIds predicates evidence
  rw [h]

/-- In two engines that are alike for the scope an evaluation does the same. -/
lemma evaluate_alike (hx : Derived codec documents x) (hx' : Derived codec documents' x')
    (hsep : Separate codec documents) (hsep' : Separate codec documents')
    (hitem : Documented codec documents r item) (hitem' : Documented codec documents' r item)
    (h : Alike r.scope x x') :
    (∃ e, evaluateItem codec r item x = .error e ∧ evaluateItem codec r item x' = .error e) ∨
      ∃ ev sg y ev' sg' y', evaluateItem codec r item x = .ok ((ev, sg), y) ∧
        evaluateItem codec r item x' = .ok ((ev', sg'), y') ∧
        ev.undated = ev'.undated ∧
        sg.map DetectionSignal.undated = sg'.map DetectionSignal.undated ∧ Alike r.scope y y' := by
  have hevaluation : (x.evaluations.find? (evaluationIdFor codec r.rule r.plan r.scope item.events
        item.matched (r.runId codec))).map DetectionEvaluation.undated =
      (x'.evaluations.find? (evaluationIdFor codec r.rule r.plan r.scope item.events
        item.matched (r.runId codec))).map DetectionEvaluation.undated := by
    have hpart := congrFun h.evaluations (stableId codec "EVAL-" [r.key codec item])
    rw [hx.evaluation_part hsep hitem.evaluation, hx'.evaluation_part hsep' hitem'.evaluation] at hpart
    exact hpart
  have hsignal : ((signalIdFor codec r.scope r.rule (orderedIds item.events) r.plan.contentDigest
        item.matched).bind x.signals.find?).map DetectionSignal.undated =
      ((signalIdFor codec r.scope r.rule (orderedIds item.events) r.plan.contentDigest
        item.matched).bind x'.signals.find?).map DetectionSignal.undated := by
    rw [signalIdFor]
    cases item.matched with
    | false => rfl
    | true =>
      have hpart := congrFun h.signals (stableId codec "SIG-" (r.signalIdentity item))
      rw [hx.signal_part hsep hitem.signal, hx'.signal_part hsep' hitem'.signal] at hpart
      exact hpart
  cases hfound : x.evaluations.find? (evaluationIdFor codec r.rule r.plan r.scope item.events
      item.matched (r.runId codec)) with
  | some ev =>
    rw [hfound] at hevaluation
    obtain ⟨ev', hfound', hev⟩ := Option.map_eq_some_iff.mp hevaluation.symm
    have hresult : ev.result = ev'.result := by
      change ev.undated.result = ev'.undated.result
      rw [hev]
    have hmissing : ((signalIdFor codec r.scope r.rule (orderedIds item.events) r.plan.contentDigest
        item.matched).bind x.signals.find? = none) ↔ (signalIdFor codec r.scope r.rule
        (orderedIds item.events) r.plan.contentDigest item.matched).bind x'.signals.find? = none := by
      rw [← Option.map_eq_none_iff (f := DetectionSignal.undated), hsignal, Option.map_eq_none_iff]
    rw [evaluateItem, evaluateItem, evaluate_found hfound, evaluate_found hfound', hresult]
    simp only [hmissing]
    split
    · exact Or.inl ⟨_, rfl, rfl⟩
    · exact Or.inr ⟨ev, _, x, ev', _, x', rfl, rfl, hev.symm, hsignal, h⟩
  | none =>
    rw [hfound] at hevaluation
    have hfound' := Option.map_eq_none_iff.mp hevaluation.symm
    have hnew := newEvaluation_undated codec h.version r item
    have hadded : Alike r.scope
        (addEvaluation codec r.rule r.plan r.scope item.events item.predicates item.matched
          (r.runId codec) x)
        (addEvaluation codec r.rule r.plan r.scope item.events item.predicates item.matched
          (r.runId codec) x') := by
      refine ⟨h.scope, h.view, h.version, h.rules, h.plans, h.ruleBindings, h.planBindings, ?_,
        h.signals, h.runs⟩
      apply Dict.part_set_congr h.evaluations _ _ hnew
      · exact decide_eq_true rfl
      · exact decide_eq_true rfl
    rw [evaluateItem, evaluateItem, evaluate_fresh hfound, evaluate_fresh hfound']
    cases hid : signalIdFor codec r.scope r.rule (orderedIds item.events) r.plan.contentDigest
        item.matched with
    | none => exact Or.inr ⟨_, none, _, _, none, _, rfl, rfl, hnew, rfl, hadded⟩
    | some id =>
      rw [hid, Option.bind_some, Option.bind_some] at hsignal
      simp only [Option.bind_some]
      rcases Option.eq_none_or_eq_some (x.signals.find? id) with hold | ⟨sg, hold⟩
      · rw [hold] at hsignal
        have hold' := Option.map_eq_none_iff.mp hsignal.symm
        simp only [hold, hold']
        refine Or.inr ⟨_, _, _, _, _, _, rfl, rfl, hnew, rfl, ?_⟩
        refine ⟨h.scope, h.view, h.version, h.rules, h.plans, h.ruleBindings, h.planBindings,
          hadded.evaluations, ?_, h.runs⟩
        apply Dict.part_set_congr h.signals
        · exact decide_eq_true rfl
        · exact decide_eq_true rfl
        · rfl
      · rw [hold] at hsignal
        obtain ⟨sg', hold', hsg⟩ := Option.map_eq_some_iff.mp hsignal.symm
        simp only [hold, hold', Option.any_some, differs_undated hsg.symm]
        by_cases hreused : differs sg' r.scope r.rule r.plan (orderedIds item.events)
            item.predicates (evidenceOf item.events) = true
        · simp only [raiseIf, if_pos hreused]
          exact Or.inl ⟨_, rfl, rfl⟩
        · simp only [raiseIf, if_neg hreused]
          refine Or.inr ⟨_, _, _, _, _, _, rfl, rfl, hnew, congrArg some hsg.symm, ?_⟩
          exact ⟨h.scope, h.view, h.version, h.rules, h.plans, h.ruleBindings, h.planBindings,
            hadded.evaluations, h.signals, h.runs⟩

abbrev evaluateReading (codec : Codec) (r : Reading) (its : List Item) :=
  evaluateItems codec r.rule r.plan r.scope (r.runId codec) its

lemma evaluateReading_derived {its : List Item} (hx : Derived codec documents x)
    (hits : ∀ item ∈ its, Documented codec documents r item) :
    Derived codec documents (evaluateReading codec r its x).2 ∧
      ∀ s, s ≠ r.scope → Alike s x (evaluateReading codec r its x).2 := by
  induction its generalizing x with
  | nil => exact ⟨hx, fun s _ => Alike.refl s x⟩
  | cons item its ih =>
    rw [evaluateReading, evaluateItems]
    cases hevaluate : evaluate codec r.rule r.plan r.scope item.events item.predicates item.matched
        (r.runId codec) x with
    | error e => exact ⟨hx, fun s _ => Alike.refl s x⟩
    | ok answer =>
      obtain ⟨⟨ev, sg⟩, y⟩ := answer
      obtain ⟨hy, halike⟩ := evaluate_derived hx (hits item List.mem_cons_self) hevaluate
      obtain ⟨hz, hlater⟩ := ih hy fun i hi => hits i (List.mem_cons_of_mem item hi)
      have hboth := fun s hs => (halike s hs).trans (hlater s hs)
      simp only
      cases hrest : evaluateItems codec r.rule r.plan r.scope (r.runId codec) its y with
      | mk emitted z =>
        rw [evaluateReading, hrest] at hz hboth
        cases emitted with
        | error e => exact ⟨hz, hboth⟩
        | ok later => exact ⟨hz, hboth⟩

lemma evaluateReading_alike {its : List Item} (hx : Derived codec documents x)
    (hx' : Derived codec documents' x') (hsep : Separate codec documents)
    (hsep' : Separate codec documents') (hits : ∀ item ∈ its, Documented codec documents r item)
    (hits' : ∀ item ∈ its, Documented codec documents' r item) (h : Alike r.scope x x') :
    (evaluateReading codec r its x).1 = (evaluateReading codec r its x').1 ∧
      Alike r.scope (evaluateReading codec r its x).2 (evaluateReading codec r its x').2 := by
  induction its generalizing x x' with
  | nil => exact ⟨rfl, h⟩
  | cons item its ih =>
    have hitem := hits item List.mem_cons_self
    have hitem' := hits' item List.mem_cons_self
    rcases evaluate_alike hx hx' hsep hsep' hitem hitem' h with
      ⟨e, he, he'⟩ | ⟨ev, sg, y, ev', sg', y', hy, hy', hev, hsg, halike⟩
    · rw [evaluateItem] at he he'
      rw [evaluateReading, evaluateItems, evaluateItems, he, he']
      exact ⟨rfl, h⟩
    · have hd := (evaluate_derived hx hitem hy).1
      have hd' := (evaluate_derived hx' hitem' hy').1
      obtain ⟨hanswer, hafter⟩ := ih hd hd' (fun i hi => hits i (List.mem_cons_of_mem item hi))
        (fun i hi => hits' i (List.mem_cons_of_mem item hi)) halike
      have hid : ev.evaluationId = ev'.evaluationId := by
        change ev.undated.evaluationId = ev'.undated.evaluationId
        rw [hev]
      have hsignalId : sg.map (·.signalId) = sg'.map (·.signalId) := by
        have hids := congrArg (Option.map DetectionSignal.signalId) hsg
        rw [Option.map_map, Option.map_map] at hids
        exact hids
      rw [evaluateItem] at hy hy'
      rw [evaluateReading] at hanswer hafter
      rw [evaluateReading, evaluateItems, evaluateItems, hy, hy']
      simp only
      cases hrest : evaluateItems codec r.rule r.plan r.scope (r.runId codec) its y with
      | mk emitted z =>
        cases hrest' : evaluateItems codec r.rule r.plan r.scope (r.runId codec) its y' with
        | mk emitted' z' =>
          rw [hrest, hrest'] at hanswer hafter
          simp only at hanswer hafter
          subst hanswer
          cases emitted with
          | error e => exact ⟨rfl, hafter⟩
          | ok later =>
            refine ⟨?_, hafter⟩
            simp only [Emitted.add, hid, hsignalId]

/-- What is documented of a reading, and of all that it leads to. -/
structure ReadingDocumented (codec : Codec) (render : Value → String)
    (documents : Scope → Value → Prop) (r : Reading) : Prop where
  run : documents r.scope (.arr r.identity)
  items : ∀ its, items render r.plan r.events = .ok its →
    ∀ item ∈ its, Documented codec documents r item

variable {render : Value → String}

lemma Derived.tick (hx : Derived codec documents x) : Derived codec documents x.tick :=
  ⟨hx.evaluations, hx.signals, hx.runs⟩

lemma Alike.tick {s : Scope} (x : DetectionEngine) : Alike s x x.tick :=
  ⟨rfl, rfl, rfl, rfl, rfl, rfl, rfl, rfl, rfl, rfl⟩

lemma conclude_derived (hx : Derived codec documents x)
    (hr : ReadingDocumented codec render documents r) :
    Derived codec documents (conclude codec render r x).2 ∧
      ∀ s, s ≠ r.scope → Alike s x (conclude codec render r x).2 := by
  rw [conclude]
  cases hfresh : x.runs.find? (r.runId codec) with
  | some existing => exact ⟨hx, fun s _ => Alike.refl s x⟩
  | none =>
    simp only
    cases hits : DetectionEngine.items render r.plan r.events with
    | error e => exact ⟨hx.tick, fun s _ => Alike.tick x⟩
    | ok its =>
      obtain ⟨hy, hboth⟩ := evaluateReading_derived hx.tick (hr.items its hits)
      have hruns := (evaluateItems_grown codec r.rule r.plan r.scope (r.runId codec) its x.tick).2
      rw [evaluateReading] at hy hboth
      simp only
      cases hrest : evaluateItems codec r.rule r.plan r.scope (r.runId codec) its x.tick with
      | mk answer y =>
        rw [hrest] at hy hboth hruns
        have halike := fun s hs => (Alike.tick (s := s) x).trans (hboth s hs)
        cases answer with
        | error e => exact ⟨hy, halike⟩
        | ok emitted =>
          refine ⟨⟨hy.evaluations, hy.signals, ?_⟩, ?_⟩
          · intro id run hrun
            rcases Dict.find?_set_eq_some hrun with ⟨rfl, rfl⟩ | hold
            · exact ⟨rfl, _, hr.run, rfl⟩
            · exact hy.runs id run hold
          · intro s hs
            obtain ⟨h₁, h₂, h₃, h₄, h₅, h₆, h₇, h₈, h₉, h₁₀⟩ := halike s hs
            refine ⟨h₁, h₂, h₃, h₄, h₅, h₆, h₇, h₈, h₉, h₁₀.trans ?_⟩
            symm
            apply Dict.part_set_other
            · exact decide_eq_false (Ne.symm hs)
            · rw [hruns]
              exact hfresh

lemma conclude_alike (hx : Derived codec documents x) (hx' : Derived codec documents' x')
    (hsep : Separate codec documents) (hsep' : Separate codec documents')
    (hr : ReadingDocumented codec render documents r)
    (hr' : ReadingDocumented codec render documents' r) (h : Alike r.scope x x') :
    (conclude codec render r x).1.map DetectionRun.undated =
        (conclude codec render r x').1.map DetectionRun.undated ∧
      Alike r.scope (conclude codec render r x).2 (conclude codec render r x').2 := by
  have hrun := congrFun h.runs (stableId codec "RUN-" r.identity)
  rw [hx.run_part hsep hr.run, hx'.run_part hsep' hr'.run] at hrun
  rw [conclude, conclude]
  cases hfresh : x.runs.find? (r.runId codec) with
  | some existing =>
    rw [show x.runs.find? (stableId codec "RUN-" r.identity) = some existing from hfresh] at hrun
    obtain ⟨existing', hfound', heq⟩ := Option.map_eq_some_iff.mp hrun.symm
    rw [show x'.runs.find? (r.runId codec) = some existing' from hfound']
    exact ⟨congrArg Except.ok heq.symm, h⟩
  | none =>
    rw [show x.runs.find? (stableId codec "RUN-" r.identity) = none from hfresh] at hrun
    have hfresh' := Option.map_eq_none_iff.mp hrun.symm
    rw [show x'.runs.find? (r.runId codec) = none from hfresh']
    have htick := ((Alike.tick x).symm.trans h).trans (Alike.tick x')
    simp only
    cases hits : DetectionEngine.items render r.plan r.events with
    | error e => exact ⟨rfl, htick⟩
    | ok its =>
      obtain ⟨hanswer, hafter⟩ := evaluateReading_alike hx.tick hx'.tick hsep hsep'
        (hr.items its hits) (hr'.items its hits) htick
      rw [evaluateReading] at hanswer hafter
      simp only
      cases hrest : evaluateItems codec r.rule r.plan r.scope (r.runId codec) its x.tick with
      | mk answer y =>
        cases hrest' : evaluateItems codec r.rule r.plan r.scope (r.runId codec) its x'.tick with
        | mk answer' y' =>
          rw [hrest, hrest'] at hanswer hafter
          simp only at hanswer hafter
          subst hanswer
          cases answer with
          | error e => exact ⟨rfl, hafter⟩
          | ok emitted =>
            have hsame : (r.run codec emitted y.engineVersion x.now y.now).undated =
                (r.run codec emitted y'.engineVersion x'.now y'.now).undated := by
              rw [hafter.version]
              rfl
            refine ⟨congrArg Except.ok hsame, hafter.scope, hafter.view, hafter.version, hafter.rules,
              hafter.plans, hafter.ruleBindings, hafter.planBindings, hafter.evaluations,
              hafter.signals, ?_⟩
            apply Dict.part_set_congr hafter.runs
            · exact decide_eq_true rfl
            · exact decide_eq_true rfl
            · exact hsame

end Evaluate

section Perform

variable {codec : Codec} {render : Value → String} {s : Scope} {x x' : DetectionEngine}

/-- The events of the scope are the same. -/
def SameEvents (s : Scope) (x x' : DetectionEngine) : Prop :=
  ∀ id e, e.scope = s →
    (x.events.plane.events.find? id = some e ↔ x'.events.plane.events.find? id = some e)

lemma events_nodup {i : BoundedSecurityEventIngestor} {events : List SecurityEvent}
    (hkeyed : ∀ id e, i.plane.events.find? id = some e → e.eventId = id)
    (h : i.events (some s) = .ok events) : (events.map (·.eventId)).Nodup := by
  obtain ⟨requested, hrequested, h⟩ := orRaise_bind_eq_ok.mp h
  obtain ⟨-, -, h⟩ := bind_eq_ok.mp h
  obtain rfl := Except.ok.inj h
  have hkeys : i.plane.events.values.map (·.eventId) = i.plane.events.rows.map Prod.fst := by
    rw [Dict.values, List.map_map, List.map_inj_left]
    rintro ⟨id, e⟩ he
    exact hkeyed id e (Dict.find?_eq_some_iff.mpr he)
  have hall : (i.plane.events.values.map (·.eventId)).Nodup := by
    rw [hkeys]
    exact i.plane.events.nodup
  have hsorted : ((i.plane.eventsOf requested.tenantId requested.caseId).map (·.eventId)).Nodup := by
    rw [SecurityEventPlane.eventsOf,
      ((List.perm_insertionSort SecurityEventPlane.before _).map (·.eventId)).nodup_iff]
    exact hall.sublist (List.filter_sublist.map _)
  exact hsorted.sublist (List.filter_sublist.map _)

lemma events_sorted {i : BoundedSecurityEventIngestor} {events : List SecurityEvent}
    (h : i.events (some s) = .ok events) : events.Pairwise SecurityEventPlane.before := by
  obtain ⟨requested, hrequested, h⟩ := orRaise_bind_eq_ok.mp h
  obtain ⟨-, -, h⟩ := bind_eq_ok.mp h
  obtain rfl := Except.ok.inj h
  exact (List.pairwise_insertionSort SecurityEventPlane.before _).filter _

/-- What is read in the scope is the same. -/
lemma events_same (hview : x.events.scope = x'.events.scope) (hkeyed : Keyed x) (hkeyed' : Keyed x')
    (h : SameEvents s x x') : x.events.events (some s) = x'.events.events (some s) := by
  have hrequire : x.events.requireScope s = x'.events.requireScope s := by
    simp only [BoundedSecurityEventIngestor.requireScope, hview]
  have hread : ∀ i : BoundedSecurityEventIngestor, i.events (some s) = i.requireScope s >>= fun _ =>
      .ok ((i.plane.eventsOf s.tenantId s.caseId).filter fun e => e.scope.targetId = s.targetId) :=
    fun _ => rfl
  cases hrequired : x.events.requireScope s with
  | error e =>
    rw [hread, hread, ← hrequire, hrequired]
    rfl
  | ok u =>
    have hevents := hread x.events
    have hevents' := hread x'.events
    rw [hrequired, ok_bind] at hevents
    rw [← hrequire, hrequired, ok_bind] at hevents'
    rw [hevents, hevents']
    congr 1
    have hnodup := events_nodup hkeyed.events hevents
    have hperm : List.Perm _ _ :=
      (List.perm_ext_iff_of_nodup hnodup.of_map (events_nodup hkeyed'.events hevents').of_map).mpr
        fun e => by
          rw [BoundedSecurityEventIngestor.mem_events hevents,
            BoundedSecurityEventIngestor.mem_events hevents']
          refine and_congr_left fun hscope => ?_
          simp only [h _ e hscope]
    refine hperm.eq_of_pairwise ?_ (events_sorted hevents) (events_sorted hevents')
    intro a b ha hb hab hba
    exact List.inj_on_of_nodup_map hnodup ha (hperm.mem_iff.mpr hb)
      (SecurityEventPlane.eventId_of_before hab hba)

lemma registration_alike (h : Alike s x x') (rule : DetectionRule) (plan : Option DetectionPlan)
    (number : Option Int) :
    registration codec rule plan number x = registration codec rule plan number x' := by
  simp only [registration, checkPlanBinding, h.ruleBindings, h.planBindings, h.plans]

lemma enter_alike (h : Alike s x x') (rule : DetectionRule) (v : DetectionRuleVersion)
    (plan : DetectionPlan) : Alike s (enter codec rule v plan x) (enter codec rule v plan x') := by
  obtain ⟨h₁, h₂, h₃, h₄, h₅, h₆, h₇, h₈, h₉, h₁₀⟩ := h
  refine ⟨h₁, h₂, h₃, ?_, ?_, ?_, ?_, h₈, h₉, h₁₀⟩
  · rw [enter, enter, h₄]
  · rw [enter, enter, h₅]
  · rw [enter, enter, h₆]
  · rw [enter, enter, h₇]

variable (codec) in
lemma register_alike (h : Alike s x x') (rule : DetectionRule) (plan : Option DetectionPlan)
    (number : Option Int) :
    (∃ e, registerRule codec rule plan number x = .error e ∧
        registerRule codec rule plan number x' = .error e) ∨
      ∃ p y y', registerRule codec rule plan number x = .ok (p, y) ∧
        registerRule codec rule plan number x' = .ok (p, y') ∧ Alike s y y' ∧
        y.events = x.events ∧ y'.events = x'.events := by
  rw [registerRule_eq, registerRule_eq, registration_alike h]
  cases registration codec rule plan number x' with
  | error e => exact Or.inl ⟨e, rfl, rfl⟩
  | ok r => exact Or.inr ⟨r.2, _, _, rfl, rfl, enter_alike h rule r.1 r.2, rfl, rfl⟩

lemma select_alike (h : Alike s x x') (ref : RuleRef) (version : Option Int) :
    selectVersion codec ref version x = selectVersion codec ref version x' := by
  simp only [selectVersion, assertRegisteredBinding, h.rules, h.plans, h.ruleBindings,
    h.planBindings]

variable (codec) in
/-- A run is admitted in both or in neither, to the same scope with the same version. -/
lemma admission_alike (h : Alike s x x') (ref : RuleRef) (requested : Option Scope)
    (version : Option Int) :
    (∃ e, admission codec ref requested version x = .error e ∧
        admission codec ref requested version x' = .error e) ∨
      ∃ t v y y', admission codec ref requested version x = .ok ((t, v), y) ∧
        admission codec ref requested version x' = .ok ((t, v), y') ∧ Alike s y y' ∧
        y.events = x.events ∧ y'.events = x'.events := by
  rw [admission, admission, h.scope]
  cases orRaise (requested <|> x'.scope) .detectionScopeError
      "detection runs require an explicit scope" with
  | error e => exact Or.inl ⟨e, rfl, rfl⟩
  | ok t =>
  have hrequire : x.requireScope t = x'.requireScope t := by
    simp only [DetectionEngine.requireScope, h.scope]
  rw [ok_bind, ok_bind, hrequire, select_alike h]
  cases x'.requireScope t with
  | error e => exact Or.inl ⟨e, rfl, rfl⟩
  | ok u =>
  rw [ok_bind, ok_bind]
  cases selectVersion codec ref version x' with
  | error e => exact Or.inl ⟨e, rfl, rfl⟩
  | ok v =>
  rw [ok_bind, ok_bind]
  cases ref with
  | id ruleId => exact Or.inr ⟨t, v, x, x', rfl, rfl, h, rfl, rfl⟩
  | rule rule =>
    rw [DetectionEngine.bind, DetectionEngine.bind]
    rcases register_alike codec h rule none (some v.version) with
      ⟨e, he, he'⟩ | ⟨p, y, y', hy, hy', halike, hevents, hevents'⟩
    · rw [he, he']
      exact Or.inl ⟨e, rfl, rfl⟩
    · rw [hy, hy']
      exact Or.inr ⟨t, v, y, y', rfl, rfl, halike, hevents, hevents'⟩

lemma Derived.bind {documents : Scope → Value → Prop} (hx : Derived codec documents x)
    {ref : RuleRef} {v : DetectionRuleVersion} {y : DetectionEngine}
    (h : DetectionEngine.bind codec ref v x = .ok y) : Derived codec documents y := by
  cases ref with
  | id ruleId =>
    obtain rfl := Except.ok.inj h
    exact hx
  | rule rule =>
    obtain ⟨⟨p, z⟩, hregister, rfl⟩ := map_eq_ok.mp h
    rw [registerRule_eq] at hregister
    obtain ⟨r, -, heq⟩ := map_eq_ok.mp hregister
    obtain ⟨-, rfl⟩ := Prod.mk.inj heq
    exact ⟨hx.evaluations, hx.signals, hx.runs⟩

lemma read_scope {t : Scope} {v : DetectionRuleVersion} {r : Reading}
    (h : DetectionEngine.read t v x = .ok r) : r.scope = t := by
  obtain ⟨plan, -, h⟩ := orRaise_bind_eq_ok.mp h
  obtain ⟨events, -, h⟩ := bind_eq_ok.mp h
  obtain rfl := Except.ok.inj h
  rfl

/-- A run of another scope leaves an engine alike. -/
lemma resume_other {documents : Scope → Value → Prop} {t : Scope} {v : DetectionRuleVersion}
    (hx : Derived codec documents x)
    (hread : ∀ r, DetectionEngine.read t v x = .ok r → ReadingDocumented codec render documents r)
    (hts : s ≠ t) : Alike s x (resume codec render t v x).2 := by
  rw [resume]
  cases hr : DetectionEngine.read t v x with
  | error e => exact Alike.refl s x
  | ok r =>
    refine (conclude_derived hx (hread r hr)).2 s ?_
    rw [read_scope hr]
    exact hts

/-- What a run reads. -/
def reading (codec : Codec) (ref : RuleRef) (requested : Option Scope) (version : Option Int)
    (engine : DetectionEngine) : Except Raised Reading := do
  let ((t, v), engine) ← admission codec ref requested version engine
  DetectionEngine.read t v engine

section Step

variable {documents documents' : Scope → Value → Prop} {ref : RuleRef} {requested : Option Scope}
  {version : Option Int}
  (hx : Derived codec documents x)
  (hreading : ∀ r, reading codec ref requested version x = .ok r →
    ReadingDocumented codec render documents r)

include hx hreading

lemma perform_derived :
    Derived codec documents (perform codec render ref requested version x).2 := by
  rw [perform]
  cases hadmission : admission codec ref requested version x with
  | error e => exact hx
  | ok answer =>
    obtain ⟨⟨t, v⟩, y⟩ := answer
    obtain ⟨-, -, -, hbind⟩ := admission_eq_ok hadmission
    have hy := hx.bind hbind
    simp only [resume]
    cases hread : DetectionEngine.read t v y with
    | error e => exact hy
    | ok r =>
      refine (conclude_derived hy (hreading r ?_)).1
      rw [reading, hadmission]
      exact hread

/-- In two engines that are alike for a scope, over the same events of the scope, a run leaves engines
that are alike, and a run of the scope has the same outcome. -/
lemma perform_alike (hx' : Derived codec documents' x')
    (hreading' : ∀ r, reading codec ref requested version x' = .ok r →
      ReadingDocumented codec render documents' r)
    (hsep : Separate codec documents) (hsep' : Separate codec documents') (hkeyed : Keyed x)
    (hkeyed' : Keyed x') (hevents : SameEvents s x x') (h : Alike s x x') :
    Alike s (perform codec render ref requested version x).2
        (perform codec render ref requested version x').2 ∧
      ((requested <|> x.scope) = some s →
        (perform codec render ref requested version x).1.map DetectionRun.undated =
          (perform codec render ref requested version x').1.map DetectionRun.undated) := by
  rcases admission_alike codec h ref requested version with
    ⟨e, he, he'⟩ | ⟨t, v, y, y', hy, hy', halike, hplane, hplane'⟩
  · rw [perform, perform, he, he']
    exact ⟨h, fun _ => rfl⟩
  obtain ⟨hrequested, -, -, hbind⟩ := admission_eq_ok hy
  obtain ⟨-, -, -, hbind'⟩ := admission_eq_ok hy'
  have hdocumented : ∀ r, DetectionEngine.read t v y = .ok r →
      ReadingDocumented codec render documents r := by
    intro r hr
    apply hreading
    rw [reading, hy]
    exact hr
  have hdocumented' : ∀ r, DetectionEngine.read t v y' = .ok r →
      ReadingDocumented codec render documents' r := by
    intro r hr
    apply hreading'
    rw [reading, hy']
    exact hr
  rw [perform, perform, hy, hy']
  simp only [resume]
  by_cases hts : t = s
  · subst hts
    have hread : DetectionEngine.read t v y = DetectionEngine.read t v y' := by
      have hview : x.events.events (some t) = x'.events.events (some t) :=
        events_same h.view hkeyed hkeyed' hevents
      rw [← hplane, ← hplane'] at hview
      rw [DetectionEngine.read, DetectionEngine.read, halike.plans, hview]
    cases hr : DetectionEngine.read t v y' with
    | error e =>
      rw [hread, hr]
      exact ⟨halike, fun _ => rfl⟩
    | ok r =>
      have hr₁ := hread.trans hr
      rw [hr₁]
      obtain rfl := read_scope hr
      have hboth := conclude_alike (hx.bind hbind) (hx'.bind hbind') hsep hsep'
        (hdocumented r hr₁) (hdocumented' r hr) halike
      exact ⟨hboth.2, fun _ => hboth.1⟩
  · refine ⟨?_, fun hs => absurd (Option.some.inj (hrequested.symm.trans hs)) hts⟩
    have hleft := resume_other (hx.bind hbind) hdocumented (Ne.symm hts)
    have hright := resume_other (hx'.bind hbind') hdocumented' (Ne.symm hts)
    exact (hleft.symm.trans halike).trans hright

end Step

end Perform

end SecScanMonitor.DetectionResponse
