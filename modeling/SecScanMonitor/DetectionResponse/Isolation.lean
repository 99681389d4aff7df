import SecScanMonitor.DetectionResponse.Sharing

/-! Histories of one engine that serves several scopes. Whatever the events of the others are, the runs of a
scope return the same, and so do the reads. -/

namespace SecScanMonitor.DetectionResponse

open Foundations Domain ContinuousSecurity DetectionEngine

/-- An event arrives, a rule is registered, a rule is run. -/
inductive EngineCall where
  | arrive (event : SecurityEvent)
  | ingest (event : SecurityEvent) (scope : Option Scope)
  | register (rule : DetectionRule) (plan : Option DetectionPlan) (versionNumber : Option Int)
  | run (ref : RuleRef) (scope : Option Scope) (version : Option Int)

inductive EngineAnswer where
  | arrived (result : Except Raised EventIngestResult)
  | registered (result : Except Raised DetectionPlan)
  | ran (result : Except Raised DetectionRun)

namespace EngineCall

variable (codec : Codec) (render : Value → String)

def exec : EngineCall → DetectionEngine → EngineAnswer × DetectionEngine
  | .arrive event, engine =>
    let r := engine.events.plane.ingest codec event
    (.arrived r.1, { engine with events := { engine.events with plane := r.2 } })
  | .ingest event scope, engine =>
    match engine.events.ingest codec event scope with
    | .ok (result, events) => (.arrived (.ok result), { engine with events })
    | .error e => (.arrived (.error e), engine)
  | .register rule plan versionNumber, engine =>
    match registerRule codec rule plan versionNumber engine with
    | .ok (plan, engine) => (.registered (.ok plan), engine)
    | .error e => (.registered (.error e), engine)
  | .run ref scope version, engine =>
    let r := perform codec render ref scope version engine
    (.ran r.1, r.2)

/-- The call brings an event. -/
def brings : EngineCall → Bool
  | .arrive _ | .ingest _ _ => true
  | .register _ _ _ | .run _ _ _ => false

end EngineCall

abbrev EngineEntry := Entry EngineCall DetectionEngine EngineAnswer

/-- The registrations and the runs of a history. -/
def steps (es : List EngineEntry) : List EngineEntry := es.filter fun e => !e.call.brings

/-- Two histories register and run the same rules, each time over the same events of the scope. -/
def Agree (s : Scope) (es es' : List EngineEntry) : Prop :=
  List.Forall₂ (fun e e' => e.call = e'.call ∧ SameEvents s e.before e'.before) (steps es) (steps es')

/-- A run of the scope has the same outcome in both, up to its instants. -/
def SameOutcome (s : Scope) (e e' : EngineEntry) : Prop :=
  ∀ ref requested version, e.call = .run ref requested version →
    (requested <|> e.before.scope) = some s → ∃ r r', e.outcome = .ran r ∧ e'.outcome = .ran r' ∧
      r.map DetectionRun.undated = r'.map DetectionRun.undated

section Documents

variable (codec : Codec) (render : Value → String) (es : List EngineEntry)

/-- What the runs of a history read. -/
def Reads (r : Reading) : Prop :=
  ∃ e ∈ es, ∃ ref scope version, e.call = .run ref scope version ∧
    reading codec ref scope version e.before = .ok r

/-- The documents whose digests name what the runs of a scope store. -/
inductive Names : Scope → Value → Prop
  | run {r : Reading} : Reads codec es r → Names r.scope (.arr r.identity)
  | evaluation {r : Reading} {its : List Item} {item : Item} : Reads codec es r →
      items render r.plan r.events = .ok its → item ∈ its → Names r.scope (.arr [r.key codec item])
  | signal {r : Reading} {its : List Item} {item : Item} : Reads codec es r →
      items render r.plan r.events = .ok its → item ∈ its →
      Names r.scope (.arr (r.signalIdentity item))

def readingsOf : List Reading := es.filterMap fun e =>
  match e.call with
  | .run ref requested version => (reading codec ref requested version e.before).toOption
  | _ => none

def documentsOf : List Value := (readingsOf codec es).flatMap fun r =>
  .arr r.identity :: match items render r.plan r.events with
    | .ok its => its.flatMap fun item => [.arr [r.key codec item], .arr (r.signalIdentity item)]
    | .error _ => []

/-- The digest does not collide on those documents. -/
def NamesApart : Prop :=
  ∀ t t' d d', Names codec render es t d → Names codec render es t' d' →
    shortDigest codec d = shortDigest codec d' → d = d'

variable {codec render es} {es' : List EngineEntry}

lemma Names.mono (hle : ∀ e ∈ es, e ∈ es') {t : Scope} {d : Value} (h : Names codec render es t d) :
    Names codec render es' t d := by
  have hreads : ∀ r, Reads codec es r → Reads codec es' r := by
    rintro r ⟨e, he, hr⟩
    exact ⟨e, hle e he, hr⟩
  cases h with
  | run hr => exact .run (hreads _ hr)
  | evaluation hr hits hitem => exact .evaluation (hreads _ hr) hits hitem
  | signal hr hits hitem => exact .signal (hreads _ hr) hits hitem

lemma NamesApart.mono (hle : ∀ e ∈ es, e ∈ es') (h : NamesApart codec render es') :
    NamesApart codec render es :=
  fun t t' d d' hd hd' => h t t' d d' (hd.mono hle) (hd'.mono hle)

lemma reads_mem {r : Reading} (h : Reads codec es r) : r ∈ readingsOf codec es := by
  obtain ⟨e, he, ref, requested, version, hcall, hr⟩ := h
  refine List.mem_filterMap.mpr ⟨e, he, ?_⟩
  rw [hcall]
  simp only [hr]
  rfl

lemma names_mem {t : Scope} {d : Value} (h : Names codec render es t d) :
    d ∈ documentsOf codec render es := by
  cases h with
  | run hr => exact List.mem_flatMap.mpr ⟨_, reads_mem hr, List.mem_cons_self⟩
  | evaluation hr hits hitem =>
    refine List.mem_flatMap.mpr ⟨_, reads_mem hr, List.mem_cons_of_mem _ ?_⟩
    rw [hits]
    exact List.mem_flatMap.mpr ⟨_, hitem, List.mem_cons_self⟩
  | signal hr hits hitem =>
    refine List.mem_flatMap.mpr ⟨_, reads_mem hr, List.mem_cons_of_mem _ ?_⟩
    rw [hits]
    exact List.mem_flatMap.mpr ⟨_, hitem, List.mem_cons_of_mem _ List.mem_cons_self⟩

lemma namesApart_of_documents (h : ∀ d ∈ documentsOf codec render es,
      ∀ d' ∈ documentsOf codec render es, shortDigest codec d = shortDigest codec d' → d = d') :
    NamesApart codec render es :=
  fun _ _ d d' hd hd' => h d (names_mem hd) d' (names_mem hd')

lemma names_head {t : Scope} {d : Value} (h : Names codec render es t d) :
    ∃ tail, d = .arr (t.key :: tail) ∨ d = .arr [.arr (t.key :: tail)] := by
  cases h with
  | run _ => exact ⟨_, Or.inl rfl⟩
  | evaluation _ _ _ => exact ⟨_, Or.inr rfl⟩
  | signal _ _ _ => exact ⟨_, Or.inl rfl⟩

lemma names_scope {t t' : Scope} {d : Value} (h : Names codec render es t d)
    (h' : Names codec render es t' d) : t = t' := by
  obtain ⟨tail, rfl | rfl⟩ := names_head h
  · obtain ⟨tail', heq | heq⟩ := names_head h'
    · exact Scope.key_injective (List.cons.inj (Value.arr.inj heq)).1
    · have hkey := (List.cons.inj (Value.arr.inj heq)).1
      simp [Scope.key] at hkey
  · obtain ⟨tail', heq | heq⟩ := names_head h'
    · have hkey := (List.cons.inj (Value.arr.inj heq)).1
      simp [Scope.key] at hkey
    · have hinner := (List.cons.inj (Value.arr.inj heq)).1
      exact Scope.key_injective (List.cons.inj (Value.arr.inj hinner)).1

lemma NamesApart.separate (h : NamesApart codec render es) :
    Separate codec (Names codec render es) := by
  intro t t' d d' hd hd' hshort
  obtain rfl := h t t' d d' hd hd' hshort
  exact names_scope hd hd'

lemma Reads.documented {r : Reading} (hr : Reads codec es r) :
    ReadingDocumented codec render (Names codec render es) r where
  run := .run hr
  items _ hits _ hitem := ⟨.evaluation hr hits hitem, .signal hr hits hitem⟩

lemma Derived.mono {documents documents' : Scope → Value → Prop} {x : DetectionEngine}
    (h : Derived codec documents x) (hle : ∀ t d, documents t d → documents' t d) :
    Derived codec documents' x where
  evaluations id e he := by
    obtain ⟨hid, d, hd, heq⟩ := h.evaluations id e he
    exact ⟨hid, d, hle _ _ hd, heq⟩
  signals id e he := by
    obtain ⟨hid, d, hd, heq⟩ := h.signals id e he
    exact ⟨hid, d, hle _ _ hd, heq⟩
  runs id e he := by
    obtain ⟨hid, d, hd, heq⟩ := h.runs id e he
    exact ⟨hid, d, hle _ _ hd, heq⟩

end Documents

section Step

variable {codec : Codec} {render : Value → String} {s : Scope} {x : DetectionEngine}
  {call : EngineCall}

variable (codec render x) in
/-- A call that brings an event changes the plane only. -/
lemma exec_brings (hbrings : call.brings = true) : ∃ plane,
    (call.exec codec render x).2 = { x with events := { x.events with plane } } ∧
      (plane = x.events.plane ∨ ∃ e, plane = (x.events.plane.ingest codec e).2) := by
  cases call with
  | arrive event => exact ⟨_, rfl, Or.inr ⟨event, rfl⟩⟩
  | ingest event scope =>
    rw [EngineCall.exec]
    cases hingest : x.events.ingest codec event scope with
    | error e => exact ⟨x.events.plane, rfl, Or.inl rfl⟩
    | ok r =>
      refine ⟨(x.events.plane.ingest codec event).2, ?_, Or.inr ⟨event, rfl⟩⟩
      obtain ⟨result, i'⟩ := r
      rw [ingest_plane hingest]
  | register rule plan number => cases hbrings
  | run ref scope version => cases hbrings

lemma brings_alike (hbrings : call.brings = true) : Alike s x (call.exec codec render x).2 := by
  obtain ⟨plane, hplane, -⟩ := exec_brings codec render x hbrings
  rw [hplane]
  exact ⟨rfl, rfl, rfl, rfl, rfl, rfl, rfl, rfl, rfl, rfl⟩

lemma call_grown (call : EngineCall) (x : DetectionEngine) :
    Grown x (call.exec codec render x).2 := by
  by_cases hbrings : call.brings = true
  · obtain ⟨plane, hplane, hingested⟩ :=
      exec_brings codec render x hbrings
    rw [hplane]
    rcases hingested with rfl | ⟨e, rfl⟩
    · exact Grown.refl x
    · exact ⟨⟨Table.Extends.refl _, Table.Extends.refl _, Table.Extends.refl _,
        (SecurityEventPlane.ingest_ingested _ _ _).extended⟩, rfl, rfl,
        fun hkeyed => ⟨(SecurityEventPlane.ingest_ingested _ _ _).keyed hkeyed.events, hkeyed.signals⟩⟩
  · cases call with
    | arrive event => exact absurd rfl hbrings
    | ingest event scope => exact absurd rfl hbrings
    | register rule plan number =>
      rw [EngineCall.exec, registerRule_eq]
      cases registration codec rule plan number x with
      | error e => exact Grown.refl x
      | ok r =>
        exact ⟨⟨Table.Extends.refl _, Table.Extends.refl _, Table.Extends.refl _,
          Table.Extends.refl _⟩, rfl, rfl, fun hkeyed => ⟨hkeyed.events, hkeyed.signals⟩⟩
    | run ref scope version => exact perform_grown ref scope version x

lemma call_derived {documents : Scope → Value → Prop} (hx : Derived codec documents x)
    (hreading : ∀ ref scope version, call = .run ref scope version →
      ∀ r, reading codec ref scope version x = .ok r → ReadingDocumented codec render documents r) :
    Derived codec documents (call.exec codec render x).2 := by
  by_cases hbrings : call.brings = true
  · obtain ⟨plane, hplane, -⟩ := exec_brings codec render x hbrings
    rw [hplane]
    exact ⟨hx.evaluations, hx.signals, hx.runs⟩
  · cases call with
    | arrive event => exact absurd rfl hbrings
    | ingest event scope => exact absurd rfl hbrings
    | register rule plan number =>
      rw [EngineCall.exec, registerRule_eq]
      cases registration codec rule plan number x with
      | error e => exact hx
      | ok r => exact ⟨hx.evaluations, hx.signals, hx.runs⟩
    | run ref scope version => exact perform_derived hx (hreading ref scope version rfl)

end Step

section History

variable {codec : Codec} {render : Value → String} {s : Scope} {view scope : Option Scope}
  {clock clock' : ℕ → Datetime} {es es' : List EngineEntry} {x x' : DetectionEngine}

/-- A new engine over an empty plane. -/
abbrev newEngine (view scope : Option Scope) (clock : ℕ → Datetime) : DetectionEngine :=
  DetectionEngine.init ⟨SecurityEventPlane.empty, view⟩ scope clock

lemma history_keyed
    (h : Foundations.History (EngineCall.exec codec render) (newEngine view scope clock) es x) :
    Keyed x := by
  apply h.invariant (p := Keyed)
  · intro call y hy
    exact (call_grown call y).keyed hy
  · refine ⟨?_, ?_⟩
    · intro id e he
      cases he
    · intro id e he
      cases he

lemma history_derived
    (h : Foundations.History (EngineCall.exec codec render) (newEngine view scope clock) es x) :
    Derived codec (Names codec render es) x := by
  induction h with
  | nil =>
    refine ⟨?_, ?_, ?_⟩
    · intro id e he
      cases he
    · intro id e he
      cases he
    · intro id e he
      cases he
  | @call es x call h ih =>
    have hx := ih.mono fun t d hd => Names.mono (fun e he =>
      List.mem_cons_of_mem (⟨call, x, (call.exec codec render x).1⟩ : EngineEntry) he) hd
    refine call_derived hx ?_
    rintro ref scope version rfl r hr
    exact Reads.documented ⟨_, List.mem_cons_self, ref, scope, version, rfl, hr⟩

lemma steps_cons_brings {e : EngineEntry} (h : e.call.brings = true) : steps (e :: es) = steps es := by
  simp [steps, h]

lemma steps_cons {e : EngineEntry} (h : e.call.brings = false) : steps (e :: es) = e :: steps es := by
  simp [steps, h]

/-- A registration and a run do the same in engines that are alike. -/
lemma step_alike {documents documents' : Scope → Value → Prop} {call : EngineCall}
    (hcall : call.brings = false) (hx : Derived codec documents x)
    (hx' : Derived codec documents' x')
    (hreading : ∀ ref requested version, call = .run ref requested version →
      ∀ r, reading codec ref requested version x = .ok r → ReadingDocumented codec render documents r)
    (hreading' : ∀ ref requested version, call = .run ref requested version → ∀ r,
      reading codec ref requested version x' = .ok r → ReadingDocumented codec render documents' r)
    (hsep : Separate codec documents) (hsep' : Separate codec documents') (hkeyed : Keyed x)
    (hkeyed' : Keyed x') (hevents : SameEvents s x x') (h : Alike s x x') :
    Alike s (call.exec codec render x).2 (call.exec codec render x').2 ∧
      SameOutcome s ⟨call, x, (call.exec codec render x).1⟩
        ⟨call, x', (call.exec codec render x').1⟩ := by
  cases call with
  | arrive event => cases hcall
  | ingest event scope => cases hcall
  | register rule plan number =>
    refine ⟨?_, ?_⟩
    · rw [EngineCall.exec, EngineCall.exec]
      rcases register_alike codec h rule plan number with
        ⟨e, he, he'⟩ | ⟨p, y, y', hy, hy', halike, -, -⟩
      · rw [he, he']
        exact h
      · rw [hy, hy']
        exact halike
    · intro ref requested version hrun
      cases hrun
  | run ref requested version =>
    obtain ⟨halike, houtcome⟩ := perform_alike hx (hreading ref requested version rfl) hx'
      (hreading' ref requested version rfl) hsep hsep' hkeyed hkeyed' hevents h
    refine ⟨halike, ?_⟩
    intro ref' requested' version' hrun hscope
    obtain ⟨rfl, rfl, rfl⟩ := EngineCall.run.inj hrun
    exact ⟨_, _, rfl, rfl, houtcome hscope⟩

lemma history_alike
    (h : Foundations.History (EngineCall.exec codec render) (newEngine view scope clock) es x)
    (h' : Foundations.History (EngineCall.exec codec render) (newEngine view scope clock') es' x')
    (hapart : NamesApart codec render es) (hapart' : NamesApart codec render es')
    (hagree : Agree s es es') :
    Alike s x x' ∧ List.Forall₂ (SameOutcome s) (steps es) (steps es') := by
  induction h generalizing es' x' with
  | nil =>
    induction h' with
    | nil => exact ⟨⟨rfl, rfl, rfl, rfl, rfl, rfl, rfl, rfl, rfl, rfl⟩, List.Forall₂.nil⟩
    | @call es' x' call h' ih' =>
      cases hbrings : call.brings with
      | true =>
        rw [Agree, steps_cons_brings hbrings] at hagree
        rw [steps_cons_brings hbrings]
        obtain ⟨halike, houtcomes⟩ := ih' (hapart'.mono fun e he => List.mem_cons_of_mem _ he) hagree
        exact ⟨halike.trans (brings_alike hbrings), houtcomes⟩
      | false =>
        rw [Agree, steps_cons hbrings] at hagree
        cases hagree
  | @call es x call h ih =>
    have hapart₀ := hapart.mono fun e he => List.mem_cons_of_mem ⟨call, x, _⟩ he
    cases hbrings : call.brings with
    | true =>
      rw [Agree, steps_cons_brings hbrings] at hagree
      rw [steps_cons_brings hbrings]
      obtain ⟨halike, houtcomes⟩ := ih h' hapart₀ hapart' hagree
      exact ⟨(brings_alike hbrings).symm.trans halike, houtcomes⟩
    | false =>
      induction h' with
      | nil =>
        rw [Agree, steps_cons hbrings] at hagree
        cases hagree
      | @call es' x' call' h' ih' =>
        have hapart₀' := hapart'.mono fun e he => List.mem_cons_of_mem ⟨call', x', _⟩ he
        cases hbrings' : call'.brings with
        | true =>
          have hsteps : steps (⟨call', x', (call'.exec codec render x').1⟩ :: es') = steps es' :=
            steps_cons_brings hbrings'
          rw [Agree, hsteps] at hagree
          rw [hsteps]
          obtain ⟨halike, houtcomes⟩ := ih' hapart₀' hagree
          exact ⟨halike.trans (brings_alike hbrings'), houtcomes⟩
        | false =>
          rw [Agree, steps_cons hbrings, steps_cons hbrings'] at hagree
          rw [steps_cons hbrings, steps_cons hbrings']
          obtain ⟨⟨hcall, hevents⟩, hrest⟩ := List.forall₂_cons.mp hagree
          simp only at hcall hevents
          subst hcall
          obtain ⟨halike, houtcomes⟩ := ih h' hapart₀ hapart₀' hrest
          have hx := (history_derived h).mono fun t d hd =>
            Names.mono (fun e he =>
              List.mem_cons_of_mem (⟨call, x, (call.exec codec render x).1⟩ : EngineEntry) he) hd
          have hx' := (history_derived h').mono fun t d hd =>
            Names.mono (fun e he =>
              List.mem_cons_of_mem (⟨call, x', (call.exec codec render x').1⟩ : EngineEntry) he) hd
          have hstep := step_alike hbrings hx hx'
            (by
              rintro ref requested version rfl r hr
              exact Reads.documented ⟨_, List.mem_cons_self, ref, requested, version, rfl, hr⟩)
            (by
              rintro ref requested version rfl r hr
              exact Reads.documented ⟨_, List.mem_cons_self, ref, requested, version, rfl, hr⟩)
            hapart.separate hapart'.separate (history_keyed h) (history_keyed h') hevents halike
          exact ⟨hstep.1, List.Forall₂.cons hstep.2 houtcomes⟩

end History

section Reads

variable {codec : Codec} {documents documents' : Scope → Value → Prop} {s : Scope}
  {x x' : DetectionEngine}

lemma requireScope_alike (h : Alike s x x') : x.requireScope s = x'.requireScope s := by
  simp only [DetectionEngine.requireScope, h.scope]

/-- The reads of the scope show the same records. -/
lemma reads_alike (hx : Derived codec documents x) (hx' : Derived codec documents' x')
    (h : Alike s x x') :
    (x.evaluationsOf (some s)).map (List.map DetectionEvaluation.undated) =
        (x'.evaluationsOf (some s)).map (List.map DetectionEvaluation.undated) ∧
      (x.signalsOf (some s)).map (List.map DetectionSignal.undated) =
        (x'.signalsOf (some s)).map (List.map DetectionSignal.undated) ∧
      (x.runsOf (some s)).map (List.map DetectionRun.undated) =
        (x'.runsOf (some s)).map (List.map DetectionRun.undated) := by
  have hrequire := requireScope_alike h
  have hevaluations := Dict.listing_by_name DetectionEvaluation.evaluationId
    DetectionEvaluation.evaluationId h.evaluations (fun _ => rfl)
    (fun id e he => (hx.evaluations id e he).1) (fun id e he => (hx'.evaluations id e he).1)
  have hsignals := Dict.listing_by_name DetectionSignal.signalId DetectionSignal.signalId h.signals
    (fun _ => rfl) (fun id e he => (hx.signals id e he).1) (fun id e he => (hx'.signals id e he).1)
  have hruns := Dict.listing_by_name DetectionRun.runId DetectionRun.runId h.runs (fun _ => rfl)
    (fun id e he => (hx.runs id e he).1) (fun id e he => (hx'.runs id e he).1)
  refine ⟨?_, ?_, ?_⟩
  · change (x.requireScope s >>= fun _ => Except.ok _).map _ =
      (x'.requireScope s >>= fun _ => Except.ok _).map _
    rw [hrequire, map_bind, map_bind]
    exact congrArg _ (funext fun _ => congrArg Except.ok hevaluations)
  · change (x.requireScope s >>= fun _ => Except.ok _).map _ =
      (x'.requireScope s >>= fun _ => Except.ok _).map _
    rw [hrequire, map_bind, map_bind]
    exact congrArg _ (funext fun _ => congrArg Except.ok hsignals)
  · change (x.requireScope s >>= fun _ => Except.ok _).map _ =
      (x'.requireScope s >>= fun _ => Except.ok _).map _
    rw [hrequire, map_bind, map_bind]
    exact congrArg _ (funext fun _ => congrArg Except.ok hruns)

end Reads

/-- The clock stands still, and every record bears its instant. -/
structure Dated (t : Datetime) (x : DetectionEngine) : Prop where
  clock : ∀ n, x.clock n = t
  evaluations : ∀ id e, x.evaluations.find? id = some e → e.evaluatedAt = t
  signals : ∀ id e, x.signals.find? id = some e → e.detectedAt = t
  runs : ∀ id e, x.runs.find? id = some e → e.startedAt = t ∧ e.completedAt = t

section Dated

variable {codec : Codec} {render : Value → String} {t : Datetime} {x y : DetectionEngine} {r : Reading}

lemma Dated.tick (hx : Dated t x) : Dated t x.tick :=
  ⟨fun n => hx.clock (n + 1), hx.evaluations, hx.signals, hx.runs⟩

lemma evaluate_dated {item : Item} {answer : DetectionEvaluation × Option DetectionSignal}
    (hx : Dated t x) (h : evaluateItem codec r item x = .ok (answer, y)) : Dated t y := by
  obtain ⟨ev, sg⟩ := answer
  rcases evaluate_cases h with ⟨-, -, rfl⟩ | ⟨-, -, hcases⟩
  · exact hx
  have hadded : Dated t (addEvaluation codec r.rule r.plan r.scope item.events item.predicates
      item.matched (r.runId codec) x) := by
    refine ⟨fun n => hx.clock (n + 1), ?_, hx.signals, hx.runs⟩
    intro id e he
    rcases Dict.find?_set_eq_some he with ⟨rfl, rfl⟩ | hold
    · exact hx.clock 0
    · exact hx.evaluations id e hold
  rcases hcases with ⟨-, -, rfl⟩ | ⟨id, -, ⟨sg', -, -, -, rfl⟩ | ⟨-, -, rfl⟩⟩
  · exact hadded
  · exact hadded.tick
  · refine ⟨hadded.tick.clock, hadded.evaluations, ?_, hx.runs⟩
    intro k e he
    rcases Dict.find?_set_eq_some he with ⟨rfl, rfl⟩ | hold
    · exact hx.clock 1
    · exact hx.signals k e hold

lemma evaluateReading_dated {its : List Item} (hx : Dated t x) :
    Dated t (evaluateReading codec r its x).2 := by
  induction its generalizing x with
  | nil => exact hx
  | cons item its ih =>
    rw [evaluateReading, evaluateItems]
    cases hevaluate : evaluate codec r.rule r.plan r.scope item.events item.predicates item.matched
        (r.runId codec) x with
    | error e => exact hx
    | ok answer =>
      have hlater := ih (evaluate_dated hx hevaluate)
      rw [evaluateReading] at hlater
      simp only
      cases hrest : evaluateItems codec r.rule r.plan r.scope (r.runId codec) its answer.2 with
      | mk emitted z =>
        rw [hrest] at hlater
        cases emitted with
        | error e => exact hlater
        | ok later => exact hlater

lemma conclude_dated (hx : Dated t x) : Dated t (conclude codec render r x).2 ∧
    ∀ run, (conclude codec render r x).1 = .ok run → run.startedAt = t ∧ run.completedAt = t := by
  rw [conclude]
  cases hfound : x.runs.find? (r.runId codec) with
  | some existing =>
    refine ⟨hx, ?_⟩
    intro run hrun
    obtain rfl := Except.ok.inj hrun
    exact hx.runs _ _ hfound
  | none =>
    simp only
    cases DetectionEngine.items render r.plan r.events with
    | error e => exact ⟨hx.tick, by simp⟩
    | ok its =>
      have hy : Dated t (evaluateReading codec r its x.tick).2 := evaluateReading_dated hx.tick
      rw [evaluateReading] at hy
      simp only
      cases hrest : evaluateItems codec r.rule r.plan r.scope (r.runId codec) its x.tick with
      | mk answer y =>
        rw [hrest] at hy
        cases answer with
        | error e => exact ⟨hy, by simp⟩
        | ok emitted =>
          have hinstants : x.now = t ∧ y.now = t := ⟨hx.clock 0, hy.clock 0⟩
          refine ⟨⟨hy.tick.clock, hy.evaluations, hy.signals, ?_⟩, ?_⟩
          · intro id run hrun
            rcases Dict.find?_set_eq_some hrun with ⟨rfl, rfl⟩ | hold
            · exact hinstants
            · exact hy.runs id run hold
          · intro run hrun
            obtain rfl := Except.ok.inj hrun
            exact hinstants

lemma Dated.bind (hx : Dated t x) {ref : RuleRef} {v : DetectionRuleVersion}
    (h : DetectionEngine.bind codec ref v x = .ok y) : Dated t y := by
  cases ref with
  | id ruleId =>
    obtain rfl := Except.ok.inj h
    exact hx
  | rule rule =>
    obtain ⟨⟨p, z⟩, hregister, rfl⟩ := map_eq_ok.mp h
    rw [registerRule_eq] at hregister
    obtain ⟨r, -, heq⟩ := map_eq_ok.mp hregister
    obtain ⟨-, rfl⟩ := Prod.mk.inj heq
    exact ⟨hx.clock, hx.evaluations, hx.signals, hx.runs⟩

variable (codec render) in
lemma perform_dated (hx : Dated t x) (ref : RuleRef) (requested : Option Scope)
    (version : Option Int) : Dated t (perform codec render ref requested version x).2 ∧
      ∀ run, (perform codec render ref requested version x).1 = .ok run →
        run.startedAt = t ∧ run.completedAt = t := by
  rw [perform]
  cases hadmission : admission codec ref requested version x with
  | error e => exact ⟨hx, by simp⟩
  | ok answer =>
    obtain ⟨⟨s, v⟩, y⟩ := answer
    obtain ⟨-, -, -, hbind⟩ := admission_eq_ok hadmission
    simp only [resume]
    cases DetectionEngine.read s v y with
    | error e => exact ⟨hx.bind hbind, by simp⟩
    | ok r => exact conclude_dated (hx.bind hbind)

variable (codec render) in
lemma call_dated (hx : Dated t x) (call : EngineCall) : Dated t (call.exec codec render x).2 ∧
    ∀ run, (call.exec codec render x).1 = .ran (.ok run) →
      run.startedAt = t ∧ run.completedAt = t := by
  by_cases hbrings : call.brings = true
  · obtain ⟨plane, hplane, -⟩ := exec_brings codec render x hbrings
    rw [hplane]
    refine ⟨⟨hx.clock, hx.evaluations, hx.signals, hx.runs⟩, ?_⟩
    intro run hrun
    cases call with
    | arrive event => cases hrun
    | ingest event scope =>
      rw [EngineCall.exec] at hrun
      split at hrun
      · cases hrun
      · cases hrun
    | register rule plan number => cases hbrings
    | run ref scope version => cases hbrings
  · cases call with
    | arrive event => exact absurd rfl hbrings
    | ingest event scope => exact absurd rfl hbrings
    | register rule plan number =>
      rw [EngineCall.exec, registerRule_eq]
      cases registration codec rule plan number x with
      | error e => exact ⟨hx, by simp [Except.map]⟩
      | ok r => exact ⟨⟨hx.clock, hx.evaluations, hx.signals, hx.runs⟩, by simp [Except.map]⟩
    | run ref scope version =>
      obtain ⟨hy, hruns⟩ := perform_dated codec render hx ref scope version
      refine ⟨hy, ?_⟩
      intro run hrun
      exact hruns run (EngineAnswer.ran.inj hrun)

lemma history_dated {view scope : Option Scope} {clock : ℕ → Datetime} {es : List EngineEntry}
    (hclock : ∀ n, clock n = t)
    (h : Foundations.History (EngineCall.exec codec render) (newEngine view scope clock) es x) :
    Dated t x ∧ ∀ e ∈ es, ∀ run, e.outcome = .ran (.ok run) →
      run.startedAt = t ∧ run.completedAt = t := by
  induction h with
  | nil =>
    refine ⟨⟨hclock, ?_, ?_, ?_⟩, ?_⟩
    · intro id e he
      cases he
    · intro id e he
      cases he
    · intro id e he
      cases he
    · intro e he
      cases he
  | call c h ih =>
    obtain ⟨hx, hold⟩ := ih
    obtain ⟨hy, hnew⟩ := call_dated codec render hx c
    refine ⟨hy, ?_⟩
    intro e he
    rcases List.mem_cons.mp he with rfl | he
    · exact hnew
    · exact hold e he

lemma redated {run : DetectionRun} (h : run.startedAt = t ∧ run.completedAt = t) :
    { run.undated with startedAt := t, completedAt := t } = run := by
  obtain ⟨rfl, hcompleted⟩ := h
  cases run
  simp only at hcompleted
  subst hcompleted
  rfl

/-- Lists of the same contents and of the same instants are the same. -/
lemma eq_of_undated {α : Type} {view : α → α} (redate : α → α) {l l' : Except Raised (List α)}
    (h : l.map (List.map view) = l'.map (List.map view))
    (hl : ∀ a, l = .ok a → ∀ e ∈ a, redate (view e) = e)
    (hl' : ∀ a, l' = .ok a → ∀ e ∈ a, redate (view e) = e) : l = l' := by
  have hback : ∀ a : List α, (∀ e ∈ a, redate (view e) = e) → (a.map view).map redate = a := by
    intro a ha
    rw [List.map_map]
    exact (List.map_congr_left ha).trans (List.map_id a)
  cases l with
  | error e =>
    cases l' with
    | error e' => exact congrArg Except.error (Except.error.inj h)
    | ok a' => cases h
  | ok a =>
    cases l' with
    | error e' => cases h
    | ok a' =>
      have hviews : a.map view = a'.map view := Except.ok.inj h
      rw [← hback a (hl a rfl), ← hback a' (hl' a' rfl), hviews]

lemma mem_reads {α : Type} {d : Dict String α} {own : α → Bool} {r : α → α → Prop}
    [DecidableRel r] {u : Except Raised Unit} {l : List α} {e : α}
    (h : (u >>= fun _ => .ok ((d.values.filter own).insertionSort r)) = .ok l) (he : e ∈ l) :
    ∃ k, d.find? k = some e := by
  obtain ⟨-, -, h⟩ := bind_eq_ok.mp h
  rw [← Except.ok.inj h, List.mem_insertionSort] at he
  exact Dict.mem_values_iff_find?.mp (List.mem_filter.mp he).1

end Dated

/-- The runs of a scope return the same in both histories, and so do the reads, up to instants. -/
structure Isolated (s : Scope) (es es' : List EngineEntry) (x x' : DetectionEngine) : Prop where
  outcomes : List.Forall₂ (SameOutcome s) (steps es) (steps es')
  evaluations : (x.evaluationsOf (some s)).map (List.map DetectionEvaluation.undated) =
    (x'.evaluationsOf (some s)).map (List.map DetectionEvaluation.undated)
  signals : (x.signalsOf (some s)).map (List.map DetectionSignal.undated) =
    (x'.signalsOf (some s)).map (List.map DetectionSignal.undated)
  runs : (x.runsOf (some s)).map (List.map DetectionRun.undated) =
    (x'.runsOf (some s)).map (List.map DetectionRun.undated)

structure IsolatedExactly (s : Scope) (es es' : List EngineEntry) (x x' : DetectionEngine) : Prop where
  outcomes : List.Forall₂ (fun e e' => ∀ ref requested version, e.call = .run ref requested version →
    (requested <|> e.before.scope) = some s → e.outcome = e'.outcome) (steps es) (steps es')
  evaluations : x.evaluationsOf (some s) = x'.evaluationsOf (some s)
  signals : x.signalsOf (some s) = x'.signalsOf (some s)
  runs : x.runsOf (some s) = x'.runsOf (some s)

section Isolation

variable {codec : Codec} {render : Value → String} {s : Scope} {view scope : Option Scope}
  {clock clock' : ℕ → Datetime} {es es' : List EngineEntry} {x x' : DetectionEngine} {t : Datetime}

/-- Where both clocks stand at one instant, nothing differs at all. -/
lemma Isolated.exactly (h : Isolated s es es' x x') (hx : Dated t x) (hx' : Dated t x')
    (hes : ∀ e ∈ es, ∀ run, e.outcome = .ran (.ok run) → run.startedAt = t ∧ run.completedAt = t)
    (hes' : ∀ e ∈ es', ∀ run, e.outcome = .ran (.ok run) → run.startedAt = t ∧ run.completedAt = t) :
    IsolatedExactly s es es' x x' where
  outcomes := by
    refine List.forall₂_iff_zip.mpr ⟨h.outcomes.length_eq, ?_⟩
    intro e e' hzip ref requested version hcall hscope
    have hsame := List.forall₂_zip h.outcomes hzip
    obtain ⟨he, he'⟩ := List.of_mem_zip hzip
    have hdated := hes e (List.mem_filter.mp he).1
    have hdated' := hes' e' (List.mem_filter.mp he').1
    obtain ⟨r, r', hr, hr', heq⟩ := hsame ref requested version hcall hscope
    rw [hr, hr']
    rw [hr] at hdated
    rw [hr'] at hdated'
    cases r with
    | error a =>
      cases r' with
      | error a' => exact congrArg (EngineAnswer.ran ∘ Except.error) (Except.error.inj heq)
      | ok run' => cases heq
    | ok run =>
      cases r' with
      | error a' => cases heq
      | ok run' =>
        have hundated : run.undated = run'.undated := Except.ok.inj heq
        rw [← redated (hdated run rfl), ← redated (hdated' run' rfl), hundated]
  evaluations := by
    refine eq_of_undated (fun e => { e with evaluatedAt := t }) h.evaluations ?_ ?_
    · intro l hl e he
      obtain ⟨k, hk⟩ := mem_reads (u := x.requireScope s) hl he
      rw [← hx.evaluations k e hk]
      rfl
    · intro l hl e he
      obtain ⟨k, hk⟩ := mem_reads (u := x'.requireScope s) hl he
      rw [← hx'.evaluations k e hk]
      rfl
  signals := by
    refine eq_of_undated (fun e => { e with detectedAt := t }) h.signals ?_ ?_
    · intro l hl e he
      obtain ⟨k, hk⟩ := mem_reads (u := x.requireScope s) hl he
      rw [← hx.signals k e hk]
      rfl
    · intro l hl e he
      obtain ⟨k, hk⟩ := mem_reads (u := x'.requireScope s) hl he
      rw [← hx'.signals k e hk]
      rfl
  runs := by
    refine eq_of_undated (fun e => { e with startedAt := t, completedAt := t }) h.runs ?_ ?_
    · intro l hl e he
      obtain ⟨k, hk⟩ := mem_reads (u := x.requireScope s) hl he
      exact redated (hx.runs k e hk)
    · intro l hl e he
      obtain ⟨k, hk⟩ := mem_reads (u := x'.requireScope s) hl he
      exact redated (hx'.runs k e hk)

theorem scope_isolated
    (h : Foundations.History (EngineCall.exec codec render) (newEngine view scope clock) es x)
    (h' : Foundations.History (EngineCall.exec codec render) (newEngine view scope clock') es' x')
    (hapart : NamesApart codec render es) (hapart' : NamesApart codec render es')
    (hagree : Agree s es es') : Isolated s es es' x x' ∧
      ∀ t, (∀ n, clock n = t) → (∀ n, clock' n = t) → IsolatedExactly s es es' x x' := by
  obtain ⟨halike, houtcomes⟩ := history_alike h h' hapart hapart' hagree
  obtain ⟨hevaluations, hsignals, hruns⟩ :=
    reads_alike (history_derived h) (history_derived h') halike
  have hisolated : Isolated s es es' x x' := ⟨houtcomes, hevaluations, hsignals, hruns⟩
  refine ⟨hisolated, ?_⟩
  intro t hclock hclock'
  obtain ⟨hx, hes⟩ := history_dated hclock h
  obtain ⟨hx', hes'⟩ := history_dated hclock' h'
  exact hisolated.exactly hx hx' hes hes'

end Isolation

section Example

def otherScope : Scope := ⟨"CL-2", "EN-1", "TG-1", by decide⟩

def otherEvent : SecurityEvent :=
  { toolEvent with
    eventId := "SE-cb561bee440709a58f424a1b94f964fd"
    scope := otherScope
    rawEvidenceRef := "EV-2"
    provenance := ⟨"R-2", "agent", "1", "EV-2", "d1", by decide⟩
    nonblank := by decide
    evidence := by decide }

/-- The documents of the other scope with their digests. -/
def otherDigests : List (Value × String) :=
  [(.arr (identity otherScope toolVersion [] "c1"),
      "56d590bec00bd3c1a9d119bfab86d7b8e91f35f74da9bc0bfaac699ed775f76f"),
    (.arr (identity otherScope toolVersion [otherEvent.eventId] "c1"),
      "9d68f03c609b5f59c0f39a838480f05d6aebd6498a79c05407965cab347ab283"),
    (.arr [evaluationKey otherScope toolVersion "RUN-9d68f03c609b5f59c0f39a838480f05d"
        [otherEvent.eventId] .match "c1"],
      "cb215561b5b0ab93956f903d3e4e0dbd12bcc66fabfb0d849a9f74ec6ae9b6b8"),
    (evaluationKey otherScope toolVersion "RUN-9d68f03c609b5f59c0f39a838480f05d"
        [otherEvent.eventId] .match "c1",
      "b3ba236c6de88bc8a7776cb68985f4e3ded02b2785a0125a80eb14e48f3cef52"),
    (.obj [("source", .str "agent"), ("source_record_id", .str "R-2"),
        ("occurred_at", .str "1970-01-01T00:00:00+00:00"), ("source_digest", .str "d1")],
      "cb561bee440709a58f424a1b94f964fdbd8b7f3552f5251abc4d6e00cf209921"),
    (otherEvent.canonicalDict toolDigests,
      "579f8090997e583cc058771e9935f4fb279604ba8586220313774d6f0555aee3")]

def sharedDigests : Codec :=
  { toolDigests with
    contentDigest v := (otherDigests.lookup v).getD (toolDigests.contentDigest v) }

/-- Both scopes run the rule, and the event of the first arrives. -/
def quietHistory : List EngineEntry × DetectionEngine :=
  Foundations.History.ofCalls (EngineCall.exec sharedDigests toolText) (newEngine none none fun n => n)
    [.run (.rule toolRule) (some toolScope) none, .run (.rule toolRule) (some otherScope) none,
      .arrive toolEvent]

/-- The same, and an event of the other scope arrives first. -/
def busyHistory : List EngineEntry × DetectionEngine :=
  Foundations.History.ofCalls (EngineCall.exec sharedDigests toolText)
    (newEngine none none fun n => n + 1)
    [.run (.rule toolRule) (some toolScope) none, .run (.rule toolRule) (some otherScope) none,
      .arrive toolEvent, .arrive otherEvent]

lemma sameEvents_of_rows {s : Scope} {x x' : DetectionEngine}
    (h : x.events.plane.events.rows.filter (fun e => e.2.scope = s) =
      x'.events.plane.events.rows.filter fun e => e.2.scope = s) : SameEvents s x x' := by
  intro id e hscope
  have hmem : ∀ y : DetectionEngine, y.events.plane.events.find? id = some e ↔
      (id, e) ∈ y.events.plane.events.rows.filter fun e => e.2.scope = s := by
    intro y
    rw [Dict.find?_eq_some_iff, Table.mem_def, List.mem_filter]
    simp [hscope]
  rw [hmem x, hmem x', h]

theorem tool_isolated :
    quietHistory.2.signals.values.map (·.eventIds) = [[toolEvent.eventId]] ∧
      busyHistory.2.signals.values.map (·.eventIds) =
        [[toolEvent.eventId], [otherEvent.eventId]] ∧
      Isolated toolScope quietHistory.1 busyHistory.1 quietHistory.2 busyHistory.2 := by
  refine ⟨by decide +kernel, by decide +kernel, (scope_isolated
    (Foundations.History.ofCalls_history _) (Foundations.History.ofCalls_history _)
    (namesApart_of_documents (by decide +kernel)) (namesApart_of_documents (by decide +kernel))
    ?_).1⟩
  refine List.Forall₂.cons ⟨rfl, sameEvents_of_rows (by decide +kernel)⟩
    (List.Forall₂.cons ⟨rfl, sameEvents_of_rows (by decide +kernel)⟩ List.Forall₂.nil)

end Example

end SecScanMonitor.DetectionResponse
