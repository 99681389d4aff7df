import SecScanMonitor.Application.Replay
import SecScanMonitor.Persistence.WorkProtocol

/-! No detection is lost or duplicated, whatever the order of ingests, dispatches and stops: the
invariant of the store and of every running dispatch, one step of the system, and whole runs. -/

namespace SecScanMonitor.Application

open Foundations Domain DetectionResponse ContinuousSecurity Persistence

variable {codec : Codec} {render : Value → String} {s : Scope} {db db' : Database}

/-- The digest does not collide on the documents that name outputs of the registered rules over the
stored events. -/
def Unambiguous (codec : Codec) (render : Value → String) (s : Scope) (db : Database) : Prop :=
  CollisionFree codec render s (rulesOf db) (Readings codec s db.securityEvents.rows)

/-- The stored signal of a matching rule is among `signalIds`. -/
def Covers (render : Value → String) (db : Database) (v : DetectionRuleVersion) (e : SecurityEvent)
    (signalIds : List String) : Prop :=
  e.sourceFamily ∈ v.supportedSourceFamilies → (verdict render v e).1 = true →
    ∃ y ∈ db.detectionSignals, y.ruleId = v.ruleId ∧ y.eventIds = [e.eventId] ∧ y.signalId ∈ signalIds

/-- The stored event of a work item. -/
def Assigned (codec : Codec) (db : Database) (workId : String) (e : SecurityEvent) : Prop :=
  e ∈ db.securityEvents ∧ ∃ w ∈ db.detectionWorkItems, w.workId = workId ∧ Tracks codec w e

/-- The engine is one over stored events, among them `e`. -/
structure Sees (codec : Codec) (render : Value → String) (s : Scope) (db : Database)
    (engine : DetectionEngine) (e : SecurityEvent) : Prop where
  canonical : Canonical codec render s (rulesOf db) (Readings codec s db.securityEvents.rows) engine
  seen : ∀ events, engine.events.events (some s) = .ok events → e ∈ events

/-- How far the rules have been covered for the item of a dispatch. -/
def Progress (codec : Codec) (render : Value → String) (s : Scope) (db : Database) (workId : String) :
    Phase → Prop
  | .claimed | .failing _ => True
  | .loaded engine => ∃ e, Assigned codec db workId e ∧ Sees codec render s db engine e
  | .running engine remaining _ signalIds =>
    ∃ e, Assigned codec db workId e ∧ Sees codec render s db engine e ∧
      ∃ done, activeRules codec db = .ok (done ++ remaining) ∧
        ∀ r ∈ done, Covers render db r.1.active e signalIds

structure Process.Sound (codec : Codec) (render : Value → String) (s : Scope) (db : Database)
    (p : Process) : Prop where
  claimed : ∀ w ∈ p.work :: p.rest, w.scope = s ∧ ∃ e, Assigned codec db w.workId e
  progress : Progress codec render s db p.work.workId p.phase

/-- The invariant of the store. -/
structure Sound (codec : Codec) (render : Value → String) (s : Scope) (db : Database) : Prop where
  tracked : Tracked codec db
  inScope : ∀ e ∈ db.securityEvents, e.scope = s ∧ validateEngagementScope db s = .ok ()
  bound : ∀ row ∈ db.detectionRuleVersions, Bound codec db.detectionPlans row
  stored : Stored codec render s (rulesOf db) (Readings codec s db.securityEvents.rows) db
  live : ∀ x ∈ db.detectionSignals, ∃ all, activeRules codec db = .ok all
  completed : ∀ w ∈ db.detectionWorkItems, w.status = .completed →
    ∃ e ∈ db.securityEvents, Tracks codec w e ∧
      ∀ row ∈ db.detectionRuleVersions, Covers render db row.rule e w.signalIds

/-- What every transaction of the system keeps. -/
structure Grows (codec : Codec) (db db' : Database) : Prop where
  versions : db'.detectionRuleVersions = db.detectionRuleVersions
  events : db.securityEvents.rows <:+ db'.securityEvents.rows
  signals : db'.detectionSignals.Extends db.detectionSignals
  items : ∀ w ∈ db.detectionWorkItems, ∃ w' ∈ db'.detectionWorkItems,
    w'.workId = w.workId ∧ ∀ e, Tracks codec w e → Tracks codec w' e

section Growth

lemma Grows.refl (db : Database) : Grows codec db db :=
  ⟨rfl, List.suffix_refl _, .refl _, fun w hw => ⟨w, hw, rfl, fun _ h => h⟩⟩

variable (hg : Grows codec db db')

include hg

lemma Grows.rules : rulesOf db' = rulesOf db := by
  rw [rulesOf, hg.versions]
  rfl

lemma Grows.live : activeRules codec db' = activeRules codec db := by
  rw [activeRules, hg.versions]
  rfl

lemma Grows.covers {v : DetectionRuleVersion} {e : SecurityEvent} {signalIds : List String}
    (h : Covers render db v e signalIds) : Covers render db' v e signalIds := by
  intro hfamily hmatch
  obtain ⟨y, hy, hrest⟩ := h hfamily hmatch
  exact ⟨y, hg.signals y hy, hrest⟩

lemma Grows.assigned {workId : String} {e : SecurityEvent} (h : Assigned codec db workId e) :
    Assigned codec db' workId e := by
  obtain ⟨he, w, hw, hid, htracks⟩ := h
  obtain ⟨w', hw', hid', hkeeps⟩ := hg.items w hw
  exact ⟨hg.events.mem he, w', hw', hid'.trans hid, hkeeps e htracks⟩

lemma Grows.sees {engine : DetectionEngine} {e : SecurityEvent}
    (h : Sees codec render s db engine e) : Sees codec render s db' engine e := by
  refine ⟨?_, h.seen⟩
  rw [hg.rules]
  exact h.canonical.mono (Readings.mono hg.events)

lemma Grows.process {p : Process} (h : p.Sound codec render s db) : p.Sound codec render s db' := by
  constructor
  · intro w hw
    obtain ⟨hscope, e, he⟩ := h.claimed w hw
    exact ⟨hscope, e, hg.assigned he⟩
  · have hprogress := h.progress
    unfold Progress at hprogress ⊢
    split at hprogress
    · trivial
    · trivial
    · obtain ⟨e, he, hsees⟩ := hprogress
      exact ⟨e, hg.assigned he, hg.sees hsees⟩
    · obtain ⟨e, he, hsees, done, hlive, hdone⟩ := hprogress
      refine ⟨e, hg.assigned he, hg.sees hsees, done, ?_, fun r hr => hg.covers (hdone r hr)⟩
      rw [hg.live]
      exact hlive

end Growth

section Calls

variable {call : WorkCall} {rows : List DetectionWorkItemRow}

lemma exec_grows (h : call.exec codec db = .ok (rows, db')) : Grows codec db db' := by
  have htransition := exec_transition h
  obtain ⟨⟨events, work, rfl⟩, -⟩ := exec_frame h
  refine ⟨rfl, htransition.events, .refl _, fun w hw => ?_⟩
  obtain ⟨w', hw', hchange⟩ := htransition.items w hw
  exact ⟨w', hw', hchange.workId, fun e => hchange.tracks.mpr⟩

/-- A call on the queue keeps the invariant, if an ingest is one of the scope and a completion lists the
signals of every live rule. -/
lemma exec_sound (hdb : Sound codec render s db) (h : call.exec codec db = .ok (rows, db'))
    (hingest : ∀ now event, call = .ingestEvent now event → event.scope = s)
    (hcomplete : ∀ now workId worker runIds signalIds,
      call = .completeWork now workId worker runIds signalIds →
      ∃ e, Assigned codec db workId e ∧
        ∀ row ∈ db.detectionRuleVersions, Covers render db row.rule e signalIds.eraseDups) :
    Sound codec render s db' := by
  have htransition := exec_transition h
  have hg := exec_grows h
  have htracked := hdb.tracked.transition htransition
  obtain ⟨⟨events, work, heq⟩, hkept⟩ := exec_frame h
  have hvalidate : validateEngagementScope db' s = validateEngagementScope db s := by
    rw [heq]
    rfl
  have hitems : ∀ w ∈ db'.detectionWorkItems, w.scope = s := by
    intro w hw
    rcases htransition.newItem w hw with ⟨w₀, hw₀, hchange⟩ | ⟨now, event, hcall, rfl, -, -⟩
    · obtain ⟨e, he, ht⟩ := hdb.tracked.items w₀ hw₀
      rw [hchange.scope, ht.scope]
      exact (hdb.inScope e he).1
    · exact hingest now event hcall
  refine ⟨htracked, ?_, ?_, ?_, ?_, ?_⟩
  · intro e he
    obtain ⟨w, hw, ht⟩ := htracked.events e he
    refine ⟨ht.scope.symm.trans (hitems w hw), ?_⟩
    rw [hvalidate]
    rcases hkept with hsame | ⟨now, event, hcall, hscope⟩
    · rw [hsame] at he
      exact (hdb.inScope e he).2
    · rw [hingest now event hcall] at hscope
      exact hscope
  · rw [heq]
    exact hdb.bound
  · have hstored := hdb.stored.mono (Readings.mono hg.events)
    rw [hg.rules, heq] at *
    exact ⟨hstored.runs, hstored.evaluations, hstored.signals⟩
  · rw [hg.live, heq]
    exact hdb.live
  · intro w hw hdone
    rcases htransition.newItem w hw with ⟨w₀, hw₀, hchange⟩ | ⟨now, event, hcall, rfl, -, -⟩
    · cases hchange with
      | kept =>
        obtain ⟨e, he, ht, hcovers⟩ := hdb.completed w hw₀ hdone
        refine ⟨e, hg.events.mem he, ht, ?_⟩
        rw [hg.versions]
        exact fun row hrow => hg.covers (hcovers row hrow)
      | reopened => cases hdone
      | claimed => cases hdone
      | failed => cases hdone
      | @completed now worker runIds signalIds hcall hlease =>
        obtain ⟨e, ⟨he, w₁, hw₁, hid, ht⟩, hcovers⟩ := hcomplete _ _ _ _ _ hcall
        obtain rfl := Table.eq_of_key_eq hw₁ hw₀ hid
        refine ⟨e, hg.events.mem he, ⟨ht.event, ht.scope, ht.fingerprint⟩, ?_⟩
        rw [hg.versions]
        exact fun row hrow => hg.covers (hcovers row hrow)
    · cases hdone

end Calls

section Persist

/-- What the engine of a dispatch emits for a live rule is accepted, and then the rule is covered. -/
lemma persist_sound (hfree : Unambiguous codec render s db) (hdb : Sound codec render s db)
    {all : List (DetectionRule × DetectionPlan)} (hlive : activeRules codec db = .ok all)
    {rule : DetectionRule} {plan : DetectionPlan} (hmem : (rule, plan) ∈ all)
    {engine engine' : DetectionEngine} {e : SecurityEvent} (he : e ∈ db.securityEvents)
    (hsees : Sees codec render s db engine e) {out : Outputs}
    (h : detect codec render s rule plan engine = .ok (out, engine')) :
    ∃ db', persistDetectionOutputs codec rule plan out.run out.evaluations out.signals db =
        .ok ((), db') ∧
      Grows codec db db' ∧ Sound codec render s db' ∧ Sees codec render s db' engine' e ∧
      Covers render db' rule.active e out.run.signalIds := by
  obtain ⟨hread, -⟩ := activeRules_eq_ok hlive
  obtain ⟨row, hrow, howner, hpair⟩ := hread _ hmem
  obtain ⟨rfl, rfl⟩ := Prod.mk.inj hpair
  have hbound := hdb.bound row hrow
  have hactive := liveRule_active row.rule howner
  obtain ⟨hcanonical, hevents, events, hhistory, hreading, hdetected⟩ := detect_canonical hfree
    named_of_tables hsees.canonical (hactive.symm ▸ mem_rulesOf hrow)
    (hactive.symm ▸ hbound.matching) h
  rw [hactive] at hdetected ⊢
  obtain ⟨started, completed, hrun⟩ := hdetected.run
  have hinput : Input (rulesOf db) (Readings codec s db.securityEvents.rows) row.rule
      (sourcesOf row.rule events) := ⟨mem_rulesOf hrow, events, hhistory, rfl⟩
  obtain ⟨runs, rows, sent, hpersist, hruns, hrows, hsent, hlisted⟩ :=
    persist_accepts hfree named_of_tables hdb.stored hrow hbound howner (hdb.inScope e he).2
      ⟨row.rule, _, hinput, started, completed, hrun⟩ (by rw [hrun]; rfl) hdetected.evaluations
      hdetected.signals
  have hsignals : ∀ x ∈ db.detectionSignals, x ∈ sent := (persist_appends hpersist).signals
  refine ⟨_, hpersist, ⟨rfl, List.suffix_refl _, hsignals, fun w hw => ⟨w, hw, rfl, fun _ h => h⟩⟩,
    ⟨⟨hdb.tracked.events, hdb.tracked.items, hdb.tracked.single, hdb.tracked.leased⟩, hdb.inScope,
      hdb.bound, ⟨hruns, hrows, hsent⟩, fun _ _ => ⟨all, hlive⟩, ?_⟩,
    ⟨hcanonical, ?_⟩, ?_⟩
  · intro w hw hdone
    obtain ⟨e', he', ht, hcovers⟩ := hdb.completed w hw hdone
    refine ⟨e', he', ht, fun row hrow hfamily hmatch => ?_⟩
    obtain ⟨y, hy, hrest⟩ := hcovers row hrow hfamily hmatch
    exact ⟨y, hsignals y hy, hrest⟩
  · rw [hevents]
    exact hsees.seen
  · intro hfamily hmatch
    have hsource : e ∈ sourcesOf row.rule events :=
      List.mem_filter.mpr ⟨hsees.seen events hreading, decide_eq_true hfamily⟩
    have hid : signalIdOf codec s row.rule e ∈ out.run.signalIds := by
      rw [hrun]
      apply List.mem_eraseDups.mpr
      exact List.mem_map_of_mem (List.mem_filter.mpr ⟨hsource, hmatch⟩)
    obtain ⟨x, hx, hxid⟩ := hdetected.listed _ hid
    obtain ⟨y, hy, hyid⟩ := hlisted x hx
    have hyid' : y.signalId = signalIdOf codec s row.rule e := hyid.trans hxid
    refine ⟨y, hy, ?_, ?_, hyid'.symm ▸ hid⟩ <;>
      obtain ⟨w, sources, hinput', e', he', -, at_, rfl⟩ := hsent y hy <;>
      obtain ⟨rfl, rfl⟩ := signal_identity hfree named_of_tables hinput' hinput he' hsource hyid' <;>
      rfl

end Persist

section Advance

variable {p : Process}

lemma Process.Sound.goto (hp : p.Sound codec render s db) {phase : Phase}
    (hphase : Progress codec render s db p.work.workId phase) :
    (p.goto phase).Sound codec render s db :=
  ⟨hp.claimed, hphase⟩

lemma Process.sound_start {items : List DetectionWorkItemRow} {q : Process}
    (hitems : ∀ w ∈ items, w.scope = s ∧ ∃ e, Assigned codec db w.workId e)
    (h : Process.start items = some q) : q.Sound codec render s db := by
  cases items with
  | nil => cases h
  | cons w rest =>
    obtain rfl := Option.some.inj h
    exact ⟨hitems, trivial⟩

lemma rebuild_sees {engine : DetectionEngine} {clock : ℕ → Datetime} {e : SecurityEvent}
    (he : e ∈ db.securityEvents) (hscope : e.scope = s)
    (h : rebuild codec s (loadEvents s db) clock = .ok engine) : Sees codec render s db engine e := by
  obtain ⟨i, read, hingest, hread, rfl⟩ := rebuild_eq_ok h
  refine ⟨Canonical.init ⟨db.securityEvents.rows, List.suffix_refl _, i, hingest, hread⟩ hread, ?_⟩
  intro events hevents
  exact (rebuilt_events db.securityEvents.nodup hingest hevents e).mpr ⟨he, hscope⟩

lemma completed_sound (hdb : Sound codec render s db) {now : Datetime} {workId worker : String}
    {runIds signalIds : List String} {r : DetectionWorkItemRow} {e : SecurityEvent}
    (he : Assigned codec db workId e)
    (hcovers : ∀ row ∈ db.detectionRuleVersions, Covers render db row.rule e signalIds.eraseDups)
    (h : completeWork now workId worker runIds signalIds db = .ok (r, db')) :
    Grows codec db db' ∧ Sound codec render s db' := by
  have hexec : (WorkCall.completeWork now workId worker runIds signalIds).exec codec db =
      .ok ([r], db') := map_eq_ok.mpr ⟨(r, db'), h, rfl⟩
  refine ⟨exec_grows hexec, exec_sound hdb hexec ?_ ?_⟩
  · intro now event hcall
    cases hcall
  · intro now workId worker runIds signalIds hcall
    cases hcall
    exact ⟨e, he, hcovers⟩

lemma failed_sound (hdb : Sound codec render s db) (now : Datetime)
    (workId worker errorType : String) :
    Grows codec db (committed db (failWork now workId worker errorType db)) ∧
      Sound codec render s (committed db (failWork now workId worker errorType db)) := by
  cases hfailed : failWork now workId worker errorType db with
  | error error => exact ⟨.refl db, hdb⟩
  | ok r =>
    obtain ⟨row, db'⟩ := r
    have hexec : (WorkCall.failWork now workId worker errorType).exec codec db =
        .ok ([row], db') := map_eq_ok.mpr ⟨(row, db'), hfailed, rfl⟩
    change Grows codec db db' ∧ Sound codec render s db'
    refine ⟨exec_grows hexec, exec_sound hdb hexec ?_ ?_⟩
    · intro now event hcall
      cases hcall
    · intro now workId worker runIds signalIds hcall
      cases hcall

/-- Every transaction of a dispatch keeps the invariant, and so does the dispatch that goes on. -/
lemma advance_sound (hfree : Unambiguous codec render s db) (hdb : Sound codec render s db)
    (hp : p.Sound codec render s db) (clock : ℕ → Datetime) (now : Datetime) :
    Grows codec db (p.advance codec render clock now db).1 ∧
      Sound codec render s (p.advance codec render clock now db).1 ∧
      ∀ q, (p.advance codec render clock now db).2 = some q →
        q.Sound codec render s (p.advance codec render clock now db).1 := by
  obtain ⟨hscope, e₀, he₀⟩ := hp.claimed p.work List.mem_cons_self
  have hprogress := hp.progress
  have hstay : ∀ phase, Progress codec render s db p.work.workId phase →
      Grows codec db db ∧ Sound codec render s db ∧
        ∀ q, some (p.goto phase) = some q → q.Sound codec render s db := by
    intro phase hphase
    refine ⟨.refl db, hdb, fun q hq => ?_⟩
    obtain rfl := Option.some.inj hq
    exact hp.goto hphase
  have hfail : ∀ error, Grows codec db db ∧ Sound codec render s db ∧
      ∀ q, some (p.failed error) = some q → q.Sound codec render s db :=
    fun error => hstay _ trivial
  unfold Process.advance
  split
  · rw [hscope]
    split
    · rename_i engine hrebuild
      exact hstay _ ⟨e₀, he₀, rebuild_sees he₀.1 (hdb.inScope e₀ he₀.1).1 hrebuild⟩
    · exact hfail _
  · rename_i engine hphase
    rw [hphase] at hprogress
    obtain ⟨e, he, hsees⟩ := hprogress
    split
    · rename_i rules hrules
      refine hstay _ ⟨e, he, hsees, [], ?_, fun r hr => absurd hr List.not_mem_nil⟩
      rw [List.nil_append]
      exact hrules
    · exact hfail _
  · rename_i engine rule plan remaining runIds signalIds hphase
    rw [hphase] at hprogress
    obtain ⟨e, he, hsees, done, hlive, hdone⟩ := hprogress
    rw [hscope]
    split
    · exact hfail _
    rename_i out engine' hdetect
    obtain ⟨db', hpersist, hg, hdb', hsees', hcovers⟩ :=
      persist_sound hfree hdb hlive (by simp) he.1 hsees hdetect
    rw [hpersist]
    refine ⟨hg, hdb', fun q hq => ?_⟩
    obtain rfl := Option.some.inj hq
    refine (hg.process hp).goto ⟨e, hg.assigned he, hsees', done ++ [(rule, plan)], ?_, ?_⟩
    · rw [hg.live, hlive, List.append_assoc]
      rfl
    · intro r hr hfamily hmatch
      rcases List.mem_append.mp hr with hr | hr
      · obtain ⟨y, hy, hrule, hevent, hid⟩ := hg.covers (hdone r hr) hfamily hmatch
        exact ⟨y, hy, hrule, hevent, List.mem_append_left _ hid⟩
      · obtain rfl := List.mem_singleton.mp hr
        obtain ⟨y, hy, hrule, hevent, hid⟩ := hcovers hfamily hmatch
        exact ⟨y, hy, hrule, hevent, List.mem_append_right _ hid⟩
  · rename_i engine runIds signalIds hphase
    rw [hphase] at hprogress
    obtain ⟨e, he, -, done, hlive, hdone⟩ := hprogress
    split
    · exact hfail _
    rename_i r db' hcomplete
    have hcovers : ∀ row ∈ db.detectionRuleVersions,
        Covers render db row.rule e signalIds.eraseDups.eraseDups := by
      intro row hrow hfamily hmatch
      obtain ⟨r, hr, hactive⟩ :=
        (activeRules_eq_ok hlive).2 row hrow (hdb.bound row hrow).active
      rw [List.append_nil] at hr
      rw [← hactive] at hfamily hmatch ⊢
      obtain ⟨y, hy, hrule, hevent, hid⟩ := hdone r hr hfamily hmatch
      exact ⟨y, hy, hrule, hevent, List.mem_eraseDups.mpr (List.mem_eraseDups.mpr hid)⟩
    obtain ⟨hg, hdb'⟩ := completed_sound hdb he hcovers hcomplete
    refine ⟨hg, hdb', fun q hq => Process.sound_start (fun w hw => ?_) hq⟩
    exact (hg.process hp).claimed w (List.mem_cons_of_mem p.work hw)
  · rename_i errorType hphase
    obtain ⟨hg, hdb'⟩ := failed_sound hdb now p.work.workId p.workerId errorType
    refine ⟨hg, hdb', fun q hq => ?_⟩
    exact absurd hq (Option.some_ne_none q).symm

end Advance

section Steps

variable {st st' : System}

lemma advance_appends (p : Process) (clock : ℕ → Datetime) (now : Datetime) :
    Appends db (p.advance codec render clock now db).1 := by
  unfold Process.advance
  split
  · split <;> exact .refl db
  · split <;> exact .refl db
  · split
    · exact .refl db
    split
    · exact .refl db
    · rename_i hpersist
      exact persist_appends hpersist
  · split
    · exact .refl db
    · rename_i runIds signalIds hphase _ r db' hcomplete
      have hexec : (WorkCall.completeWork now p.work.workId p.workerId runIds
          signalIds.eraseDups).exec codec db = .ok ([r], db') :=
        map_eq_ok.mpr ⟨(r, db'), hcomplete, rfl⟩
      exact exec_appends hexec
  · rename_i errorType hphase
    cases hfailed : failWork now p.work.workId p.workerId errorType db with
    | error error => exact .refl db
    | ok r =>
      obtain ⟨row, db'⟩ := r
      have hexec : (WorkCall.failWork now p.work.workId p.workerId errorType).exec codec db =
          .ok ([row], db') := map_eq_ok.mpr ⟨(row, db'), hfailed, rfl⟩
      exact exec_appends hexec

lemma step_appends (h : Step codec render s st st') : Appends st.db st'.db := by
  cases h with
  | @ingest now event r db db' processes _ hingest =>
    have hexec : (WorkCall.ingestEvent now event).exec codec db = .ok ([r.1], db') :=
      map_eq_ok.mpr ⟨(r, db'), hingest, rfl⟩
    exact exec_appends hexec
  | claim _ hexec => exact exec_appends hexec
  | work => exact advance_appends _ _ _
  | stop => exact .refl _

lemma run_appends (h : Run (Step codec render s) st st') : Appends st.db st'.db := by
  induction h with
  | refl => exact .refl _
  | tail _ hstep ih => exact ih.trans (step_appends hstep)

lemma Unambiguous.mono (h : Unambiguous codec render s db') (happends : Appends db db') :
    Unambiguous codec render s db := by
  refine CollisionFree.mono h (fun v hv => ?_) (Readings.mono happends.events)
  obtain ⟨row, hrow, rfl⟩ := List.mem_map.mp hv
  exact mem_rulesOf (happends.versions row hrow)

/-- The invariant of the system. -/
structure Healthy (codec : Codec) (render : Value → String) (s : Scope) (st : System) : Prop where
  db : Sound codec render s st.db
  processes : ∀ p ∈ st.processes, p.Sound codec render s st.db

lemma step_healthy (hfree : Unambiguous codec render s st.db) (hst : Healthy codec render s st)
    (h : Step codec render s st st') : Healthy codec render s st' := by
  cases h with
  | @ingest now event r db db' processes hscope hingest =>
    have hexec : (WorkCall.ingestEvent now event).exec codec db = .ok ([r.1], db') :=
      map_eq_ok.mpr ⟨(r, db'), hingest, rfl⟩
    refine ⟨exec_sound hst.db hexec ?_ ?_, fun p hp => (exec_grows hexec).process (hst.processes p hp)⟩
    · intro now' event' hcall
      cases hcall
      exact hscope
    · intro now workId worker runIds signalIds hcall
      cases hcall
  | @claim call worker now rows db db' processes hcall hexec =>
    have hdb' : Sound codec render s db' := by
      refine exec_sound hst.db hexec ?_ ?_
      · rintro now' event rfl
        cases hcall
      · rintro now' workId worker' runIds signalIds rfl
        cases hcall
    refine ⟨hdb', fun p hp => ?_⟩
    rcases List.mem_append.mp hp with hnew | hold
    · refine Process.sound_start (fun w hw => ?_) (Option.mem_toList.mp hnew)
      have hmem : w ∈ db'.detectionWorkItems := by
        rcases exec_hands_out hst.db.tracked hexec hcall hw with ⟨hsame, hmem, -⟩ | ⟨hmem, -⟩
        · rw [hsame]
          exact hmem
        · exact hmem
      obtain ⟨e, he, ht⟩ := hdb'.tracked.items w hmem
      exact ⟨ht.scope.trans (hdb'.inScope e he).1, e, he, w, hmem, rfl, ht⟩
    · exact (exec_grows hexec).process (hst.processes p hold)
  | @work clock now p db before after =>
    obtain ⟨hg, hdb', hnext⟩ :=
      advance_sound hfree hst.db (hst.processes p (by simp)) clock now
    refine ⟨hdb', fun q hq => ?_⟩
    simp only [List.mem_append, Option.mem_toList] at hq
    rcases hq with (hq | hq) | hq
    · exact hg.process (hst.processes q (List.mem_append_left _ hq))
    · exact hnext q hq
    · exact hg.process (hst.processes q (List.mem_append_right _ (List.mem_cons_of_mem p hq)))
  | @stop p db before after =>
    refine ⟨hst.db, fun q hq => hst.processes q ?_⟩
    rcases List.mem_append.mp hq with hq | hq
    · exact List.mem_append_left _ hq
    · exact List.mem_append_right _ (List.mem_cons_of_mem p hq)

/-- The rules are registered, and nothing has happened yet. -/
def Deployed (codec : Codec) (st : System) : Prop := Registered codec st.db ∧ st.processes = []

lemma deployed_healthy (h : Deployed codec st) : Healthy codec render s st := by
  obtain ⟨hregistered, hprocesses⟩ := h
  obtain ⟨⟨hevents, hwork, hruns, hevaluations, hsignals⟩, hbound⟩ :=
    registered_inductive.reachable hregistered
  refine ⟨⟨Tracked.start ⟨hevents, hwork⟩, ?_, hbound, ⟨?_, ?_, ?_⟩, ?_, ?_⟩, ?_⟩ <;> intro x hx
  · simp [Table.mem_def, hevents] at hx
  · simp [Table.mem_def, hruns] at hx
  · simp [Table.mem_def, hevaluations] at hx
  · simp [Table.mem_def, hsignals] at hx
  · simp [Table.mem_def, hsignals] at hx
  · simp [Table.mem_def, hwork] at hx
  · simp [hprocesses] at hx

lemma reachable_healthy (h : Reachable (Deployed codec) (Step codec render s) st)
    (hfree : Unambiguous codec render s st.db) : Healthy codec render s st := by
  obtain ⟨st₀, hdeployed, hrun⟩ := h
  induction hrun with
  | refl => exact deployed_healthy hdeployed
  | tail _ hstep ih =>
    have hbefore := hfree.mono (step_appends hstep)
    exact step_healthy hbefore (ih hbefore) hstep

end Steps

/-- The guarantees of a state: what the next transactions of the dispatches store is accepted, no row of
an output is ever changed, a rule has one signal for an event, and a completed item lists the signal of
every registered rule that its event matches. -/
structure DetectionProtocol (codec : Codec) (render : Value → String) (s : Scope) (st : System) :
    Prop where
  accepted : ∀ p ∈ st.processes, ∀ engine rule plan remaining runIds signalIds,
    p.phase = .running engine ((rule, plan) :: remaining) runIds signalIds →
    ∀ out engine', detect codec render p.work.scope rule plan engine = .ok (out, engine') →
      ∃ db', persistDetectionOutputs codec rule plan out.run out.evaluations out.signals st.db =
        .ok ((), db')
  kept : ∀ st', Run (Step codec render s) st st' →
    st'.db.detectionEvaluations.Extends st.db.detectionEvaluations ∧
      st'.db.detectionRuns.Extends st.db.detectionRuns ∧
      st'.db.detectionSignals.Extends st.db.detectionSignals
  single : ∀ x ∈ st.db.detectionSignals, ∀ y ∈ st.db.detectionSignals, x.ruleId = y.ruleId →
    ∀ id ∈ x.eventIds, id ∈ y.eventIds → x = y
  complete : ∀ w ∈ st.db.detectionWorkItems, w.status = .completed →
    ∀ e ∈ st.db.securityEvents, e.eventId = w.eventId → ∀ row ∈ st.db.detectionRuleVersions,
      e.sourceFamily ∈ row.rule.supportedSourceFamilies →
      ∀ fields, matchesEvent render e row.rule.predicates = .ok (true, fields) →
        ∃ x ∈ st.db.detectionSignals, x.ruleId = row.rule.ruleId ∧ x.eventIds = [e.eventId] ∧
          x.signalId ∈ w.signalIds

theorem detectionProtocol {st : System} (h : Reachable (Deployed codec) (Step codec render s) st)
    (hfree : Unambiguous codec render s st.db) : DetectionProtocol codec render s st := by
  have hst := reachable_healthy h hfree
  refine ⟨?_, fun st' hrun => ?_, ?_, ?_⟩
  · intro p hp engine rule plan remaining runIds signalIds hphase out engine' hdetect
    have hsound := hst.processes p hp
    have hprogress := hsound.progress
    rw [hphase] at hprogress
    obtain ⟨e, he, hsees, done, hlive, -⟩ := hprogress
    rw [(hsound.claimed p.work List.mem_cons_self).1] at hdetect
    obtain ⟨db', hpersist, -⟩ := persist_sound hfree hst.db hlive (by simp) he.1 hsees hdetect
    exact ⟨db', hpersist⟩
  · have happends := run_appends hrun
    exact ⟨happends.evaluations, happends.runs, happends.signals⟩
  · intro x hx y hy hrule id hidx hidy
    obtain ⟨all, hlive⟩ := hst.db.live x hx
    obtain ⟨v, a, ha, e, he, -, at_, rfl⟩ := hst.db.stored.signals x hx
    obtain ⟨w, b, hb, e', he', -, at', rfl⟩ := hst.db.stored.signals y hy
    obtain ⟨r, hr, rfl⟩ := List.mem_map.mp ha.rule
    obtain ⟨q, hq, rfl⟩ := List.mem_map.mp hb.rule
    have hrows : r = q := activeRules_single hlive hr hq (hst.db.bound r hr).active
      (hst.db.bound q hq).active hrule
    have hevents : e.eventId = e'.eventId :=
      (List.mem_singleton.mp hidx).symm.trans (List.mem_singleton.mp hidy)
    subst hrows
    obtain rfl := named_of_tables.sources ha hb he he' hevents
    exact Table.eq_of_key_eq hx hy rfl
  · intro w hw hdone e he hid row hrow hfamily fields hmatch
    obtain ⟨e', he', ht, hcovers⟩ := hst.db.completed w hw hdone
    obtain rfl := Table.eq_of_key_eq he he' (hid.trans ht.event)
    refine hcovers row hrow hfamily ?_
    rw [verdict, hmatch]

section Example

/-- The first dispatch makes its next transaction. -/
def workHead (codec : Codec) (render : Value → String) (st : System) : System :=
  match st.processes with
  | [] => st
  | p :: ps =>
    let r := p.advance codec render (fun _ => 2) 2 st.db
    ⟨r.1, r.2.toList ++ ps⟩

lemma workHead_run {st st' : System} (h : Run (Step codec render s) st st') :
    Run (Step codec render s) st (workHead codec render st') := by
  obtain ⟨db, processes⟩ := st'
  cases processes with
  | nil => exact h
  | cons p ps =>
    have hstep : Step codec render s ⟨db, [] ++ p :: ps⟩
        ⟨(p.advance codec render (fun _ => 2) 2 db).1,
          [] ++ (p.advance codec render (fun _ => 2) 2 db).2.toList ++ ps⟩ := .work
    exact h.tail hstep

def sampleVersion : DetectionRuleVersion where
  ruleType := .eventMatch
  contentDigest := "c1"
  eventSchema := "OCSF"
  supportedSourceFamilies := ["secscan"]
  predicates := [("action", .str "invoke")]
  correlationKeys := []
  windowSeconds := 0
  threshold := 1
  ruleId := "DR-1"
  version := 1
  title := "tool use"
  source := "secscan"
  sourceReference := "rules/1"
  owner := "SecScanMonitor"
  ocsfVersion := "1.8.0"
  severity := .high
  confidence := .high
  confidenceMetadata := []
  attackMappings := []
  atlasMappings := []
  references := []
  status := .active
  createdAt := 0
  modifiedAt := 0
  evaluationMetadata := []
  valid := toolVersion.valid
  nonblank := toolVersion.nonblank
  ocsf := rfl
  positive := toolVersion.positive

/-- The digests of the documents that arise from the sample rule and the sample event. -/
def sampleDigests : Codec where
  contentDigest
    | .arr [.arr _, .str _, .str _] =>
      "1534be8a039f940cdf6c36b09d8cbd051f39415eeb20bd66d8a040f791964461"
    | .arr [.str _, .int _, .str _] =>
      "8ebb681f1d8196ea0912a89899ea02f98b677e300bd7cc4eba48f541b60fe9dd"
    | .arr [_, _, _, .arr [], _] =>
      "250e526c75f5a6ad532b1bd14bb2dba3bf942043c26837463bfb0103a3d98ecd"
    | .arr [_, _, _, .arr _, _] =>
      "e3107e3e83f737690a362076f9b0075f7bdf9a14702e0ac4ae4c167e88c52d28"
    | .arr [.arr _] => "2eed67270ca38f9ef81cf44e6c01e400fbd6bdbb53461722fddc402683b5b523"
    | .arr _ => "4726503e39e18ac5d1d67a4b4f1d6183ded11b725e2e17bf1b5b214da14495df"
    | .obj [_, _, _, _] => "2e7d656e26cd336166fa1155f0ee57d0f3065cb20529a77a40046b894e3a76e9"
    | .obj members =>
      if members.length = 11 then "f0ddd345a48d707ebff33213f7f3592732175af5231c54b9080493f94846f201"
      else if members.length = 20 then
        "32609f0db66e86af5caa2c9997e4146bc75b0e5a2fabb8c0b833ec063a02477e"
      else if members.length = 23 then
        "e50c61323c392842fccad844f4787d20bd7750865db065d30a8dca5b341cf82c"
      else "73f4ebc99ee33fa1b2460ae6d9e70ab663861a3f10af340bd29c9c5db975feec"
    | _ => ""
  isoformat _ := "1970-01-01T00:00:00+00:00"
  dumpDatetime _ := "1970-01-01T00:00:00Z"

def renderNothing (_ : Value) : String := ""

def sampleDeployment : Database :=
  committed seeded (registerRule sampleDigests (liveRule sampleVersion rfl) none seeded)

/-- An event is ingested, and a worker claims its item. -/
def sampleClaimed : System :=
  let ingested := committed sampleDeployment (ingestEvent sampleDigests 0 sampleEvent sampleDeployment)
  let claimed := WorkCall.exec sampleDigests (.claimWork 1 ⟨"w1", 20, none, none, 60⟩) ingested
  ⟨committed ingested claimed, (Process.start ((claimed.map (·.1)).toOption.getD [])).toList⟩

def sampleDispatched : System :=
  workHead sampleDigests renderNothing (workHead sampleDigests renderNothing
    (workHead sampleDigests renderNothing (workHead sampleDigests renderNothing sampleClaimed)))

lemma sampleDispatched_reachable : Reachable (Deployed sampleDigests)
    (Step sampleDigests renderNothing sampleScope) sampleDispatched := by
  obtain ⟨p, hregister⟩ := exists_eq_ok seeded
    (registerRule sampleDigests (liveRule sampleVersion rfl) none seeded) (by decide)
  have hdeployed : Deployed sampleDigests ⟨sampleDeployment, []⟩ := by
    have hactive := liveRule_active sampleVersion rfl
    have hstart : Unregistered seeded := ⟨⟨rfl, rfl, rfl, rfl, rfl⟩, rfl, rfl⟩
    refine ⟨Reachable.next (.start hstart) ⟨_, _, p, ?_, hregister⟩, rfl⟩
    rw [hactive]
    rfl
  obtain ⟨r, hingest⟩ := exists_eq_ok sampleDeployment
    (ingestEvent sampleDigests 0 sampleEvent sampleDeployment) (by decide)
  let ingested := committed sampleDeployment
    (ingestEvent sampleDigests 0 sampleEvent sampleDeployment)
  have hrun : Run (Step sampleDigests renderNothing sampleScope) ⟨sampleDeployment, []⟩
      ⟨ingested, []⟩ := Relation.ReflTransGen.single (.ingest rfl hingest)
  have hclaim : ∃ rows db', WorkCall.exec sampleDigests (.claimWork 1 ⟨"w1", 20, none, none, 60⟩)
      ingested = .ok (rows, db') ∧ sampleClaimed = ⟨db', (Process.start rows).toList ++ []⟩ := by
    obtain ⟨rows, hrows⟩ := exists_eq_ok ingested
      (WorkCall.exec sampleDigests (.claimWork 1 ⟨"w1", 20, none, none, 60⟩) ingested) (by decide)
    refine ⟨rows, _, hrows, ?_⟩
    rw [List.append_nil]
    simp only [sampleClaimed]
    rw [hrows]
    rfl
  obtain ⟨rows, db', hrows, hclaimed⟩ := hclaim
  have hrun' := hrun.tail (.claim rfl hrows)
  rw [← hclaimed] at hrun'
  exact ⟨_, hdeployed, workHead_run (workHead_run (workHead_run (workHead_run hrun')))⟩

lemma sample_sources {v : DetectionRuleVersion} {sources : List SecurityEvent}
    (h : Input (rulesOf sampleDispatched.db)
      (Readings sampleDigests sampleScope sampleDispatched.db.securityEvents.rows) v sources) :
    v = sampleVersion ∧ (sources = [] ∨ sources = [sampleEvent]) := by
  have hrules : rulesOf sampleDispatched.db = [sampleVersion] := by decide
  have hrows : sampleDispatched.db.securityEvents.rows = [sampleEvent] := by decide
  obtain ⟨hv, events, ⟨stored, hstored, i, hingest, hread⟩, rfl⟩ := h
  rw [hrules] at hv
  obtain rfl := List.mem_singleton.mp hv
  refine ⟨rfl, ?_⟩
  have hevents : (ingestAll sampleDigests sampleScope (eventsIn sampleScope stored)
      ⟨SecurityEventPlane.empty, some sampleScope⟩ >>= fun i => i.events (some sampleScope)) =
      .ok events := bind_eq_ok.mpr ⟨i, hingest, hread⟩
  rw [hrows] at hstored
  rcases List.suffix_cons_iff.mp hstored with rfl | hnil
  · obtain rfl : [sampleEvent] = events := Except.ok.inj hevents
    exact Or.inr rfl
  · obtain rfl := List.suffix_nil.mp hnil
    obtain rfl : [] = events := Except.ok.inj hevents
    exact Or.inl rfl

def sampleDocuments : List Value :=
  [.arr (runIdentity sampleScope sampleVersion []),
    .arr (runIdentity sampleScope sampleVersion [sampleEvent]),
    .arr [evaluationKeyOf sampleDigests renderNothing sampleScope sampleVersion [sampleEvent] sampleEvent],
    evaluationKeyOf sampleDigests renderNothing sampleScope sampleVersion [sampleEvent] sampleEvent]

lemma sample_unambiguous :
    Unambiguous sampleDigests renderNothing sampleScope sampleDispatched.db := by
  have hdocuments : ∀ d, Digested sampleDigests renderNothing sampleScope
      (rulesOf sampleDispatched.db)
      (Readings sampleDigests sampleScope sampleDispatched.db.securityEvents.rows) d →
      d ∈ sampleDocuments := by
    intro d hd
    cases hd with
    | run h =>
      obtain ⟨rfl, rfl | rfl⟩ := sample_sources h
      · exact List.mem_cons_self
      · exact List.mem_cons_of_mem _ List.mem_cons_self
    | evaluation h he =>
      obtain ⟨rfl, rfl | rfl⟩ := sample_sources h
      · cases he
      · obtain rfl := List.mem_singleton.mp he
        simp [sampleDocuments]
    | idempotency h he =>
      obtain ⟨rfl, rfl | rfl⟩ := sample_sources h
      · cases he
      · obtain rfl := List.mem_singleton.mp he
        simp [sampleDocuments]
    | signal h he =>
      obtain ⟨rfl, rfl | rfl⟩ := sample_sources h
      · cases he
      · obtain rfl := List.mem_singleton.mp he
        exact List.mem_cons_of_mem _ List.mem_cons_self
  have hfree : ∀ d ∈ sampleDocuments, ∀ d' ∈ sampleDocuments,
      shortDigest sampleDigests d = shortDigest sampleDigests d' → d = d' := by decide
  exact fun d d' hd hd' => hfree d (hdocuments d hd) d' (hdocuments d' hd')

theorem sample_detectionProtocol :
    sampleDispatched.db.detectionWorkItems.rows.map (fun w => (w.status, w.signalIds)) =
        [(.completed, ["SIG-e3107e3e83f737690a362076f9b0075f"])] ∧
      DetectionProtocol sampleDigests renderNothing sampleScope sampleDispatched :=
  ⟨by decide, detectionProtocol sampleDispatched_reachable sample_unambiguous⟩

end Example

end SecScanMonitor.Application
