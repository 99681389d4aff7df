import SecScanMonitor.Application.EngagementService
import SecScanMonitor.Domain.Authority
import SecScanMonitor.Foundations.Chains

/-! The two append-only audit ledgers: the one in memory (`audit/__init__.py`), which links the events
that it appends, and the one in PostgreSQL (`PostgresAuditSink` of `persistence/repositories.py`), which
stores the link that an event brings. -/

namespace SecScanMonitor.Audit

open Foundations Domain

structure AuditEvent extends Application.EngagementService.AuditEvent where
  occurredAt : Datetime
  previousEventId : Option String
  deriving Repr, DecidableEq

def AuditEvent.link (event : AuditEvent) (previous : Option AuditEvent) : AuditEvent :=
  { event with previousEventId := previous.map fun p => p.auditEventId }

abbrev Linked : Option String → List AuditEvent → Prop :=
  Chains.Linked (fun e : AuditEvent => e.auditEventId) AuditEvent.previousEventId

abbrev walk : List AuditEvent → ℕ → Option String → List AuditEvent :=
  Chains.walk (fun e : AuditEvent => e.auditEventId) AuditEvent.previousEventId

def ids (events : List AuditEvent) : List String := events.map fun e => e.auditEventId

/-- The stored events are the appended ones up to their links, each linked to the one before it, so that
the walk from the last one meets them all. -/
structure Chain (appended stored : List AuditEvent) : Prop where
  content : stored.map (·.link none) = appended.map (·.link none)
  linked : Linked none stored
  walked : ∀ n, stored.length ≤ n →
    walk stored n (stored.getLast?.map fun e => e.auditEventId) = stored.reverse

lemma ids_of_content {appended stored : List AuditEvent}
    (h : stored.map (·.link none) = appended.map (·.link none)) : ids stored = ids appended := by
  have hids := congrArg (List.map fun e : AuditEvent => e.auditEventId) h
  simpa [ids, Function.comp_def, AuditEvent.link] using hids

lemma chain_of_linked {appended stored : List AuditEvent} (hnodup : (ids appended).Nodup)
    (hcontent : stored.map (·.link none) = appended.map (·.link none))
    (hlinked : Linked none stored) : Chain appended stored := by
  rw [← ids_of_content hcontent] at hnodup
  exact ⟨hcontent, hlinked, fun _ hn => Chains.walk_linked hnodup hlinked hn⟩

namespace InMemoryAuditSink

/-- The events in the order of their appends. -/
def append (events : List AuditEvent) (event : AuditEvent) : List AuditEvent :=
  events ++ [event.link events.getLast?]

def appendAll (events : List AuditEvent) : List AuditEvent := events.foldl append []

lemma appendAll_concat (events : List AuditEvent) (event : AuditEvent) :
    appendAll (events ++ [event]) = append (appendAll events) event := by
  rw [appendAll, List.foldl_append]
  rfl

lemma appendAll_content (events : List AuditEvent) :
    (appendAll events).map (·.link none) = events.map (·.link none) := by
  induction events using List.reverseRecOn with
  | nil => rfl
  | append_singleton events event ih =>
    rw [appendAll_concat, append, List.map_append, List.map_append, ih]
    rfl

lemma appendAll_linked (events : List AuditEvent) : Linked none (appendAll events) := by
  induction events using List.reverseRecOn with
  | nil => trivial
  | append_singleton events event ih =>
    rw [appendAll_concat, append, Linked, Chains.linked_concat]
    exact ⟨ih, (Chains.tip_none _ _).symm⟩

/-- An event that brings the right link is stored as it is. -/
lemma appendAll_of_linked {events : List AuditEvent} (h : Linked none events) :
    appendAll events = events := by
  induction events using List.reverseRecOn with
  | nil => rfl
  | append_singleton events event ih =>
    obtain ⟨hevents, hlink⟩ := Chains.linked_concat.mp h
    rw [appendAll_concat, append, ih hevents, AuditEvent.link, ← Chains.tip_none, ← hlink]

end InMemoryAuditSink

/-- The ledger's rows in the order of their appends, beside the engagements that they may refer to. -/
structure PostgresAuditSink where
  engagements : List String
  rows : List AuditEvent

namespace PostgresAuditSink

/-- The event's engagement is stored, and so is the event that it links to. -/
def Referable (sink : PostgresAuditSink) (event : AuditEvent) : Prop :=
  (∀ e ∈ event.engagementId, e ∈ sink.engagements) ∧
    ∀ p ∈ event.previousEventId, p = event.auditEventId ∨ p ∈ ids sink.rows

instance (sink : PostgresAuditSink) (event : AuditEvent) : Decidable (sink.Referable event) := by
  unfold Referable
  infer_instance

def append (sink : PostgresAuditSink) (event : AuditEvent) : Except Raised PostgresAuditSink :=
  if event.auditEventId ∈ ids sink.rows then .ok sink
  else do
    raiseIf (¬ sink.Referable event) .integrityError
        "insert on table audit_events violates foreign key constraint"
    return { sink with rows := sink.rows ++ [event] }

def appendAll (sink : PostgresAuditSink) (events : List AuditEvent) :
    Except Raised PostgresAuditSink :=
  events.foldlM append sink

lemma appendAll_cons (sink : PostgresAuditSink) (event : AuditEvent) (events : List AuditEvent) :
    sink.appendAll (event :: events) = sink.append event >>= fun next => next.appendAll events :=
  List.foldlM_cons

lemma append_new {sink sink' : PostgresAuditSink} {event : AuditEvent}
    (hnew : event.auditEventId ∉ ids sink.rows) :
    sink.append event = .ok sink' ↔
      sink.Referable event ∧ sink' = { sink with rows := sink.rows ++ [event] } := by
  rw [append, if_neg hnew, raiseIf_bind_eq_ok, not_not]
  exact and_congr_right fun _ => ⟨fun h => (Except.ok.inj h).symm, fun h => congrArg _ h.symm⟩

/-- Events with new ids are stored one after the other, each as it is. -/
lemma appendAll_new {sink sink' : PostgresAuditSink} {events : List AuditEvent}
    (hnodup : (ids (sink.rows ++ events)).Nodup) (h : sink.appendAll events = .ok sink') :
    sink' = { sink with rows := sink.rows ++ events } ∧
      ∀ event ∈ events, ∀ e ∈ event.engagementId, e ∈ sink.engagements := by
  induction events generalizing sink with
  | nil =>
    obtain rfl := Except.ok.inj h
    simp
  | cons event events ih =>
    rw [appendAll_cons] at h
    obtain ⟨next, hnext, h⟩ := bind_eq_ok.mp h
    have hnew : event.auditEventId ∉ ids sink.rows := by
      intro hmem
      rw [ids, List.map_append, List.map_cons] at hnodup
      exact (List.nodup_append'.mp hnodup).2.2 hmem List.mem_cons_self
    obtain ⟨hrefer, rfl⟩ := (append_new hnew).mp hnext
    obtain ⟨rfl, hknown⟩ := ih (by simpa using hnodup) h
    refine ⟨by simp, ?_⟩
    intro e he
    rcases List.mem_cons.mp he with rfl | he
    · exact hrefer.1
    · exact hknown e he

lemma appendAll_linked {sink : PostgresAuditSink} {events : List AuditEvent}
    (hnodup : (ids (sink.rows ++ events)).Nodup)
    (hknown : ∀ event ∈ events, ∀ e ∈ event.engagementId, e ∈ sink.engagements)
    (hlinked : Linked (sink.rows.getLast?.map fun e => e.auditEventId) events) :
    sink.appendAll events = .ok { sink with rows := sink.rows ++ events } := by
  induction events generalizing sink with
  | nil =>
    rw [List.append_nil]
    rfl
  | cons event events ih =>
    obtain ⟨hlink, hlinked⟩ := hlinked
    have hnew : event.auditEventId ∉ ids sink.rows := by
      intro hmem
      rw [ids, List.map_append, List.map_cons] at hnodup
      exact (List.nodup_append'.mp hnodup).2.2 hmem List.mem_cons_self
    have hrefer : sink.Referable event := by
      refine ⟨hknown event List.mem_cons_self, ?_⟩
      intro p hp
      rw [hlink] at hp
      obtain ⟨last, hlast, rfl⟩ := Option.map_eq_some_iff.mp hp
      exact Or.inr (List.mem_map_of_mem (List.mem_of_getLast? hlast))
    have hrest := @ih { sink with rows := sink.rows ++ [event] } (by simpa using hnodup)
      (fun e he => hknown e (List.mem_cons_of_mem event he)) (by simpa using hlinked)
    rw [appendAll_cons, (append_new hnew).mpr ⟨hrefer, rfl⟩]
    simpa using hrest

end PostgresAuditSink

/-- Both ledgers keep the chain of the appends, and it is the same. -/
structure Agree (engagements : List String) (events : List AuditEvent) : Prop where
  memory : Chain events (InMemoryAuditSink.appendAll events)
  postgres : ∃ sink, PostgresAuditSink.appendAll ⟨engagements, []⟩ events = .ok sink ∧
    Chain events sink.rows ∧ sink.rows = InMemoryAuditSink.appendAll events

/-- The ledger in memory always keeps its chain. The one in PostgreSQL keeps it just where every event
brings the link that the ledger in memory would set. -/
theorem sinks_agree_iff (engagements : List String) (events : List AuditEvent)
    (hnodup : (ids events).Nodup) :
    Chain events (InMemoryAuditSink.appendAll events) ∧
      (Agree engagements events ↔
        Linked none events ∧ ∀ event ∈ events, ∀ e ∈ event.engagementId, e ∈ engagements) := by
  have hmemory : Chain events (InMemoryAuditSink.appendAll events) :=
    chain_of_linked hnodup (InMemoryAuditSink.appendAll_content events)
      (InMemoryAuditSink.appendAll_linked events)
  refine ⟨hmemory, ?_⟩
  constructor
  · rintro ⟨-, sink, hsink, hchain, -⟩
    obtain ⟨rfl, hknown⟩ := PostgresAuditSink.appendAll_new (by simpa using hnodup) hsink
    exact ⟨hchain.linked, hknown⟩
  · rintro ⟨hlinked, hknown⟩
    have hsink := @PostgresAuditSink.appendAll_linked ⟨engagements, []⟩ events hnodup hknown hlinked
    exact ⟨hmemory, _, hsink, chain_of_linked hnodup rfl hlinked,
      (InMemoryAuditSink.appendAll_of_linked hlinked).symm⟩

section Example

def stateChange (auditEventId engagementId : String) (previousEventId : Option String) :
    AuditEvent where
  auditEventId := auditEventId
  engagementId := some engagementId
  principalId := none
  kind := .engagementStateChange
  summary := "engagement created"
  details := []
  occurredAt := 0
  previousEventId := previousEventId

theorem sinks_agree_linked :
    Agree ["EN-1", "EN-2"] [stateChange "AE-1" "EN-1" none, stateChange "AE-2" "EN-2" (some "AE-1")] :=
  (sinks_agree_iff _ _ (by decide)).2.mpr (by decide)

/-- As the services append events, without a link. -/
theorem sinks_disagree : ¬ ∀ engagements events, (ids events).Nodup →
    (∀ event ∈ events, ∀ e ∈ event.engagementId, e ∈ engagements) → Agree engagements events := by
  intro h
  have hagree := h ["EN-1", "EN-2"] [stateChange "AE-1" "EN-1" none, stateChange "AE-2" "EN-2" none]
    (by decide) (by decide)
  obtain ⟨-, sink, hsink, hchain, -⟩ := hagree
  obtain ⟨rfl, -⟩ := PostgresAuditSink.appendAll_new (by decide) hsink
  exact absurd hchain.linked (by decide)

end Example

end SecScanMonitor.Audit
