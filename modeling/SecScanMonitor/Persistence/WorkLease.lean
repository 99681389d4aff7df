import SecScanMonitor.Foundations.Runs
import SecScanMonitor.Persistence.WorkQueue

/-! The work queue as a lease protocol: what a call can do to the stored events and to each work item,
the invariant that ties items to events, and the refinement of every item to an abstract lease. -/

namespace SecScanMonitor.Persistence

open Foundations Domain DetectionResponse ContinuousSecurity

variable {codec : Codec} {db db' : Database} {call : WorkCall}

/-- The item belongs to the event: same id, scope and fingerprint. -/
structure Tracks (codec : Codec) (w : DetectionWorkItemRow) (e : SecurityEvent) : Prop where
  event : w.eventId = e.eventId
  scope : w.scope = e.scope
  fingerprint : w.eventFingerprint = e.fingerprint codec

structure Replays (codec : Codec) (row e : SecurityEvent) : Prop where
  event : row.eventId = e.eventId
  scope : row.scope = e.scope
  fingerprint : row.fingerprint codec = e.fingerprint codec

lemma Replays.refl (e : SecurityEvent) : Replays codec e e := ⟨rfl, rfl, rfl⟩

/-- The worker and the instant of a claim. -/
def WorkCall.claimant : WorkCall → Option (String × Datetime)
  | .claimWork now args => some (args.workerId, now)
  | .claimOne _ later _ workerId _ => some (workerId, later)
  | _ => none

/-- The item, the worker and the instant of a settlement. -/
def WorkCall.settles : WorkCall → Option (String × String × Datetime)
  | .completeWork now workId workerId _ _ => some (workId, workerId, now)
  | .failWork now workId workerId _ => some (workId, workerId, now)
  | _ => none

/-- Everything a call can do to one work item. -/
inductive ItemChange (call : WorkCall) (w : DetectionWorkItemRow) : DetectionWorkItemRow → Prop
  | kept : ItemChange call w w
  | reopened : call.claimant = none → w.status = .failed → ItemChange call w w.reopen
  | claimed {now : Datetime} {args : ClaimArgs} :
      call.claimant = some (args.workerId, now) → claimable now w = true →
      ItemChange call w (args.claim now w)
  | completed {now : Datetime} {workerId : String} {runIds signalIds : List String} :
      call = .completeWork now w.workId workerId runIds signalIds →
      activeLease now workerId w = true → ItemChange call w (w.complete now runIds signalIds)
  | failed {now : Datetime} {workerId error : String} :
      call.settles = some (w.workId, workerId, now) → activeLease now workerId w = true →
      ItemChange call w (w.fail now error)

lemma ItemChange.workId {w w' : DetectionWorkItemRow} (h : ItemChange call w w') :
    w'.workId = w.workId := by
  cases h <;> rfl

lemma ItemChange.tracks {w w' : DetectionWorkItemRow} (h : ItemChange call w w') {e : SecurityEvent} :
    Tracks codec w' e ↔ Tracks codec w e := by
  cases h <;> exact ⟨fun ⟨h₁, h₂, h₃⟩ => ⟨h₁, h₂, h₃⟩, fun ⟨h₁, h₂, h₃⟩ => ⟨h₁, h₂, h₃⟩⟩

lemma ItemChange.scope {w w' : DetectionWorkItemRow} (h : ItemChange call w w') :
    w'.scope = w.scope := by
  cases h <;> rfl

lemma ItemChange.eventId {w w' : DetectionWorkItemRow} (h : ItemChange call w w') :
    w'.eventId = w.eventId := by
  cases h <;> rfl

/-- Everything a call can do to the stored events and to the work items. -/
structure Transition (codec : Codec) (call : WorkCall) (db db' : Database) : Prop where
  events : db.securityEvents.rows <:+ db'.securityEvents.rows
  newEvent : ∀ e ∈ db'.securityEvents, e ∈ db.securityEvents ∨
    ∃ w ∈ db'.detectionWorkItems, Tracks codec w e
  items : ∀ w ∈ db.detectionWorkItems, ∃ w' ∈ db'.detectionWorkItems, ItemChange call w w'
  newItem : ∀ w' ∈ db'.detectionWorkItems,
    (∃ w ∈ db.detectionWorkItems, ItemChange call w w') ∨
      ∃ now event, call = .ingestEvent now event ∧ w' = candidate codec now event ∧
        (∃ e ∈ db'.securityEvents, Tracks codec w' e) ∧
        ∀ w ∈ db.detectionWorkItems, ∀ e ∈ db.securityEvents, Tracks codec w e →
          w.eventId ≠ event.eventId

lemma Transition.extends (h : Transition codec call db db') :
    db'.securityEvents.Extends db.securityEvents :=
  fun _ he => h.events.mem he

lemma workId_reopen (w : DetectionWorkItemRow) : w.reopen.workId = w.workId := rfl

section Ingest

variable {event : SecurityEvent} {now : Datetime}

lemma saveEvent_eq_ok {events events' : Table SecurityEvent.eventId}
    (h : saveEvent codec event events = .ok events') :
    (∃ row ∈ events, Replays codec row event) ∧ events' = events ∨
      events.get? event.eventId = none ∧ events'.rows = event :: events.rows := by
  simp only [saveEvent] at h
  split at h
  · rename_i row hrow
    obtain ⟨hm, hk⟩ := Table.get?_eq_some_iff.mp hrow
    split at h
    · cases h
    rename_i hscope
    split at h
    · cases h
    rename_i hfingerprint
    exact Or.inl ⟨⟨row, hm, hk, not_not.mp hscope, not_not.mp hfingerprint⟩, (Except.ok.inj h).symm⟩
  · obtain ⟨hrows, hnone, -⟩ := Table.insert?_eq_some (unique_eq_ok.mp h)
    exact Or.inr ⟨hnone, hrows⟩

lemma recordEvent_eq_ok {events events' : Table SecurityEvent.eventId} {created : Bool}
    (h : recordEvent codec event events = .ok (events', created)) :
    (∃ row ∈ events, Replays codec row event) ∧ events' = events ∨
      events.get? event.eventId = none ∧ events'.rows = event :: events.rows := by
  simp only [recordEvent] at h
  split at h
  · cases hs : saveEvent codec event events with
    | error e =>
      rw [hs] at h
      cases h
    | ok t =>
      rw [hs] at h
      obtain ⟨rfl, -⟩ := Prod.mk.inj (Except.ok.inj h)
      exact saveEvent_eq_ok hs
  · split at h
    · rename_i t hs
      obtain ⟨rfl, -⟩ := Prod.mk.inj (Except.ok.inj h)
      exact saveEvent_eq_ok hs
    · split at h <;> cases h

lemma recordWork_eq_ok {work work' : Table DetectionWorkItemRow.workId} {w : DetectionWorkItemRow}
    {created : Bool} (h : recordWork codec now event work = .ok (work', w, created)) :
    (∀ x ∈ work, workFor event x = false) ∧ work'.rows = candidate codec now event :: work.rows ∨
      ∃ x ∈ work, Tracks codec x event ∧
        (work' = work ∨ x.status = .failed ∧
          work' = work.modify x.workId DetectionWorkItemRow.reopen (fun _ => rfl)) := by
  simp only [recordWork] at h
  split at h
  · rename_i hnone
    obtain ⟨t, ht, h⟩ := bind_eq_ok.mp h
    obtain ⟨rfl, -⟩ := Prod.mk.inj (Except.ok.inj h)
    refine Or.inl ⟨fun x hx => ?_, (Table.insert?_eq_some (unique_eq_ok.mp ht)).1⟩
    simpa using List.find?_eq_none.mp hnone x hx
  · rename_i x hx
    have hfor : workFor event x = true := by simpa using List.find?_some hx
    have hmem : x ∈ work := List.mem_of_find?_eq_some hx
    simp only [workFor, Bool.and_eq_true, decide_eq_true_eq] at hfor
    split at h
    · cases h
    rename_i hfingerprint
    have htracks : Tracks codec x event := ⟨hfor.2, hfor.1, not_not.mp hfingerprint⟩
    split at h
    · rename_i hfailed
      obtain ⟨rfl, -⟩ := Prod.mk.inj (Except.ok.inj h)
      exact Or.inr ⟨x, hmem, htracks, Or.inr ⟨hfailed, rfl⟩⟩
    · obtain ⟨rfl, -⟩ := Prod.mk.inj (Except.ok.inj h)
      exact Or.inr ⟨x, hmem, htracks, Or.inl rfl⟩

lemma ingest_transition {r : DetectionWorkItemRow × Bool × Bool}
    (h : ingestEvent codec now event db = .ok (r, db')) :
    Transition codec (.ingestEvent now event) db db' := by
  obtain ⟨-, -, h⟩ := bind_eq_ok.mp h
  obtain ⟨⟨events, fresh⟩, hevents, h⟩ := bind_eq_ok.mp h
  obtain ⟨⟨work, item, created⟩, hwork, h⟩ := bind_eq_ok.mp h
  obtain ⟨-, rfl⟩ := Prod.mk.inj (Except.ok.inj h)
  have hstored : db.securityEvents.rows <:+ events.rows ∧
      (∃ row ∈ events, Replays codec row event) ∧
      (∀ e ∈ events, e ∈ db.securityEvents ∨ e = event) ∧
      (∀ e ∈ db.securityEvents, e.eventId = event.eventId → e.scope = event.scope) := by
    rcases recordEvent_eq_ok hevents with ⟨⟨row, hrow, hreplays⟩, rfl⟩ | ⟨hnone, hrows⟩
    · refine ⟨List.suffix_refl _, ⟨row, hrow, hreplays⟩, fun e he => Or.inl he, fun e he hid => ?_⟩
      rw [Table.eq_of_key_eq he hrow (hid.trans hreplays.event.symm), hreplays.scope]
    · refine ⟨?_, ⟨event, ?_, .refl event⟩, fun e he => ?_, fun e he hid => ?_⟩
      · rw [hrows]
        exact List.suffix_cons _ _
      · rw [Table.mem_def, hrows]
        exact List.mem_cons_self
      · rw [Table.mem_def, hrows, List.mem_cons] at he
        exact he.symm
      · exact absurd hid (Table.get?_eq_none_iff.mp hnone e he)
  obtain ⟨hextends, ⟨row, hrow, hreplays⟩, hold, hscope⟩ := hstored
  have htracked : ∃ w ∈ work, Tracks codec w event := by
    rcases recordWork_eq_ok hwork with ⟨-, hrows⟩ | ⟨x, hx, ht, rfl | ⟨hfailed, rfl⟩⟩
    · refine ⟨candidate codec now event, ?_, rfl, rfl, rfl⟩
      rw [Table.mem_def, hrows]
      exact List.mem_cons_self
    · exact ⟨x, hx, ht⟩
    · exact ⟨x.reopen, Table.modified_mem workId_reopen hx, ht.event, ht.scope, ht.fingerprint⟩
  refine ⟨hextends, fun e he => ?_, fun w hw => ?_, fun w' hw' => ?_⟩
  · rcases hold e he with he | rfl
    · exact Or.inl he
    · exact Or.inr htracked
  · rcases recordWork_eq_ok hwork with ⟨-, hrows⟩ | ⟨x, hx, ht, rfl | ⟨hfailed, rfl⟩⟩
    · refine ⟨w, ?_, .kept⟩
      simp only [Table.mem_def, hrows]
      exact List.mem_cons_of_mem _ hw
    · exact ⟨w, hw, .kept⟩
    · by_cases hid : w.workId = x.workId
      · obtain rfl := Table.eq_of_key_eq hw hx hid
        exact ⟨w.reopen, Table.modified_mem workId_reopen hw, .reopened rfl hfailed⟩
      · exact ⟨w, Table.kept_mem workId_reopen hw hid, .kept⟩
  · rcases recordWork_eq_ok hwork with ⟨hnone, hrows⟩ | ⟨x, hx, ht, rfl | ⟨hfailed, rfl⟩⟩
    · simp only [Table.mem_def, hrows, List.mem_cons] at hw'
      rcases hw' with rfl | hw'
      · refine Or.inr ⟨now, event, rfl, rfl, ⟨row, hrow, hreplays.event.symm, hreplays.scope.symm,
          hreplays.fingerprint.symm⟩, fun w hw e he ht hid => ?_⟩
        have hsame : e.scope = event.scope := hscope e he (ht.event.symm.trans hid)
        have hfor := hnone w hw
        simp [workFor, ht.scope, hsame, hid] at hfor
      · exact Or.inl ⟨w', hw', .kept⟩
    · exact Or.inl ⟨w', hw', .kept⟩
    · obtain ⟨w, hw, rfl⟩ := (Table.mem_modify workId_reopen).mp hw'
      left
      refine ⟨w, hw, ?_⟩
      split
      · rename_i hid
        obtain rfl := Table.eq_of_key_eq hw hx hid
        exact .reopened rfl hfailed
      · exact .kept

end Ingest

/-- Calls that keep the events and change each item by a function of the item. -/
lemma transition_of_update {f : DetectionWorkItemRow → DetectionWorkItemRow}
    {hf : ∀ w, (f w).workId = w.workId}
    (hitems : ∀ w ∈ db.detectionWorkItems, ItemChange call w (f w)) :
    Transition codec call db
      { db with detectionWorkItems := db.detectionWorkItems.update f hf } where
  events := List.suffix_refl _
  newEvent _ he := Or.inl he
  items w hw := ⟨f w, (Table.mem_update hf).mpr ⟨w, hw, rfl⟩, hitems w hw⟩
  newItem w' hw' := by
    obtain ⟨w, hw, rfl⟩ := (Table.mem_update hf).mp hw'
    exact Or.inl ⟨w, hw, hitems w hw⟩

lemma transition_refl : Transition codec call db db where
  events := List.suffix_refl _
  newEvent _ he := Or.inl he
  items w hw := ⟨w, hw, .kept⟩
  newItem w hw := Or.inl ⟨w, hw, .kept⟩

section Claim

variable {now : Datetime} {args : ClaimArgs}

lemma mem_batch {work : Table DetectionWorkItemRow.workId} {w : DetectionWorkItemRow}
    (h : w ∈ args.batch now work) : w ∈ work ∧ args.selects now w = true := by
  have hm := List.mem_of_mem_take h
  exact Table.mem_select.mp ((List.mem_insertionSort _).mp hm)

lemma claimable_of_selects {w : DetectionWorkItemRow} (h : args.selects now w = true) :
    claimable now w = true := by
  simp only [ClaimArgs.selects, Bool.and_eq_true] at h
  exact h.1.1

lemma claimWork_transition {rows : List DetectionWorkItemRow}
    (h : claimWork now args db = .ok (rows, db')) (hcall : call.claimant = some (args.workerId, now)) :
    Transition codec call db db' := by
  simp only [claimWork] at h
  split at h
  · cases h
  · obtain ⟨-, rfl⟩ := Prod.mk.inj (Except.ok.inj h)
    refine transition_of_update fun w hw => ?_
    split
    · rename_i hw'
      exact .claimed hcall (claimable_of_selects (mem_batch hw').2)
    · exact .kept

lemma claimWork_rows {rows : List DetectionWorkItemRow} (h : claimWork now args db = .ok (rows, db')) :
    rows = (args.batch now db.detectionWorkItems).map (args.claim now) ∧
      ∀ w ∈ args.batch now db.detectionWorkItems, args.claim now w ∈ db'.detectionWorkItems := by
  simp only [claimWork] at h
  split at h
  · cases h
  · obtain ⟨rfl, rfl⟩ := Prod.mk.inj (Except.ok.inj h)
    exact ⟨rfl, fun w hw => List.mem_map.mpr ⟨w, (mem_batch hw).1, if_pos hw⟩⟩

lemma claimOne_eq_ok {later : Datetime} {workId workerId : String} {leaseSeconds : Int}
    {r : Option DetectionWorkItemRow}
    (h : claimOne now later workId workerId leaseSeconds db = .ok (r, db')) :
    db' = db ∧ (∀ w, r = some w → w ∈ db.detectionWorkItems ∧ w.status = .completed) ∨
      ∃ args : ClaimArgs, args.workerId = workerId ∧ ∃ rows,
        claimWork later args db = .ok (rows, db') ∧ ∀ w, r = some w → w ∈ rows := by
  simp only [claimOne] at h
  split at h
  · obtain ⟨rfl, rfl⟩ := Prod.mk.inj (Except.ok.inj h)
    exact Or.inl ⟨rfl, fun w hw => by cases hw⟩
  rename_i work hwork
  split at h
  · rename_i hcompleted
    obtain ⟨rfl, rfl⟩ := Prod.mk.inj (Except.ok.inj h)
    refine Or.inl ⟨rfl, fun w hw => ?_⟩
    obtain rfl := Option.some.inj hw
    exact ⟨(Table.get?_eq_some_iff.mp hwork).1, hcompleted⟩
  split at h
  · obtain ⟨rfl, rfl⟩ := Prod.mk.inj (Except.ok.inj h)
    exact Or.inl ⟨rfl, fun w hw => by cases hw⟩
  · right
    refine ⟨⟨workerId, 1, some work.scope, some workId, leaseSeconds⟩, rfl, ?_⟩
    cases hc : claimWork later ⟨workerId, 1, some work.scope, some workId, leaseSeconds⟩ db with
    | error e =>
      rw [hc] at h
      cases h
    | ok res =>
      rw [hc] at h
      obtain ⟨rfl, rfl⟩ := Prod.mk.inj (Except.ok.inj h)
      refine ⟨res.1, rfl, fun w hw => ?_⟩
      obtain ⟨hw, -⟩ := Option.filter_eq_some_iff.mp hw
      exact List.mem_of_head? hw

end Claim

section Settle

variable {now : Datetime} {workId workerId : String} {w : DetectionWorkItemRow}

/-- The one item of a settlement is changed by a function of the item, the others are kept. -/
lemma transition_of_modify {f : DetectionWorkItemRow → DetectionWorkItemRow}
    {hf : ∀ w, (f w).workId = w.workId} (hw : db.detectionWorkItems.get? workId = some w)
    (hchange : ItemChange call w (f w)) :
    Transition codec call db
      { db with detectionWorkItems := db.detectionWorkItems.modify workId f hf } := by
  obtain ⟨hmem, hid⟩ := Table.get?_eq_some_iff.mp hw
  refine transition_of_update fun x hx => ?_
  split
  · rename_i hx'
    obtain rfl := Table.eq_of_key_eq hx hmem (hx'.trans hid.symm)
    exact hchange
  · exact .kept

lemma completeWork_transition {runIds signalIds : List String} {r : DetectionWorkItemRow}
    (h : completeWork now workId workerId runIds signalIds db = .ok (r, db')) :
    Transition codec (.completeWork now workId workerId runIds signalIds) db db' := by
  simp only [completeWork] at h
  split at h
  · cases h
  rename_i row hrow
  split at h
  · obtain ⟨rfl, rfl⟩ := Prod.mk.inj (Except.ok.inj h)
    exact transition_refl
  split at h
  · rename_i hlease
    obtain ⟨-, rfl⟩ := Prod.mk.inj (Except.ok.inj h)
    obtain ⟨-, rfl⟩ := Table.get?_eq_some_iff.mp hrow
    exact transition_of_modify hrow (.completed rfl hlease)
  · cases h

lemma failWork_transition {errorType : String} {r : DetectionWorkItemRow}
    (h : failWork now workId workerId errorType db = .ok (r, db')) :
    Transition codec (.failWork now workId workerId errorType) db db' := by
  simp only [failWork] at h
  split at h
  · cases h
  rename_i row hrow
  split at h
  · obtain ⟨rfl, rfl⟩ := Prod.mk.inj (Except.ok.inj h)
    exact transition_refl
  split at h
  · rename_i hlease
    obtain ⟨-, rfl⟩ := Prod.mk.inj (Except.ok.inj h)
    obtain ⟨-, rfl⟩ := Table.get?_eq_some_iff.mp hrow
    exact transition_of_modify hrow (.failed rfl hlease)
  · cases h

end Settle

lemma claimWork_frame {now : Datetime} {args : ClaimArgs} {rows : List DetectionWorkItemRow}
    (h : claimWork now args db = .ok (rows, db')) :
    (∃ events work, db' = { db with securityEvents := events, detectionWorkItems := work }) ∧
      (db'.securityEvents = db.securityEvents ∨ ∃ now event, call = .ingestEvent now event ∧
        validateEngagementScope db event.scope = .ok ()) := by
  simp only [claimWork] at h
  split at h
  · cases h
  · obtain ⟨-, rfl⟩ := Prod.mk.inj (Except.ok.inj h)
    exact ⟨⟨_, _, rfl⟩, Or.inl rfl⟩

lemma exec_transition {r : List DetectionWorkItemRow} (h : call.exec codec db = .ok (r, db')) :
    Transition codec call db db' := by
  cases call with
  | ingestEvent now event =>
    obtain ⟨⟨r', db''⟩, hr, he⟩ := map_eq_ok.mp h
    obtain ⟨-, rfl⟩ := Prod.mk.inj he
    exact ingest_transition hr
  | claimWork now args => exact claimWork_transition h rfl
  | claimOne now later workId workerId leaseSeconds =>
    obtain ⟨⟨r', db''⟩, hr, he⟩ := map_eq_ok.mp h
    obtain ⟨-, rfl⟩ := Prod.mk.inj he
    rcases claimOne_eq_ok hr with ⟨rfl, -⟩ | ⟨args, hworker, rows, hclaim, -⟩
    · exact transition_refl
    · refine claimWork_transition hclaim ?_
      rw [hworker]
      rfl
  | completeWork now workId workerId runIds signalIds =>
    obtain ⟨⟨r', db''⟩, hr, he⟩ := map_eq_ok.mp h
    obtain ⟨-, rfl⟩ := Prod.mk.inj he
    exact completeWork_transition hr
  | failWork now workId workerId errorType =>
    obtain ⟨⟨r', db''⟩, hr, he⟩ := map_eq_ok.mp h
    obtain ⟨-, rfl⟩ := Prod.mk.inj he
    exact failWork_transition hr

/-- A call changes at most the events and the work items; only an ingest changes the events, and it
checks the scope of its event first. -/
lemma exec_frame {r : List DetectionWorkItemRow} (h : call.exec codec db = .ok (r, db')) :
    (∃ events work, db' = { db with securityEvents := events, detectionWorkItems := work }) ∧
      (db'.securityEvents = db.securityEvents ∨ ∃ now event, call = .ingestEvent now event ∧
        validateEngagementScope db event.scope = .ok ()) := by
  cases call with
  | ingestEvent now event =>
    obtain ⟨⟨r', db''⟩, hr, he⟩ := map_eq_ok.mp h
    obtain ⟨-, rfl⟩ := Prod.mk.inj he
    obtain ⟨_, hscope, hr⟩ := bind_eq_ok.mp hr
    obtain ⟨⟨events, fresh⟩, -, hr⟩ := bind_eq_ok.mp hr
    obtain ⟨⟨work, item, created⟩, -, hr⟩ := bind_eq_ok.mp hr
    obtain ⟨-, rfl⟩ := Prod.mk.inj (Except.ok.inj hr)
    exact ⟨⟨_, _, rfl⟩, Or.inr ⟨now, event, rfl, hscope⟩⟩
  | claimWork now args => exact claimWork_frame h
  | claimOne now later workId workerId leaseSeconds =>
    obtain ⟨⟨r', db''⟩, hr, he⟩ := map_eq_ok.mp h
    obtain ⟨-, rfl⟩ := Prod.mk.inj he
    rcases claimOne_eq_ok hr with ⟨rfl, -⟩ | ⟨args, -, rows, hclaim, -⟩
    · exact ⟨⟨_, _, rfl⟩, Or.inl rfl⟩
    · exact claimWork_frame hclaim
  | completeWork now workId workerId runIds signalIds =>
    obtain ⟨⟨r', db''⟩, hr, he⟩ := map_eq_ok.mp h
    obtain ⟨-, rfl⟩ := Prod.mk.inj he
    simp only [completeWork] at hr
    split at hr
    · cases hr
    split at hr
    · obtain ⟨-, rfl⟩ := Prod.mk.inj (Except.ok.inj hr)
      exact ⟨⟨_, _, rfl⟩, Or.inl rfl⟩
    split at hr
    · obtain ⟨-, rfl⟩ := Prod.mk.inj (Except.ok.inj hr)
      exact ⟨⟨_, _, rfl⟩, Or.inl rfl⟩
    · cases hr
  | failWork now workId workerId errorType =>
    obtain ⟨⟨r', db''⟩, hr, he⟩ := map_eq_ok.mp h
    obtain ⟨-, rfl⟩ := Prod.mk.inj he
    simp only [failWork] at hr
    split at hr
    · cases hr
    split at hr
    · obtain ⟨-, rfl⟩ := Prod.mk.inj (Except.ok.inj hr)
      exact ⟨⟨_, _, rfl⟩, Or.inl rfl⟩
    split at hr
    · obtain ⟨-, rfl⟩ := Prod.mk.inj (Except.ok.inj hr)
      exact ⟨⟨_, _, rfl⟩, Or.inl rfl⟩
    · cases hr

end SecScanMonitor.Persistence
