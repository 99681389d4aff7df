import SecScanMonitor.Hosted.Commands

/-! `create_case` under the id of a stored case: which commands it takes for a replay, and what the claim of a
replay leaves as it was. -/

namespace SecScanMonitor.Hosted

open Foundations Domain Application

namespace Database

variable {db : Database} {human : String}

lemma canAccessEngagement_of_mem {row : EngagementRow} (hrow : row ∈ db.engagements) :
    db.canAccessEngagement human row.engagementId = db.canAccessClient human row.clientId := by
  rw [Bool.eq_iff_iff, canAccessEngagement, List.any_eq_true]
  constructor
  · rintro ⟨e, he, hsees⟩
    obtain ⟨hid, haccess⟩ := Bool.and_eq_true_iff.mp hsees
    obtain rfl := Table.eq_of_key_eq he hrow (of_decide_eq_true hid)
    exact haccess
  · intro haccess
    exact ⟨row, hrow, Bool.and_eq_true_iff.mpr ⟨decide_eq_true rfl, haccess⟩⟩

lemma seesClient_of_access {clientId : String} (h : db.canAccessClient human clientId = true) :
    db.seesClient human clientId = true :=
  Bool.or_eq_true_iff.mpr (Or.inr h)

/-- Nobody reads some of the targets of an engagement: a session reads all of them or none. -/
lemma targetsOf_seenBy (engagementId : String) : (db.seenBy human).targetsOf engagementId =
    if db.canAccessEngagement human engagementId = true then db.targetsOf engagementId else [] := by
  have hrows : (db.seenBy human).engagementTargets.rows.reverse = db.engagementTargets.rows.reverse.filter
      fun link => db.canAccessEngagement human link.engagementId := by
    rw [List.filter_reverse]
    rfl
  rw [targetsOf, hrows, List.filter_filter]
  split
  · rename_i haccess
    rw [targetsOf]
    congr 1
    refine List.filter_congr fun link _ => ?_
    by_cases hid : link.engagementId = engagementId
    · rw [hid, haccess, Bool.and_true]
    · simp [hid]
  · rename_i haccess
    rw [List.map_eq_nil_iff, List.filter_eq_nil_iff]
    intro link _ hlink
    simp only [Bool.and_eq_true, decide_eq_true_eq] at hlink
    exact haccess (hlink.1.1 ▸ hlink.2)

lemma getEngagement_seenBy (engagementId : String) : (db.seenBy human).getEngagement engagementId =
    ((db.engagements.get? engagementId).filter fun row => db.seesClient human row.clientId).map fun row =>
      { rowToEngagement row with targetIds := (db.seenBy human).targetsOf engagementId } := by
  rw [getEngagement, show (db.seenBy human).engagements =
    db.engagements.restrict fun r => db.seesClient human r.clientId from rfl, Table.get?_restrict]

/-- The case of a row, with every target in its scope. -/
def storedCase (db : Database) (row : EngagementRow) : Case :=
  { rowToEngagement row with targetIds := db.targetsOf row.engagementId }

end Database

lemma insertRow_eq_ok {ρ κ : Type} {key : ρ → κ} [DecidableEq κ] {allowed : Bool} {clash : ρ → Bool} {row : ρ}
    {t t' : Table key} (h : insertRow allowed clash row t = .ok t') :
    allowed = true ∧ t.insert? clash row = some t' := by
  rw [insertRow, raiseIf_bind_eq_ok, orRaise_eq_ok, Bool.not_eq_false] at h
  exact h

namespace CreateCase

variable {cmd : CreateCase} {stored : Case} {db : Database} {row : EngagementRow} {eventId instant : String}

/-- The command names what is stored, its targets and its constraints apart. -/
structure Agrees (cmd : CreateCase) (stored : Case) : Prop where
  client : stored.clientId = cmd.clientId
  requester : stored.requesterPrincipalId = cmd.humanPrincipalId
  scope : stored.scope = cmd.scope
  passType : stored.passType.value = cmd.passType

def SameTargets (cmd : CreateCase) (stored : Case) : Prop :=
  ∀ targetId, targetId ∈ stored.targetIds ↔ targetId ∈ cmd.targetIds

/-- What the command is taken for a replay by: its caller is a member of the client, and it lists the stored
targets, some at least, in the order that they are read in. -/
structure Recognised (cmd : CreateCase) (db : Database) (row : EngagementRow) : Prop where
  member : db.canAccessClient cmd.humanPrincipalId row.clientId = true
  targets : (db.storedCase row).targetIds = cmd.targetIds
  some_target : cmd.targetIds ≠ []

lemma rebinds_eq_false {passType : PassType} :
    cmd.rebinds passType stored = false ↔ stored.clientId = cmd.clientId ∧
      stored.requesterPrincipalId = cmd.humanPrincipalId ∧ stored.targetIds = cmd.targetIds ∧
      stored.scope = cmd.scope ∧ stored.passType = passType := by
  simp only [rebinds, Bool.or_eq_false_iff, decide_eq_false_iff_not, ne_eq, not_not, and_assoc]

/-- No new case is made under an id that is taken, whoever the case is hidden from. -/
lemma created_id_free {engagement : Case} {x : Case × Database}
    (hrow : row ∈ db.engagements) (hid : engagement.engagementId = row.engagementId) {allowed : Bool}
    {f : Table EngagementRow.engagementId → Except Raised (Case × Database)} :
    (insertRow allowed (fun _ => false) (engagementToRow engagement) db.engagements >>= f) ≠ .ok x := by
  intro h
  obtain ⟨t, ht, -⟩ := bind_eq_ok.mp h
  have hfree := (Table.insert?_eq_some (insertRow_eq_ok ht).2).2.1
  exact Table.get?_eq_none_iff.mp hfree row hrow hid.symm

lemma replay_of_ok {x : Case × Database} (hrow : row ∈ db.engagements)
    (hid : cmd.engagementId = row.engagementId) (h : createCase eventId instant cmd db = .ok x) :
    x.2 = db ∧ cmd.Agrees (db.storedCase row) ∧ cmd.Recognised db row := by
  obtain ⟨hunique, h⟩ := raiseIf_bind_eq_ok.mp h
  obtain ⟨passType, hpass, h⟩ := orRaise_bind_eq_ok.mp h
  have hget : db.engagements.get? cmd.engagementId = some row := by
    rw [hid]
    exact Table.get?_of_mem hrow
  simp only at h
  cases hexisting : (db.seenBy cmd.humanPrincipalId).getEngagement cmd.engagementId with
  | none =>
    rw [hexisting] at h
    obtain ⟨-, h⟩ := raiseIf_bind_eq_ok.mp h
    obtain ⟨-, h⟩ := raiseIf_bind_eq_ok.mp h
    exact absurd h (created_id_free hrow hid)
  | some existing =>
    rw [hexisting] at h
    obtain ⟨hsame, h⟩ := raiseIf_bind_eq_ok.mp h
    obtain rfl := Except.ok.inj h
    rw [Database.getEngagement_seenBy, hget, Option.filter_some] at hexisting
    obtain ⟨hclient, hrequester, htargets, hscope, htype⟩ := rebinds_eq_false.mp (Bool.eq_false_of_not_eq_true hsame)
    have hsome : cmd.targetIds ≠ [] := fun hnil => hunique (Or.inl hnil)
    split at hexisting
    · obtain rfl := Option.some.inj hexisting
      simp only [Database.targetsOf_seenBy] at htargets
      split at htargets
      · rename_i haccess
        rw [hid, Database.canAccessEngagement_of_mem hrow] at haccess
        rw [hid] at htargets
        have hvalue : row.passType.value = cmd.passType := by
          rw [PassType.ofValue_eq_some.mp hpass, ← htype]
          rfl
        exact ⟨rfl, ⟨hclient, hrequester, hscope, hvalue⟩, haccess, htargets, hsome⟩
      · exact absurd htargets.symm hsome
    · cases hexisting

lemma replay_isOk (hrow : row ∈ db.engagements) (hid : cmd.engagementId = row.engagementId)
    (hagrees : cmd.Agrees (db.storedCase row)) (hknown : cmd.Recognised db row) :
    createCase eventId instant cmd db = .ok (db.storedCase row, db) := by
  have hnodup : cmd.targetIds.Nodup := by
    rw [← hknown.targets]
    refine List.Nodup.map_on ?_ ((List.nodup_reverse.mpr (List.Nodup.of_map _ db.engagementTargets.nodup)).filter _)
    intro link hlink link' hlink' htarget
    simp only [List.mem_filter, List.mem_reverse, Bool.and_eq_true, decide_eq_true_eq] at hlink hlink'
    exact Table.eq_of_key_eq hlink.1 hlink'.1 (Prod.ext (hlink.2.1.trans hlink'.2.1.symm) htarget)
  have hpass : PassType.ofValue cmd.passType = some row.passType :=
    PassType.ofValue_eq_some.mpr hagrees.passType.symm
  have haccess : db.canAccessEngagement cmd.humanPrincipalId row.engagementId = true := by
    rw [Database.canAccessEngagement_of_mem hrow]
    exact hknown.member
  have hexisting : (db.seenBy cmd.humanPrincipalId).getEngagement cmd.engagementId =
      some (db.storedCase row) := by
    rw [Database.getEngagement_seenBy, hid, Table.get?_of_mem hrow, Option.filter_some,
      if_pos (Database.seesClient_of_access hknown.member), Database.targetsOf_seenBy, if_pos haccess]
    rfl
  have hsame : cmd.rebinds row.passType (db.storedCase row) = false :=
    rebinds_eq_false.mpr ⟨hagrees.client, hagrees.requester, hknown.targets, hagrees.scope, rfl⟩
  refine raiseIf_bind_eq_ok.mpr ⟨?_, orRaise_bind_eq_ok.mpr ⟨row.passType, hpass, ?_⟩⟩
  · rintro (hnil | hdup)
    · exact hknown.some_target hnil
    · exact hdup hnodup
  · simp only [hexisting]
    exact raiseIf_bind_eq_ok.mpr ⟨by rw [hsame]; exact Bool.false_ne_true, rfl⟩

/-- What is asked of the command under a stored id: it is taken for a replay if everything it names is what is
stored, and changes nothing. -/
def ReplaysExactly (eventId instant : String) (cmd : CreateCase) (db : Database) (row : EngagementRow) : Prop :=
  ((createCase eventId instant cmd db).isOk = true ↔
    cmd.Agrees (db.storedCase row) ∧ cmd.SameTargets (db.storedCase row) ∧ row.constraints = cmd.constraints) ∧
  db.after (createCase eventId instant cmd db) = db

lemma isOk_iff_recognised (hrow : row ∈ db.engagements) (hid : cmd.engagementId = row.engagementId) :
    (createCase eventId instant cmd db).isOk = true ↔
      cmd.Agrees (db.storedCase row) ∧ cmd.Recognised db row := by
  constructor
  · intro hok
    cases hcall : createCase eventId instant cmd db with
    | error e =>
      rw [hcall] at hok
      cases hok
    | ok x => exact (replay_of_ok hrow hid hcall).2
  · rintro ⟨hagrees, hknown⟩
    rw [replay_isOk hrow hid hagrees hknown]
    rfl

lemma after_replay (hrow : row ∈ db.engagements) (hid : cmd.engagementId = row.engagementId) :
    db.after (createCase eventId instant cmd db) = db := by
  cases hcall : createCase eventId instant cmd db with
  | error e => rfl
  | ok x => exact (replay_of_ok hrow hid hcall).1

/-- A command under a stored id changes nothing, and it is taken for a replay as it should be unless it names
the stored case, and has the stored constraints but is not recognised, or is recognised with others. -/
theorem replays_exactly_iff (eventId instant : String) (cmd : CreateCase) (db : Database) (row : EngagementRow)
    (hrow : row ∈ db.engagements) (hid : cmd.engagementId = row.engagementId) :
    cmd.ReplaysExactly eventId instant db row ↔
      (cmd.Agrees (db.storedCase row) → cmd.SameTargets (db.storedCase row) →
        (row.constraints = cmd.constraints ↔ cmd.Recognised db row)) := by
  have hsame : cmd.Recognised db row → cmd.SameTargets (db.storedCase row) := by
    intro hknown targetId
    rw [hknown.targets]
  rw [ReplaysExactly, isOk_iff_recognised hrow hid]
  constructor
  · rintro ⟨hexact, -⟩ hagrees htargets
    constructor
    · exact fun hconstraints => (hexact.mpr ⟨hagrees, htargets, hconstraints⟩).2
    · exact fun hknown => (hexact.mp ⟨hagrees, hknown⟩).2.2
  · intro hwhen
    refine ⟨?_, after_replay hrow hid⟩
    constructor
    · rintro ⟨hagrees, hknown⟩
      exact ⟨hagrees, hsame hknown, (hwhen hagrees (hsame hknown)).mpr hknown⟩
    · rintro ⟨hagrees, htargets, hconstraints⟩
      exact ⟨hagrees, (hwhen hagrees htargets).mp hconstraints⟩

end CreateCase

section Example

def sampleRow : EngagementRow where
  engagementId := "EN-1"
  clientId := "CL-1"
  requesterPrincipalId := "HP-1"
  scope := "repository"
  passType := .posture
  authorityLevel := .inspectionOnly
  constraints := ["no network"]
  status := .draft
  statusHistory := []
  refusalReason := none
  suspendedFrom := none
  createdAt := "2026-01-01T00:00:00+00:00"
  updatedAt := "2026-01-01T00:00:00+00:00"

def sampleDatabase : Database :=
  { Database.empty with
    clientMemberships := [⟨"HP-1", "CL-1", "CLIENT_OWNER", "active"⟩]
    engagements := ⟨[sampleRow], by decide⟩
    engagementTargets := ⟨[⟨"ET-EN-1-T-1", "EN-1", "T-1", true⟩], by decide⟩ }

def sampleCommand : CreateCase where
  humanPrincipalId := "HP-1"
  engagementId := "EN-1"
  clientId := "CL-1"
  targetIds := ["T-1"]
  scope := "repository"
  passType := "posture"
  constraints := []

lemma sampleRow_mem : sampleRow ∈ sampleDatabase.engagements := List.mem_singleton.mpr rfl

theorem sample_replays_exactly_iff :
    sampleCommand.ReplaysExactly "AE-1" "2026-01-02T00:00:00+00:00" sampleDatabase sampleRow ↔
      (sampleCommand.Agrees (sampleDatabase.storedCase sampleRow) →
        sampleCommand.SameTargets (sampleDatabase.storedCase sampleRow) →
        (sampleRow.constraints = sampleCommand.constraints ↔
          sampleCommand.Recognised sampleDatabase sampleRow)) :=
  CreateCase.replays_exactly_iff _ _ sampleCommand sampleDatabase sampleRow sampleRow_mem rfl

/-- A command without the stored constraint is taken for a replay. -/
theorem constraints_ignored :
    ¬ sampleCommand.ReplaysExactly "AE-1" "2026-01-02T00:00:00+00:00" sampleDatabase sampleRow := by
  rintro ⟨hexact, -⟩
  have hok : (createCase "AE-1" "2026-01-02T00:00:00+00:00" sampleCommand sampleDatabase).isOk = true := by
    decide +kernel
  exact absurd (hexact.mp hok).2.2 (by decide)

end Example

end SecScanMonitor.Hosted
