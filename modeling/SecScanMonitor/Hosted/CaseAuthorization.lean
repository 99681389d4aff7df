import SecScanMonitor.Hosted.CaseReplay
import SecScanMonitor.Hosted.InspectionStart

/-! The authorization of a hosted case (`authorize_case` of `hosted/commands.py`): its loop through the statuses,
the grant it leaves, and what each of the three commands on a case does to the tables. -/

namespace SecScanMonitor.Hosted

open Foundations Domain Application

/-- The arguments of `authorize_case`. -/
structure AuthorizeCase where
  humanPrincipalId : String
  engagementId : String
  deriving Repr, DecidableEq

namespace AuthorizeCase

def grantId (engagementId : String) : String := "GRANT-" ++ engagementId ++ "-INSPECTION"

def conditions : List String :=
  ["immutable_snapshot_only", "no_client_writes", "no_production_active_testing"]

variable (cmd : AuthorizeCase)

def grant (now : Datetime) : AuthorityGrant where
  grantId := grantId cmd.engagementId
  engagementId := cmd.engagementId
  principalId := cmd.humanPrincipalId
  action := .inspect
  capabilityId := none
  targetId := none
  conditions := conditions
  notBefore := now
  notAfter := none
  revokedAt := none

/-- What the command compares of a stored grant: neither its conditions nor its times. -/
def misbinds (stored : AuthorityGrant) : Bool :=
  decide (stored.engagementId ≠ cmd.engagementId) ||
    decide (stored.principalId ≠ cmd.humanPrincipalId) || decide (stored.action ≠ .inspect) ||
    decide (stored.capabilityId ≠ none) || decide (stored.targetId ≠ none) ||
    decide (stored.revokedAt ≠ none)

def nextStatus : EngagementStatus → Option EngagementStatus
  | .draft => some .intake
  | .intake => some .scopeValidated
  | .scopeValidated => some .authorized
  | _ => none

/-- One round of the loop, with the id and the instant that its audit event is given. -/
def move (stamp : String × String) (next : EngagementStatus) (engagement : Case) (db : Database) :
    Except Raised (Case × Database) := do
  let moved ← EngagementService.transition next
    ⟨cmd.humanPrincipalId, "hosted case authorization", stamp.1, stamp.2⟩
    ⟨engagement.toEngagementAggregate, []⟩
  let db ← moved.audit.foldlM
    (fun db event => appendAudit cmd.humanPrincipalId (auditEventRow event) db) db
  return ({ engagement with toEngagementAggregate := moved.engagement }, db)

/-- `while engagement.status != AUTHORIZED`, for so many rounds at most. -/
def advance (stamps : ℕ → String × String) : ℕ → Case → Database → Except Raised (Case × Database)
  | 0, engagement, db => .ok (engagement, db)
  | rounds + 1, engagement, db =>
    if engagement.status = .authorized then .ok (engagement, db)
    else do
      let next ← orRaise (nextStatus engagement.status) .keyError engagement.status.value
      let (engagement, db) ← cmd.move (stamps rounds) next engagement db
      advance stamps rounds engagement db

/-- No status is more than three rounds away from `AUTHORIZED`. -/
def reach (stamps : ℕ → String × String) (engagement : Case) (db : Database) :
    Except Raised (Case × Database) :=
  if engagement.status ∈ [EngagementStatus.draft, .intake, .scopeValidated] then
    cmd.advance stamps 3 engagement db
  else do
    raiseIf (engagement.status ≠ .authorized) .valueError
      ("case cannot be authorized from " ++ engagement.status.value)
    return (engagement, db)

/-- The grant's id is stored in a column of 64 characters. -/
def settleGrant (now : Datetime) (db : Database) : Except Raised Database :=
  match (db.seenBy cmd.humanPrincipalId).authorityGrants.get? (grantId cmd.engagementId) with
  | some stored => do
    raiseIf (cmd.misbinds stored = true) .hostedCommandError "inspection grant binding mismatch"
    return db
  | none => do
    raiseIf (64 < (grantId cmd.engagementId).length) .dataError
      "value too long for type character varying(64)"
    let authorityGrants ← insertRow (db.canAccessEngagement cmd.humanPrincipalId cmd.engagementId)
      (fun _ => false) (cmd.grant now) db.authorityGrants
    return { db with authorityGrants }

end AuthorizeCase

/-- `PostgresHostedCommandService.authorize_case`. -/
def authorizeCase (stamps : ℕ → String × String) (now : Datetime) (cmd : AuthorizeCase) : Transaction Case :=
  fun db => do
    let engagement ← orRaise ((db.seenBy cmd.humanPrincipalId).getEngagement cmd.engagementId)
      .keyError "case not found"
    raiseIf (engagement.requesterPrincipalId ≠ cmd.humanPrincipalId) .permissionError
      "case requester mismatch"
    let (engagement, db) ← cmd.reach stamps engagement db
    let db ← cmd.settleGrant now db
    return (engagement, { db with engagements := db.engagements.write (engagementToRow engagement) })

/-- Only the ledger is another, and it has every event that it had. -/
structure Ledgered (db db' : Database) : Prop where
  frame : db' = { db with auditEvents := db'.auditEvents }
  grown : db'.auditEvents.Extends db.auditEvents

namespace Ledgered

variable {db db' db'' : Database}

lemma refl (db : Database) : Ledgered db db := ⟨rfl, Table.Extends.refl _⟩

lemma trans (h : Ledgered db db') (h' : Ledgered db' db'') : Ledgered db db'' := by
  refine ⟨?_, h'.grown.trans h.grown⟩
  rw [h'.frame, h.frame]

end Ledgered

lemma appendAudit_ledgered {human : String} {event : AuditEventRow} {db db' : Database}
    (h : appendAudit human event db = .ok db') : Ledgered db db' := by
  rw [appendAudit] at h
  split at h
  · obtain rfl := Except.ok.inj h
    exact Ledgered.refl db
  · obtain ⟨auditEvents, hinsert, h⟩ := bind_eq_ok.mp h
    obtain rfl := Except.ok.inj h
    exact ⟨rfl, Table.extends_insert (insertRow_eq_ok hinsert).2⟩

/-- An event under an unused id is appended, and nothing else is. -/
lemma appendAudit_fresh {human : String} {event : AuditEventRow} {db db' : Database}
    (h : appendAudit human event db = .ok db')
    (hfresh : ∀ row ∈ db.auditEvents, row.auditEventId ≠ event.auditEventId) (row : AuditEventRow) :
    row ∈ db'.auditEvents ↔ row = event ∨ row ∈ db.auditEvents := by
  rw [appendAudit] at h
  split at h
  · rename_i stored hstored
    obtain ⟨hmem, hid⟩ := Table.get?_eq_some_iff.mp hstored
    exact absurd hid (hfresh stored (Table.mem_restrict.mp hmem).1)
  · obtain ⟨auditEvents, hinsert, h⟩ := bind_eq_ok.mp h
    obtain rfl := Except.ok.inj h
    exact Table.mem_insert (insertRow_eq_ok hinsert).2

lemma insertRow_isOk {ρ κ : Type} {key : ρ → κ} [DecidableEq κ] {allowed : Bool} {clash : ρ → Bool} {row : ρ}
    {t : Table key} (hallowed : allowed = true) (hfree : ∀ r ∈ t, key r ≠ key row)
    (hclash : ∀ r ∈ t, clash r = false) : ∃ t', insertRow allowed clash row t = .ok t' := by
  have hsome := Table.insert?_isSome (Table.get?_eq_none_iff.mpr hfree) hclash
  obtain ⟨t', ht⟩ := Option.isSome_iff_exists.mp hsome
  refine ⟨t', raiseIf_bind_eq_ok.mpr ⟨?_, orRaise_eq_ok.mpr ht⟩⟩
  rw [hallowed]
  exact Bool.noConfusion

lemma appendAudit_isOk {human : String} {event : AuditEventRow} {db : Database}
    (haccess : event.engagementId.any (db.canAccessEngagement human) = true)
    (hfresh : ∀ row ∈ db.auditEvents, row.auditEventId ≠ event.auditEventId) :
    ∃ db', appendAudit human event db = .ok db' := by
  have hhidden : (db.seenBy human).auditEvents.get? event.auditEventId = none :=
    Table.get?_eq_none_iff.mpr fun row hrow => hfresh row (Table.mem_restrict.mp hrow).1
  obtain ⟨auditEvents, hinsert⟩ : ∃ t, insertRow (event.engagementId.any (db.canAccessEngagement human))
      (fun _ => false) event db.auditEvents = .ok t := insertRow_isOk haccess hfresh fun _ _ => rfl
  rw [appendAudit, hhidden]
  exact ⟨{ db with auditEvents }, bind_eq_ok.mpr ⟨auditEvents, hinsert, rfl⟩⟩

/-- After one of the events has been appended, the ids of the others are still unused. -/
lemma stamped_after {human : String} {event : AuditEventRow} {db db' : Database} {stamps : ℕ → String × String}
    {rounds : ℕ} (h : appendAudit human event db = .ok db') (hapart : Function.Injective fun n => (stamps n).1)
    (hid : event.auditEventId = (stamps rounds).1)
    (hfresh : ∀ n < rounds + 1, ∀ row ∈ db.auditEvents, row.auditEventId ≠ (stamps n).1) :
    ∀ n < rounds, ∀ row ∈ db'.auditEvents, row.auditEventId ≠ (stamps n).1 := by
  intro n hn row hrow
  have hunused : ∀ row ∈ db.auditEvents, row.auditEventId ≠ event.auditEventId := by
    rw [hid]
    exact hfresh rounds rounds.lt_succ_self
  rcases (appendAudit_fresh h hunused row).mp hrow with rfl | hrow
  · rw [hid]
    exact fun hsame => hn.ne' (hapart hsame)
  · exact hfresh n (hn.trans rounds.lt_succ_self) row hrow

section Create

variable {cmd : CreateCase} {db db' : Database} {eventId instant : String} {engagement : Case}

lemma linked_of_foldlM {targets : List String} (h : targets.foldlM (linkTarget cmd) db = .ok db') :
    db' = { db with engagementTargets := db'.engagementTargets } ∧ ∀ link ∈ db'.engagementTargets,
      link ∈ db.engagementTargets ∨ link.engagementId = cmd.engagementId ∧ link.targetId ∈ targets := by
  induction targets generalizing db with
  | nil =>
    obtain rfl := Except.ok.inj h
    exact ⟨rfl, fun _ hlink => Or.inl hlink⟩
  | cons target targets ih =>
    rw [List.foldlM_cons] at h
    obtain ⟨db₁, hlink, h⟩ := bind_eq_ok.mp h
    obtain ⟨engagementTargets, hinsert, hlink⟩ := bind_eq_ok.mp hlink
    obtain rfl := Except.ok.inj hlink
    obtain ⟨hframe, hlinks⟩ := ih h
    refine ⟨hframe, fun link hmem => ?_⟩
    rcases hlinks link hmem with hmem | ⟨hid, htarget⟩
    · rcases (Table.mem_insert (insertRow_eq_ok hinsert).2).mp hmem with rfl | hmem
      · exact Or.inr ⟨rfl, List.mem_cons_self⟩
      · exact Or.inl hmem
    · exact Or.inr ⟨hid, List.mem_cons_of_mem _ htarget⟩

/-- The command has opened a case with a new row, and with links to some of its targets. -/
structure CreateCase.Opened (cmd : CreateCase) (row : EngagementRow) (db db' : Database) : Prop where
  engagementId : row.engagementId = cmd.engagementId
  client : row.clientId = cmd.clientId
  requester : row.requesterPrincipalId = cmd.humanPrincipalId
  draft : row.status = .draft ∧ row.suspendedFrom = none ∧ row.statusHistory = []
  free : ∀ r ∈ db.engagements, r.engagementId ≠ cmd.engagementId
  cases : ∀ r, r ∈ db'.engagements ↔ r = row ∨ r ∈ db.engagements
  links : ∀ link ∈ db'.engagementTargets,
    link ∈ db.engagementTargets ∨ link.engagementId = cmd.engagementId ∧ link.targetId ∈ cmd.targetIds
  grants : db'.authorityGrants = db.authorityGrants
  runs : db'.workflowRuns = db.workflowRuns
  grown : db'.auditEvents.Extends db.auditEvents

lemma createCase_eq_ok (h : createCase eventId instant cmd db = .ok (engagement, db')) :
    db' = db ∨ ∃ row, cmd.Opened row db db' := by
  obtain ⟨-, h⟩ := raiseIf_bind_eq_ok.mp h
  obtain ⟨passType, -, h⟩ := orRaise_bind_eq_ok.mp h
  simp only at h
  split at h
  · obtain ⟨-, h⟩ := raiseIf_bind_eq_ok.mp h
    exact Or.inl (Prod.mk.inj (Except.ok.inj h)).2.symm
  · obtain ⟨-, h⟩ := raiseIf_bind_eq_ok.mp h
    obtain ⟨-, h⟩ := raiseIf_bind_eq_ok.mp h
    obtain ⟨engagements, hinsert, h⟩ := bind_eq_ok.mp h
    obtain ⟨db₁, hlink, h⟩ := bind_eq_ok.mp h
    obtain ⟨db₂, haudit, h⟩ := bind_eq_ok.mp h
    obtain ⟨-, rfl⟩ := Prod.mk.inj (Except.ok.inj h)
    obtain ⟨hframe, hlinks⟩ := linked_of_foldlM hlink
    obtain ⟨-, hinsert⟩ := insertRow_eq_ok hinsert
    have hledger : Ledgered db₁ db₂ := by
      rw [EngagementService.create, List.nil_append, List.foldlM_cons] at haudit
      obtain ⟨db₃, happend, hnil⟩ := bind_eq_ok.mp haudit
      obtain rfl := Except.ok.inj hnil
      exact appendAudit_ledgered happend
    refine Or.inr ⟨engagementToRow (newCase cmd passType (EngagementService.create cmd.engagementId
      cmd.targetIds cmd.humanPrincipalId eventId .inspectionOnly instant []) instant), rfl, rfl, rfl,
      ⟨rfl, rfl, rfl⟩, ?_, ?_, ?_, ?_, ?_, ?_⟩
    · exact Table.get?_eq_none_iff.mp (Table.insert?_eq_some hinsert).2.1
    · intro r
      rw [hledger.frame, hframe]
      exact Table.mem_insert hinsert
    · rw [hledger.frame]
      exact hlinks
    · rw [hledger.frame, hframe]
    · rw [hledger.frame, hframe]
    · rw [hframe] at hledger
      exact hledger.grown

end Create

section Authorize

variable {cmd : AuthorizeCase} {stamps : ℕ → String × String} {stamp : String × String} {now : Datetime}
  {db db' : Database} {engagement engagement' : Case} {next : EngagementStatus}

/-- The case is another version of the same case. -/
def SameCase (engagement engagement' : Case) : Prop :=
  engagement'.engagementId = engagement.engagementId ∧ engagement'.clientId = engagement.clientId ∧
    engagement'.requesterPrincipalId = engagement.requesterPrincipalId

namespace AuthorizeCase

lemma move_eq_ok (h : cmd.move stamp next engagement db = .ok (engagement', db')) :
    engagement' = { engagement with
      toEngagementAggregate := engagement.moved next
        ⟨cmd.humanPrincipalId, "hosted case authorization", stamp.1, stamp.2⟩ } ∧
    appendAudit cmd.humanPrincipalId (auditEventRow (EngagementService.recordEngagementTransition
      (EngagementService.recordOf next
        ⟨cmd.humanPrincipalId, "hosted case authorization", stamp.1, stamp.2⟩
        engagement.toEngagementAggregate))) db = .ok db' := by
  obtain ⟨moved, hmoved, h⟩ := bind_eq_ok.mp h
  obtain ⟨-, rfl⟩ := EngagementService.transition_eq_ok.mp hmoved
  obtain ⟨db₁, haudit, h⟩ := bind_eq_ok.mp h
  obtain ⟨rfl, rfl⟩ := Prod.mk.inj (Except.ok.inj h)
  rw [List.nil_append, List.foldlM_cons] at haudit
  obtain ⟨db₂, happend, hnil⟩ := bind_eq_ok.mp haudit
  obtain rfl := Except.ok.inj hnil
  exact ⟨rfl, happend⟩

/-- How many rounds of the loop a status is away from `AUTHORIZED`. -/
def roundsLeft : EngagementStatus → ℕ
  | .authorized => 0
  | .scopeValidated => 1
  | .intake => 2
  | .draft => 3
  | _ => 4

lemma roundsLeft_next {status : EngagementStatus} (h : nextStatus status = some next) :
    roundsLeft next + 1 = roundsLeft status := by
  cases status with
  | draft | intake | scopeValidated =>
    obtain rfl := Option.some.inj h
    rfl
  | _ => cases h

lemma advance_authorized {rounds : ℕ} (hleft : roundsLeft engagement.status ≤ rounds)
    (h : cmd.advance stamps rounds engagement db = .ok (engagement', db')) :
    engagement'.status = .authorized := by
  induction rounds generalizing engagement db with
  | zero =>
    obtain ⟨rfl, -⟩ := Prod.mk.inj (Except.ok.inj h)
    revert hleft
    cases engagement.status <;> decide
  | succ rounds ih =>
    rw [advance] at h
    split at h
    · rename_i hauthorized
      obtain ⟨rfl, -⟩ := Prod.mk.inj (Except.ok.inj h)
      exact hauthorized
    · obtain ⟨next, hnext, h⟩ := orRaise_bind_eq_ok.mp h
      obtain ⟨⟨moved, db₁⟩, hmove, h⟩ := bind_eq_ok.mp h
      obtain ⟨rfl, -⟩ := move_eq_ok hmove
      apply ih ?_ h
      have hcloser := roundsLeft_next hnext
      exact Nat.le_of_succ_le_succ (hcloser.trans_le hleft)

lemma advance_frame {rounds : ℕ} (h : cmd.advance stamps rounds engagement db = .ok (engagement', db')) :
    SameCase engagement engagement' ∧ Ledgered db db' := by
  induction rounds generalizing engagement db with
  | zero =>
    obtain ⟨rfl, rfl⟩ := Prod.mk.inj (Except.ok.inj h)
    exact ⟨⟨rfl, rfl, rfl⟩, Ledgered.refl db⟩
  | succ rounds ih =>
    rw [advance] at h
    split at h
    · obtain ⟨rfl, rfl⟩ := Prod.mk.inj (Except.ok.inj h)
      exact ⟨⟨rfl, rfl, rfl⟩, Ledgered.refl db⟩
    · obtain ⟨next, -, h⟩ := orRaise_bind_eq_ok.mp h
      obtain ⟨⟨moved, db₁⟩, hmove, h⟩ := bind_eq_ok.mp h
      obtain ⟨rfl, haudit⟩ := move_eq_ok hmove
      obtain ⟨hsame, hledger⟩ := ih h
      exact ⟨hsame, (appendAudit_ledgered haudit).trans hledger⟩

lemma reach_eq_ok (h : cmd.reach stamps engagement db = .ok (engagement', db')) :
    engagement'.status = .authorized ∧ SameCase engagement engagement' ∧ Ledgered db db' := by
  rw [reach] at h
  split at h
  · rename_i hearly
    obtain ⟨hsame, hledger⟩ := advance_frame h
    refine ⟨advance_authorized ?_ h, hsame, hledger⟩
    revert hearly
    cases engagement.status <;> decide
  · obtain ⟨hstatus, h⟩ := raiseIf_bind_eq_ok.mp h
    obtain ⟨rfl, rfl⟩ := Prod.mk.inj (Except.ok.inj h)
    exact ⟨not_not.mp hstatus, ⟨rfl, rfl, rfl⟩, Ledgered.refl db⟩

/-- Every stored grant stays; a new one is the command's; and one under its id binds what the command names. -/
structure Granting (cmd : AuthorizeCase) (now : Datetime) (db db' : Database) : Prop where
  frame : db' = { db with authorityGrants := db'.authorityGrants }
  kept : db'.authorityGrants.Extends db.authorityGrants
  new : ∀ grant ∈ db'.authorityGrants, grant ∈ db.authorityGrants ∨ grant = cmd.grant now
  settled : ∃ grant ∈ db'.authorityGrants, grant.grantId = grantId cmd.engagementId ∧
    cmd.misbinds grant = false

lemma settleGrant_eq_ok (h : cmd.settleGrant now db = .ok db') : cmd.Granting now db db' := by
  rw [settleGrant] at h
  split at h
  · rename_i stored hstored
    obtain ⟨hbinds, h⟩ := raiseIf_bind_eq_ok.mp h
    obtain rfl := Except.ok.inj h
    obtain ⟨hmem, hid⟩ := Table.get?_eq_some_iff.mp hstored
    exact ⟨rfl, Table.Extends.refl _, fun _ hgrant => Or.inl hgrant,
      stored, (Table.mem_restrict.mp hmem).1, hid, Bool.eq_false_of_not_eq_true hbinds⟩
  · obtain ⟨-, h⟩ := raiseIf_bind_eq_ok.mp h
    obtain ⟨authorityGrants, hinsert, h⟩ := bind_eq_ok.mp h
    obtain rfl := Except.ok.inj h
    obtain ⟨-, hinsert⟩ := insertRow_eq_ok hinsert
    refine ⟨rfl, Table.extends_insert hinsert, fun grant hgrant => ?_, cmd.grant now, ?_, rfl, ?_⟩
    · exact ((Table.mem_insert hinsert).mp hgrant).symm
    · exact (Table.mem_insert hinsert).mpr (Or.inl rfl)
    · simp [misbinds, grant]

/-- The command has authorized the case of a row that its caller has asked for. -/
structure Passed (cmd : AuthorizeCase) (now : Datetime) (row row' : EngagementRow) (db db' : Database) :
    Prop where
  stored : row ∈ db.engagements
  engagementId : row.engagementId = cmd.engagementId
  requester : row.requesterPrincipalId = cmd.humanPrincipalId
  same : row'.engagementId = row.engagementId ∧ row'.clientId = row.clientId ∧
    row'.requesterPrincipalId = row.requesterPrincipalId
  authorized : row'.status = .authorized
  cases : ∀ r, r ∈ db'.engagements ↔ r = row' ∨ r ∈ db.engagements ∧ r.engagementId ≠ row'.engagementId
  links : db'.engagementTargets = db.engagementTargets
  runs : db'.workflowRuns = db.workflowRuns
  kept : db'.authorityGrants.Extends db.authorityGrants
  new : ∀ grant ∈ db'.authorityGrants, grant ∈ db.authorityGrants ∨ grant = cmd.grant now
  settled : ∃ grant ∈ db'.authorityGrants, grant.grantId = grantId cmd.engagementId ∧
    cmd.misbinds grant = false
  grown : db'.auditEvents.Extends db.auditEvents

lemma authorizeCase_eq_ok (h : authorizeCase stamps now cmd db = .ok (engagement, db')) :
    ∃ row, cmd.Passed now row (engagementToRow engagement) db db' := by
  obtain ⟨stored, hstored, h⟩ := orRaise_bind_eq_ok.mp h
  obtain ⟨hrequester, h⟩ := raiseIf_bind_eq_ok.mp h
  obtain ⟨⟨reached, db₁⟩, hreach, h⟩ := bind_eq_ok.mp h
  obtain ⟨db₂, hgrant, h⟩ := bind_eq_ok.mp h
  obtain ⟨rfl, rfl⟩ := Prod.mk.inj (Except.ok.inj h)
  rw [Database.getEngagement_seenBy, Option.map_eq_some_iff] at hstored
  obtain ⟨row, hrow, rfl⟩ := hstored
  obtain ⟨hmem, hid⟩ := Table.get?_eq_some_iff.mp (Option.filter_eq_some_iff.mp hrow).1
  obtain ⟨hauthorized, hsame, hledger⟩ := reach_eq_ok hreach
  have hgranting := settleGrant_eq_ok hgrant
  have hgrants := hgranting.kept
  have hnew := hgranting.new
  rw [hledger.frame] at hgrants hnew
  refine ⟨row, hmem, hid, not_not.mp hrequester, hsame, hauthorized, ?_, ?_, ?_, hgrants, hnew,
    hgranting.settled, ?_⟩
  · intro r
    rw [hgranting.frame, hledger.frame]
    exact Table.mem_write
  · rw [hgranting.frame, hledger.frame]
  · rw [hgranting.frame, hledger.frame]
  · rw [hgranting.frame]
    exact hledger.grown

/-- The ids that the events of a call are given are unused, and different from each other. -/
def Stamped (stamps : ℕ → String × String) (db : Database) : Prop :=
  Function.Injective (fun n => (stamps n).1) ∧
    ∀ n, ∀ event ∈ db.auditEvents, event.auditEventId ≠ (stamps n).1

lemma canAccess_of_ledgered {human engagementId : String} (h : Ledgered db db') :
    db'.canAccessEngagement human engagementId = db.canAccessEngagement human engagementId := by
  rw [h.frame]
  rfl

lemma move_isOk (hnext : nextStatus engagement.status = some next)
    (haccess : db.canAccessEngagement cmd.humanPrincipalId engagement.engagementId = true)
    (hfresh : ∀ event ∈ db.auditEvents, event.auditEventId ≠ stamp.1) :
    ∃ r, cmd.move stamp next engagement db = .ok r := by
  have hcheck : engagement.checkTransition next = .ok () := by
    refine EngagementAggregate.checkTransition_eq_ok.mpr ⟨?_, ?_, ?_⟩
    all_goals
      revert hnext
      cases engagement.status <;> simp only [nextStatus, Option.some.injEq, reduceCtorEq, false_implies]
    all_goals
      rintro rfl
      decide
  obtain ⟨db', happend⟩ : ∃ db', appendAudit cmd.humanPrincipalId (auditEventRow
      (EngagementService.recordEngagementTransition (EngagementService.recordOf next
        ⟨cmd.humanPrincipalId, "hosted case authorization", stamp.1, stamp.2⟩
        engagement.toEngagementAggregate))) db = .ok db' :=
    appendAudit_isOk haccess hfresh
  rw [move, EngagementService.transition_eq_ok.mpr ⟨hcheck, rfl⟩, ok_bind, List.nil_append, List.foldlM_cons,
    happend]
  exact ⟨_, rfl⟩

lemma advance_isOk {rounds : ℕ} (hnear : roundsLeft engagement.status ≤ 3)
    (haccess : db.canAccessEngagement cmd.humanPrincipalId engagement.engagementId = true)
    (hapart : Function.Injective fun n => (stamps n).1)
    (hfresh : ∀ n < rounds, ∀ event ∈ db.auditEvents, event.auditEventId ≠ (stamps n).1) :
    ∃ r, cmd.advance stamps rounds engagement db = .ok r := by
  induction rounds generalizing engagement db with
  | zero => exact ⟨_, rfl⟩
  | succ rounds ih =>
    rw [advance]
    split
    · exact ⟨_, rfl⟩
    · rename_i hstatus
      obtain ⟨next, hnext⟩ : ∃ next, nextStatus engagement.status = some next := by
        revert hstatus hnear
        cases engagement.status <;> simp [roundsLeft, nextStatus]
      obtain ⟨⟨moved, db₁⟩, hmove⟩ := move_isOk hnext haccess (hfresh rounds rounds.lt_succ_self)
      obtain ⟨rfl, haudit⟩ := move_eq_ok hmove
      rw [hnext, orRaise, ok_bind, hmove, ok_bind]
      apply ih
      · exact (Nat.le_succ _).trans ((roundsLeft_next hnext).trans_le hnear)
      · rw [canAccess_of_ledgered (appendAudit_ledgered haudit)]
        exact haccess
      · exact stamped_after haudit hapart rfl hfresh

/-- What the command asks of the case, of its caller, and of the grant that stands under its id, if one does. -/
structure Admits (cmd : AuthorizeCase) (db : Database) (row : EngagementRow) : Prop where
  stored : row ∈ db.engagements
  engagementId : row.engagementId = cmd.engagementId
  requester : row.requesterPrincipalId = cmd.humanPrincipalId
  member : db.canAccessClient cmd.humanPrincipalId row.clientId = true
  status : row.status ∈ [EngagementStatus.draft, .intake, .scopeValidated, .authorized]
  bound : ∀ grant ∈ db.authorityGrants, grant.grantId = grantId cmd.engagementId →
    cmd.misbinds grant = false
  short : (∀ grant ∈ db.authorityGrants, grant.grantId ≠ grantId cmd.engagementId) →
    (grantId cmd.engagementId).length ≤ 64

lemma misbinds_case {grant : AuthorityGrant} (h : cmd.misbinds grant = false) :
    grant.engagementId = cmd.engagementId := by
  simp only [misbinds, Bool.or_eq_false_iff, decide_eq_false_iff_not, ne_eq, not_not] at h
  exact h.1.1.1.1.1

/-- The grant that the command finds is the one under its id, for a member of the client; who is none finds it
only if it is of another case. -/
lemma settleGrant_isOk_iff :
    (∃ db', cmd.settleGrant now db = .ok db') ↔
      db.canAccessEngagement cmd.humanPrincipalId cmd.engagementId = true ∧
      (∀ grant ∈ db.authorityGrants, grant.grantId = grantId cmd.engagementId → cmd.misbinds grant = false) ∧
      ((∀ grant ∈ db.authorityGrants, grant.grantId ≠ grantId cmd.engagementId) →
        (grantId cmd.engagementId).length ≤ 64) := by
  have hsees : (db.seenBy cmd.humanPrincipalId).authorityGrants.get? (grantId cmd.engagementId) =
      (db.authorityGrants.get? (grantId cmd.engagementId)).filter fun grant =>
        db.canAccessEngagement cmd.humanPrincipalId grant.engagementId := Table.get?_restrict
  rw [settleGrant, hsees]
  cases hstored : db.authorityGrants.get? (grantId cmd.engagementId) with
  | none =>
    have hnone := Table.get?_eq_none_iff.mp hstored
    constructor
    · rintro ⟨db', h⟩
      obtain ⟨hlong, h⟩ := raiseIf_bind_eq_ok.mp h
      obtain ⟨authorityGrants, hinsert, -⟩ := bind_eq_ok.mp h
      exact ⟨(insertRow_eq_ok hinsert).1, fun grant hgrant hid => absurd hid (hnone grant hgrant),
        fun _ => not_lt.mp hlong⟩
    · rintro ⟨haccess, -, hshort⟩
      obtain ⟨authorityGrants, hinsert⟩ : ∃ t, insertRow
          (db.canAccessEngagement cmd.humanPrincipalId cmd.engagementId) (fun _ => false) (cmd.grant now)
          db.authorityGrants = .ok t := insertRow_isOk haccess hnone fun _ _ => rfl
      exact ⟨{ db with authorityGrants }, raiseIf_bind_eq_ok.mpr ⟨not_lt.mpr (hshort hnone),
        bind_eq_ok.mpr ⟨authorityGrants, hinsert, rfl⟩⟩⟩
  | some stored =>
    obtain ⟨hmem, hid⟩ := Table.get?_eq_some_iff.mp hstored
    have honly : ∀ grant ∈ db.authorityGrants, grant.grantId = grantId cmd.engagementId → grant = stored :=
      fun grant hgrant hsame => Table.eq_of_key_eq hgrant hmem (hsame.trans hid.symm)
    rw [Option.filter_some]
    by_cases haccess : db.canAccessEngagement cmd.humanPrincipalId stored.engagementId = true
    · rw [if_pos haccess]
      constructor
      · rintro ⟨db', h⟩
        have hbinds := Bool.eq_false_of_not_eq_true (raiseIf_bind_eq_ok.mp h).1
        refine ⟨?_, fun grant hgrant hsame => ?_, fun hnone => absurd hid (hnone stored hmem)⟩
        · rw [← misbinds_case hbinds]
          exact haccess
        · rw [honly grant hgrant hsame]
          exact hbinds
      · rintro ⟨-, hbound, -⟩
        refine ⟨db, raiseIf_bind_eq_ok.mpr ⟨?_, rfl⟩⟩
        rw [hbound stored hmem hid]
        exact Bool.false_ne_true
    · rw [if_neg haccess]
      constructor
      · rintro ⟨db', h⟩
        obtain ⟨-, h⟩ := raiseIf_bind_eq_ok.mp h
        obtain ⟨authorityGrants, hinsert, -⟩ := bind_eq_ok.mp h
        have hfree := (Table.insert?_eq_some (insertRow_eq_ok hinsert).2).2.1
        exact absurd hid (Table.get?_eq_none_iff.mp hfree stored hmem)
      · rintro ⟨hmember, hbound, -⟩
        rw [← misbinds_case (hbound stored hmem hid)] at hmember
        exact absurd hmember haccess

lemma reach_isOk_iff (hstamped : Stamped stamps db)
    (haccess : db.canAccessEngagement cmd.humanPrincipalId engagement.engagementId = true) :
    (∃ r, cmd.reach stamps engagement db = .ok r) ↔
      engagement.status ∈ [EngagementStatus.draft, .intake, .scopeValidated, .authorized] := by
  rw [reach]
  split
  · rename_i hearly
    have hnear : roundsLeft engagement.status ≤ 3 := by
      revert hearly
      cases engagement.status <;> decide
    refine iff_of_true (advance_isOk hnear haccess hstamped.1 fun n _ => hstamped.2 n) ?_
    exact List.mem_append_left [EngagementStatus.authorized] hearly
  · rename_i hlate
    constructor
    · rintro ⟨r, h⟩
      rw [not_not.mp (raiseIf_bind_eq_ok.mp h).1]
      decide
    · intro hstatus
      have hauthorized : engagement.status = .authorized := by
        rcases List.mem_append.mp (show engagement.status ∈ [EngagementStatus.draft, .intake, .scopeValidated] ++
          [.authorized] from hstatus) with hearly | hlast
        · exact absurd hearly hlate
        · exact List.mem_singleton.mp hlast
      exact ⟨(engagement, db), raiseIf_bind_eq_ok.mpr ⟨not_not.mpr hauthorized, rfl⟩⟩

lemma settleGrant_ledgered_iff (h : Ledgered db db') :
    (∃ db₁, cmd.settleGrant now db' = .ok db₁) ↔ ∃ db₁, cmd.settleGrant now db = .ok db₁ := by
  rw [settleGrant_isOk_iff, settleGrant_isOk_iff, canAccess_of_ledgered h, h.frame]

/-- A case is authorized exactly when its requester, a member of its client, asks for it early enough, and the
grant under its id is the requester's own or there is none and its id is short enough. -/
theorem authorizeCase_isOk_iff (stamps : ℕ → String × String) (now : Datetime) (cmd : AuthorizeCase) (db : Database)
    (hstamped : Stamped stamps db) :
    (authorizeCase stamps now cmd db).isOk = true ↔ ∃ row, cmd.Admits db row := by
  have hok : (authorizeCase stamps now cmd db).isOk = true ↔ ∃ r, authorizeCase stamps now cmd db = .ok r := by
    cases authorizeCase stamps now cmd db with
    | error e => exact ⟨Bool.noConfusion, fun ⟨_, h⟩ => by cases h⟩
    | ok r => exact iff_of_true rfl ⟨r, rfl⟩
  rw [hok]
  constructor
  · rintro ⟨r, h⟩
    obtain ⟨stored, hstored, h⟩ := orRaise_bind_eq_ok.mp h
    obtain ⟨hrequester, h⟩ := raiseIf_bind_eq_ok.mp h
    obtain ⟨⟨reached, db₁⟩, hreach, h⟩ := bind_eq_ok.mp h
    obtain ⟨db₂, hgrant, -⟩ := bind_eq_ok.mp h
    rw [Database.getEngagement_seenBy, Option.map_eq_some_iff] at hstored
    obtain ⟨row, hrow, rfl⟩ := hstored
    obtain ⟨hmem, hid⟩ := Table.get?_eq_some_iff.mp (Option.filter_eq_some_iff.mp hrow).1
    obtain ⟨-, -, hledger⟩ := reach_eq_ok hreach
    obtain ⟨haccess, hbound, hshort⟩ :=
      settleGrant_isOk_iff.mp ((settleGrant_ledgered_iff hledger).mp ⟨db₂, hgrant⟩)
    have hstatus := (reach_isOk_iff hstamped (hid ▸ haccess)).mp ⟨_, hreach⟩
    rw [← hid, Database.canAccessEngagement_of_mem hmem] at haccess
    exact ⟨row, hmem, hid, not_not.mp hrequester, haccess, hstatus, hbound, hshort⟩
  · rintro ⟨row, h⟩
    have haccess : db.canAccessEngagement cmd.humanPrincipalId row.engagementId = true := by
      rw [Database.canAccessEngagement_of_mem h.stored]
      exact h.member
    have hget : (db.seenBy cmd.humanPrincipalId).getEngagement cmd.engagementId = some (db.storedCase row) := by
      rw [Database.getEngagement_seenBy, ← h.engagementId, Table.get?_of_mem h.stored, Option.filter_some,
        if_pos (Database.seesClient_of_access h.member), Database.targetsOf_seenBy, if_pos haccess]
      rfl
    obtain ⟨⟨reached, db₁⟩, hreach⟩ :=
      (@reach_isOk_iff cmd stamps db (db.storedCase row) hstamped haccess).mpr h.status
    obtain ⟨-, -, hledger⟩ := reach_eq_ok hreach
    rw [h.engagementId] at haccess
    obtain ⟨db₂, hgrant⟩ := (@settleGrant_ledgered_iff cmd now db db₁ hledger).mpr
      (settleGrant_isOk_iff.mpr ⟨haccess, h.bound, h.short⟩)
    refine ⟨(reached, { db₂ with engagements := db₂.engagements.write (engagementToRow reached) }),
      orRaise_bind_eq_ok.mpr ⟨_, hget, raiseIf_bind_eq_ok.mpr ⟨not_not.mpr h.requester, ?_⟩⟩⟩
    rw [hreach, ok_bind]
    simp only
    rw [hgrant]
    rfl

section Example

/-- The ids of the events grow in length. -/
def stampOf (n : ℕ) : String × String := (String.ofList (List.replicate n 'E'), "2026-01-01")

lemma stampOf_injective : Function.Injective fun n => (stampOf n).1 := by
  intro m n hsame
  have hlists := congrArg String.toList hsame
  simp only [stampOf, String.toList_ofList] at hlists
  simpa using congrArg List.length hlists

/-- The case of the two targets, which nobody has authorized yet. -/
def draftedCase : Database :=
  { twoTargets with
    engagements := twoTargets.engagements.update (fun row => { row with status := .draft }) fun _ => rfl }

lemma draftedCase_stamped : Stamped stampOf draftedCase :=
  ⟨stampOf_injective, fun _ event hevent => absurd hevent (List.not_mem_nil (a := event))⟩

theorem drafted_authorizes_iff :
    (authorizeCase stampOf 0 ⟨"H", "E"⟩ draftedCase).isOk = true ↔
      ∃ row, Admits ⟨"H", "E"⟩ draftedCase row :=
  authorizeCase_isOk_iff stampOf 0 ⟨"H", "E"⟩ draftedCase draftedCase_stamped

/-- An administrator of the platform is not enough: the caller has to be a member of the client. -/
example : (authorizeCase stampOf 0 ⟨"H", "E"⟩
    { draftedCase with clientMemberships := [⟨"H", "D", "PLATFORM_ADMIN", "active"⟩] }).isOk = false := by
  decide

end Example

end AuthorizeCase

end Authorize

section Start

variable {cmd : StartInspection} {starter : Option HostedWorkflowStarter} {now : Datetime} {s : Service}
  {db : Database} {request : HostedWorkflowRequest}

/-- What the checks of a start have read: the authorized case and its link to the target. -/
structure StartInspection.Grounds (cmd : StartInspection) (row : EngagementRow) (db : Database) : Prop where
  stored : row ∈ db.engagements
  engagementId : row.engagementId = cmd.engagementId
  authorized : row.status = .authorized
  link : ∃ link ∈ db.engagementTargets, link.engagementId = row.engagementId ∧ link.targetId = cmd.targetId

lemma StartInspection.checked_grounds (h : cmd.checked (db.seenBy cmd.humanPrincipalId) = .ok request) :
    ∃ row, cmd.Grounds row db ∧ request.engagementId = row.engagementId ∧
      request.clientId = row.clientId ∧ request.targetId = cmd.targetId := by
  obtain ⟨-, h⟩ := raiseIf_bind_eq_ok.mp h
  obtain ⟨engagement, hengagement, h⟩ := orRaise_bind_eq_ok.mp h
  obtain ⟨hstatus, h⟩ := raiseIf_bind_eq_ok.mp h
  obtain ⟨htarget, h⟩ := raiseIf_bind_eq_ok.mp h
  obtain ⟨target, -, h⟩ := orRaise_bind_eq_ok.mp h
  obtain ⟨-, h⟩ := raiseIf_bind_eq_ok.mp h
  obtain ⟨-, h⟩ := raiseIf_bind_eq_ok.mp h
  obtain rfl := Except.ok.inj h
  rw [Database.getEngagement_seenBy, Option.map_eq_some_iff] at hengagement
  obtain ⟨row, hrow, rfl⟩ := hengagement
  obtain ⟨hmem, hid⟩ := Table.get?_eq_some_iff.mp (Option.filter_eq_some_iff.mp hrow).1
  obtain ⟨link, hlink, htargetId⟩ := List.mem_map.mp (not_not.mp htarget)
  simp only [List.mem_filter, List.mem_reverse, Bool.and_eq_true, decide_eq_true_eq] at hlink
  refine ⟨row, ⟨hmem, hid, not_not.mp hstatus, link, (Table.mem_restrict.mp hlink.1).1, ?_, htargetId⟩,
    hid.symm, rfl, rfl⟩
  exact hlink.2.1.trans hid.symm

lemma claimRun_frame {db' : Database} {workflow : WorkflowRunRow} (h : claimRun cmd now db = .ok (workflow, db')) :
    db' = { db with workflowRuns := db'.workflowRuns } ∧ workflow.engagementId = cmd.engagementId ∧
      ∀ run ∈ db'.workflowRuns, run ∈ db.workflowRuns ∨ run.engagementId = cmd.engagementId := by
  rw [claimRun] at h
  split at h
  · obtain ⟨hsame, h⟩ := raiseIf_bind_eq_ok.mp h
    obtain ⟨rfl, rfl⟩ := Prod.mk.inj (Except.ok.inj h)
    exact ⟨rfl, not_not.mp hsame, fun _ hrun => Or.inl hrun⟩
  · obtain ⟨workflowRuns, hinsert, h⟩ := bind_eq_ok.mp h
    obtain ⟨rfl, rfl⟩ := Prod.mk.inj (Except.ok.inj h)
    refine ⟨rfl, rfl, fun run hrun => ?_⟩
    rcases (Table.mem_insert (insertRow_eq_ok hinsert).2).mp hrun with rfl | hrun
    · exact Or.inr rfl
    · exact Or.inl hrun

/-- What a call can leave behind: runs of its case and one request, of which its checks have passed. -/
structure StartInspection.Leaves (cmd : StartInspection) (s s' : Service) : Prop where
  cases : s'.db.engagements = s.db.engagements
  links : s'.db.engagementTargets = s.db.engagementTargets
  grants : s'.db.authorityGrants = s.db.authorityGrants
  grown : s'.db.auditEvents.Extends s.db.auditEvents
  runs : ∀ run ∈ s'.db.workflowRuns, run ∈ s.db.workflowRuns ∨ run.engagementId = cmd.engagementId ∧
    ∃ request, cmd.checked (s.db.seenBy cmd.humanPrincipalId) = .ok request
  started : ∀ request ∈ s'.started, request ∈ s.started ∨
    cmd.checked (s.db.seenBy cmd.humanPrincipalId) = .ok request

lemma StartInspection.Leaves.refl : cmd.Leaves s s where
  cases := rfl
  links := rfl
  grants := rfl
  grown := Table.Extends.refl _
  runs _ hrun := Or.inl hrun
  started _ hrequest := Or.inl hrequest

/-- The run that a call works on, written back in another status. -/
lemma StartInspection.Leaves.written {db db' : Database} {workflow row : WorkflowRunRow}
    {started : List HostedWorkflowRequest}
    (hchecked : cmd.checked (s.db.seenBy cmd.humanPrincipalId) = .ok request)
    (hrun : claimRun cmd now s.db = .ok (workflow, db))
    (hledger : Ledgered { db with workflowRuns := db.workflowRuns.write row } db')
    (hrow : row.engagementId = workflow.engagementId)
    (hstarted : ∀ r ∈ started, r ∈ s.started ∨ r = request) : cmd.Leaves s ⟨db', started⟩ := by
  obtain ⟨hframe, hcase, hruns⟩ := claimRun_frame hrun
  have hgrown := hledger.grown
  rw [hframe] at hgrown
  have hwritten : ∀ run ∈ db'.workflowRuns, run ∈ s.db.workflowRuns ∨ run.engagementId = cmd.engagementId := by
    intro run hmem
    rw [hledger.frame] at hmem
    rcases Table.mem_write.mp hmem with rfl | ⟨hmem, -⟩
    · exact Or.inr (hrow.trans hcase)
    · exact hruns run hmem
  refine ⟨?_, ?_, ?_, hgrown, fun run hmem => ?_, fun r hr => ?_⟩
  · rw [hledger.frame, hframe]
  · rw [hledger.frame, hframe]
  · rw [hledger.frame, hframe]
  · exact (hwritten run hmem).imp_right fun hid => ⟨hid, request, hchecked⟩
  · apply (hstarted r hr).imp_right
    rintro rfl
    exact hchecked

lemma startInspection_leaves : cmd.Leaves s (startInspection starter now cmd s).2 := by
  cases starter with
  | none => exact StartInspection.Leaves.refl
  | some start =>
    rw [startInspection]
    split
    · exact StartInspection.Leaves.refl
    · rename_i request workflow db hclaimed
      obtain ⟨hchecked, hrun⟩ := StartInspection.claimed_eq_ok hclaimed
      have hboth : ∀ r ∈ s.started ++ [request], r ∈ s.started ∨ r = request := fun r hr =>
        (List.mem_append.mp hr).imp_right List.mem_singleton.mp
      split
      · exact StartInspection.Leaves.refl
      · split
        · exact StartInspection.Leaves.written hchecked hrun
            (Ledgered.refl { db with workflowRuns := db.workflowRuns.write (failedRun workflow now) })
            rfl fun r hr => Or.inl hr
        · simp only
          split
          · refine { StartInspection.Leaves.refl with started := fun r hr => (hboth r hr).imp_right ?_ }
            rintro rfl
            exact hchecked
          · rename_i db' haudit
            exact StartInspection.Leaves.written hchecked hrun (appendAudit_ledgered haudit) rfl hboth

end Start

end SecScanMonitor.Hosted
