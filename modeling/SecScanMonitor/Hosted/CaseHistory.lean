import SecScanMonitor.Hosted.CaseAuthorization

/-! Whole histories of the three commands on hosted cases, by any humans and in any order, with other
transactions between them: which commands every started inspection goes back to, and which audit events the
status histories of the cases have. -/

namespace SecScanMonitor.Hosted

open Foundations Domain Application

inductive CaseAnswer where
  | opened (engagement : Case)
  | authorized (engagement : Case)
  | started (run : WorkflowRunRow)
  | other

inductive CaseCall where
  | create (eventId instant : String) (cmd : CreateCase)
  | authorize (stamps : ℕ → String × String) (now : Datetime) (cmd : AuthorizeCase)
  | start (starter : Option HostedWorkflowStarter) (now : Datetime) (cmd : StartInspection)
  | elsewhere (change : Database → Database)

def commit {α : Type} (transaction : Transaction α) (answer : α → CaseAnswer) (s : Service) :
    Except Raised CaseAnswer × Service :=
  match transaction s.db with
  | .error e => (.error e, s)
  | .ok (a, db) => (.ok (answer a), { s with db })

def CaseCall.exec : CaseCall → Service → Except Raised CaseAnswer × Service
  | .create eventId instant cmd, s => commit (createCase eventId instant cmd) .opened s
  | .authorize stamps now cmd, s => commit (authorizeCase stamps now cmd) .authorized s
  | .start starter now cmd, s =>
    ((startInspection starter now cmd s).1.map .started, (startInspection starter now cmd s).2)
  | .elsewhere change, s => (.ok .other, { s with db := change s.db })

abbrev CaseEntry := Entry CaseCall Service (Except Raised CaseAnswer)

lemma commit_cases {α : Type} {transaction : Transaction α} {answer : α → CaseAnswer} (s : Service) :
    (∃ e, commit transaction answer s = (.error e, s)) ∨ ∃ a db, transaction s.db = .ok (a, db) ∧
      commit transaction answer s = (.ok (answer a), { s with db }) := by
  rw [commit]
  cases h : transaction s.db with
  | error e => exact Or.inl ⟨e, rfl⟩
  | ok r => exact Or.inr ⟨r.1, r.2, rfl, rfl⟩

section Provenance

/-- The entry is a call of the human that opened the case for the client, with the target among others. -/
def Opens (engagementId clientId human targetId : String) (e : CaseEntry) : Prop :=
  ∃ eventId instant cmd engagement, e.call = .create eventId instant cmd ∧
    e.outcome = .ok (.opened engagement) ∧ cmd.engagementId = engagementId ∧ cmd.clientId = clientId ∧
    cmd.humanPrincipalId = human ∧ targetId ∈ cmd.targetIds

def Authorizes (engagementId human : String) (e : CaseEntry) : Prop :=
  ∃ stamps now cmd engagement, e.call = .authorize stamps now cmd ∧
    e.outcome = .ok (.authorized engagement) ∧ cmd.engagementId = engagementId ∧
    cmd.humanPrincipalId = human

/-- The human opened the case with the target, and authorized it afterwards. -/
def Traced (es : List CaseEntry) (engagementId clientId human targetId : String) : Prop :=
  ∃ newer a older, es = newer ++ a :: older ∧ Authorizes engagementId human a ∧
    ∃ o ∈ older, Opens engagementId clientId human targetId o

lemma Traced.cons {es : List CaseEntry} {engagementId clientId human targetId : String} (e : CaseEntry)
    (h : Traced es engagementId clientId human targetId) :
    Traced (e :: es) engagementId clientId human targetId := by
  obtain ⟨newer, a, older, rfl, hgrounds⟩ := h
  exact ⟨e :: newer, a, older, rfl, hgrounds⟩

/-- The grant lets the human inspect every target of the case, under the three conditions and for good. -/
structure Covers (grant : AuthorityGrant) (engagementId human : String) : Prop where
  grantId : grant.grantId = AuthorizeCase.grantId engagementId
  engagementId : grant.engagementId = engagementId
  principal : grant.principalId = human
  action : grant.action = .inspect
  anyCapability : grant.capabilityId = none
  anyTarget : grant.targetId = none
  conditions : grant.conditions = AuthorizeCase.conditions
  unlimited : grant.notAfter = none

/-- The same grant, which may have been revoked. -/
def MayRevoke (grant grant' : AuthorityGrant) : Prop :=
  grant' = { grant with revokedAt := grant'.revokedAt }

def Granted (db : Database) (engagementId human : String) : Prop :=
  ∃ grant ∈ db.authorityGrants, Covers grant engagementId human

lemma Covers.mayRevoke {grant grant' : AuthorityGrant} {engagementId human : String}
    (h : Covers grant engagementId human) (hsame : MayRevoke grant grant') :
    Covers grant' engagementId human := by
  rw [MayRevoke] at hsame
  rw [hsame]
  exact ⟨h.grantId, h.engagementId, h.principal, h.action, h.anyCapability, h.anyTarget, h.conditions,
    h.unlimited⟩

/-- Every grant that was stored is stored, if only revoked. -/
def KeepsGrants (db db' : Database) : Prop :=
  ∀ grant ∈ db.authorityGrants, ∃ grant' ∈ db'.authorityGrants, MayRevoke grant grant'

lemma keepsGrants_of_extends {db db' : Database} (h : db'.authorityGrants.Extends db.authorityGrants) :
    KeepsGrants db db' :=
  fun grant hgrant => ⟨grant, h grant hgrant, rfl⟩

lemma Granted.mono {db db' : Database} {engagementId human : String} (h : Granted db engagementId human)
    (hkeeps : KeepsGrants db db') : Granted db' engagementId human := by
  obtain ⟨grant, hgrant, hcovers⟩ := h
  obtain ⟨grant', hgrant', hsame⟩ := hkeeps grant hgrant
  exact ⟨grant', hgrant', hcovers.mayRevoke hsame⟩

/-- What an inspection of the target goes back to: a human has opened the case with the target and authorized it
afterwards, and the human's grant is stored. -/
def Backed (es : List CaseEntry) (db : Database) (engagementId clientId targetId : String) : Prop :=
  ∃ human, Traced es engagementId clientId human targetId ∧ Granted db engagementId human

lemma Backed.step {es : List CaseEntry} {db db' : Database} {engagementId clientId targetId : String}
    (e : CaseEntry) (h : Backed es db engagementId clientId targetId) (hkeeps : KeepsGrants db db') :
    Backed (e :: es) db' engagementId clientId targetId := by
  obtain ⟨human, htraced, hgranted⟩ := h
  exact ⟨human, htraced.cons e, hgranted.mono hkeeps⟩

/-- The case is authorized, or suspended from being so. -/
def Cleared (row : EngagementRow) : Prop := row.status = .authorized ∨ row.suspendedFrom = some .authorized

/-- The foreign key of the links to targets. -/
def Linked (db : Database) : Prop :=
  ∀ link ∈ db.engagementTargets, ∃ row ∈ db.engagements, row.engagementId = link.engagementId

/-- The cases are the same or fewer, none of them is newly cleared, and so are the links; no grant is new, and
none is gone. -/
structure Spared (db db' : Database) : Prop where
  cases : ∀ row ∈ db'.engagements, ∃ stored ∈ db.engagements, stored.engagementId = row.engagementId ∧
    stored.clientId = row.clientId ∧ stored.requesterPrincipalId = row.requesterPrincipalId ∧
    (Cleared row → Cleared stored)
  links : ∀ link ∈ db'.engagementTargets, ∃ stored ∈ db.engagementTargets,
    stored.engagementId = link.engagementId ∧ stored.targetId = link.targetId
  linked : Linked db → Linked db'
  kept : KeepsGrants db db'
  new : ∀ grant' ∈ db'.authorityGrants, ∃ grant ∈ db.authorityGrants, MayRevoke grant grant'

lemma Spared.of_same {db db' : Database} (hcases : db'.engagements = db.engagements)
    (hlinks : db'.engagementTargets = db.engagementTargets)
    (hgrants : db'.authorityGrants = db.authorityGrants) : Spared db db' := by
  refine ⟨fun row hrow => ?_, fun link hlink => ?_, fun h => ?_, fun grant hgrant => ?_, fun grant hgrant => ?_⟩
  · rw [hcases] at hrow
    exact ⟨row, hrow, rfl, rfl, rfl, id⟩
  · rw [hlinks] at hlink
    exact ⟨link, hlink, rfl, rfl⟩
  · rw [Linked, hcases, hlinks]
    exact h
  · rw [hgrants]
    exact ⟨grant, hgrant, rfl⟩
  · rw [hgrants] at hgrant
    exact ⟨grant, hgrant, rfl⟩

/-- A transaction of others leaves the cases, their links and the grants to the commands, and makes no run. -/
structure Spares (change : Database → Database) : Prop where
  spared : ∀ db, Spared db (change db)
  runs : ∀ db, ∀ run ∈ (change db).workflowRuns, ∃ stored ∈ db.workflowRuns,
    stored.engagementId = run.engagementId

/-- Every link of a case is one that its requester has opened it with, and before it was authorized if it is; and
a cleared case has its grant. -/
structure Lawful (es : List CaseEntry) (db : Database) : Prop where
  linked : Linked db
  opened : ∀ row ∈ db.engagements, ∀ link ∈ db.engagementTargets, link.engagementId = row.engagementId →
    ∃ o ∈ es, Opens row.engagementId row.clientId row.requesterPrincipalId link.targetId o
  cleared : ∀ row ∈ db.engagements, Cleared row → ∀ link ∈ db.engagementTargets,
    link.engagementId = row.engagementId →
    Traced es row.engagementId row.clientId row.requesterPrincipalId link.targetId
  granted : ∀ row ∈ db.engagements, Cleared row → Granted db row.engagementId row.requesterPrincipalId
  conditioned : ∀ grant ∈ db.authorityGrants,
    grant.conditions = AuthorizeCase.conditions ∧ grant.notAfter = none

namespace Lawful

variable {es : List CaseEntry} {db db' : Database} {e : CaseEntry}

lemma spared (h : Lawful es db) (hspared : Spared db db') : Lawful (e :: es) db' := by
  refine ⟨hspared.linked h.linked, fun row hrow link hlink hof => ?_, fun row hrow hcleared link hlink hof => ?_,
    fun row hrow hcleared => ?_, fun grant hgrant => ?_⟩
  · obtain ⟨stored, hstored, hid, hclient, hrequester, -⟩ := hspared.cases row hrow
    obtain ⟨old, hold, holdId, htarget⟩ := hspared.links link hlink
    obtain ⟨o, ho, hopens⟩ := h.opened stored hstored old hold (holdId.trans (hof.trans hid.symm))
    rw [hid, hclient, hrequester, htarget] at hopens
    exact ⟨o, List.mem_cons_of_mem e ho, hopens⟩
  · obtain ⟨stored, hstored, hid, hclient, hrequester, hcleared'⟩ := hspared.cases row hrow
    obtain ⟨old, hold, holdId, htarget⟩ := hspared.links link hlink
    have htraced := h.cleared stored hstored (hcleared' hcleared) old hold (holdId.trans (hof.trans hid.symm))
    rw [hid, hclient, hrequester, htarget] at htraced
    exact htraced.cons e
  · obtain ⟨stored, hstored, hid, -, hrequester, hcleared'⟩ := hspared.cases row hrow
    have hgranted := h.granted stored hstored (hcleared' hcleared)
    rw [hid, hrequester] at hgranted
    exact hgranted.mono hspared.kept
  · obtain ⟨stored, hstored, hsame⟩ := hspared.new grant hgrant
    rw [MayRevoke] at hsame
    rw [hsame]
    exact h.conditioned stored hstored

lemma create {cmd : CreateCase} {row : EngagementRow} (h : Lawful es db) (hopened : cmd.Opened row db db')
    (hopens : ∀ targetId ∈ cmd.targetIds,
      Opens cmd.engagementId cmd.clientId cmd.humanPrincipalId targetId e) :
    Lawful (e :: es) db' := by
  -- A link that was there belongs to another case, and a new one to this case.
  have hother : ∀ link ∈ db.engagementTargets, link.engagementId ≠ cmd.engagementId := by
    intro link hlink hid
    obtain ⟨stored, hstored, hof⟩ := h.linked link hlink
    exact hopened.free stored hstored (hof.trans hid)
  have hkept : ∀ r ∈ db.engagements, ∀ link ∈ db'.engagementTargets, link.engagementId = r.engagementId →
      link ∈ db.engagementTargets := by
    intro r hr link hlink hof
    rcases hopened.links link hlink with hlink | ⟨hid, -⟩
    · exact hlink
    · exact absurd (hof.symm.trans hid) (hopened.free r hr)
  have hgrants : KeepsGrants db db' := keepsGrants_of_extends (hopened.grants ▸ Table.Extends.refl _)
  have huncleared : ¬ Cleared row := by
    rintro (hstatus | hfrom)
    · rw [hopened.draft.1] at hstatus
      cases hstatus
    · rw [hopened.draft.2.1] at hfrom
      cases hfrom
  refine ⟨fun link hlink => ?_, fun r hr link hlink hof => ?_, fun r hr hcleared link hlink hof => ?_,
    fun r hr hcleared => ?_, fun grant hgrant => ?_⟩
  · rcases hopened.links link hlink with hlink | ⟨hid, -⟩
    · obtain ⟨stored, hstored, hof⟩ := h.linked link hlink
      exact ⟨stored, (hopened.cases stored).mpr (Or.inr hstored), hof⟩
    · exact ⟨row, (hopened.cases row).mpr (Or.inl rfl), hopened.engagementId.trans hid.symm⟩
  · rcases (hopened.cases r).mp hr with rfl | hr
    · rcases hopened.links link hlink with hlink | ⟨-, htarget⟩
      · exact absurd (hof.trans hopened.engagementId) (hother link hlink)
      · rw [hopened.engagementId, hopened.client, hopened.requester]
        exact ⟨e, List.mem_cons_self, hopens link.targetId htarget⟩
    · obtain ⟨o, ho, hopens⟩ := h.opened r hr link (hkept r hr link hlink hof) hof
      exact ⟨o, List.mem_cons_of_mem e ho, hopens⟩
  · rcases (hopened.cases r).mp hr with rfl | hr
    · exact absurd hcleared huncleared
    · exact (h.cleared r hr hcleared link (hkept r hr link hlink hof) hof).cons e
  · rcases (hopened.cases r).mp hr with rfl | hr
    · exact absurd hcleared huncleared
    · exact (h.granted r hr hcleared).mono hgrants
  · rw [hopened.grants] at hgrant
    exact h.conditioned grant hgrant

lemma authorize {cmd : AuthorizeCase} {now : Datetime} {row row' : EngagementRow} (h : Lawful es db)
    (hpassed : cmd.Passed now row row' db db')
    (hauthorizes : Authorizes cmd.engagementId cmd.humanPrincipalId e) : Lawful (e :: es) db' := by
  obtain ⟨hid, hclient, hrequester⟩ := hpassed.same
  have hconditioned : ∀ grant ∈ db'.authorityGrants,
      grant.conditions = AuthorizeCase.conditions ∧ grant.notAfter = none := by
    intro grant hgrant
    rcases hpassed.new grant hgrant with hgrant | rfl
    · exact h.conditioned grant hgrant
    · exact ⟨rfl, rfl⟩
  refine ⟨fun link hlink => ?_, fun r hr link hlink hof => ?_, fun r hr hcleared link hlink hof => ?_,
    fun r hr hcleared => ?_, hconditioned⟩
  · rw [hpassed.links] at hlink
    obtain ⟨stored, hstored, hof⟩ := h.linked link hlink
    by_cases hsame : stored.engagementId = row'.engagementId
    · exact ⟨row', (hpassed.cases row').mpr (Or.inl rfl), hsame.symm.trans hof⟩
    · exact ⟨stored, (hpassed.cases stored).mpr (Or.inr ⟨hstored, hsame⟩), hof⟩
  · rw [hpassed.links] at hlink
    rcases (hpassed.cases r).mp hr with rfl | ⟨hr, -⟩
    · rw [hid, hclient, hrequester]
      obtain ⟨o, ho, hopens⟩ := h.opened row hpassed.stored link hlink (hof.trans hid)
      exact ⟨o, List.mem_cons_of_mem e ho, hopens⟩
    · obtain ⟨o, ho, hopens⟩ := h.opened r hr link hlink hof
      exact ⟨o, List.mem_cons_of_mem e ho, hopens⟩
  · rw [hpassed.links] at hlink
    rcases (hpassed.cases r).mp hr with rfl | ⟨hr, -⟩
    · rw [hid, hclient, hrequester]
      have hopens := h.opened row hpassed.stored link hlink (hof.trans hid)
      rw [← hpassed.engagementId, ← hpassed.requester] at hauthorizes
      exact ⟨[], e, es, rfl, hauthorizes, hopens⟩
    · exact (h.cleared r hr hcleared link hlink hof).cons e
  · rcases (hpassed.cases r).mp hr with rfl | ⟨hr, -⟩
    · rw [hid, hrequester, hpassed.engagementId, hpassed.requester]
      obtain ⟨grant, hgrant, hgrantId, hbinds⟩ := hpassed.settled
      simp only [AuthorizeCase.misbinds, Bool.or_eq_false_iff, decide_eq_false_iff_not, ne_eq, not_not] at hbinds
      obtain ⟨⟨⟨⟨⟨hcase, hprincipal⟩, haction⟩, hcapability⟩, htarget⟩, -⟩ := hbinds
      obtain ⟨hconditions, hunlimited⟩ := hconditioned grant hgrant
      exact ⟨grant, hgrant, hgrantId, hcase, hprincipal, haction, hcapability, htarget, hconditions, hunlimited⟩
    · exact (h.granted r hr hcleared).mono (keepsGrants_of_extends hpassed.kept)

/-- A start that passes its checks is of a case and a target that are backed. -/
lemma backed_of_checked {cmd : StartInspection} {request : HostedWorkflowRequest} (h : Lawful es db)
    (hchecked : cmd.checked (db.seenBy cmd.humanPrincipalId) = .ok request) :
    request.engagementId = cmd.engagementId ∧
      Backed es db request.engagementId request.clientId request.targetId := by
  obtain ⟨row, hgrounds, hid, hclient, htarget⟩ := StartInspection.checked_grounds hchecked
  obtain ⟨link, hlink, hof, hlinked⟩ := hgrounds.link
  have hcleared : Cleared row := Or.inl hgrounds.authorized
  have htraced := h.cleared row hgrounds.stored hcleared link hlink hof
  rw [hlinked, ← htarget, ← hclient, ← hid] at htraced
  have hgranted := h.granted row hgrounds.stored hcleared
  rw [← hid] at hgranted
  exact ⟨hid.trans hgrounds.engagementId, row.requesterPrincipalId, htraced, hgranted⟩

end Lawful

/-- The tables of a deployment before its first case. -/
structure Unopened (s : Service) : Prop where
  cases : s.db.engagements.rows = []
  links : s.db.engagementTargets.rows = []
  grants : s.db.authorityGrants.rows = []
  runs : s.db.workflowRuns.rows = []
  started : s.started = []

/-- Every request that the starter was given is backed, and every stored run is of a backed inspection. -/
structure AllBacked (es : List CaseEntry) (s : Service) : Prop where
  started : ∀ request ∈ s.started, Backed es s.db request.engagementId request.clientId request.targetId
  runs : ∀ run ∈ s.db.workflowRuns, ∃ clientId targetId, Backed es s.db run.engagementId clientId targetId

variable {es : List CaseEntry} {s start : Service}

lemma AllBacked.step {e : CaseEntry} {db' : Database} (h : AllBacked es s) (hkeeps : KeepsGrants s.db db')
    (hruns : ∀ run ∈ db'.workflowRuns, ∃ stored ∈ s.db.workflowRuns, stored.engagementId = run.engagementId) :
    AllBacked (e :: es) { s with db := db' } := by
  refine ⟨fun request hrequest => (h.started request hrequest).step e hkeeps, fun run hrun => ?_⟩
  obtain ⟨stored, hstored, hid⟩ := hruns run hrun
  obtain ⟨clientId, targetId, hbacked⟩ := h.runs stored hstored
  rw [hid] at hbacked
  exact ⟨clientId, targetId, hbacked.step e hkeeps⟩

lemma AllBacked.same {e : CaseEntry} (h : AllBacked es s) : AllBacked (e :: es) s :=
  h.step (keepsGrants_of_extends (Table.Extends.refl _)) fun run hrun => ⟨run, hrun, rfl⟩

lemma exec_lawful (call : CaseCall) (hcall : ∀ change, call = .elsewhere change → Spares change)
    (hlawful : Lawful es s.db) (hbacked : AllBacked es s) :
    Lawful (⟨call, s, (call.exec s).1⟩ :: es) (call.exec s).2.db ∧
      AllBacked (⟨call, s, (call.exec s).1⟩ :: es) (call.exec s).2 := by
  cases call with
  | create eventId instant cmd =>
    rcases commit_cases s with ⟨e, h⟩ | ⟨engagement, db, htransaction, h⟩
    · rw [CaseCall.exec, h]
      exact ⟨hlawful.spared (.of_same rfl rfl rfl), hbacked.same⟩
    · rw [CaseCall.exec, h]
      rcases createCase_eq_ok htransaction with rfl | ⟨row, hopened⟩
      · exact ⟨hlawful.spared (.of_same rfl rfl rfl), hbacked.same⟩
      · refine ⟨hlawful.create hopened fun targetId htarget => ?_, hbacked.step ?_ fun run hrun => ?_⟩
        · exact ⟨eventId, instant, cmd, engagement, rfl, rfl, rfl, rfl, rfl, htarget⟩
        · exact keepsGrants_of_extends (hopened.grants ▸ Table.Extends.refl _)
        · exact ⟨run, hopened.runs ▸ hrun, rfl⟩
  | authorize stamps now cmd =>
    rcases commit_cases s with ⟨e, h⟩ | ⟨engagement, db, htransaction, h⟩
    · rw [CaseCall.exec, h]
      exact ⟨hlawful.spared (.of_same rfl rfl rfl), hbacked.same⟩
    · rw [CaseCall.exec, h]
      obtain ⟨row, hpassed⟩ := AuthorizeCase.authorizeCase_eq_ok htransaction
      refine ⟨hlawful.authorize hpassed ?_, hbacked.step (keepsGrants_of_extends hpassed.kept) fun run hrun => ?_⟩
      · exact ⟨stamps, now, cmd, engagement, rfl, rfl, rfl, rfl⟩
      · exact ⟨run, hpassed.runs ▸ hrun, rfl⟩
  | start starter now cmd =>
    have hleaves : cmd.Leaves s (startInspection starter now cmd s).2 := startInspection_leaves
    have hkeeps : KeepsGrants s.db (startInspection starter now cmd s).2.db :=
      keepsGrants_of_extends (hleaves.grants ▸ Table.Extends.refl _)
    refine ⟨hlawful.spared (.of_same hleaves.cases hleaves.links hleaves.grants), fun request hrequest => ?_,
      fun run hrun => ?_⟩
    · rcases hleaves.started request hrequest with hrequest | hchecked
      · exact (hbacked.started request hrequest).step _ hkeeps
      · exact (hlawful.backed_of_checked hchecked).2.step _ hkeeps
    · rcases hleaves.runs run hrun with hrun | ⟨hid, request, hchecked⟩
      · obtain ⟨clientId, targetId, hrunBacked⟩ := hbacked.runs run hrun
        exact ⟨clientId, targetId, hrunBacked.step _ hkeeps⟩
      · obtain ⟨hsame, hrequest⟩ := hlawful.backed_of_checked hchecked
        rw [hsame, ← hid] at hrequest
        exact ⟨_, _, hrequest.step _ hkeeps⟩
  | elsewhere change =>
    obtain ⟨hspared, hruns⟩ := hcall change rfl
    exact ⟨hlawful.spared (hspared s.db), hbacked.step (hspared s.db).kept (hruns s.db)⟩

section Example

/-- A deployment with a client, its one member and a target, and no case yet. -/
def newDeployment : Service where
  db := { Database.empty with
    clientMemberships := [⟨"H", "C", "CLIENT_OWNER", "active"⟩]
    clients := ⟨[⟨"C"⟩], by decide⟩
    principals := ⟨[⟨"H"⟩], by decide⟩
    targets := ⟨[⟨"T", some "C", some "S", some "d1", some "git"⟩], by decide⟩ }
  started := []

/-- The membership is removed at last. -/
def removal (db : Database) : Database := { db with clientMemberships := [] }

/-- The calls on one case, the latest first. -/
def caseCalls : List CaseCall :=
  [.elsewhere removal, .start (some fun request => .ok request.workflowRunId) 2 ⟨"H", "E", "T", "S"⟩,
    .authorize AuthorizeCase.stampOf 1 ⟨"H", "E"⟩,
    .create "created" "2026-01-01" ⟨"H", "E", "C", ["T"], "repository", "posture", []⟩]

lemma removal_spares : Spares removal where
  spared _ := .of_same rfl rfl rfl
  runs _ run hrun := ⟨run, hrun, rfl⟩

end Example

end Provenance

section Ledger

/-- An event of the ledger says what the status of the case has been changed from and to, and by whom. -/
def RecordedIn (db : Database) (engagementId : String) (change : StatusChange) : Prop :=
  ∃ event ∈ db.auditEvents, event.engagementId = some engagementId ∧
    event.principalId = some change.principalId ∧
    event.details = [("from", change.fromStatus), ("to", change.toStatus), ("reason", change.reason)]

lemma RecordedIn.mono {db db' : Database} {engagementId : String} {change : StatusChange}
    (h : RecordedIn db engagementId change) (hgrown : db'.auditEvents.Extends db.auditEvents) :
    RecordedIn db' engagementId change := by
  obtain ⟨event, hevent, hsays⟩ := h
  exact ⟨event, hgrown event hevent, hsays⟩

variable {cmd : AuthorizeCase} {stamps : ℕ → String × String} {now : Datetime} {db db' : Database}
  {engagement engagement' : Case}

lemma advance_recorded {rounds : ℕ} (hapart : Function.Injective fun n => (stamps n).1)
    (hfresh : ∀ n < rounds, ∀ event ∈ db.auditEvents, event.auditEventId ≠ (stamps n).1)
    (h : cmd.advance stamps rounds engagement db = .ok (engagement', db')) {change : StatusChange}
    (hchange : change ∈ engagement'.statusHistory) :
    change ∈ engagement.statusHistory ∨ RecordedIn db' engagement.engagementId change := by
  induction rounds generalizing engagement db with
  | zero =>
    obtain ⟨rfl, -⟩ := Prod.mk.inj (Except.ok.inj h)
    exact Or.inl hchange
  | succ rounds ih =>
    rw [AuthorizeCase.advance] at h
    split at h
    · obtain ⟨rfl, -⟩ := Prod.mk.inj (Except.ok.inj h)
      exact Or.inl hchange
    · obtain ⟨next, -, h⟩ := orRaise_bind_eq_ok.mp h
      obtain ⟨⟨moved, db₁⟩, hmove, h⟩ := bind_eq_ok.mp h
      obtain ⟨rfl, haudit⟩ := AuthorizeCase.move_eq_ok hmove
      have hevents := appendAudit_fresh haudit (hfresh rounds rounds.lt_succ_self)
      rcases ih (stamped_after haudit hapart rfl hfresh) h with hmoved | hrecorded
      · rcases List.mem_append.mp hmoved with hold | hnew
        · exact Or.inl hold
        · obtain rfl := List.mem_singleton.mp hnew
          have hmade := (hevents _).mpr (Or.inl rfl)
          exact Or.inr (RecordedIn.mono ⟨_, hmade, rfl, rfl, rfl⟩ (AuthorizeCase.advance_frame h).2.grown)
      · exact Or.inr hrecorded

lemma authorizeCase_recorded (hstamped : AuthorizeCase.Stamped stamps db)
    (h : authorizeCase stamps now cmd db = .ok (engagement, db')) {change : StatusChange}
    (hchange : change ∈ engagement.statusHistory) :
    (∃ row ∈ db.engagements, row.engagementId = engagement.engagementId ∧ change ∈ row.statusHistory) ∨
      RecordedIn db' engagement.engagementId change := by
  obtain ⟨stored, hstored, h⟩ := orRaise_bind_eq_ok.mp h
  obtain ⟨-, h⟩ := raiseIf_bind_eq_ok.mp h
  obtain ⟨⟨reached, db₁⟩, hreach, h⟩ := bind_eq_ok.mp h
  obtain ⟨db₂, hgrant, h⟩ := bind_eq_ok.mp h
  obtain ⟨rfl, rfl⟩ := Prod.mk.inj (Except.ok.inj h)
  rw [Database.getEngagement_seenBy, Option.map_eq_some_iff] at hstored
  obtain ⟨row, hrow, rfl⟩ := hstored
  have hmem := (Table.get?_eq_some_iff.mp (Option.filter_eq_some_iff.mp hrow).1).1
  obtain ⟨-, hsame, -⟩ := AuthorizeCase.reach_eq_ok hreach
  rw [AuthorizeCase.reach] at hreach
  split at hreach
  · rcases advance_recorded hstamped.1 (fun n _ => hstamped.2 n) hreach hchange with hold | hrecorded
    · exact Or.inl ⟨row, hmem, hsame.1.symm, hold⟩
    · rw [hsame.1]
      apply Or.inr (hrecorded.mono _)
      rw [(AuthorizeCase.settleGrant_eq_ok hgrant).frame]
      exact Table.Extends.refl _
  · obtain ⟨-, hreach⟩ := raiseIf_bind_eq_ok.mp hreach
    obtain ⟨rfl, -⟩ := Prod.mk.inj (Except.ok.inj hreach)
    exact Or.inl ⟨row, hmem, rfl, hchange⟩

/-- Every change in the history of a case has its event. -/
def Recorded (db : Database) : Prop :=
  ∀ row ∈ db.engagements, ∀ change ∈ row.statusHistory, RecordedIn db row.engagementId change

/-- A transaction of others keeps the events, and records the changes that it makes. -/
def KeepsRecords (change : Database → Database) : Prop :=
  ∀ db, (change db).auditEvents.Extends db.auditEvents ∧
    ∀ row ∈ (change db).engagements, ∀ c ∈ row.statusHistory,
      (∃ stored ∈ db.engagements, stored.engagementId = row.engagementId ∧ c ∈ stored.statusHistory) ∨
        RecordedIn (change db) row.engagementId c

/-- What is asked of a call: fresh ids of an authorization, and records of anyone else. -/
def Records (e : CaseEntry) : Prop :=
  match e.call with
  | .authorize stamps _ _ => AuthorizeCase.Stamped stamps e.before.db
  | .elsewhere change => KeepsRecords change
  | _ => True

variable {s start : Service} {es : List CaseEntry}

lemma exec_recorded (call : CaseCall) (hrecords : Records ⟨call, s, (call.exec s).1⟩) (hs : Recorded s.db) :
    Recorded (call.exec s).2.db := by
  cases call with
  | create eventId instant cmd =>
    rcases commit_cases s with ⟨e, h⟩ | ⟨engagement, db, htransaction, h⟩
    · rw [CaseCall.exec, h]
      exact hs
    · rw [CaseCall.exec, h]
      rcases createCase_eq_ok htransaction with rfl | ⟨row, hopened⟩
      · exact hs
      · intro r hr change hchange
        rcases (hopened.cases r).mp hr with rfl | hr
        · rw [hopened.draft.2.2] at hchange
          cases hchange
        · exact (hs r hr change hchange).mono hopened.grown
  | authorize stamps now cmd =>
    rcases commit_cases s with ⟨e, h⟩ | ⟨engagement, db, htransaction, h⟩
    · rw [CaseCall.exec, h]
      exact hs
    · rw [CaseCall.exec, h]
      obtain ⟨row, hpassed⟩ := AuthorizeCase.authorizeCase_eq_ok htransaction
      intro r hr change hchange
      rcases (hpassed.cases r).mp hr with rfl | ⟨hr, -⟩
      · rcases authorizeCase_recorded hrecords htransaction hchange with ⟨stored, hstored, hid, hold⟩ | hrecorded
        · have hrecorded := (hs stored hstored change hold).mono hpassed.grown
          rw [hid] at hrecorded
          exact hrecorded
        · exact hrecorded
      · exact (hs r hr change hchange).mono hpassed.grown
  | start starter now cmd =>
    have hleaves : cmd.Leaves s (startInspection starter now cmd s).2 := startInspection_leaves
    intro r hr change hchange
    rw [CaseCall.exec, hleaves.cases] at hr
    exact (hs r hr change hchange).mono hleaves.grown
  | elsewhere change =>
    obtain ⟨hgrown, hchanges⟩ := hrecords s.db
    intro r hr c hc
    rcases hchanges r hr c hc with ⟨stored, hstored, hid, hold⟩ | hrecorded
    · have hrecorded := (hs stored hstored c hold).mono hgrown
      rw [hid] at hrecorded
      exact hrecorded
    · exact hrecorded

/-- No change of a case's status goes unrecorded, over any history in which the events have ids of their own. -/
theorem transitions_recorded (h : History CaseCall.exec start es s) (hstart : Recorded start.db)
    (hrecords : ∀ e ∈ es, Records e) : Recorded s.db := by
  induction h with
  | nil => exact hstart
  | @call es s call h ih =>
    have hs := ih fun e he => hrecords e (List.mem_cons_of_mem _ he)
    exact exec_recorded call (hrecords _ List.mem_cons_self) hs

section Example

/-- The case's three changes of status are recorded. -/
theorem drafted_recorded :
    Recorded (History.ofCalls CaseCall.exec ⟨AuthorizeCase.draftedCase, []⟩
      [.authorize AuthorizeCase.stampOf 0 ⟨"H", "E"⟩]).2.db := by
  refine transitions_recorded (History.ofCalls_history _) (fun row hrow change hchange => ?_) fun e he => ?_
  · obtain rfl := List.mem_singleton.mp hrow
    cases hchange
  · obtain rfl := List.mem_singleton.mp he
    exact AuthorizeCase.draftedCase_stamped

end Example

end Ledger

end SecScanMonitor.Hosted
