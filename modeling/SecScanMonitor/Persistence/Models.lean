import SecScanMonitor.DetectionResponse.Records
import SecScanMonitor.Foundations.Table

/-! The tables of the live control plane (`persistence/models.py`). A row that only repeats a record
of the domain is that record; a JSON column holds what was stored in it. -/

namespace SecScanMonitor.Persistence

open Foundations Domain DetectionResponse ContinuousSecurity

structure EngagementRow where
  engagementId : String
  clientId : String
  deriving DecidableEq

structure EngagementTargetRow where
  engagementId : String
  targetId : String
  inScope : Bool
  deriving DecidableEq

structure PrincipalRow where
  principalId : String
  kind : String
  deriving DecidableEq

inductive DetectionWorkStatus where
  | pending
  | claimed
  | completed
  | failed
  deriving Repr, DecidableEq

structure DetectionWorkItemRow where
  workId : String
  eventId : String
  scope : Scope
  eventFingerprint : String
  status : DetectionWorkStatus
  attempts : ℕ
  leaseUntil : Option Datetime
  workerId : Option String
  runIds : List String
  signalIds : List String
  lastError : Option String
  createdAt : Datetime
  updatedAt : Datetime
  completedAt : Option Datetime
  deriving DecidableEq

structure DetectionRuleVersionRow where
  rule : DetectionRuleVersion
  canonicalDigest : String
  deriving DecidableEq

inductive HuntPlanStatus where
  | pending
  | claimed
  | completed
  deriving Repr, DecidableEq

structure HuntPlanRow where
  plan : HuntPlan
  status : HuntPlanStatus
  leaseUntil : Option Datetime
  workerId : Option String
  createdAt : Datetime
  completedAt : Option Datetime
  deriving DecidableEq

structure HuntExecutionRow where
  execution : HuntExecution
  hypothesisId : String
  result : HuntResult
  deriving DecidableEq

structure ResponseProposalRow where
  proposalId : String
  incidentId : String
  tenantId : String
  caseId : String
  targetId : String
  action : ResponseAction
  reason : String
  supportingEvidenceRefs : List String
  expectedImpact : String
  risk : String
  rollbackPlan : String
  expiresAt : Datetime
  proposalDigest : String
  opaDecision : OpaDecision
  humanApprovalState : HumanApprovalState
  authorizedActionExecuted : Bool
  deriving DecidableEq

structure ResponseCapabilityRequestRow where
  requestId : String
  proposalId : String
  tenantId : String
  caseId : String
  targetId : String
  action : ResponseAction
  proposalDigest : String
  requestedAt : Datetime
  deriving DecidableEq

structure Database where
  engagements : Table EngagementRow.engagementId
  engagementTargets : Table fun r : EngagementTargetRow => (r.engagementId, r.targetId)
  principals : Table PrincipalRow.principalId
  securityEvents : Table SecurityEvent.eventId
  detectionWorkItems : Table DetectionWorkItemRow.workId
  detectionRuleVersions : Table fun r : DetectionRuleVersionRow => (r.rule.ruleId, r.rule.version)
  detectionPlans : Table DetectionPlan.planId
  detectionRuns : Table DetectionRun.runId
  detectionEvaluations : Table DetectionEvaluation.evaluationId
  detectionSignals : Table DetectionSignal.signalId
  huntHypotheses : Table HuntHypothesis.hypothesisId
  huntPlans : Table fun r : HuntPlanRow => r.plan.planId
  huntExecutions : Table fun r : HuntExecutionRow => r.execution.executionId
  incidents : Table Incident.incidentId
  responseProposals : Table ResponseProposalRow.proposalId
  responseCapabilityRequests : Table ResponseCapabilityRequestRow.requestId
  approvals : Table Approval.approvalId

def Database.empty : Database where
  engagements := Table.empty
  engagementTargets := Table.empty
  principals := Table.empty
  securityEvents := Table.empty
  detectionWorkItems := Table.empty
  detectionRuleVersions := Table.empty
  detectionPlans := Table.empty
  detectionRuns := Table.empty
  detectionEvaluations := Table.empty
  detectionSignals := Table.empty
  huntHypotheses := Table.empty
  huntPlans := Table.empty
  huntExecutions := Table.empty
  incidents := Table.empty
  responseProposals := Table.empty
  responseCapabilityRequests := Table.empty
  approvals := Table.empty

/-- A transaction: what it returns and the database it commits, or what it raises, which rolls
everything back. -/
abbrev Transaction (α : Type) := Database → Except Raised (α × Database)

/-- The database after a transaction, whether it committed or rolled back. -/
def committed {α : Type} (db : Database) (r : Except Raised (α × Database)) : Database :=
  match r with
  | .ok (_, db') => db'
  | .error _ => db

lemma exists_eq_ok {α : Type} (db : Database) (r : Except Raised (α × Database))
    (h : r.isOk = true) : ∃ a, r = .ok (a, committed db r) := by
  cases r with
  | error e => cases h
  | ok r => exact ⟨r.1, rfl⟩

/-- A statement's unique constraints hold, or the database refuses it. -/
def unique {ρ κ : Type} {key : ρ → κ} (t : Option (Table key)) : Except Raised (Table key) :=
  match t with
  | some t => .ok t
  | none => raise .integrityError "duplicate key value violates unique constraint"

lemma unique_eq_ok {ρ κ : Type} {key : ρ → κ} {t : Option (Table key)} {t' : Table key} :
    unique t = .ok t' ↔ t = some t' := by
  cases t with
  | none => exact ⟨nofun, nofun⟩
  | some t => exact ⟨fun h => congrArg some (Except.ok.inj h), fun h => by cases h; rfl⟩

section Replay

variable {ρ κ : Type} {key : ρ → κ} [DecidableEq κ]

/-- Insert an immutable row, or accept the replay of a row that is the same in the compared columns
(`_insert_or_replay`, `_save_exact`). -/
def insertOrReplay (tablename : String) (same : ρ → ρ → Bool) (clash : ρ → ρ → Bool) (row : ρ)
    (t : Table key) : Except Raised (Table key) :=
  match t.get? (key row) with
  | some existing =>
    if same existing row then .ok t
    else raise .detectionInputError (tablename ++ " identity was reused for different content")
  | none => unique (t.insert? (clash row) row)

lemma insertOrReplay_eq_ok {tablename : String} {same : ρ → ρ → Bool} {clash : ρ → ρ → Bool}
    {row : ρ} {t t' : Table key} (h : insertOrReplay tablename same clash row t = .ok t') :
    (∃ x ∈ t, key x = key row ∧ same x row = true ∧ t' = t) ∨
      t.get? (key row) = none ∧ t'.rows = row :: t.rows ∧ ∀ x ∈ t, clash row x = false := by
  simp only [insertOrReplay] at h
  split at h
  · rename_i x hx
    obtain ⟨hmem, hkey⟩ := Table.get?_eq_some_iff.mp hx
    split at h
    · rename_i hsame
      exact Or.inl ⟨x, hmem, hkey, hsame, (Except.ok.inj h).symm⟩
    · cases h
  · obtain ⟨hrows, hnone, hclash⟩ := Table.insert?_eq_some (unique_eq_ok.mp h)
    exact Or.inr ⟨hnone, hrows, hclash⟩

lemma insertOrReplay_extends {tablename : String} {same : ρ → ρ → Bool} {clash : ρ → ρ → Bool}
    {row : ρ} {t t' : Table key} (h : insertOrReplay tablename same clash row t = .ok t') :
    t'.Extends t := by
  rcases insertOrReplay_eq_ok h with ⟨-, -, -, -, rfl⟩ | ⟨-, hrows, -⟩
  · exact Table.Extends.refl t'
  · intro x hx
    rw [Table.mem_def, hrows]
    exact List.mem_cons_of_mem row hx

/-- Save the rows one after the other. -/
def saveEach (save : ρ → Table key → Except Raised (Table key)) :
    List ρ → Table key → Except Raised (Table key)
  | [], t => .ok t
  | row :: rows, t => do
    let t ← save row t
    saveEach save rows t

omit [DecidableEq κ] in
lemma saveEach_extends {save : ρ → Table key → Except Raised (Table key)}
    (hsave : ∀ row t t', save row t = .ok t' → t'.Extends t) {rows : List ρ} {t t' : Table key}
    (h : saveEach save rows t = .ok t') : t'.Extends t := by
  induction rows generalizing t with
  | nil =>
    obtain rfl := Except.ok.inj h
    exact Table.Extends.refl t
  | cons row rows ih =>
    obtain ⟨t₁, h₁, h⟩ := bind_eq_ok.mp h
    exact (ih h).trans (hsave row t t₁ h₁)

section Coherent

variable {tablename : String} {same clash : ρ → ρ → Bool} {good : ρ → Prop}

/-- Among the good rows, those of one key are the same and those of different keys do not clash, so a
table of good rows accepts every good row. -/
structure Coherent (key : ρ → κ) (same clash : ρ → ρ → Bool) (good : ρ → Prop) : Prop where
  same : ∀ x y, good x → good y → key x = key y → same x y = true
  clash : ∀ x y, good x → good y → clash x y = true → key x = key y

lemma insertOrReplay_coherent (hgood : Coherent key same clash good) {row : ρ} {t : Table key}
    (ht : ∀ x ∈ t, good x) (hrow : good row) :
    ∃ t', insertOrReplay tablename same clash row t = .ok t' ∧ (∀ x ∈ t', good x) ∧
      ∃ x ∈ t', key x = key row := by
  unfold insertOrReplay
  cases hx : t.get? (key row) with
  | some x =>
    obtain ⟨hmem, hkey⟩ := Table.get?_eq_some_iff.mp hx
    have hsame := hgood.same x row (ht x hmem) hrow hkey
    exact ⟨t, if_pos hsame, ht, x, hmem, hkey⟩
  | none =>
    have hfree : ∀ x ∈ t, clash row x = false := by
      intro x hmem
      by_contra hclash
      rw [Bool.not_eq_false] at hclash
      exact Table.get?_eq_none_iff.mp hx x hmem (hgood.clash row x hrow (ht x hmem) hclash).symm
    obtain ⟨t', ht'⟩ := Option.isSome_iff_exists.mp (Table.insert?_isSome hx hfree)
    refine ⟨t', unique_eq_ok.mpr ht', ?_, row, (Table.mem_insert ht').mpr (Or.inl rfl), rfl⟩
    intro x hmem
    rcases (Table.mem_insert ht').mp hmem with rfl | hold
    · exact hrow
    · exact ht x hold

lemma saveEach_coherent (hgood : Coherent key same clash good) {rows : List ρ} {t : Table key}
    (ht : ∀ x ∈ t, good x) (hrows : ∀ row ∈ rows, good row) :
    ∃ t', saveEach (insertOrReplay tablename same clash) rows t = .ok t' ∧ (∀ x ∈ t', good x) ∧
      ∀ row ∈ rows, ∃ x ∈ t', key x = key row := by
  induction rows generalizing t with
  | nil => exact ⟨t, rfl, ht, nofun⟩
  | cons row rows ih =>
    obtain ⟨t₁, h₁, ht₁, x, hx, hkey⟩ :=
      insertOrReplay_coherent hgood ht (hrows row List.mem_cons_self)
    obtain ⟨t₂, h₂, ht₂, hall⟩ := ih ht₁ fun r hr => hrows r (List.mem_cons_of_mem row hr)
    refine ⟨t₂, bind_eq_ok.mpr ⟨t₁, h₁, h₂⟩, ht₂, ?_⟩
    intro r hr
    cases hr with
    | head => exact ⟨x, saveEach_extends (fun _ _ _ => insertOrReplay_extends) h₂ x hx, hkey⟩
    | tail _ hr => exact hall r hr

end Coherent

end Replay

def validateEngagementScope (db : Database) (scope : Scope) : Except Raised Unit :=
  match db.engagements.get? scope.caseId with
  | none => raise .permissionError "scope is not bound to a canonical engagement"
  | some engagement =>
    if engagement.clientId ≠ scope.tenantId then
      raise .permissionError "scope is not bound to a canonical engagement"
    else if (db.engagementTargets.get? (scope.caseId, scope.targetId)).any (·.inScope) then .ok ()
    else raise .permissionError "target is not in the canonical engagement scope"

end SecScanMonitor.Persistence
