import SecScanMonitor.Foundations.Dict

/-! The operator's snapshot (`compose_experience_snapshot` of `read_models.py`), and which tenant each of
its views is labelled with. -/

namespace SecScanMonitor.ReadModels

open Foundations

structure EngagementReadModel where
  engagementId : String
  clientId : String
  targetIds : List String
  scope : String
  status : String
  updatedAt : String
  deriving Repr, DecidableEq

structure FindingReadModel where
  findingId : String
  engagementId : Option String
  severity : Option String
  title : Option String
  summary : Option String
  status : Option String
  adjudication : Option String
  supportingEvidenceIds : List String
  deriving Repr, DecidableEq

structure AuditEventReadModel where
  auditEventId : String
  engagementId : Option String
  kind : String
  summary : String
  occurredAt : String
  deriving Repr, DecidableEq

structure DetectionSignalReadModel where
  signalId : String
  tenantId : String
  caseId : String
  ruleId : String
  ruleVersion : Int
  severity : String
  confidence : String
  status : String
  eventIds : List String
  evidenceRefs : List String
  source : String
  deriving Repr, DecidableEq

structure HuntReadModel where
  huntId : String
  hypothesisId : String
  tenantId : String
  caseId : String
  disposition : String
  status : String
  evidenceRefs : List String
  source : String
  deriving Repr, DecidableEq

structure IncidentReadModel where
  incidentId : String
  tenantId : String
  caseId : String
  status : String
  severity : String
  confidence : String
  signalIds : List String
  evidenceRefs : List String
  provenanceSource : String
  provenanceSourceType : String
  adjudicatedAt : String
  deriving Repr, DecidableEq

structure ResponseProposalReadModel where
  proposalId : String
  incidentId : String
  tenantId : String
  caseId : String
  targetId : String
  action : String
  opaDecision : String
  humanApprovalState : String
  status : String
  evidenceRefs : List String
  source : String
  deriving Repr, DecidableEq

/-- The label of a view. -/
structure Scope where
  tenantId : String
  caseId : String
  deriving Repr, DecidableEq

structure Provenance where
  source : String
  sourceType : String
  observedAt : String
  evidenceRefs : List String
  status : String
  deriving Repr, DecidableEq

structure CaseView where
  caseId : String
  clientLabel : String
  targetLabel : String
  state : String
  summary : String
  updatedAt : String
  findingIds : List String
  evidenceCount : ℕ
  activityCount : ℕ
  scope : Scope
  provenance : Provenance
  deriving Repr, DecidableEq

structure FindingView where
  findingId : String
  caseId : String
  title : String
  severity : String
  state : String
  evidenceRefs : List String
  scope : Scope
  provenance : Provenance
  deriving Repr, DecidableEq

structure ActivityView where
  id : String
  caseId : Option String
  occurredAt : String
  sequence : ℕ
  kind : String
  title : String
  state : String
  scope : Scope
  source : String
  deriving Repr, DecidableEq

structure SignalView where
  signalId : String
  caseId : String
  ruleId : String
  ruleVersion : Int
  severity : String
  confidence : String
  state : String
  eventIds : List String
  evidenceRefs : List String
  scope : Scope
  source : String
  deriving Repr, DecidableEq

structure HuntView where
  huntId : String
  hypothesisId : String
  caseId : String
  disposition : String
  state : String
  evidenceRefs : List String
  scope : Scope
  source : String
  deriving Repr, DecidableEq

structure IncidentView where
  incidentId : String
  caseId : String
  state : String
  severity : String
  confidence : String
  signalIds : List String
  evidenceRefs : List String
  scope : Scope
  provenance : Provenance
  deriving Repr, DecidableEq

structure ProposalView where
  proposalId : String
  incidentId : String
  caseId : String
  targetId : String
  action : String
  opaDecision : String
  humanApprovalState : String
  state : String
  evidenceRefs : List String
  scope : Scope
  source : String
  deriving Repr, DecidableEq

structure AttentionItem where
  id : String
  kind : String
  title : String
  detail : String
  caseId : String
  entityId : String
  status : String
  observedAt : String
  nextAction : String
  evidenceRefs : List String
  scope : Scope
  source : String
  deriving Repr, DecidableEq

/-- What a snapshot is composed of. -/
structure Sources where
  mode : String
  sourceLabel : String
  cases : List EngagementReadModel
  findings : List FindingReadModel
  evidenceCountByCase : Dict String ℕ
  activityCountByCase : Dict String ℕ
  audit : List AuditEventReadModel
  clients : Dict String String
  targets : Dict String String
  detectionSignals : List DetectionSignalReadModel
  hunts : List HuntReadModel
  incidents : List IncidentReadModel
  responseProposals : List ResponseProposalReadModel
  tenantId : Option String

structure Snapshot where
  mode : String
  sourceLabel : String
  tenantId : String
  attention : List AttentionItem
  cases : List CaseView
  findings : List FindingView
  activity : List ActivityView
  detectionSignals : List SignalView
  hunts : List HuntView
  incidents : List IncidentView
  responseProposals : List ProposalView

/-- `value or fallback` -/
def orText (value : Option String) (fallback : String) : String :=
  match value with
  | some s => if s = "" then fallback else s
  | none => fallback

/-- The tenants of the detection records, in the order in which they are looked through. -/
def recordTenants (s : Sources) : List String :=
  s.detectionSignals.map (·.tenantId) ++ s.hunts.map (·.tenantId) ++ s.incidents.map (·.tenantId) ++
    s.responseProposals.map (·.tenantId)

def selectedTenant (s : Sources) : String :=
  orText s.tenantId (((recordTenants s).find? fun t => t ≠ "").getD "operator-scope")

def scope (s : Sources) (caseId : String) : Scope := ⟨selectedTenant s, caseId⟩

def statusNames : List (String × String) :=
  [("SUPPORTS", "VERIFIED"), ("REFUTES", "CONTRADICTED"), ("REQUIRE_APPROVAL", "APPROVAL_REQUIRED"),
    ("ALLOW", "VERIFIED"), ("CONTAINED", "CONFIRMED"), ("RECOVERING", "CONFIRMED"), ("OPEN", "NEW"),
    ("CLOSED", "RESOLVED"), ("REFUSED", "DENIED"), ("REVOKED", "DENIED")]

def statuses : List String :=
  ["NEW", "CHANGED", "RESOLVED", "DENIED", "APPROVAL_REQUIRED", "INCONCLUSIVE", "UNAVAILABLE",
    "DEGRADED", "VERIFIED", "CONTRADICTED", "CANDIDATE", "CONFIRMED", "DISMISSED", "APPROVED",
    "EXPIRED", "UNKNOWN"]

section Compose

-- `str.upper`
variable (upper : String → String)

def status (value : String) : String :=
  (statusNames.lookup (upper value)).getD
    (if upper value ∈ statuses then upper value else "UNKNOWN")

def provenance (source observedAt : String) (evidenceRefs : List String) (state : String) :
    Provenance where
  source := source
  sourceType := "canonical-read-model"
  observedAt := observedAt
  evidenceRefs := evidenceRefs
  status := status upper state

variable (s : Sources)

def caseView (c : EngagementReadModel) : CaseView where
  caseId := c.engagementId
  clientLabel := (s.clients.find? c.clientId).getD c.clientId
  targetLabel :=
    orText ((c.targetIds.filterMap s.targets.find?).find? fun name => name ≠ "")
      (orText (some (", ".intercalate c.targetIds)) "target not validated")
  state := status upper c.status
  summary := s!"{c.status} case · {c.scope}"
  updatedAt := c.updatedAt
  findingIds := (s.findings.filter fun f => f.engagementId = some c.engagementId).map (·.findingId)
  evidenceCount := (s.evidenceCountByCase.find? c.engagementId).getD 0
  activityCount := (s.activityCountByCase.find? c.engagementId).getD 0
  scope := scope s c.engagementId
  provenance := provenance upper "canonical case read model" c.updatedAt [] (status upper c.status)

def findingState (f : FindingReadModel) : String :=
  status upper (orText f.adjudication (orText f.status "UNKNOWN"))

def findingView (f : FindingReadModel) : FindingView where
  findingId := f.findingId
  caseId := orText f.engagementId "unknown"
  title := orText f.title (orText f.summary "Canonical finding")
  severity := orText f.severity "UNKNOWN"
  state := findingState upper f
  evidenceRefs := f.supportingEvidenceIds
  scope := scope s (orText f.engagementId "unknown")
  provenance := provenance upper "canonical finding read model" "not_validated"
    f.supportingEvidenceIds (findingState upper f)

def activityView (item : AuditEventReadModel) (index : ℕ) : ActivityView where
  id := item.auditEventId
  caseId := item.engagementId
  occurredAt := item.occurredAt
  sequence := index + 1
  kind := item.kind
  title := item.summary
  state := status upper item.kind
  scope := scope s (orText item.engagementId "unknown")
  source := "canonical audit read model"

def signalView (item : DetectionSignalReadModel) : SignalView where
  signalId := item.signalId
  caseId := item.caseId
  ruleId := item.ruleId
  ruleVersion := item.ruleVersion
  severity := item.severity
  confidence := item.confidence
  state := status upper item.status
  eventIds := item.eventIds
  evidenceRefs := item.evidenceRefs
  scope := ⟨item.tenantId, item.caseId⟩
  source := item.source

def huntView (item : HuntReadModel) : HuntView where
  huntId := item.huntId
  hypothesisId := item.hypothesisId
  caseId := item.caseId
  disposition := status upper item.disposition
  state := status upper item.status
  evidenceRefs := item.evidenceRefs
  scope := ⟨item.tenantId, item.caseId⟩
  source := item.source

def incidentView (item : IncidentReadModel) : IncidentView where
  incidentId := item.incidentId
  caseId := item.caseId
  state := status upper item.status
  severity := item.severity
  confidence := item.confidence
  signalIds := item.signalIds
  evidenceRefs := item.evidenceRefs
  scope := ⟨item.tenantId, item.caseId⟩
  provenance :=
    { source := item.provenanceSource
      sourceType := item.provenanceSourceType
      observedAt := item.adjudicatedAt
      evidenceRefs := item.evidenceRefs
      status := status upper item.status }

def proposalView (item : ResponseProposalReadModel) : ProposalView where
  proposalId := item.proposalId
  incidentId := item.incidentId
  caseId := item.caseId
  targetId := item.targetId
  action := item.action
  opaDecision := status upper item.opaDecision
  humanApprovalState := status upper item.humanApprovalState
  state := status upper item.status
  evidenceRefs := item.evidenceRefs
  scope := ⟨item.tenantId, item.caseId⟩
  source := item.source

end Compose

def findingAttention (item : FindingView) : AttentionItem where
  id := s!"finding-{item.findingId}"
  kind := "finding"
  title := "Finding needs review"
  detail := item.title
  caseId := item.caseId
  entityId := item.findingId
  status := item.state
  observedAt := item.provenance.observedAt
  nextAction := "Inspect the adjudicated conclusion."
  evidenceRefs := item.evidenceRefs
  scope := item.scope
  source := "canonical finding projection"

def signalAttention (item : SignalView) : AttentionItem where
  id := s!"signal-{item.signalId}"
  kind := "detection"
  title := "New detection signal"
  detail := s!"{item.ruleId} · {item.severity}"
  caseId := item.caseId
  entityId := item.signalId
  status := item.state
  observedAt := "not_validated"
  nextAction := "Inspect the bounded signal evidence."
  evidenceRefs := item.evidenceRefs
  scope := item.scope
  source := item.source

def incidentAttention (item : IncidentView) : AttentionItem where
  id := s!"incident-{item.incidentId}"
  kind := "incident"
  title := "Confirmed incident"
  detail := s!"{item.incidentId} · {item.severity}"
  caseId := item.caseId
  entityId := item.incidentId
  status := item.state
  observedAt := item.provenance.observedAt
  nextAction := "Inspect adjudication provenance."
  evidenceRefs := item.evidenceRefs
  scope := item.scope
  source := item.provenance.source

def proposalAttention (item : ProposalView) : AttentionItem where
  id := s!"proposal-{item.proposalId}"
  kind := "response"
  title := "Response proposal awaits approval"
  detail := s!"{item.action} · {item.targetId}"
  caseId := item.caseId
  entityId := item.proposalId
  status := item.state
  observedAt := "not_validated"
  nextAction := "Review the exact human approval binding."
  evidenceRefs := item.evidenceRefs
  scope := item.scope
  source := item.source

def attention (findings : List FindingView) (signals : List SignalView)
    (incidents : List IncidentView) (proposals : List ProposalView) : List AttentionItem :=
  (findings.filter fun i => i.state ∉ ["RESOLVED", "DISMISSED"]).map findingAttention ++
    (signals.filter fun i => i.state ∈ ["NEW", "CHANGED"]).map signalAttention ++
    (incidents.filter fun i => i.state = "CONFIRMED").map incidentAttention ++
    (proposals.filter fun i => i.humanApprovalState = "APPROVAL_REQUIRED").map proposalAttention

def composeExperienceSnapshot (upper : String → String) (s : Sources) : Snapshot :=
  let findings := s.findings.map (findingView upper s)
  let signals := s.detectionSignals.map (signalView upper)
  let incidents := s.incidents.map (incidentView upper)
  let proposals := s.responseProposals.map (proposalView upper)
  { mode := s.mode
    sourceLabel := s.sourceLabel
    tenantId := selectedTenant s
    attention := attention findings signals incidents proposals
    cases := s.cases.map (caseView upper s)
    findings := findings
    activity := s.audit.mapIdx fun index item => activityView upper s item index
    detectionSignals := signals
    hunts := s.hunts.map (huntView upper)
    incidents := incidents
    responseProposals := proposals }

/-- A label names the client of the case. -/
def OfCase (s : Sources) (engagementId : Option String) (label : Scope) : Prop :=
  ∀ c ∈ s.cases, engagementId = some c.engagementId → label.tenantId = c.clientId

/-- Every view is labelled with the client of its own case, or with the tenant of its own record. -/
structure TenantsKept (s : Sources) (snapshot : Snapshot) : Prop where
  cases : List.Forall₂ (fun c v => v.scope.tenantId = c.clientId) s.cases snapshot.cases
  findings : List.Forall₂ (fun f v => OfCase s f.engagementId v.scope) s.findings snapshot.findings
  activity : List.Forall₂ (fun e v => OfCase s e.engagementId v.scope) s.audit snapshot.activity
  signals : List.Forall₂ (fun r v => v.scope.tenantId = r.tenantId) s.detectionSignals
    snapshot.detectionSignals
  hunts : List.Forall₂ (fun r v => v.scope.tenantId = r.tenantId) s.hunts snapshot.hunts
  incidents : List.Forall₂ (fun r v => v.scope.tenantId = r.tenantId) s.incidents snapshot.incidents
  proposals : List.Forall₂ (fun r v => v.scope.tenantId = r.tenantId) s.responseProposals
    snapshot.responseProposals
  attention : ∀ item ∈ snapshot.attention,
    item.scope ∈ snapshot.findings.map (·.scope) ++ snapshot.detectionSignals.map (·.scope) ++
      snapshot.incidents.map (·.scope) ++ snapshot.responseProposals.map (·.scope)

variable {upper : String → String} {s : Sources}

lemma forall₂_map_iff {α β : Type} {r : α → β → Prop} {f : α → β} {l : List α} :
    List.Forall₂ r l (l.map f) ↔ ∀ a ∈ l, r a (f a) := by
  rw [List.forall₂_map_right_iff, List.forall₂_same]

lemma attention_scope {findings : List FindingView} {signals : List SignalView}
    {incidents : List IncidentView} {proposals : List ProposalView} {item : AttentionItem}
    (h : item ∈ attention findings signals incidents proposals) :
    item.scope ∈ findings.map (·.scope) ++ signals.map (·.scope) ++ incidents.map (·.scope) ++
      proposals.map (·.scope) := by
  simp only [attention, List.mem_append, List.mem_map, List.mem_filter] at h ⊢
  rcases h with ((⟨v, ⟨hv, -⟩, rfl⟩ | ⟨v, ⟨hv, -⟩, rfl⟩) | ⟨v, ⟨hv, -⟩, rfl⟩) | ⟨v, ⟨hv, -⟩, rfl⟩
  · exact Or.inl (Or.inl (Or.inl ⟨v, hv, rfl⟩))
  · exact Or.inl (Or.inl (Or.inr ⟨v, hv, rfl⟩))
  · exact Or.inl (Or.inr ⟨v, hv, rfl⟩)
  · exact Or.inr ⟨v, hv, rfl⟩

/-- One tenant labels all cases, findings and events of a snapshot, so the labels are right just where
it is the client of every case. -/
theorem tenants_kept_iff (upper : String → String) (s : Sources) :
    TenantsKept s (composeExperienceSnapshot upper s) ↔
      ∀ c ∈ s.cases, c.clientId = selectedTenant s := by
  constructor
  · intro h c hc
    have hcases := h.cases
    exact (forall₂_map_iff.mp hcases c hc).symm
  · intro h
    constructor
    · exact forall₂_map_iff.mpr fun c hc => (h c hc).symm
    · exact forall₂_map_iff.mpr fun _ _ c hc _ => (h c hc).symm
    · rw [composeExperienceSnapshot, List.forall₂_iff_get]
      refine ⟨by simp, ?_⟩
      intro i hi hi' c hc _
      simpa [activityView, scope] using (h c hc).symm
    · exact forall₂_map_iff.mpr fun _ _ => rfl
    · exact forall₂_map_iff.mpr fun _ _ => rfl
    · exact forall₂_map_iff.mpr fun _ _ => rfl
    · exact forall₂_map_iff.mpr fun _ _ => rfl
    · exact fun _ hitem => attention_scope hitem

section Example

def openCase (engagementId clientId : String) : EngagementReadModel where
  engagementId := engagementId
  clientId := clientId
  targetIds := []
  scope := "repository"
  status := "active"
  updatedAt := "2026-01-01T00:00:00+00:00"

/-- Two clients' cases, and no detection record. -/
def twoClients : Sources where
  mode := "LOCAL_INTEGRATED"
  sourceLabel := "LOCAL / LOOPBACK / IN-MEMORY DEV READ MODEL"
  cases := [openCase "EN-1" "CLI-1", openCase "EN-2" "CLI-2"]
  findings := []
  evidenceCountByCase := Table.empty
  activityCountByCase := Table.empty
  audit := []
  clients := Table.empty
  targets := Table.empty
  detectionSignals := []
  hunts := []
  incidents := []
  responseProposals := []
  tenantId := none

theorem tenants_mixed : ¬ TenantsKept twoClients (composeExperienceSnapshot String.toUpper twoClients) := by
  intro h
  have hcases := h.cases
  simp only [composeExperienceSnapshot, twoClients, List.map_cons, List.forall₂_cons] at hcases
  exact absurd hcases.1 (by decide)

end Example

end SecScanMonitor.ReadModels
