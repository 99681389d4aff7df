import SecScanMonitor.DetectionResponse.Hunting
import SecScanMonitor.ReadModels.LiveOverlay

/-! When the console accepts the composed and the overlaid snapshot, and shows in both the statuses that it
would itself show for the raw values of the records. -/

namespace SecScanMonitor.ReadModels

open Foundations Console

section Accepted

lemma isArrayOf_map {α : Type} (p : Option Value → Bool) (f : α → Value) (l : List α) :
    isArrayOf (some (.arr (l.map f))) p = l.all fun a => p (some (f a)) := by
  simp only [isArrayOf, List.all_map, Function.comp_def]

lemma isStringArray_textValues (l : List String) : isStringArray (some (textValues l)) = true := by
  rw [isStringArray, textValues, isArrayOf_map]
  exact List.all_eq_true.mpr fun _ _ => rfl

lemma isScope_value (s : Scope) : isScope (some s.value) = true := rfl

lemma isStatus_str (text : String) : isStatus (some (.str text)) = decide (text ∈ experienceStatuses) := rfl

lemma isProvenance_value (p : Provenance) :
    isProvenance (some p.value) = decide (p.status ∈ experienceStatuses) := by
  simp [isProvenance, Provenance.value, property, Value.member?, isRecord, isString,
    isStringArray_textValues, isStatus_str, List.lookup_cons]

/-- The statuses of a snapshot are the console's. -/
structure StatusesKnown (s : Snapshot) : Prop where
  attention : ∀ v ∈ s.attention, v.status ∈ experienceStatuses
  cases : ∀ v ∈ s.cases, v.state ∈ experienceStatuses ∧ v.provenance.status ∈ experienceStatuses
  findings : ∀ v ∈ s.findings, v.state ∈ experienceStatuses ∧ v.provenance.status ∈ experienceStatuses
  activity : ∀ v ∈ s.activity, v.state ∈ experienceStatuses
  signals : ∀ v ∈ s.detectionSignals, v.state ∈ experienceStatuses
  hunts : ∀ v ∈ s.hunts, v.disposition ∈ experienceStatuses ∧ v.state ∈ experienceStatuses
  incidents : ∀ v ∈ s.incidents, v.state ∈ experienceStatuses ∧ v.provenance.status ∈ experienceStatuses
  proposals : ∀ v ∈ s.responseProposals, v.opaDecision ∈ experienceStatuses ∧
    v.humanApprovalState ∈ experienceStatuses ∧ v.state ∈ experienceStatuses

variable {mode : String}

lemma isAttentionItem_value (v : AttentionItem) :
    isAttentionItem (some v.value) = decide (v.status ∈ experienceStatuses) := by
  simp [isAttentionItem, AttentionItem.value, property, Value.member?, isRecord, isString, isScope_value,
    isStatus_str, List.lookup_cons]

lemma isCaseItem_value (v : CaseView) : isCaseItem (some v.value) =
    decide (v.state ∈ experienceStatuses ∧ v.provenance.status ∈ experienceStatuses) := by
  simp [isCaseItem, CaseView.value, property, Value.member?, isRecord, isString, isNumber, isScope_value,
    isProvenance_value, isStringArray_textValues, isStatus_str, List.lookup_cons]

lemma isFindingItem_value (v : FindingView) : isFindingItem (some v.value) =
    decide (v.state ∈ experienceStatuses ∧ v.provenance.status ∈ experienceStatuses) := by
  simp [isFindingItem, FindingView.value, property, Value.member?, isRecord, isString, isScope_value,
    isProvenance_value, isStringArray_textValues, isStatus_str, List.lookup_cons]

lemma isActivityItem_value (v : ActivityView) :
    isActivityItem (some v.value) = decide (v.state ∈ experienceStatuses) := by
  simp [isActivityItem, ActivityView.value, property, Value.member?, isRecord, isString, isNumber,
    isScope_value, isStringArray_textValues, isStatus_str, List.lookup_cons]

lemma isSignalItem_value (v : SignalView) :
    isSignalItem (some v.value) = decide (v.state ∈ experienceStatuses) := by
  simp [isSignalItem, SignalView.value, property, Value.member?, isRecord, isString, isNumber, isScope_value,
    isStringArray_textValues, isStatus_str, List.lookup_cons]

lemma isHuntItem_value (v : HuntView) : isHuntItem (some v.value) =
    decide (v.disposition ∈ experienceStatuses ∧ v.state ∈ experienceStatuses) := by
  simp [isHuntItem, HuntView.value, property, Value.member?, isRecord, isString, isScope_value,
    isStringArray_textValues, isStatus_str, List.lookup_cons]

lemma isIncidentItem_value (v : IncidentView) : isIncidentItem (some v.value) =
    decide (v.state ∈ experienceStatuses ∧ v.provenance.status ∈ experienceStatuses) := by
  simp [isIncidentItem, IncidentView.value, property, Value.member?, isRecord, isString, isScope_value,
    isProvenance_value, isStringArray_textValues, isStatus_str, List.lookup_cons]

lemma isProposalItem_value (v : ProposalView) : isProposalItem (some v.value) =
    decide (v.opaDecision ∈ experienceStatuses ∧ v.humanApprovalState ∈ experienceStatuses ∧
      v.state ∈ experienceStatuses) := by
  simp [isProposalItem, ProposalView.value, property, Value.member?, isRecord, isString, isScope_value,
    isStringArray_textValues, isStatus_str, List.lookup_cons, Bool.and_assoc]

/-- The console accepts a snapshot for its mode and its statuses: everything else has the right shape. -/
lemma accepted_iff (s : Snapshot) :
    isExperienceSnapshot (some s.value) = true ↔ s.mode ∈ dataModes ∧ StatusesKnown s := by
  have hparts : isExperienceSnapshot (some s.value) = true ↔ s.mode ∈ dataModes ∧
      isArrayOf (some (.arr (s.attention.map AttentionItem.value))) isAttentionItem = true ∧
      isArrayOf (some (.arr (s.cases.map CaseView.value))) isCaseItem = true ∧
      isArrayOf (some (.arr (s.findings.map FindingView.value))) isFindingItem = true ∧
      isArrayOf (some (.arr (s.activity.map ActivityView.value))) isActivityItem = true ∧
      isArrayOf (some (.arr (s.detectionSignals.map SignalView.value))) isSignalItem = true ∧
      isArrayOf (some (.arr (s.hunts.map HuntView.value))) isHuntItem = true ∧
      isArrayOf (some (.arr (s.incidents.map IncidentView.value))) isIncidentItem = true ∧
      isArrayOf (some (.arr (s.responseProposals.map ProposalView.value))) isProposalItem = true := by
    have hconnection : "CONNECTED" ∈ connectionStates := by decide
    simp [isExperienceSnapshot, isDetectionResponseProjection, isOptionalArrayOf, Snapshot.value, property,
      Value.member?, isRecord, isString, isOneOf, List.lookup_cons, hconnection, and_assoc,
      show isArrayOf (some (.arr [])) isGraphNodeItem = true from rfl,
      show isArrayOf (some (.arr [])) isGraphEdgeItem = true from rfl,
      show isArrayOf (some (.arr [])) isRunnerItem = true from rfl]
  rw [hparts]
  simp only [isArrayOf_map, isAttentionItem_value, isCaseItem_value, isFindingItem_value,
    isActivityItem_value, isSignalItem_value, isHuntItem_value, isIncidentItem_value, isProposalItem_value,
    List.all_eq_true, decide_eq_true_eq]
  constructor
  · rintro ⟨hmode, hattention, hcases, hfindings, hactivity, hsignals, hhunts, hincidents, hproposals⟩
    exact ⟨hmode, hattention, hcases, hfindings, hactivity, hsignals, hhunts, hincidents, hproposals⟩
  · rintro ⟨hmode, h⟩
    exact ⟨hmode, h.attention, h.cases, h.findings, h.activity, h.signals, h.hunts, h.incidents, h.proposals⟩

end Accepted

section Statuses

variable (upper : String → String)

/-- The names that both tables of the server map as the console does. -/
def commonNames : List String := ["SUPPORTS", "REFUTES", "REQUIRE_APPROVAL", "ALLOW"]

/-- A raw value that the console and the server show alike. -/
def Common (text : String) : Prop := text ∈ commonNames ∨ text ∈ experienceStatuses

instance (text : String) : Decidable (Common text) := inferInstanceAs (Decidable (_ ∨ _))

lemma statuses_eq : statuses = experienceStatuses := rfl

lemma getD_lookup_mem {names : List (String × String)} {u other : String}
    (hnames : ∀ pair ∈ names, pair.2 ∈ experienceStatuses) (hother : other ∈ experienceStatuses) :
    (names.lookup u).getD other ∈ experienceStatuses := by
  cases hlookup : names.lookup u with
  | none => exact hother
  | some name =>
    obtain ⟨before, after, rfl, -⟩ := List.lookup_eq_some_iff.mp hlookup
    exact hnames (u, name) (List.mem_append_right before List.mem_cons_self)

lemma status_mem (value : String) : status upper value ∈ experienceStatuses := by
  refine getD_lookup_mem (by decide) ?_
  split
  · assumption
  · decide

lemma mapExperienceStatus_mem {fallback : String} (hfallback : fallback ∈ experienceStatuses)
    (value : Option String) : mapExperienceStatus upper value fallback ∈ experienceStatuses := by
  rw [mapExperienceStatus]
  split
  · assumption
  · exact hfallback

/-- Both tables of the server and the console's show one status for a text. -/
def ShownAlike (fallback value : String) : Prop :=
  status upper value = mapExperienceStatus upper (some value) fallback ∧
    Overlay.status upper value fallback = mapExperienceStatus upper (some value) fallback

instance (fallback value : String) : Decidable (ShownAlike upper fallback value) :=
  inferInstanceAs (Decidable (_ ∧ _))

lemma lookup_unmapped {names : List (String × String)} {u : String}
    (hnames : ∀ pair ∈ names, pair.1 ∈ mappedStatuses.map Prod.fst) (hu : u ∉ mappedStatuses.map Prod.fst) :
    names.lookup u = none := by
  rw [List.lookup_eq_none_iff]
  intro pair hpair
  rw [bne_iff_ne]
  rintro rfl
  exact hu (hnames pair hpair)

/-- A text that no table names is shown by each reader as it is, or for its own fallback. -/
lemma shown_unmapped {u : String} (hu : u ∉ mappedStatuses.map Prod.fst) (fallback : String) :
    status id u = (if u ∈ experienceStatuses then u else "UNKNOWN") ∧
      Overlay.status id u fallback = orText (some u) fallback ∧
      mapExperienceStatus id (some u) fallback = if u ∈ experienceStatuses then u else fallback := by
  have hcompose : statusNames.lookup u = none := lookup_unmapped (by decide) hu
  have hoverlay : Overlay.statusNames.lookup u = none := lookup_unmapped (by decide) hu
  have hconsole : mappedStatuses.lookup u = none := lookup_unmapped (fun _ => List.mem_map_of_mem) hu
  refine ⟨?_, ?_, ?_⟩
  · rw [status, id, hcompose]
    rfl
  · rw [Overlay.status, id, hoverlay]
    rfl
  · rw [mapExperienceStatus, Option.getD_some, id, hconsole]
    rfl

lemma common_of_unmapped {u : String} (hu : u ∉ mappedStatuses.map Prod.fst) :
    Common u ↔ u ∈ experienceStatuses := by
  have hnames : ∀ k ∈ commonNames, k ∈ mappedStatuses.map Prod.fst := by decide
  exact ⟨fun h => h.resolve_left fun hname => hu (hnames u hname), Or.inr⟩

lemma orText_mem {u : String} (hu : u ∈ experienceStatuses) (fallback : String) :
    orText (some u) fallback = u := by
  have hempty : u ≠ "" := by
    rintro rfl
    exact absurd hu (by decide)
  rw [orText, if_neg hempty]

lemma shownAlike_unknown (value : String) :
    ShownAlike upper "UNKNOWN" value ↔ Common (upper value) ∨ upper value = "" := by
  suffices h : ∀ u : String, ShownAlike id "UNKNOWN" u ↔ Common u ∨ u = "" from h (upper value)
  intro u
  by_cases hu : u ∈ mappedStatuses.map Prod.fst
  · have hnamed : ∀ k ∈ mappedStatuses.map Prod.fst, ShownAlike id "UNKNOWN" k ↔ Common k ∨ k = "" := by
      decide
    exact hnamed u hu
  · obtain ⟨hcompose, hoverlay, hconsole⟩ := shown_unmapped hu "UNKNOWN"
    rw [ShownAlike, hcompose, hoverlay, hconsole, common_of_unmapped hu]
    by_cases hmem : u ∈ experienceStatuses
    · simp [hmem, orText_mem hmem]
    · -- the overlay keeps what is not empty
      have hother : u ≠ "UNKNOWN" := by
        rintro rfl
        exact hmem (by decide)
      simp [hmem, orText, hother]

lemma shownAlike_inconclusive (value : String) :
    ShownAlike upper "INCONCLUSIVE" value ↔ Common (upper value) := by
  suffices h : ∀ u : String, ShownAlike id "INCONCLUSIVE" u ↔ Common u from h (upper value)
  intro u
  by_cases hu : u ∈ mappedStatuses.map Prod.fst
  · have hnamed : ∀ k ∈ mappedStatuses.map Prod.fst, ShownAlike id "INCONCLUSIVE" k ↔ Common k := by decide
    exact hnamed u hu
  · obtain ⟨hcompose, hoverlay, hconsole⟩ := shown_unmapped hu "INCONCLUSIVE"
    rw [ShownAlike, hcompose, hoverlay, hconsole, common_of_unmapped hu]
    by_cases hmem : u ∈ experienceStatuses
    · simp [hmem, orText_mem hmem]
    · -- the fallbacks of the server and of the console differ
      simp [hmem]

end Statuses

section Contract

variable (upper : String → String) (s : Sources)

/-- The rows that a snapshot is composed of. -/
def Sources.rows : CanonicalRows := ⟨s.detectionSignals, s.hunts, s.incidents, s.responseProposals⟩

/-- The snapshot that is served: the composed one with the same rows laid over it. -/
def overlaidSnapshot (accessPrincipalId : Option String) : Snapshot :=
  experienceOverlay upper none s.rows (composeExperienceSnapshot upper s) accessPrincipalId

/-- The statuses of the records are shown as the console maps their raw values. -/
structure ShownAsMapped (snapshot : Snapshot) : Prop where
  signals : List.Forall₂ (fun row v => v.state = mapExperienceStatus upper (some row.status) "UNKNOWN")
    s.detectionSignals snapshot.detectionSignals
  hunts : List.Forall₂ (fun row v =>
    v.disposition = mapExperienceStatus upper (some row.disposition) "INCONCLUSIVE" ∧
      v.state = mapExperienceStatus upper (some row.status) "INCONCLUSIVE") s.hunts snapshot.hunts
  incidents : List.Forall₂ (fun row v => v.state = mapExperienceStatus upper (some row.status) "UNKNOWN" ∧
    v.provenance.status = mapExperienceStatus upper (some row.status) "UNKNOWN") s.incidents snapshot.incidents
  proposals : List.Forall₂ (fun row v =>
    v.opaDecision = mapExperienceStatus upper (some row.opaDecision) "UNKNOWN" ∧
      v.humanApprovalState = mapExperienceStatus upper (some row.humanApprovalState) "UNKNOWN" ∧
      v.state = mapExperienceStatus upper (some row.status) "UNKNOWN") s.responseProposals
    snapshot.responseProposals

/-- `str.upper` and `toUpperCase` are one mapping, which both languages take from Unicode. -/
structure WireContract (accessPrincipalId : Option String) : Prop where
  composed : isExperienceSnapshot (some (composeExperienceSnapshot upper s).value) = true
  overlaid : isExperienceSnapshot (some (overlaidSnapshot upper s accessPrincipalId).value) = true
  shownComposed : ShownAsMapped upper s (composeExperienceSnapshot upper s)
  shownOverlaid : ShownAsMapped upper s (overlaidSnapshot upper s accessPrincipalId)

def CommonOrEmpty (text : String) : Prop := Common text ∨ text = ""

instance (text : String) : Decidable (CommonOrEmpty text) := inferInstanceAs (Decidable (_ ∨ _))

/-- The raw values that all readers show alike. -/
structure StatusesCommon : Prop where
  mode : s.mode ∈ dataModes
  signals : ∀ row ∈ s.detectionSignals, CommonOrEmpty (upper row.status)
  hunts : ∀ row ∈ s.hunts, Common (upper row.disposition) ∧ Common (upper row.status)
  incidents : ∀ row ∈ s.incidents, CommonOrEmpty (upper row.status)
  proposals : ∀ row ∈ s.responseProposals, CommonOrEmpty (upper row.opaDecision) ∧
    CommonOrEmpty (upper row.humanApprovalState) ∧ CommonOrEmpty (upper row.status)

variable {upper s} {accessPrincipalId : Option String}

variable (upper s accessPrincipalId) in
lemma shown_iff : ShownAsMapped upper s (composeExperienceSnapshot upper s) ∧
    ShownAsMapped upper s (overlaidSnapshot upper s accessPrincipalId) ↔
      (∀ row ∈ s.detectionSignals, ShownAlike upper "UNKNOWN" row.status) ∧
      (∀ row ∈ s.hunts, ShownAlike upper "INCONCLUSIVE" row.disposition ∧
        ShownAlike upper "INCONCLUSIVE" row.status) ∧
      (∀ row ∈ s.incidents, ShownAlike upper "UNKNOWN" row.status) ∧
      ∀ row ∈ s.responseProposals, ShownAlike upper "UNKNOWN" row.opaDecision ∧
        ShownAlike upper "UNKNOWN" row.humanApprovalState ∧ ShownAlike upper "UNKNOWN" row.status := by
  constructor
  · rintro ⟨hcomposed, hoverlaid⟩
    refine ⟨fun row hrow => ?_, fun row hrow => ?_, fun row hrow => ?_, fun row hrow => ?_⟩
    · exact ⟨forall₂_map_iff.mp hcomposed.signals row hrow, forall₂_map_iff.mp hoverlaid.signals row hrow⟩
    · obtain ⟨hd, hs⟩ := forall₂_map_iff.mp hcomposed.hunts row hrow
      obtain ⟨hd', hs'⟩ := forall₂_map_iff.mp hoverlaid.hunts row hrow
      exact ⟨⟨hd, hd'⟩, hs, hs'⟩
    · exact ⟨(forall₂_map_iff.mp hcomposed.incidents row hrow).1,
        (forall₂_map_iff.mp hoverlaid.incidents row hrow).1⟩
    · obtain ⟨hd, ha, hs⟩ := forall₂_map_iff.mp hcomposed.proposals row hrow
      obtain ⟨hd', ha', hs'⟩ := forall₂_map_iff.mp hoverlaid.proposals row hrow
      exact ⟨⟨hd, hd'⟩, ⟨ha, ha'⟩, hs, hs'⟩
  · rintro ⟨hsignals, hhunts, hincidents, hproposals⟩
    constructor
    · constructor
      · exact forall₂_map_iff.mpr fun row hrow => (hsignals row hrow).1
      · exact forall₂_map_iff.mpr fun row hrow => ⟨(hhunts row hrow).1.1, (hhunts row hrow).2.1⟩
      · exact forall₂_map_iff.mpr fun row hrow => ⟨(hincidents row hrow).1, (hincidents row hrow).1⟩
      · exact forall₂_map_iff.mpr fun row hrow => ⟨(hproposals row hrow).1.1, (hproposals row hrow).2.1.1,
          (hproposals row hrow).2.2.1⟩
    · constructor
      · exact forall₂_map_iff.mpr fun row hrow => (hsignals row hrow).2
      · exact forall₂_map_iff.mpr fun row hrow => ⟨(hhunts row hrow).1.2, (hhunts row hrow).2.2⟩
      · exact forall₂_map_iff.mpr fun row hrow => ⟨(hincidents row hrow).2, (hincidents row hrow).2⟩
      · exact forall₂_map_iff.mpr fun row hrow => ⟨(hproposals row hrow).1.2, (hproposals row hrow).2.1.2,
          (hproposals row hrow).2.2.2⟩

/-- The composed snapshot has statuses of the console, whatever the raw values are. -/
lemma composed_known (upper : String → String) (s : Sources) :
    StatusesKnown (composeExperienceSnapshot upper s) := by
  have hfinding : ∀ f, (findingView upper s f).state ∈ experienceStatuses := fun f => status_mem upper _
  constructor
  · intro v hv
    simp only [composeExperienceSnapshot, attention, List.mem_append, List.mem_map, List.mem_filter] at hv
    rcases hv with ((⟨v, ⟨⟨f, -, rfl⟩, -⟩, rfl⟩ | ⟨v, ⟨⟨row, -, rfl⟩, -⟩, rfl⟩) | ⟨v, ⟨⟨row, -, rfl⟩, -⟩, rfl⟩) |
      ⟨v, ⟨⟨row, -, rfl⟩, -⟩, rfl⟩ <;> exact status_mem upper _
  · intro v hv
    obtain ⟨c, -, rfl⟩ := List.mem_map.mp hv
    exact ⟨status_mem upper _, status_mem upper _⟩
  · intro v hv
    obtain ⟨f, -, rfl⟩ := List.mem_map.mp hv
    exact ⟨status_mem upper _, status_mem upper _⟩
  · intro v hv
    obtain ⟨i, item, rfl⟩ := List.mem_mapIdx.mp hv
    exact status_mem upper _
  · intro v hv
    obtain ⟨row, -, rfl⟩ := List.mem_map.mp hv
    exact status_mem upper _
  · intro v hv
    obtain ⟨row, -, rfl⟩ := List.mem_map.mp hv
    exact ⟨status_mem upper _, status_mem upper _⟩
  · intro v hv
    obtain ⟨row, -, rfl⟩ := List.mem_map.mp hv
    exact ⟨status_mem upper _, status_mem upper _⟩
  · intro v hv
    obtain ⟨row, -, rfl⟩ := List.mem_map.mp hv
    exact ⟨status_mem upper _, status_mem upper _, status_mem upper _⟩

/-- What is shown as the console maps it is a status of the console. -/
lemma overlaid_known (h : ShownAsMapped upper s (overlaidSnapshot upper s accessPrincipalId)) :
    StatusesKnown (overlaidSnapshot upper s accessPrincipalId) := by
  have hunknown : ∀ value, mapExperienceStatus upper value "UNKNOWN" ∈ experienceStatuses :=
    mapExperienceStatus_mem upper (by decide)
  have hinconclusive : ∀ value, mapExperienceStatus upper value "INCONCLUSIVE" ∈ experienceStatuses :=
    mapExperienceStatus_mem upper (by decide)
  -- the overlay leaves the other lists as they were composed
  refine { composed_known upper s with signals := ?_, hunts := ?_, incidents := ?_, proposals := ?_ }
  · intro v hv
    obtain ⟨row, hrow, rfl⟩ := List.mem_map.mp hv
    rw [forall₂_map_iff.mp h.signals row hrow]
    exact hunknown _
  · intro v hv
    obtain ⟨row, hrow, rfl⟩ := List.mem_map.mp hv
    obtain ⟨hdisposition, hstate⟩ := forall₂_map_iff.mp h.hunts row hrow
    rw [hdisposition, hstate]
    exact ⟨hinconclusive _, hinconclusive _⟩
  · intro v hv
    obtain ⟨row, hrow, rfl⟩ := List.mem_map.mp hv
    obtain ⟨hstate, hprovenance⟩ := forall₂_map_iff.mp h.incidents row hrow
    rw [hstate, hprovenance]
    exact ⟨hunknown _, hunknown _⟩
  · intro v hv
    obtain ⟨row, hrow, rfl⟩ := List.mem_map.mp hv
    obtain ⟨hdecision, happroval, hstate⟩ := forall₂_map_iff.mp h.proposals row hrow
    rw [hdecision, happroval, hstate]
    exact ⟨hunknown _, hunknown _, hunknown _⟩

theorem wireContract_iff (upper : String → String) (s : Sources) (accessPrincipalId : Option String) :
    WireContract upper s accessPrincipalId ↔ StatusesCommon upper s := by
  have hshown := shown_iff upper s accessPrincipalId
  simp only [shownAlike_unknown, shownAlike_inconclusive] at hshown
  constructor
  · intro h
    obtain ⟨hsignals, hhunts, hincidents, hproposals⟩ := hshown.mp ⟨h.shownComposed, h.shownOverlaid⟩
    exact ⟨((accepted_iff _).mp h.composed).1, hsignals, hhunts, hincidents, hproposals⟩
  · intro h
    obtain ⟨hcomposed, hoverlaid⟩ := hshown.mpr ⟨h.signals, h.hunts, h.incidents, h.proposals⟩
    exact ⟨(accepted_iff _).mpr ⟨h.mode, composed_known upper s⟩,
      (accepted_iff _).mpr ⟨h.mode, overlaid_known hoverlaid⟩, hcomposed, hoverlaid⟩

end Contract

section Canonical

/-! The members of the domain's enumerations that are shown alike. -/

lemma common_disposition (d : DetectionResponse.HuntDisposition) : Common d.value := by
  cases d <;> decide

lemma common_approval (a : DetectionResponse.HumanApprovalState) : Common a.value := by
  cases a <;> decide

lemma commonOrEmpty_decision (d : DetectionResponse.OpaDecision) : CommonOrEmpty d.value ↔ d ≠ .deny := by
  cases d <;> decide

lemma commonOrEmpty_incident (t : DetectionResponse.IncidentState) :
    CommonOrEmpty t.value ↔ t ≠ .contained ∧ t ≠ .recovering := by
  cases t <;> decide

end Canonical

section Example

def containedIncident : IncidentReadModel where
  incidentId := "INC-1"
  tenantId := "CLI-1"
  caseId := "EN-1"
  status := DetectionResponse.IncidentState.contained.value
  severity := "HIGH"
  confidence := "HIGH"
  signalIds := ["SIG-1"]
  evidenceRefs := ["EV-1"]
  provenanceSource := "canonical incident adjudication"
  provenanceSourceType := "postgresql"
  adjudicatedAt := "2026-01-01T00:00:00+00:00"

/-- A snapshot with one contained incident. -/
def containedSources : Sources := { twoClients with cases := [], incidents := [containedIncident] }

theorem contained_refused : ¬ WireContract String.toUpper containedSources (some "PRN-1") := by
  intro h
  have hrefused : isExperienceSnapshot
      (some (overlaidSnapshot String.toUpper containedSources (some "PRN-1")).value) = false := by
    decide +kernel
  rw [h.overlaid] at hrefused
  cases hrefused

end Example

end SecScanMonitor.ReadModels
