import SecScanMonitor.ReadModels.CanonicalReads

/-! What the snapshot of the hosted console counts. It joins the first pages of separate listings, so that its
counts are those of the tables just where these pages hold every row of the cases. -/

namespace SecScanMonitor.ReadModels

open Foundations Domain

section Pages

variable {ρ α : Type} {rows : List ρ} {model : ρ → α}

/-- The size of a page of the snapshot. -/
def pageSize : ℕ := 100

lemma listRows_eq (cursor : Option Str) (limit : ℤ) :
    listRows rows model cursor limit = readRows (rows.map model) cursor limit := by
  rw [listRows, readRows]
  cases readWindow cursor limit with
  | error e => rfl
  | ok w =>
    obtain ⟨offset, fetch⟩ := w
    change (window rows offset fetch >>= fun rows => readPage (rows.map model) offset limit) =
      (window (rows.map model) offset fetch >>= fun items => readPage items offset limit)
    rw [window, window]
    by_cases h : maxOffset < offset
    · rw [raiseIf, if_pos h]
      rfl
    · rw [raiseIf, if_neg h, ok_bind, ok_bind]
      change readPage (((rows.drop offset).take fetch).map model) offset limit =
        readPage (((rows.map model).drop offset).take fetch) offset limit
      rw [List.map_take, List.map_drop]

/-- The first page of a listing. -/
lemma listRows_first : ∃ p, listRows rows model none 100 = .ok p ∧ p.items = (rows.take pageSize).map model := by
  obtain ⟨p, hp, hitems, -⟩ : ∃ p, pageAt (rows.map model) 0 100 = .ok p ∧ _ :=
    pageAt_isOk (by decide) fun _ => by decide
  refine ⟨p, ?_, ?_⟩
  · rw [listRows_eq, readRows_eq (by decide) rfl (by decide)]
    exact hp
  · rw [hitems, List.drop_zero, List.map_take]
    rfl

/-- The rows with a property on the first page are all that have it, just where none behind the page has. -/
lemma countP_page_iff {κ : Type} [LinearOrder κ] {key : ρ → κ} {l : List ρ} {p : ρ → Prop} [DecidablePred p] {n : ℕ} :
    (((sortBy key l).take n).countP fun a => decide (p a)) = (l.countP fun a => decide (p a)) ↔
      ∀ a ∈ (sortBy key l).drop n, ¬ p a := by
  have hperm : (sortBy key l).Perm l := sortBy_perm
  have hsplit : ((sortBy key l).countP fun a => decide (p a)) =
      (((sortBy key l).take n).countP fun a => decide (p a)) +
        ((sortBy key l).drop n).countP fun a => decide (p a) := by
    rw [← List.countP_append, List.take_append_drop]
  have hzero : (((sortBy key l).drop n).countP fun a => decide (p a)) = 0 ↔ ∀ a ∈ (sortBy key l).drop n, ¬ p a := by
    simp only [List.countP_eq_zero, decide_eq_true_eq]
  rw [← hperm.countP_eq, hsplit, ← hzero]
  omega

lemma find?_countByCase {cases : List EngagementReadModel} {items : List α} {engagementId : α → Option String}
    {c : EngagementReadModel} (hc : c ∈ cases) : (countByCase cases items engagementId).find? c.engagementId =
      some (items.countP fun item => engagementId item = some c.engagementId) := by
  rw [countByCase]
  induction cases using List.reverseRecOn with
  | nil => cases hc
  | append_singleton cases d ih =>
    rw [List.foldl_append, List.foldl_cons, List.foldl_nil, Dict.find?_put]
    by_cases hd : c.engagementId = d.engagementId
    · rw [if_pos hd, hd]
    · rw [if_neg hd]
      refine ih ((List.mem_append.mp hc).resolve_right fun hlast => hd ?_)
      rw [List.mem_singleton.mp hlast]

end Pages

section Counts

variable {κ : Type} [LinearOrder κ] (collate : String → κ) (isoformat : Datetime → String) (upper : String → String)
variable (db : Database) (human : String)

/-- The counts and the findings of a listed case are those of all its rows that the human sees. -/
structure CountsTrue (view : CaseView) : Prop where
  evidence : view.evidenceCount = (db.visibleEvidence human).countP fun r => r.engagementId = view.caseId
  activity : view.activityCount = (db.visibleAuditEvents human).countP fun r => r.engagementId = some view.caseId
  findings : view.findingIds.Perm
    (((db.visibleFindings human).filter fun r => r.engagementId = view.caseId).map (·.findingId))

/-- The rows of a case that the human sees stand on the first pages of their listings. -/
structure WithinPages (caseId : String) : Prop where
  evidence : ∀ r ∈ (evidenceRows collate db human).drop pageSize, r.engagementId ≠ caseId
  activity : ∀ r ∈ (auditRows collate db human).drop pageSize, r.engagementId ≠ some caseId
  findings : ∀ r ∈ (findingRows collate db human).drop pageSize, r.engagementId ≠ caseId

/-- What the cases of a snapshot are composed of. -/
structure Composed (s : Sources) : Prop where
  cases : s.cases =
    ((engagementRows collate db human).take pageSize).map (engagementReadModel isoformat db human)
  findings : s.findings = ((findingRows collate db human).take pageSize).map (findingReadModel db)
  evidence : s.evidenceCountByCase = countByCase s.cases
    (((evidenceRows collate db human).take pageSize).map (evidenceReadModel db human)) (·.engagementId)
  activity : s.activityCountByCase = countByCase s.cases
    (((auditRows collate db human).take pageSize).map (auditReadModel isoformat)) (·.engagementId)

/-- A snapshot is always given. -/
lemma experience_isOk : ∃ s, experience collate isoformat upper db human = .ok (composeExperienceSnapshot upper s) ∧
    Composed collate isoformat db human s := by
  obtain ⟨clients, hclients, -⟩ : ∃ p, listClients collate db human none 100 = .ok p ∧ _ := listRows_first
  obtain ⟨targets, htargets, -⟩ : ∃ p, listTargets collate db human none 100 = .ok p ∧ _ := listRows_first
  obtain ⟨cases, hcases, hcaseItems⟩ : ∃ p, listEngagements collate isoformat db human none 100 = .ok p ∧ _ :=
    listRows_first
  obtain ⟨findings, hfindings, hfindingItems⟩ : ∃ p, listFindings collate db human none 100 = .ok p ∧ _ :=
    listRows_first
  obtain ⟨evidence, hevidence, hevidenceItems⟩ : ∃ p, listEvidence collate db human none 100 = .ok p ∧ _ :=
    listRows_first
  obtain ⟨audit, haudit, hauditItems⟩ : ∃ p, listAudit collate isoformat db human none 100 = .ok p ∧ _ :=
    listRows_first
  obtain ⟨signals, hsignals, -⟩ : ∃ p, listDetectionSignals collate db human none 100 = .ok p ∧ _ := listRows_first
  obtain ⟨hunts, hhunts, -⟩ : ∃ p, listHunts collate db human none 100 = .ok p ∧ _ := listRows_first
  obtain ⟨incidents, hincidents, -⟩ : ∃ p, listIncidents collate isoformat db human none 100 = .ok p ∧ _ :=
    listRows_first
  obtain ⟨proposals, hproposals, -⟩ : ∃ p, listResponseProposals collate db human none 100 = .ok p ∧ _ :=
    listRows_first
  rw [experience, hclients, ok_bind, htargets, ok_bind, hcases, ok_bind, hfindings, ok_bind, hevidence, ok_bind,
    haudit, ok_bind, hsignals, ok_bind, hhunts, ok_bind, hincidents, ok_bind, hproposals, ok_bind]
  refine ⟨_, rfl, hcaseItems, hfindingItems, ?_, ?_⟩
  · rw [hevidenceItems]
  · rw [hauditItems]

variable {collate isoformat upper db human} {s : Sources}

/-- The counts of a listed case are true just where its rows stand on the first pages. -/
lemma countsTrue_iff (hs : Composed collate isoformat db human s) {e : EngagementRow}
    (he : e ∈ (engagementRows collate db human).take pageSize) :
    CountsTrue db human (caseView upper s (engagementReadModel isoformat db human e)) ↔
      WithinPages collate db human e.engagementId := by
  have hcase : engagementReadModel isoformat db human e ∈ s.cases := by
    rw [hs.cases]
    exact List.mem_map_of_mem he
  have hevidence : (caseView upper s (engagementReadModel isoformat db human e)).evidenceCount =
      ((evidenceRows collate db human).take pageSize).countP fun r => r.engagementId = e.engagementId := by
    rw [caseView, hs.evidence, find?_countByCase hcase, Option.getD_some, List.countP_map]
    refine List.countP_congr fun r _ => ?_
    simp [evidenceReadModel, engagementReadModel]
  have hactivity : (caseView upper s (engagementReadModel isoformat db human e)).activityCount =
      ((auditRows collate db human).take pageSize).countP fun r => r.engagementId = some e.engagementId := by
    rw [caseView, hs.activity, find?_countByCase hcase, Option.getD_some, List.countP_map]
    refine List.countP_congr fun r _ => ?_
    rw [Function.comp_apply, auditReadModel, engagementReadModel]
  have hfindings : (caseView upper s (engagementReadModel isoformat db human e)).findingIds =
      (((findingRows collate db human).take pageSize).filter fun r => r.engagementId = e.engagementId).map
        (·.findingId) := by
    rw [caseView, hs.findings, List.filter_map, List.map_map]
    refine congrArg₂ List.map rfl (List.filter_congr fun r _ => ?_)
    simp [findingReadModel, engagementReadModel]
  constructor
  · intro h
    constructor
    · exact countP_page_iff.mp (hevidence.symm.trans h.evidence)
    · exact countP_page_iff.mp (hactivity.symm.trans h.activity)
    · have hlength := h.findings.length_eq
      rw [hfindings, List.length_map, List.length_map, ← List.countP_eq_length_filter,
        ← List.countP_eq_length_filter] at hlength
      exact countP_page_iff.mp hlength
  · intro h
    constructor
    · exact hevidence.trans (countP_page_iff.mpr h.evidence)
    · exact hactivity.trans (countP_page_iff.mpr h.activity)
    · have hrest : ((findingRows collate db human).drop pageSize).filter
          (fun r => r.engagementId = e.engagementId) = [] := by
        refine List.filter_eq_nil_iff.mpr fun r hr => ?_
        rw [decide_eq_true_eq]
        exact h.findings r hr
      have hall : ((findingRows collate db human).take pageSize).filter (fun r => r.engagementId = e.engagementId) =
          (findingRows collate db human).filter fun r => r.engagementId = e.engagementId := by
        conv_rhs => rw [← List.take_append_drop pageSize (findingRows collate db human), List.filter_append, hrest,
          List.append_nil]
      rw [hfindings, hall]
      exact (sortBy_perm.filter _).map _

/-- The snapshot's counts are true just where the rows of the listed cases stand on the first pages. -/
theorem snapshot_counts_iff {κ : Type} [LinearOrder κ] (collate : String → κ) (isoformat : Datetime → String)
    (upper : String → String) (db : Database) (human : String) :
    ∃ snapshot, experience collate isoformat upper db human = .ok snapshot ∧
      ((∀ view ∈ snapshot.cases, CountsTrue db human view) ↔
        ∀ e ∈ (engagementRows collate db human).take pageSize, WithinPages collate db human e.engagementId) := by
  obtain ⟨s, hs, hcomposed⟩ := experience_isOk collate isoformat upper db human
  refine ⟨_, hs, ?_⟩
  rw [composeExperienceSnapshot]
  simp only [List.forall_mem_map, hcomposed.cases]
  exact forall₂_congr fun e he => countsTrue_iff hcomposed he

end Counts

section Crowded

def crowdedCase : EngagementRow where
  engagementId := "EN-1"
  clientId := "CLI-1"
  scope := "repository"
  status := "active"
  updatedAt := 0

def crowdedEvidence (i : ℕ) : EvidenceMetadataRow where
  evidenceId := "EV-" ++ toString i
  engagementId := "EN-1"
  sha256 := "0"
  sanitizationState := "sanitized"

lemma crowdedEvidence_injective : Function.Injective fun i => (crowdedEvidence i).evidenceId := by
  intro i j h
  have hlist := congrArg String.toList h
  simp only [crowdedEvidence, String.toList_append, List.append_cancel_left_eq, Nat.toString_eq_repr,
    Nat.toList_repr] at hlist
  rw [← @Nat.ofDigitChars_ten_toDigits i, hlist, Nat.ofDigitChars_ten_toDigits]

/-- One case, and more evidence of it than a page holds. -/
def crowded : Database where
  clientMemberships := [⟨"HUM-1", "CLI-1", "CLIENT_VIEWER", "active"⟩]
  clients := Table.empty
  targets := Table.empty
  engagements := Table.single crowdedCase
  engagementTargets := Table.empty
  findings := Table.empty
  adjudications := Table.empty
  evidenceMetadata :=
    { rows := (List.range 101).map crowdedEvidence
      nodup := by
        rw [List.map_map]
        exact List.nodup_range.map crowdedEvidence_injective }
  auditEvents := Table.empty
  detectionSignals := Table.empty
  huntExecutions := Table.empty
  incidents := Table.empty
  responseProposals := Table.empty

lemma crowded_visible : crowded.visibleEvidence "HUM-1" = (List.range 101).map crowdedEvidence := by
  refine List.filter_eq_self.mpr fun r hr => ?_
  obtain ⟨i, -, rfl⟩ := List.mem_map.mp hr
  have hcase : crowded.canAccessEngagement "HUM-1" "EN-1" = true := by decide
  have hjoined : crowded.joined "HUM-1" "EN-1" = true := by decide
  rw [crowdedEvidence, hcase, hjoined, Bool.and_self]

/-- The evidence behind the first page is not counted. -/
theorem evidence_uncounted : ∃ snapshot,
    experience id (fun _ => "1970-01-01T00:00:00+00:00") id crowded "HUM-1" = .ok snapshot ∧
      ¬ ∀ view ∈ snapshot.cases, CountsTrue crowded "HUM-1" view := by
  obtain ⟨s, hs, hcomposed⟩ := experience_isOk id (fun _ => "1970-01-01T00:00:00+00:00") id crowded "HUM-1"
  refine ⟨_, hs, fun htrue => ?_⟩
  have hlisted : crowdedCase ∈ (engagementRows id crowded "HUM-1").take pageSize := by
    have hrows : engagementRows id crowded "HUM-1" = [crowdedCase] := rfl
    rw [hrows]
    exact List.mem_singleton.mpr rfl
  have hview : CountsTrue crowded "HUM-1" _ := htrue (caseView id s _) (List.mem_map_of_mem (by
    rw [hcomposed.cases]
    exact List.mem_map_of_mem hlisted))
  have hwithin := (countsTrue_iff hcomposed hlisted).mp hview
  have hlength : (evidenceRows id crowded "HUM-1").length = 101 := by
    rw [evidenceRows, sortBy_perm.length_eq, crowded_visible, List.length_map, List.length_range]
  obtain ⟨r, hr⟩ : ∃ r, r ∈ (evidenceRows id crowded "HUM-1").drop pageSize := by
    refine List.exists_mem_of_length_pos ?_
    rw [List.length_drop, hlength]
    decide
  have hmem : r ∈ crowded.visibleEvidence "HUM-1" := mem_sortBy.mp (List.mem_of_mem_drop hr)
  rw [crowded_visible] at hmem
  obtain ⟨i, -, rfl⟩ := List.mem_map.mp hmem
  exact hwithin.evidence _ hr rfl

end Crowded

end SecScanMonitor.ReadModels
