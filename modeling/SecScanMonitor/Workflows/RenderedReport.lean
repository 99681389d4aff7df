import SecScanMonitor.Sanitize.Spill
import SecScanMonitor.Workflows.Repetition

/-! When the report that `render_report` stores has no forbidden value. The texts of the engagement and of
its findings stand in it as they are. -/

namespace SecScanMonitor.Workflows

open Foundations Domain Adjudication Reports Sanitize Foundations.Regex

section Parts

/-- Lines after another one. -/
def block (lines : List String) : Text := lines.flatMap fun line => '\n' :: line.toList

lemma block_append (lines lines' : List String) : block (lines ++ lines') = block lines ++ block lines' :=
  List.flatMap_append

lemma intercalate_cons (line : String) (lines : List String) :
    ("\n".intercalate (line :: lines)).toList = line.toList ++ block lines := by
  rw [String.toList_intercalate]
  induction lines generalizing line with
  | nil => simp [block]
  | cons line' lines ih =>
    rw [List.map_cons, List.map_cons, List.intercalate_cons_cons, ← List.map_cons, ih]
    simp [block]

variable (x : Execution) (engagement : EngagementRecord) (findings : List Finding)

def engagementHead : String :=
  s!"{engagement.engagementId} ({engagement.passType.value}, {engagement.authorityLevel.value})"

def findingHead (finding : Finding) : String :=
  s!"{finding.findingId} [{finding.severity.value.toUpper}] {finding.title}"

/-- The lines of a finding: their labels and their texts. -/
def findingTexts (finding : Finding) : List (String × String) :=
  [("   - ", findingHead finding), ("     evidence: ", (firmFinding finding).evidence),
    ("     impact: ", finding.summary), ("     remediation: ", (firmFinding finding).remediation),
    ("     verification: ", finding.verificationStep)]

def engagementTexts : List (String × String) :=
  [("TARGET: ", ", ".intercalate engagement.targetIds), ("SCOPE: ", engagement.scope), ("DATE: ", x.date)]

def labelled (p : String × String) : Text × Text := (block [p.1], p.2.toList)

def summaryLines : List String :=
  ["PERSONAS: Firm Coordinator V1, Security Review Specialist V1", "", "1. EXECUTIVE SUMMARY",
    "   verdict: go", "   findings: "]

def noneLines : List String := if findings = [] then ["   (none)"] else []

/-- The number of the findings, with what stands before the first one. -/
def summary : Text × Text :=
  (block summaryLines, (toString findings.length).toList ++ block (["", "2. FINDINGS"] ++ noneLines findings))

def closingLines : List String :=
  ["", "3. GAPS AND ASSUMPTIONS", "   (none)", "", "4. SECRET-SCAN SUMMARY",
    "   no plaintext secrets persisted", "", "5. CHAIN-OF-CUSTODY RECORD",
    "   - rendered by the platform reports layer via the case engine", "", "6. GO/NO-GO OR NEXT STEPS",
    "   verdict: go"]

def reportParts : List (Text × Text) :=
  ("ENGAGEMENT: ".toList, (engagementHead engagement).toList) ::
    ((engagementTexts x engagement).map labelled ++
      summary findings :: (findings.flatMap findingTexts).map labelled)

def reportTail : Text := block closingLines ++ ['\n']

lemma toString_text (s : String) : toString s = s := rfl

lemma block_cons (line : String) (lines : List String) :
    block (line :: lines) = '\n' :: line.toList ++ block lines := rfl

lemma splice_labelled (ps : List (String × String)) (parts : List (Text × Text)) (tail : Text) :
    splice (ps.map labelled ++ parts) tail = block (ps.map fun p => p.1 ++ p.2) ++ splice parts tail := by
  induction ps with
  | nil => rfl
  | cons p ps ih =>
    rw [List.map_cons, List.cons_append, labelled, splice, ih, List.map_cons, block_cons, block_cons]
    simp [block]

variable {x engagement findings} in
lemma findingLines_eq (finding : Finding) :
    findingLines (firmFinding finding) = (findingTexts finding).map fun p => p.1 ++ p.2 := by
  simp [findingLines, findingTexts, findingHead, firmFinding, String.append_assoc, toString_text]

lemma reportLines_eq : reportLines (firmReport x engagement findings) =
    ("ENGAGEMENT: " ++ engagementHead engagement) ::
      ((engagementTexts x engagement).map (fun p => p.1 ++ p.2) ++
        (summaryLines.dropLast ++ ["   findings: " ++ toString findings.length, "", "2. FINDINGS"]) ++
        noneLines findings ++ (findings.flatMap findingTexts).map (fun p => p.1 ++ p.2) ++ closingLines) := by
  have hfindings : (findings.map firmFinding).flatMap findingLines =
      (findings.flatMap findingTexts).map fun p => p.1 ++ p.2 := by
    rw [List.flatMap_map, List.map_flatMap]
    exact List.flatMap_congr fun finding _ => findingLines_eq finding
  have hpersonas : ", ".intercalate ["Firm Coordinator V1", "Security Review Specialist V1"] =
      "Firm Coordinator V1, Security Review Specialist V1" := by decide
  -- where the line that says there are none stands, no finding does
  have hnone : (findings.flatMap findingTexts).map (fun p => p.1 ++ p.2) ++ noneLines findings =
      noneLines findings ++ (findings.flatMap findingTexts).map fun p => p.1 ++ p.2 := by
    cases findings with
    | nil => rfl
    | cons finding findings => simp [noneLines]
  simp only [List.append_assoc] at hnone ⊢
  rw [← List.append_assoc (noneLines findings), ← hnone]
  simp [reportLines, firmReport, hfindings, itemLines, engagementHead, engagementTexts, summaryLines,
    closingLines, hpersonas, noneLines, String.append_assoc, toString_text]

lemma renderFirmReport_eq : (renderFirmReport (firmReport x engagement findings)).toList =
    splice (reportParts x engagement findings) reportTail := by
  rw [renderFirmReport, String.toList_append, reportLines_eq, intercalate_cons]
  rw [reportParts, splice, splice_labelled, splice, ← List.append_nil (List.map labelled _), splice_labelled]
  simp [summary, splice, reportTail, summaryLines, block]

end Parts

section Clean

variable {u : UnicodeTables} {x : Execution} {engagement : EngagementRecord} {findings : List Finding}

def reportLabels : List String :=
  ["TARGET: ", "SCOPE: ", "DATE: ", "   - ", "     evidence: ", "     impact: ", "     remediation: ",
    "     verification: "]

lemma reportLabels_plain : ∀ label ∈ reportLabels, isLabel (block [label]) = true ∧ leads (block [label]) = true := by
  decide

lemma summary_plain : isLabel (block summaryLines) = true ∧ leads (block summaryLines) = true := by
  decide

lemma engagement_label_mem {p : String × String} (hp : p ∈ engagementTexts x engagement) :
    p.1 ∈ reportLabels := by
  simp only [engagementTexts, List.mem_cons, List.not_mem_nil, or_false] at hp
  rcases hp with rfl | rfl | rfl <;> simp [reportLabels]

lemma finding_label_mem {p : String × String} (hp : p ∈ findings.flatMap findingTexts) :
    p.1 ∈ reportLabels := by
  obtain ⟨finding, -, hp⟩ := List.mem_flatMap.mp hp
  simp only [findingTexts, List.mem_cons, List.not_mem_nil, or_false] at hp
  rcases hp with rfl | rfl | rfl | rfl | rfl <;> simp [reportLabels]

lemma part_plain {p : Text × Text} (hp : p ∈ (reportParts x engagement findings).tail) :
    isLabel p.1 = true ∧ leads p.1 = true := by
  simp only [reportParts, List.tail_cons, List.mem_append, List.mem_cons, List.mem_map] at hp
  rcases hp with ⟨q, hq, rfl⟩ | rfl | ⟨q, hq, rfl⟩
  · exact reportLabels_plain _ (engagement_label_mem hq)
  · exact summary_plain
  · exact reportLabels_plain _ (finding_label_mem hq)

/-- Unicode tables that say nothing. -/
def noTables : UnicodeTables := ⟨fun _ => false, fun _ => false⟩

set_option maxRecDepth 8000 in
lemma closing_clean : ∀ r ∈ (forbiddenValuePatterns noTables).map loosen, search r reportTail = false := by
  decide

lemma closing_leads : leads reportTail = true := by decide

lemma reportTail_clean : ∀ r ∈ forbiddenValuePatterns u, ∀ l, ¬ OccursFrom r l reportTail := by
  intro r hr l hoccurs
  -- without what they assert, the patterns do not depend on the tables
  have hsame : (forbiddenValuePatterns u).map loosen = (forbiddenValuePatterns noTables).map loosen := rfl
  have hmem : loosen r ∈ (forbiddenValuePatterns u).map loosen := List.mem_map_of_mem hr
  rw [hsame] at hmem
  have hclean := closing_clean _ hmem
  rw [← Bool.not_eq_true, search_iff] at hclean
  exact hclean hoccurs.loosen

/-- The characters of the lines about the number of the findings. -/
def countChars : List Char := "0123456789\n. FINDGS(none)".toList

set_option maxRecDepth 8000 in
lemma forbidden_not_count (u : UnicodeTables) :
    ((unfinished u :: forbiddenValuePatterns u).all fun r => !readable countChars r) = true := rfl

lemma digit_mem {c : Char} (h : c.isDigit = true) : c ∈ countChars := by
  have hall : ∀ k : Fin 10, Char.ofNat (48 + k.val) ∈ countChars := by decide
  have hrange : 48 ≤ c.toNat ∧ c.toNat ≤ 57 := by
    simpa [Char.isDigit, UInt32.le_iff_toNat_le] using h
  have hc := hall ⟨c.toNat - 48, by omega⟩
  rwa [show 48 + (c.toNat - 48) = c.toNat by omega, Char.ofNat_toNat] at hc

lemma summary_chars : ∀ c ∈ (summary findings).2, c ∈ countChars := by
  have hempty : (block ["", "2. FINDINGS", "   (none)"]).all countChars.contains = true := by decide
  have hlines : (block ["", "2. FINDINGS"]).all countChars.contains = true := by decide
  intro c hc
  rcases List.mem_append.mp hc with hc | hc
  · rw [Nat.toString_eq_ofList_toDigits, String.toList_ofList] at hc
    exact digit_mem (Nat.isDigit_of_mem_toDigits (by decide) (by decide) hc)
  · unfold noneLines at hc
    split at hc
    · exact List.contains_iff_mem.mp (List.all_eq_true.mp hempty c hc)
    · exact List.contains_iff_mem.mp (List.all_eq_true.mp hlines c hc)

/-- A text that brings no forbidden value into the report. -/
def Settled (u : UnicodeTables) (t : Text) : Prop := textContainsSecret u t = false ∧ ¬ Occurs (unfinished u) t

lemma summary_settled : Settled u (summary findings).2 := by
  have hnone : ∀ r ∈ unfinished u :: forbiddenValuePatterns u, ¬ Occurs r (summary findings).2 := by
    intro r hr
    have hread := List.all_eq_true.mp (forbidden_not_count u) r hr
    exact not_occurs_of_readable (by simpa using hread) summary_chars
  refine ⟨?_, hnone _ List.mem_cons_self⟩
  rw [textContainsSecret, List.any_eq_false]
  intro r hr
  rw [search_iff]
  exact hnone r (List.mem_cons_of_mem _ hr)

def freeTexts (x : Execution) (engagement : EngagementRecord) (findings : List Finding) : List String :=
  engagementHead engagement ::
    (engagementTexts x engagement ++ findings.flatMap findingTexts).map Prod.snd

lemma textContainsSecret_report :
    textContainsSecret u (splice (reportParts x engagement findings) reportTail) = true ↔
      ∃ p ∈ reportParts x engagement findings, textContainsSecret u p.2 = true ∨ Occurs (unfinished u) p.2 := by
  have hhead : isLabel "ENGAGEMENT: ".toList = true := by decide
  refine textContainsSecret_splice ?_ (fun p hp => follows_of_leads (part_plain hp).2) ?_
    reportTail_clean
  · intro p hp
    rcases List.mem_cons.mp hp with rfl | hp
    · exact hhead
    · exact (part_plain hp).1
  · exact follows_of_leads closing_leads

lemma rendered_clean_iff : payloadContainsSecretLikeContent u
    (.str (renderFirmReport (firmReport x engagement findings))) = false ↔
      ∀ t ∈ freeTexts x engagement findings, Settled u t.toList := by
  have hparts : (∀ p ∈ reportParts x engagement findings, Settled u p.2) ↔
      ∀ t ∈ freeTexts x engagement findings, Settled u t.toList := by
    simp only [reportParts, freeTexts, labelled, List.map_append, List.forall_mem_cons,
      List.forall_mem_append, List.forall_mem_map, summary_settled, true_and]
  rw [← hparts, payloadContainsSecretLikeContent, renderFirmReport_eq, ← Bool.not_eq_true,
    textContainsSecret_report]
  simp only [not_exists, not_and, not_or, Bool.not_eq_true]
  rfl

lemma record_reports (key : String) (effect : Value) (rt : EngagementRuntime) :
    (record key effect rt).2.reports = rt.reports := by
  rw [record]
  split
  · rfl
  · rfl

/-- The report that `render_report` stores has a forbidden value unless the texts of the engagement and of
its findings bring none: nothing scrubs them, and nothing looks at the report. -/
theorem stored_report_iff (u : UnicodeTables) (x : Execution) (rt : EngagementRuntime) (engagementId : String)
    (engagement : EngagementRecord) (hload : rt.engagements.find? engagementId = some engagement) :
    ∃ text, (renderReport x engagementId rt).2.reports.find? engagement.engagementId = some text ∧
      (payloadContainsSecretLikeContent u (.str text) = false ↔
        ∀ t ∈ freeTexts x engagement ((rt.findings.find? engagement.engagementId).getD []),
          Settled u t.toList) := by
  refine ⟨_, ?_, rendered_clean_iff⟩
  have hplan : rendering x engagementId rt = .ok ({ rt with
      reports := rt.reports.set engagement.engagementId
        (renderFirmReport (firmReport x engagement ((rt.findings.find? engagement.engagementId).getD []))) },
      .obj [("findings", .int ((rt.findings.find? engagement.engagementId).getD []).length)]) := by
    rw [rendering, loadEngagement, hload]
    rfl
  simp only [renderReport, recording, hplan, record_reports, Dict.find?_set_self]

end Clean

section Example

theorem seeded_report : ∃ text, (renderReport (minting '1') "EN-1" seeded).2.reports.find? "EN-1" = some text ∧
    (payloadContainsSecretLikeContent noTables (.str text) = false ↔
      ∀ t ∈ freeTexts (minting '1') sampleEngagement [], Settled noTables t.toList) :=
  stored_report_iff noTables (minting '1') seeded "EN-1" sampleEngagement rfl

def leakyEngagement : EngagementRecord :=
  { sampleEngagement with scope := "rotate password=hunter2 before the release" }

def leaky : EngagementRuntime :=
  { seeded with engagements := Dict.set Table.empty "EN-1" leakyEngagement }

/-- A password in the scope is in the report. -/
theorem password_stored : ¬ ∀ text, (renderReport (minting '1') "EN-1" leaky).2.reports.find? "EN-1" = some text →
    payloadContainsSecretLikeContent noTables (.str text) = false := by
  intro hclean
  have hsettled := rendered_clean_iff.mp (hclean (renderFirmReport (firmReport (minting '1') leakyEngagement [])) rfl)
  have hscope : textContainsSecret noTables "rotate password=hunter2 before the release".toList = true := by
    decide
  have hmem : leakyEngagement.scope ∈ freeTexts (minting '1') leakyEngagement [] := by
    simp [freeTexts, engagementTexts]
  have hclear := (hsettled _ hmem).1
  rw [leakyEngagement, hscope] at hclear
  cases hclear

end Example

end SecScanMonitor.Workflows
