import SecScanMonitor.Domain.Common
import SecScanMonitor.Domain.Engagement

/-! The typed firm report and its text (`reports/firm_report.py`). -/

namespace SecScanMonitor.Reports

open Domain

/-- Pass types of the engagement protocol (`domain/engagement.py`). -/
inductive PassType where
  | diffGate
  | posture
  | triage
  | briefing
  | driftReview
  deriving Repr, DecidableEq

def PassType.value : PassType → String
  | .diffGate => "diff-gate"
  | .posture => "posture"
  | .triage => "triage"
  | .briefing => "briefing"
  | .driftReview => "drift-review"

structure FirmFinding where
  findingId : String
  severity : Severity
  title : String
  evidence : String
  impact : String
  remediation : String
  verification : String
  deriving Repr, DecidableEq

structure FirmReport where
  engagementId : String
  target : String
  scope : String
  passType : PassType
  authorityLevel : AuthorityLevel
  date : String
  personas : List String
  findings : List FirmFinding
  gaps : List String
  secretScanSummary : String
  custodyNotes : List String
  verdict : String
  deriving Repr, DecidableEq

/-- The lines of a section's items, or the one that says there are none. -/
def itemLines (items : List String) : List String :=
  if items = [] then ["   (none)"] else items.map fun item => s!"   - {item}"

def findingLines (finding : FirmFinding) : List String :=
  [s!"   - {finding.findingId} [{finding.severity.value.toUpper}] {finding.title}",
    s!"     evidence: {finding.evidence}",
    s!"     impact: {finding.impact}",
    s!"     remediation: {finding.remediation}",
    s!"     verification: {finding.verification}"]

def reportLines (report : FirmReport) : List String :=
  let personas := if report.personas = [] then "not recorded" else ", ".intercalate report.personas
  [s!"ENGAGEMENT: {report.engagementId} ({report.passType.value}, {report.authorityLevel.value})",
    s!"TARGET: {report.target}",
    s!"SCOPE: {report.scope}",
    s!"DATE: {report.date}",
    s!"PERSONAS: {personas}",
    "",
    "1. EXECUTIVE SUMMARY",
    s!"   verdict: {report.verdict}",
    s!"   findings: {report.findings.length}",
    "",
    "2. FINDINGS"] ++
  report.findings.flatMap findingLines ++
  (if report.findings = [] then ["   (none)"] else []) ++
  ["", "3. GAPS AND ASSUMPTIONS"] ++ itemLines report.gaps ++
  ["", "4. SECRET-SCAN SUMMARY", s!"   {report.secretScanSummary}", "",
    "5. CHAIN-OF-CUSTODY RECORD"] ++ itemLines report.custodyNotes ++
  ["", "6. GO/NO-GO OR NEXT STEPS", s!"   verdict: {report.verdict}"]

def renderFirmReport (report : FirmReport) : String :=
  "\n".intercalate (reportLines report) ++ "\n"

end SecScanMonitor.Reports
