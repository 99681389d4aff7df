/-! Engagement states and authority levels (`domain/engagement.py`). -/

namespace SecScanMonitor.Domain

inductive EngagementStatus where
  | draft
  | intake
  | scopeValidated
  | authorized
  | active
  | evidenceCollection
  | analysis
  | adjudication
  | reporting
  | remediation
  | closed
  | refused
  | suspended
  | revoked
  | failed
  | partly
  deriving Repr, DecidableEq

def EngagementStatus.value : EngagementStatus → String
  | .draft => "draft"
  | .intake => "intake"
  | .scopeValidated => "scope_validated"
  | .authorized => "authorized"
  | .active => "active"
  | .evidenceCollection => "evidence_collection"
  | .analysis => "analysis"
  | .adjudication => "adjudication"
  | .reporting => "reporting"
  | .remediation => "remediation"
  | .closed => "closed"
  | .refused => "refused"
  | .suspended => "suspended"
  | .revoked => "revoked"
  | .failed => "failed"
  | .partly => "partial"

inductive AuthorityLevel where
  | inspectionOnly
  | remediation
  deriving Repr, DecidableEq

def AuthorityLevel.value : AuthorityLevel → String
  | .inspectionOnly => "inspection-only"
  | .remediation => "remediation"

/-- The part of an engagement that an authorization decision reads. -/
structure Engagement where
  engagementId : String
  targetIds : List String
  authorityLevel : AuthorityLevel
  status : EngagementStatus
  deriving Repr, DecidableEq

end SecScanMonitor.Domain
