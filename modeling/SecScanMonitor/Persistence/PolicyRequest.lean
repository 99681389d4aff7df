import SecScanMonitor.Application.PolicyInput
import SecScanMonitor.DetectionResponse.Domain
import SecScanMonitor.Hosted.HumanAccess

/-! The policy input that `opa_request` reads out of the stored engagement, capability and grants
(`persistence/live_control_plane.py`). -/

namespace SecScanMonitor.Persistence

open Foundations Domain DetectionResponse

namespace PolicyRequest

/-- The capability of the requests. -/
def responseCapability : String := "CAP-V03-RESPONSE-PROPOSAL"

/-- `Scope(tenant=…, case=…, target=…)` of the values of a scope; what is no text is no part of it. -/
def scopeOf (scopeValues : Value) : Except Raised Scope :=
  let part (key : String) : Value := (scopeValues.member? key).getD (.str "")
  match part "tenant", part "case", part "target" with
  | .str tenantId, .str caseId, .str targetId =>
    if nonblank : isBlank tenantId = false ∧ isBlank caseId = false ∧ isBlank targetId = false then
      .ok ⟨tenantId, caseId, targetId, nonblank⟩
    else raise .validationError "value must be non-empty"
  | _, _, _ => raise .validationError "Input should be a valid string"

/-- The database that a transaction reads: without a human identity, every row. -/
def sessionOf (db : Hosted.Database) : Option String → Hosted.Database
  | none | some "" => db
  | some human => db.seenBy human

section Statements

variable (collation : String → String → Bool) (session : Hosted.Database)

/-- The manifest of the statement on the capability's rows, the greatest version first as the database compares
texts. -/
def capabilityRow (capabilityId : String) : Option Hosted.CapabilityManifestRow :=
  ((session.capabilityManifests.select fun row => decide (row.capabilityId = capabilityId)).insertionSort
    fun row row' => collation row'.version row.version = true).head?

def scopeLinks (caseId : String) : List Hosted.EngagementTargetRow :=
  session.engagementTargets.select fun link => decide (link.engagementId = caseId) && link.inScope

/-- The grants of the statement: they name the capability, and they have no revocation. -/
def grantRows (caseId : String) : List AuthorityGrant :=
  session.authorityGrants.select fun grant =>
    decide (grant.engagementId = caseId) && decide (grant.action = .remediate) &&
      decide (grant.capabilityId = some responseCapability) && grant.revokedAt.isNone

def grantFor (caseId targetId : String) (now : Datetime) : Option AuthorityGrant :=
  (grantRows session caseId).find? fun grant =>
    grant.targetId.all (fun t => decide (t = targetId)) && decide (grant.notBefore ≤ now) &&
      grant.notAfter.all fun t => decide (now < t)

end Statements

def capabilityInput : Option Hosted.CapabilityManifestRow → Value
  | some row => .obj
    [("id", .str responseCapability), ("registered", .bool true), ("risk_class", .str row.riskClass),
      ("requires_approval", .bool row.requiresApproval), ("required_authority", .str row.requiredAuthority)]
  | none => .obj
    [("id", .str responseCapability), ("registered", .bool false), ("risk_class", .str "high"),
      ("requires_approval", .bool true), ("required_authority", .str Action.remediate.value)]

def grantInput : Option AuthorityGrant → Value
  | some grant => .obj
    [("matched", .bool true), ("grant_ids", .arr [.str grant.grantId]),
      ("conditions", .arr (grant.conditions.map .str)), ("principal_id", .str grant.principalId),
      ("engagement_id", .str grant.engagementId), ("capability_id", .str (grant.capabilityId.getD "")),
      ("target_id", .str (grant.targetId.getD "")), ("action", .str grant.action.value)]
  | none => .obj
    [("matched", .bool false), ("grant_ids", .arr []), ("conditions", .arr []), ("principal_id", .str ""),
      ("engagement_id", .str ""), ("capability_id", .str ""), ("target_id", .str ""), ("action", .str "")]

def engagementInput (engagement : Hosted.EngagementRow) (links : List Hosted.EngagementTargetRow) : Value := .obj
  [("id", .str engagement.engagementId), ("status", .str engagement.status.value),
    ("authority_level", .str engagement.authorityLevel.value),
    ("target_ids", .arr (links.map fun link => .str link.targetId))]

/-- The engagement of the scope and its links, or what is raised where the scope or its target is not stored. -/
def boundEngagement (session : Hosted.Database) (scope : Scope) :
    Except Raised (Hosted.EngagementRow × List Hosted.EngagementTargetRow) := do
  let engagement ← orRaise ((session.engagements.get? scope.caseId).filter fun e =>
      decide (e.clientId = scope.tenantId))
    .permissionError "response policy scope is not bound to its engagement"
  let links := scopeLinks session scope.caseId
  raiseIf (scope.targetId ∉ links.map Hosted.EngagementTargetRow.targetId) .permissionError
    "response policy target is not in the canonical engagement scope"
  return (engagement, links)

/-- The checks on the scope that the context names. -/
def scopeOfContext (context : Value) : Except Raised Scope := do
  let scopeValues ← match context.member? "scope" with
    | some (.obj members) => pure (Value.obj members)
    | _ => raise .permissionError "response policy scope is missing"
  let scope ← scopeOf scopeValues
  raiseIf (context.member? "target_id" ≠ some (.str scope.targetId)) .permissionError
    "response target is outside its canonical scope"
  return scope

/-- `PostgresLiveControlPlaneRepository.opa_request`; `text` is `str`. -/
def opaRequest (collation : String → String → Bool) (text : Value → String) (human : Option String)
    (now : Datetime) (context : Value) (db : Hosted.Database) : Except Raised Value := do
  let scope ← scopeOfContext context
  let session := sessionOf db human
  let (engagement, links) ← boundEngagement session scope
  let grant := grantFor session scope.caseId scope.targetId now
  return .obj
    [("principal", .obj [("id", .str ((grant.map AuthorityGrant.principalId).getD "secscan-v03-response-authority"))]),
      ("agent", .obj [("id", .str "secscan-v03-response-service")]),
      ("engagement", engagementInput engagement links),
      ("target", .obj [("id", .str scope.targetId)]),
      ("capability", capabilityInput (capabilityRow collation session responseCapability)),
      ("action", .str Action.remediate.value),
      ("risk", (context.member? "risk").getD (.str "high")),
      ("authority_grant", grantInput grant),
      ("approval", Application.AuthorityService.approvalInput none),
      ("workflow_phase", .str "adjudication"),
      ("requested_resources", .obj
        [("response_proposal", .str (text ((context.member? "proposal_digest").getD (.str "")))),
          ("snapshot", .str "")])]

end PolicyRequest

end SecScanMonitor.Persistence
