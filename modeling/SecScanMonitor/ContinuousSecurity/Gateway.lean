import SecScanMonitor.ContinuousSecurity.Normalize
import SecScanMonitor.Domain.Authority

/-! The gateway for MCP and A2A requests (`continuous_security/gateway.py`): its registry, what it
asks of the policy, and the events and evidence it leaves behind. -/

namespace SecScanMonitor.ContinuousSecurity

open Foundations Domain DetectionResponse

inductive ProtocolKind where
  | mcp
  | a2a
  deriving Repr, DecidableEq

def ProtocolKind.value : ProtocolKind → String
  | .mcp => "MCP"
  | .a2a => "A2A"

structure RegisteredAgent where
  agentId : String
  tenantId : String
  caseId : String
  allowedCapabilities : List String
  deriving DecidableEq

structure RegisteredTool where
  toolId : String
  protocol : ProtocolKind
  tenantId : String
  caseId : String
  serverId : String
  capabilityId : String
  schemaDigest : String
  allowedActions : List String
  privileged : Bool
  deriving DecidableEq

/-- A request. Copies of a request are not validated, so nothing is asked of its texts. -/
structure GatewayRequest where
  requestId : String
  tenantId : String
  caseId : String
  protocol : ProtocolKind
  agentId : String
  serverId : String
  toolId : String
  declaredCapability : String
  schemaDigest : String
  requestedAction : String
  targetId : String
  principalId : String
  engagementId : String
  authorityRef : String
  approvalId : Option String
  requestedResources : List (String × String)
  occurredAt : Bool × Datetime
  observedAt : Bool × Datetime
  deriving DecidableEq

/-- A mapping of texts as a document. -/
def textMembers (members : List (String × String)) : Value :=
  .obj (members.map fun m => (m.1, .str m.2))

/-- `a == b`: mappings are compared without the order of their keys. -/
def GatewayRequest.same (a b : GatewayRequest) : Bool :=
  { a with requestedResources := [] } = { b with requestedResources := [] } &&
    (textMembers a.requestedResources).pyEq (textMembers b.requestedResources)

structure GatewayResult where
  requestId : String
  decision : PolicyDecision
  reason : String
  eventId : String
  outputEvidenceRef : Option String := none
  injectionDetected : Bool := false
  deriving DecidableEq

structure GatewayRegistry where
  agents : Dict String RegisteredAgent
  tools : Dict String RegisteredTool

namespace GatewayRegistry

def registerAgent (agent : RegisteredAgent) : Effect GatewayRegistry Unit := fun registry =>
  if (registry.agents.find? agent.agentId).any (fun existing => decide (existing ≠ agent)) then
    (raise .valueError ("agent " ++ agent.agentId ++ " already has a different declaration"), registry)
  else (.ok (), { registry with agents := registry.agents.set agent.agentId agent })

def registerTool (tool : RegisteredTool) : Effect GatewayRegistry Unit := fun registry =>
  if (registry.tools.find? tool.toolId).any (fun existing => decide (existing ≠ tool)) then
    (raise .valueError ("tool " ++ tool.toolId ++ " already has a different declaration"), registry)
  else (.ok (), { registry with tools := registry.tools.set tool.toolId tool })

end GatewayRegistry

/-- What a policy engine returns: one of its decisions or something else. -/
inductive PolicyAnswer where
  | decision (d : PolicyDecision)
  | other

/-- The canonical context of a request and the policy engine. Both may raise. -/
structure GatewayPolicy where
  context : GatewayRequest → RegisteredTool → Except Raised (List (String × Value))
  decide : Value → Except Raised PolicyAnswer

/-- The digests and texts that a gateway and a runner compute, and the sanitizers of what tools and
jobs put out. A naive instant has a text of its own in a JSON dump. -/
structure Tooling where
  codec : Codec
  reader : Reader
  dumpNaive : Datetime → String
  stableJson : Value → String
  sha256 : String → String
  sanitizeToolOutput : List (String × Value) → String × Bool
  sanitizeOutput : String → String → String

structure EvidenceRecord where
  content : String
  contentType : String
  deriving DecidableEq

structure AgentSecurityGateway where
  registry : GatewayRegistry
  decisions : Dict String (GatewayRequest × GatewayResult)
  events : SecurityEventPlane
  /-- What was put into the evidence store, where the gateway has one. -/
  evidence : Option (List EvidenceRecord)

namespace AgentSecurityGateway

def validateIdentity (request : GatewayRequest) (agent : Option RegisteredAgent)
    (tool : Option RegisteredTool) : Option String :=
  match agent, tool with
  | none, _ => some "unknown agent"
  | some _, none => some "unknown tool"
  | some agent, some tool =>
    if agent.tenantId ≠ request.tenantId ∨ agent.caseId ≠ request.caseId then
      some "agent scope mismatch"
    else if tool.tenantId ≠ request.tenantId ∨ tool.caseId ≠ request.caseId then
      some "tool scope mismatch"
    else if tool.protocol ≠ request.protocol then some "protocol identity mismatch"
    else if tool.serverId ≠ request.serverId then some "server identity mismatch"
    else if tool.capabilityId ≠ request.declaredCapability then some "undeclared capability"
    else if tool.schemaDigest ≠ request.schemaDigest then some "schema drift"
    else if request.requestedAction ∉ tool.allowedActions then
      some "requested action is not declared by the tool"
    else if request.declaredCapability ∉ agent.allowedCapabilities then
      some "agent capability ceiling denied"
    else none

/-- `d[key] = value` -/
def setMember (key : String) (value : Value) : List (String × Value) → List (String × Value)
  | [] => [(key, value)]
  | m :: ms => if m.1 = key then (key, value) :: ms else m :: setMember key value ms

def policyInput (request : GatewayRequest) (tool : RegisteredTool)
    (context : List (String × Value)) : Value := .obj <|
  setMember "gateway" (.obj
    [("protocol", .str request.protocol.value), ("agent_id", .str request.agentId),
      ("server_id", .str request.serverId), ("tool_id", .str request.toolId),
      ("schema_digest", .str request.schemaDigest)]) <|
  setMember "requested_resources" (textMembers request.requestedResources) <|
  setMember "action" (.str request.requestedAction) <|
  setMember "capability" (.obj
    [("id", .str tool.capabilityId), ("registered", .bool true),
      ("risk_class", .str (if tool.privileged then "high" else "low")),
      ("requires_approval", .bool tool.privileged),
      ("required_authority", .str request.requestedAction)]) <|
  setMember "target" (.obj [("id", .str request.targetId)]) <|
  setMember "principal" (.obj [("id", .str request.principalId)]) context

/-- The decision on a request and its reason. Whatever the policy or its context raises is a denial, and
so is an answer that is no decision. -/
def judge (policy : GatewayPolicy) (request : GatewayRequest) (tool : RegisteredTool) :
    PolicyDecision × String :=
  match policy.context request tool with
  | .error _ => (.deny, "canonical policy context unavailable")
  | .ok context =>
    match policy.decide (policyInput request tool context) with
    | .error _ => (.deny, "canonical policy context unavailable")
    | .ok (.decision .allow) => (.allow, "OPA allowed the request")
    | .ok (.decision .requireApproval) => (.requireApproval, "OPA requires request-bound approval")
    | .ok (.decision .deny) | .ok .other => (.deny, "OPA denied the request")

section Calls

variable (tooling : Tooling)

def rawEvent (request : GatewayRequest) (eventClass : EventClass) (outcome rawEvidenceRef : String)
    (attributes : List (String × Value)) : Raw :=
  [("source", .json (.str "secscan-agent-gateway")),
    ("source_record_id", .json (.str (request.requestId ++ ":" ++ outcome))),
    ("source_digest", .json (.str (tooling.sha256 (tooling.stableJson (.obj attributes))))),
    ("source_system", .json (.str "secscan-agent-gateway")),
    ("collector_version", .json (.str "gateway-v1")),
    ("source_type", .json (.str request.protocol.value)),
    ("event_class", .json (.str eventClass.value)),
    ("occurred_at", .datetime request.occurredAt.1 request.occurredAt.2),
    ("observed_at", .datetime request.observedAt.1 request.observedAt.2),
    ("tenant", .json (.str request.tenantId)), ("case", .json (.str request.caseId)),
    ("target", .json (.str request.targetId)), ("actor", .json (.str request.agentId)),
    ("object", .json (.str request.toolId)), ("action", .json (.str request.requestedAction)),
    ("outcome", .json (.str outcome)), ("raw_evidence_ref", .json (.str rawEvidenceRef)),
    ("normalization_version", .json (.str "security-events-v1")),
    ("attributes", .json (.obj attributes))]

/-- `_event` -/
def event (now : Datetime) (request : GatewayRequest) (eventClass : EventClass)
    (outcome rawEvidenceRef : String) (attributes : List (String × Value)) :
    Effect AgentSecurityGateway String := fun gateway =>
  let raw := rawEvent tooling request eventClass outcome rawEvidenceRef attributes
  let r := SecurityEventPlane.ingestRaw tooling.codec tooling.reader now raw gateway.events
  (r.1.map (·.event.eventId), { gateway with events := r.2 })

/-- `_finish` -/
def finish (now : Datetime) (request : GatewayRequest) (decision : PolicyDecision) (reason : String) :
    Effect AgentSecurityGateway GatewayResult := fun gateway =>
  let r := event tooling now request .capabilityDecision decision.value
    ("metadata://gateway/" ++ request.requestId)
    [("decision", .str decision.value), ("authority_ref", .str request.authorityRef)] gateway
  (r.1.map fun eventId => { requestId := request.requestId, decision, reason, eventId }, r.2)

/-- The decision of an authorization is finished and recorded. -/
def settle (now : Datetime) (request : GatewayRequest) (decision : PolicyDecision) (reason : String) :
    Effect AgentSecurityGateway GatewayResult := fun gateway =>
  match finish tooling now request decision reason gateway with
  | (.error e, gateway) => (.error e, gateway)
  | (.ok result, gateway) =>
    (.ok result,
      { gateway with decisions := gateway.decisions.set request.requestId (request, result) })

def authorize (policy : GatewayPolicy) (now : Datetime) (request : GatewayRequest) :
    Effect AgentSecurityGateway GatewayResult := fun gateway =>
  let tool := gateway.registry.tools.find? request.toolId
  let agent := gateway.registry.agents.find? request.agentId
  match validateIdentity request agent tool, tool with
  | some reason, _ => settle tooling now request .deny reason gateway
  | none, none => settle tooling now request .deny "unknown tool" gateway
  | none, some tool =>
    let (decision, reason) := judge policy request tool
    settle tooling now request decision reason gateway

/-- Store the sanitized output, where `put` is the answer of the evidence store. -/
def storeOutput (put : String → String → Except Raised String) (content : String) :
    Effect AgentSecurityGateway String := fun gateway =>
  match gateway.evidence with
  | none => (.ok (tooling.sha256 content), gateway)
  | some records =>
    match put content "gateway-tool-output" with
    | .error e => (.error e, gateway)
    | .ok ref => (.ok ref,
        { gateway with evidence := some (records ++ [⟨content, "gateway-tool-output"⟩]) })

def complete (put : String → String → Except Raised String) (now : Datetime)
    (request : GatewayRequest) (toolOutput : List (String × Value)) :
    Effect AgentSecurityGateway GatewayResult := fun gateway =>
  match gateway.decisions.find? request.requestId with
  | none => finish tooling now request .deny "request was not authorized" gateway
  | some (authorized, result) =>
    if authorized.same request = false then
      finish tooling now request .deny "request does not match the authorized request" gateway
    else if result.decision ≠ .allow then (.ok result, gateway)
    else
      let (safeText, injectionDetected) := tooling.sanitizeToolOutput toolOutput
      match storeOutput tooling put safeText gateway with
      | (.error e, gateway) => (.error e, gateway)
      | (.ok evidenceRef, gateway) =>
        let r := event tooling now request
          (if request.protocol = .mcp then .mcpActivity else .a2aActivity) "completed" evidenceRef
          [("tool_id", .str request.toolId), ("injection_detected", .bool injectionDetected)] gateway
        (r.1.map fun eventId =>
          { requestId := request.requestId
            decision := result.decision
            reason := result.reason
            eventId
            outputEvidenceRef := some evidenceRef
            injectionDetected }, r.2)

end Calls

end AgentSecurityGateway

end SecScanMonitor.ContinuousSecurity
