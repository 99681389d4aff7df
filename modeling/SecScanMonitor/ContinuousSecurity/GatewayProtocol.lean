import SecScanMonitor.ContinuousSecurity.Gateway
import SecScanMonitor.Foundations.History

/-! The gateway fails closed: what a tool puts out is stored only under an authorization that stands for
the same request, and no failure of the policy ever counts as one. -/

namespace SecScanMonitor.ContinuousSecurity

open Foundations Domain DetectionResponse

section Plane

variable {codec : Codec} {reader : Reader} {plane : SecurityEventPlane}

lemma SecurityEventPlane.ingest_stored {event x : SecurityEvent} {id : String}
    (h : (plane.ingest codec event).2.events.find? id = some x) :
    plane.events.find? id = some x ∨ x = event := by
  unfold ingest at h
  split at h
  · exact Or.inl h
  · split at h
    · split at h
      · exact Or.inl h
      · exact Or.inl h
    · split at h
      · exact Or.inl h
      · rcases Dict.find?_set_eq_some h with ⟨-, rfl⟩ | h
        · exact Or.inr rfl
        · exact Or.inl h

lemma SecurityEventPlane.ingestRaw_stored {now : Datetime} {raw : Raw} {x : SecurityEvent}
    {id : String} (h : (plane.ingestRaw codec reader now raw).2.events.find? id = some x) :
    plane.events.find? id = some x ∨ x.outcome = reader.field raw "outcome" "" := by
  unfold ingestRaw at h
  split at h
  · rename_i event hevent
    rcases ingest_stored h with hold | rfl
    · exact Or.inl hold
    · exact Or.inr (normalize_eq_ok hevent).2.2.2
  · exact Or.inl h

end Plane

inductive GatewayCall where
  | registerAgent (agent : RegisteredAgent)
  | registerTool (tool : RegisteredTool)
  | authorize (policy : GatewayPolicy) (now : Datetime) (request : GatewayRequest)
  | complete (put : String → String → Except Raised String) (now : Datetime)
      (request : GatewayRequest) (toolOutput : List (String × Value))

namespace AgentSecurityGateway

/-- A change of the registry alone. -/
def withRegistry (m : Effect GatewayRegistry Unit) :
    Effect AgentSecurityGateway (Option GatewayResult) := fun gateway =>
  let r := m gateway.registry
  (r.1.map fun _ => none, { gateway with registry := r.2 })

variable (tooling : Tooling)

def exec : GatewayCall → Effect AgentSecurityGateway (Option GatewayResult)
  | .registerAgent agent => withRegistry (GatewayRegistry.registerAgent agent)
  | .registerTool tool => withRegistry (GatewayRegistry.registerTool tool)
  | .authorize policy now request => fun gateway =>
    let r := authorize tooling policy now request gateway
    (r.1.map some, r.2)
  | .complete put now request toolOutput => fun gateway =>
    let r := complete tooling put now request toolOutput gateway
    (r.1.map some, r.2)

abbrev GatewayEntry :=
  Entry GatewayCall AgentSecurityGateway (Except Raised (Option GatewayResult))

/-- An authorization of a request id that was recorded: one that returned. -/
def recorded (requestId : String) (e : GatewayEntry) : Bool :=
  match e.call, e.outcome with
  | .authorize _ _ request, .ok _ => request.requestId = requestId
  | _, _ => false

def lastRecorded (requestId : String) (es : List GatewayEntry) : Option GatewayEntry :=
  es.find? (recorded requestId)

/-- The entry is an authorization of this very request, which passed the identity checks of the registry
and which the policy allowed. -/
def Allowed (e : GatewayEntry) (authorized : GatewayRequest) : Prop :=
  ∃ policy now agent tool context, e.call = .authorize policy now authorized ∧
    e.before.registry.agents.find? authorized.agentId = some agent ∧
    e.before.registry.tools.find? authorized.toolId = some tool ∧
    validateIdentity authorized (some agent) (some tool) = none ∧
    policy.context authorized tool = .ok context ∧
    policy.decide (policyInput authorized tool context) = .ok (.decision .allow)

/-- The policy comes to no decision: it or its context raises, or it returns something else. -/
def Undecided (policy : GatewayPolicy) (request : GatewayRequest) (tool : RegisteredTool) : Prop :=
  ∀ context, policy.context request tool = .ok context →
    ∀ d, policy.decide (policyInput request tool context) ≠ .ok (.decision d)

/-- An event that the later gateway holds and the earlier one does not. -/
def Stores (gateway gateway' : AgentSecurityGateway) (e : SecurityEvent) : Prop :=
  ∃ id, gateway'.events.events.find? id = some e ∧ gateway.events.events.find? id = none

variable {tooling : Tooling} {gateway : AgentSecurityGateway} {now : Datetime}
  {request : GatewayRequest}

section Frames

lemma event_stores {eventClass : EventClass} {outcome ref : String}
    {attributes : List (String × Value)} {e : SecurityEvent}
    (h : Stores gateway (event tooling now request eventClass outcome ref attributes gateway).2 e) :
    e.outcome = outcome := by
  obtain ⟨id, hid, hnone⟩ := h
  rcases SecurityEventPlane.ingestRaw_stored hid with hold | houtcome
  · rw [hnone] at hold
    cases hold
  · exact houtcome

lemma finish_stores {decision : PolicyDecision} {reason : String} {e : SecurityEvent}
    (h : Stores gateway (finish tooling now request decision reason gateway).2 e) :
    e.outcome = decision.value := event_stores h

lemma decision_ne_completed (decision : PolicyDecision) : decision.value ≠ "completed" := by
  cases decision <;> decide

variable (tooling gateway now request) in
/-- What settling a decision does: it finishes it, and records it if that returned. -/
lemma settle_cases (decision : PolicyDecision) (reason : String) :
    (∃ x, settle tooling now request decision reason gateway =
        (.error x, (finish tooling now request decision reason gateway).2)) ∨
      ∃ result, result.decision = decision ∧
        settle tooling now request decision reason gateway =
          (.ok result, { (finish tooling now request decision reason gateway).2 with
            decisions := gateway.decisions.set request.requestId (request, result) }) := by
  unfold settle
  have hdecisions : (finish tooling now request decision reason gateway).2.decisions =
      gateway.decisions := rfl
  have hdecision : ∀ result, (finish tooling now request decision reason gateway).1 = .ok result →
      result.decision = decision := by
    intro result h
    obtain ⟨eventId, -, rfl⟩ := map_eq_ok.mp h
    rfl
  cases hfinish : finish tooling now request decision reason gateway with
  | mk outcome after =>
    rw [hfinish] at hdecisions hdecision
    cases outcome with
    | error x => exact Or.inl ⟨x, rfl⟩
    | ok result => exact Or.inr ⟨result, hdecision result rfl, by simp only [← hdecisions]⟩

variable (tooling gateway now request) in
/-- An authorization settles a decision; it allows only what the registry and the policy allow. -/
lemma authorize_cases (policy : GatewayPolicy) :
    ∃ decision reason, authorize tooling policy now request gateway =
        settle tooling now request decision reason gateway ∧
      (decision = .allow → ∃ agent tool context,
        gateway.registry.agents.find? request.agentId = some agent ∧
        gateway.registry.tools.find? request.toolId = some tool ∧
        validateIdentity request (some agent) (some tool) = none ∧
        policy.context request tool = .ok context ∧
        policy.decide (policyInput request tool context) = .ok (.decision .allow)) := by
  unfold authorize
  simp only
  split
  · exact ⟨_, _, rfl, fun hallow => by cases hallow⟩
  · exact ⟨_, _, rfl, fun hallow => by cases hallow⟩
  · rename_i tool hidentity htool
    refine ⟨_, _, rfl, ?_⟩
    intro hallow
    cases hagent : gateway.registry.agents.find? request.agentId with
    | none =>
      rw [hagent] at hidentity
      cases hidentity
    | some agent =>
      rw [hagent, htool] at hidentity
      refine ⟨agent, tool, ?_⟩
      unfold judge at hallow
      cases hcontext : policy.context request tool with
      | error x =>
        rw [hcontext] at hallow
        cases hallow
      | ok context =>
        rw [hcontext] at hallow
        simp only at hallow
        split at hallow
        · cases hallow
        · rename_i hdecide
          exact ⟨context, rfl, htool, hidentity, rfl, hdecide⟩
        · cases hallow
        · cases hallow
        · cases hallow

variable (tooling gateway) in
lemma storeOutput_decisions (put : String → String → Except Raised String) (content : String) :
    (storeOutput tooling put content gateway).2.decisions = gateway.decisions := by
  unfold storeOutput
  split
  · rfl
  · split <;> rfl

lemma complete_decisions (put : String → String → Except Raised String)
    (toolOutput : List (String × Value)) :
    (complete tooling put now request toolOutput gateway).2.decisions = gateway.decisions := by
  unfold complete
  split
  · rfl
  · split
    · rfl
    · split
      · rfl
      · have hstore := storeOutput_decisions tooling gateway put
          (tooling.sanitizeToolOutput toolOutput).1
        simp only
        split
        · rename_i h
          rw [h] at hstore
          exact hstore
        · rename_i h
          rw [h] at hstore
          exact hstore

/-- A completion that stores anything finds the same request allowed. -/
lemma complete_stores {put : String → String → Except Raised String}
    {toolOutput : List (String × Value)}
    (h : (complete tooling put now request toolOutput gateway).2.evidence ≠ gateway.evidence ∨
      ∃ e, Stores gateway (complete tooling put now request toolOutput gateway).2 e ∧
        e.outcome = "completed") :
    ∃ authorized result, gateway.decisions.find? request.requestId = some (authorized, result) ∧
      authorized.same request = true ∧ result.decision = .allow := by
  have hfinish : ∀ reason, complete tooling put now request toolOutput gateway =
      finish tooling now request .deny reason gateway → False := by
    intro reason heq
    rw [heq] at h
    rcases h with h | ⟨e, he, houtcome⟩
    · exact h rfl
    · exact decision_ne_completed .deny ((finish_stores he).symm.trans houtcome)
  unfold complete at h hfinish
  split at h
  · rename_i hnone
    rw [hnone] at hfinish
    exact (hfinish _ rfl).elim
  · rename_i authorized result hsome
    rw [hsome] at hfinish
    split at h
    · rename_i hdiffers
      simp only [hdiffers, if_true] at hfinish
      exact (hfinish _ rfl).elim
    · rename_i hsame
      split at h
      · rcases h with h | ⟨e, ⟨id, hid, hnone⟩, -⟩
        · exact absurd rfl h
        · rw [hnone] at hid
          cases hid
      · rename_i hallow
        exact ⟨authorized, result, hsome, by simpa using hsame, by simpa using hallow⟩

end Frames

section History

variable {start : AgentSecurityGateway} {es : List GatewayEntry}

/-- Every decision on record is that of the last authorization of its request id. -/
def Accounted (es : List GatewayEntry) (gateway : AgentSecurityGateway) : Prop :=
  ∀ id authorized result, gateway.decisions.find? id = some (authorized, result) →
    ∃ e, lastRecorded id es = some e ∧ (result.decision = .allow → Allowed e authorized)

lemma Accounted.skip {gateway' : AgentSecurityGateway} {e : GatewayEntry}
    (h : Accounted es gateway) (hdecisions : gateway'.decisions = gateway.decisions)
    (he : ∀ id, recorded id e = false) : Accounted (e :: es) gateway' := by
  intro id authorized result hfind
  rw [hdecisions] at hfind
  obtain ⟨e', he', hallowed⟩ := h id authorized result hfind
  refine ⟨e', ?_, hallowed⟩
  rw [lastRecorded, List.find?_cons, he id]
  exact he'

lemma accounted (hstart : start.decisions = Table.empty)
    (h : History (exec tooling) start es gateway) : Accounted es gateway := by
  induction h with
  | nil =>
    intro id authorized result hfind
    rw [hstart] at hfind
    cases hfind
  | @call es gateway c h ih =>
    cases c with
    | registerAgent agent => exact ih.skip rfl fun _ => rfl
    | registerTool tool => exact ih.skip rfl fun _ => rfl
    | complete put now request toolOutput =>
      exact ih.skip (complete_decisions put toolOutput) fun _ => rfl
    | authorize policy now request =>
      obtain ⟨decision, reason, hauthorize, hallow⟩ := authorize_cases tooling gateway now request policy
      simp only [exec, hauthorize]
      rcases settle_cases tooling gateway now request decision reason with
        ⟨x, hsettle⟩ | ⟨result, hdecision, hsettle⟩
      · rw [hsettle]
        exact ih.skip rfl fun _ => rfl
      · rw [hsettle]
        intro id authorized result' hfind
        by_cases hid : id = request.requestId
        · subst hid
          obtain ⟨rfl, rfl⟩ := Prod.mk.inj (Option.some.inj
            ((Dict.find?_set_self gateway.decisions request.requestId (request, result)).symm.trans hfind))
          refine ⟨⟨.authorize policy now request, gateway, .ok (some result)⟩,
            List.find?_cons_of_pos (decide_eq_true rfl), ?_⟩
          intro hresult
          obtain ⟨agent, tool, context, hallowed⟩ := hallow (hdecision.symm.trans hresult)
          exact ⟨policy, now, agent, tool, context, rfl, hallowed⟩
        · have hold : gateway.decisions.find? id = some (authorized, result') :=
            (Dict.find?_set_of_ne gateway.decisions (request, result) hid).symm.trans hfind
          obtain ⟨e, he, hallowed⟩ := ih id authorized result' hold
          have hother : recorded id ⟨.authorize policy now request, gateway, .ok (some result)⟩ = false :=
            decide_eq_false (Ne.symm hid)
          exact ⟨e, (List.find?_cons_of_neg (Bool.eq_false_iff.mp hother)).trans he, hallowed⟩

/-- What a tool puts out is stored under the last authorization of its request id only, and a policy that
comes to no decision allows nothing. -/
structure GatewayProtocol (tooling : Tooling) (es : List GatewayEntry)
    (gateway : AgentSecurityGateway) : Prop where
  completion : ∀ put now request toolOutput,
    (complete tooling put now request toolOutput gateway).2.evidence ≠ gateway.evidence ∨
      (∃ e, Stores gateway (complete tooling put now request toolOutput gateway).2 e ∧
        e.outcome = "completed") →
    ∃ e authorized, lastRecorded request.requestId es = some e ∧ Allowed e authorized ∧
      authorized.same request = true
  authorization : ∀ policy now request,
    (authorize tooling policy now request gateway).2.evidence = gateway.evidence ∧
      ∀ e, Stores gateway (authorize tooling policy now request gateway).2 e →
        e.outcome ≠ "completed"
  failClosed : ∀ policy now request,
    (∀ tool, gateway.registry.tools.find? request.toolId = some tool →
      Undecided policy request tool) →
    (∀ result, (authorize tooling policy now request gateway).1 = .ok result →
      result.decision ≠ .allow) ∧
    (∀ e, Stores gateway (authorize tooling policy now request gateway).2 e →
      e.outcome ≠ PolicyDecision.allow.value) ∧
    ((authorize tooling policy now request gateway).2.decisions = gateway.decisions ∨
      ∃ result, result.decision ≠ .allow ∧
        (authorize tooling policy now request gateway).2.decisions =
          gateway.decisions.set request.requestId (request, result))

theorem gatewayProtocol (hstart : start.decisions = Table.empty)
    (h : History (exec tooling) start es gateway) : GatewayProtocol tooling es gateway where
  completion put now request toolOutput hstores := by
    obtain ⟨authorized, result, hfind, hsame, hallow⟩ := complete_stores hstores
    obtain ⟨e, he, hallowed⟩ := accounted hstart h _ authorized result hfind
    exact ⟨e, authorized, he, hallowed hallow, hsame⟩
  authorization policy now request := by
    obtain ⟨decision, reason, hauthorize, -⟩ := authorize_cases tooling gateway now request policy
    rw [hauthorize]
    rcases settle_cases tooling gateway now request decision reason with
      ⟨x, hsettle⟩ | ⟨result, -, hsettle⟩
    · rw [hsettle]
      refine ⟨rfl, fun e he houtcome => ?_⟩
      have hfinish : Stores gateway (finish tooling now request decision reason gateway).2 e := he
      exact decision_ne_completed decision ((finish_stores hfinish).symm.trans houtcome)
    · rw [hsettle]
      refine ⟨rfl, fun e he houtcome => ?_⟩
      have hfinish : Stores gateway (finish tooling now request decision reason gateway).2 e := he
      exact decision_ne_completed decision ((finish_stores hfinish).symm.trans houtcome)
  failClosed policy now request hundecided := by
    obtain ⟨decision, reason, hauthorize, hallow⟩ := authorize_cases tooling gateway now request policy
    have hne : decision ≠ .allow := by
      intro hdecision
      obtain ⟨agent, tool, context, -, htool, -, hcontext, hdecide⟩ := hallow hdecision
      exact hundecided tool htool context hcontext .allow hdecide
    have hvalue : decision.value ≠ PolicyDecision.allow.value := by
      cases decision with
      | allow => exact absurd rfl hne
      | deny => decide
      | requireApproval => decide
    rw [hauthorize]
    rcases settle_cases tooling gateway now request decision reason with
      ⟨x, hsettle⟩ | ⟨result, hresult, hsettle⟩
    · rw [hsettle]
      refine ⟨nofun, fun e he houtcome => ?_, Or.inl rfl⟩
      have hfinish : Stores gateway (finish tooling now request decision reason gateway).2 e := he
      exact hvalue ((finish_stores hfinish).symm.trans houtcome)
    · rw [hsettle]
      refine ⟨?_, fun e he houtcome => ?_, Or.inr ⟨result, hresult ▸ hne, rfl⟩⟩
      · intro result' h'
        obtain rfl := Except.ok.inj h'
        exact hresult ▸ hne
      · have hfinish : Stores gateway (finish tooling now request decision reason gateway).2 e := he
        exact hvalue ((finish_stores hfinish).symm.trans houtcome)

end History

section Example

/-- The texts and digests that the sample calls need. -/
def sampleTooling : Tooling where
  codec :=
    { contentDigest := fun v =>
        match v with
        | .obj [_, ("source_record_id", .str id), _, _] =>
          if id = "RQ-1:allow" then "c45faea8487f791fd681ce497fc25336dbc4d8cbc8537f2f8b13f7f3d571ffbb"
          else "a305e47f00b86521beb009ae66a0434d3360941b5daba1364c77f5ddd17dc2e9"
        | v =>
          if v.member? "outcome" = some (.str "allow") then
            "d10968ca6658caad71c7cbd1a053959dc14470df6da3946d5634631be560e54b"
          else "ab57bb75d0b5c1d8d7b562c9520910c0dce78464349f882d6be79ef52ba9fbcb"
      isoformat := fun _ => "1970-01-01T00:00:00+00:00"
      dumpDatetime := fun _ => "1970-01-01T00:00:00Z" }
  reader := ⟨fun _ => "", fun _ _ => "", fun _ => none⟩
  dumpNaive _ := ""
  stableJson
    | .obj (("decision", _) :: _) => "\x7b\"authority_ref\":\"GR-1\",\"decision\":\"allow\"\x7d"
    | _ => "\x7b\"injection_detected\":false,\"tool_id\":\"TL-1\"\x7d"
  sha256 text :=
    if text = "\x7b\x7d" then "44136fa355b3678a1146ad16f7e8649e94fb4fc21fe77e8310c060f61caaff8a"
    else if text = "\x7b\"authority_ref\":\"GR-1\",\"decision\":\"allow\"\x7d" then
      "512a48963d7538e0b840806d95b65af96e20f0f92323ba3191591280ccfc6eda"
    else "f667dbf6cd0f6d544e4cb27964d9b66d13bbc1e8e8d6442810cd20c2b79470cc"
  sanitizeToolOutput _ := ("\x7b\x7d", false)
  sanitizeOutput _ _ := ""

def sampleRequest : GatewayRequest where
  requestId := "RQ-1"
  tenantId := "CL-1"
  caseId := "EN-1"
  protocol := .mcp
  agentId := "AG-1"
  serverId := "SV-1"
  toolId := "TL-1"
  declaredCapability := "CAP-1"
  schemaDigest := "sd"
  requestedAction := "invoke"
  targetId := "TG-1"
  principalId := "PR-1"
  engagementId := "EN-1"
  authorityRef := "GR-1"
  approvalId := none
  requestedResources := []
  occurredAt := (true, 0)
  observedAt := (true, 0)

/-- The policy allows the sample request, and its tool completes. -/
def sampleCalls : List GatewayCall :=
  [.complete (fun content _ => .ok (sampleTooling.sha256 content)) 2 sampleRequest [],
    .authorize ⟨fun _ _ => .ok [], fun _ => .ok (.decision .allow)⟩ 1 sampleRequest,
    .registerTool ⟨"TL-1", .mcp, "CL-1", "EN-1", "SV-1", "CAP-1", "sd", ["invoke"], false⟩,
    .registerAgent ⟨"AG-1", "CL-1", "EN-1", ["CAP-1"]⟩]

def sampleStart : AgentSecurityGateway :=
  ⟨⟨Table.empty, Table.empty⟩, Table.empty, SecurityEventPlane.empty, some []⟩

def sampleHistory : List GatewayEntry × AgentSecurityGateway :=
  History.ofCalls (exec sampleTooling) sampleStart sampleCalls

theorem sample_gatewayProtocol :
    sampleHistory.2.evidence = some [⟨"\x7b\x7d", "gateway-tool-output"⟩] ∧
      GatewayProtocol sampleTooling sampleHistory.1 sampleHistory.2 :=
  ⟨by decide +kernel, gatewayProtocol rfl (History.ofCalls_history sampleCalls)⟩

end Example

end AgentSecurityGateway

end SecScanMonitor.ContinuousSecurity
