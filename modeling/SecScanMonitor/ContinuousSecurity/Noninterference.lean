import SecScanMonitor.ContinuousSecurity.EventPlane
import SecScanMonitor.ContinuousSecurity.Runner

/-! What the ingests of one tenant and case can notice of the others on a shared event plane. -/

namespace SecScanMonitor.ContinuousSecurity

open Foundations Domain DetectionResponse

/-- An ingest by a caller of the plane, by a gateway or by a runner. -/
inductive Ingestion where
  | caller (call : IngestCall)
  | gateway (now : Datetime) (request : GatewayRequest) (eventClass : EventClass)
      (outcome rawEvidenceRef : String) (attributes : List (String × Value))
  | runner (now : Datetime) (job : CanonicalJob) (workloadId status evidenceRef outputDigest : String)

namespace Ingestion

variable (tooling : Tooling)

def toCall : Ingestion → IngestCall
  | .caller call => call
  | .gateway now request eventClass outcome rawEvidenceRef attributes =>
    .raw now (AgentSecurityGateway.rawEvent tooling request eventClass outcome rawEvidenceRef attributes)
  | .runner now job workloadId status evidenceRef outputDigest =>
    .raw now (ReferenceEdgeRunner.rawEvent tooling job workloadId status evidenceRef outputDigest)

/-- The tenant and the case that a call names. -/
def party : IngestCall → String × String
  | .prebuilt e => (e.scope.tenantId, e.scope.caseId)
  | .raw _ record =>
    (tooling.reader.field record "tenant" "", tooling.reader.field record "case" "")

variable (tenant case_ : String)

def mine (call : IngestCall) : Bool := party tooling call = (tenant, case_)

def belongs (e : SecurityEvent) : Bool := (e.scope.tenantId, e.scope.caseId) = (tenant, case_)

abbrev calls (run : List Ingestion) : List IngestCall := run.map (toCall tooling)

/-- The outcomes of the ingests that the tenant and the case make in a run, in order. -/
def ownOutcomes (run : List Ingestion) : List (Except Raised EventIngestResult) :=
  ((IngestCall.outcomes tooling.codec tooling.reader (calls tooling run)
    SecurityEventPlane.empty).filter fun r => mine tooling tenant case_ r.1).map Prod.snd

/-- Two runs with the same ingests of the tenant and the case. -/
def Agree (run run' : List Ingestion) : Prop :=
  run.filter (fun i => mine tooling tenant case_ (toCall tooling i)) =
    run'.filter (fun i => mine tooling tenant case_ (toCall tooling i))

/-- The events of a run that have their derived ids. -/
def events (run : List Ingestion) : List SecurityEvent :=
  (calls tooling run).filterMap (IngestCall.admitted tooling.codec tooling.reader)

/-- The first event of a run under an id belongs to the tenant and the case. -/
def FirstIsOwn (run : List Ingestion) (id : String) : Prop :=
  ∃ e, Journal.first SecurityEvent.eventId (events tooling run) id = some e ∧
    belongs tenant case_ e = true

variable {tooling tenant case_}

lemma marks : Journal.Marks (IngestCall.admitted tooling.codec tooling.reader)
    (belongs tenant case_) (mine tooling tenant case_) := by
  intro call e haccept
  obtain ⟨hevent, -⟩ := IngestCall.admitted_eq_some.mp haccept
  cases call with
  | prebuilt e' =>
    obtain rfl := Except.ok.inj hevent
    rfl
  | raw now record =>
    obtain ⟨-, htenant, hcase, -⟩ := SecurityEventPlane.normalize_eq_ok hevent
    rw [mine, belongs, party, htenant, hcase]

lemma firstIsOwn_iff {run : List Ingestion} {id : String} : FirstIsOwn tooling tenant case_ run id ↔
    Journal.ownFirst (belongs tenant case_) SecurityEvent.eventId Table.empty
      (events tooling run) id = true := by
  rw [Journal.ownFirst, Dict.find?_empty, Option.none_or, Option.any_eq_true]
  exact Iff.rfl

lemma ownOutcomes_eq {known : SecurityEvent → Prop} {run : List Ingestion}
    (hsep : Separates tooling.codec known)
    (hknown : ∀ i ∈ run, ∀ e,
      (toCall tooling i).event tooling.codec tooling.reader = .ok e → known e) :
    ownOutcomes tooling tenant case_ run =
      ((IngestCall.transcript tooling.codec tooling.reader (calls tooling run) Table.empty).filter
        (fun r => mine tooling tenant case_ r.1)).map
        (fun r => r.1.outcome tooling.codec tooling.reader r.2) := by
  have hcalls : ∀ call ∈ calls tooling run, ∀ e,
      call.event tooling.codec tooling.reader = .ok e → known e := by
    intro call hcall
    obtain ⟨i, hi, rfl⟩ := List.mem_map.mp hcall
    exact hknown i hi
  have houtcomes := (IngestCall.run_refines hsep .empty hcalls).1
  rw [ownOutcomes, houtcomes, List.filter_map, List.map_map]
  rfl

lemma known_events {known : SecurityEvent → Prop} {run : List Ingestion}
    (hknown : ∀ i ∈ run, ∀ e,
      (toCall tooling i).event tooling.codec tooling.reader = .ok e → known e) :
    ∀ e ∈ events tooling run, known e := by
  intro e he
  obtain ⟨call, hcall, haccept⟩ := List.mem_filterMap.mp he
  obtain ⟨i, hi, rfl⟩ := List.mem_map.mp hcall
  exact hknown i hi e (IngestCall.admitted_eq_some.mp haccept).1

/-- The tenant and the case notice the others exactly when in one of the runs, and not in the other, an
event of the others comes first under the id of an own event. -/
theorem ownOutcomes_eq_iff {known : SecurityEvent → Prop} {run run' : List Ingestion}
    (hsep : Separates tooling.codec known)
    (hknown : ∀ i ∈ run ++ run', ∀ e,
      (toCall tooling i).event tooling.codec tooling.reader = .ok e → known e)
    (hagree : Agree tooling tenant case_ run run') :
    ownOutcomes tooling tenant case_ run = ownOutcomes tooling tenant case_ run' ↔
      ∀ e ∈ events tooling run, belongs tenant case_ e = true →
        (FirstIsOwn tooling tenant case_ run e.eventId ↔
          FirstIsOwn tooling tenant case_ run' e.eventId) := by
  have hrun := fun i hi => hknown i (List.mem_append_left run' hi)
  have hrun' := fun i hi => hknown i (List.mem_append_right run hi)
  -- a foreign event has another fingerprint, which tells its tenant and its case
  have hforeign : ∀ a b, known a → known b → belongs tenant case_ a = true →
      belongs tenant case_ b = false →
        b.fingerprint tooling.codec ≠ a.fingerprint tooling.codec := by
    intro a b ha hb hown hother hfp
    rw [belongs, hsep.scope hb ha hfp] at hother
    rw [belongs, hother] at hown
    cases hown
  have hobserve : ∀ (call : IngestCall) e,
      call.admitted tooling.codec tooling.reader = some e →
        call.outcome tooling.codec tooling.reader (.created e) ≠
          call.outcome tooling.codec tooling.reader .conflict := by
    intro call e haccept
    obtain ⟨hevent, -⟩ := IngestCall.admitted_eq_some.mp haccept
    simp only [IngestCall.outcome, hevent]
    intro hsame
    cases hsame
  have hcalls : (calls tooling run).filter (mine tooling tenant case_) =
      (calls tooling run').filter (mine tooling tenant case_) := by
    rw [calls, calls, List.filter_map, List.filter_map]
    exact congrArg (List.map (toCall tooling)) hagree
  rw [ownOutcomes_eq hsep hrun, ownOutcomes_eq hsep hrun']
  refine (Journal.owned_answers_iff marks hforeign hobserve (known_events hrun) (known_events hrun')
    hcalls).trans ?_
  simp only [firstIsOwn_iff, ← Bool.eq_iff_iff]
  exact Iff.rfl

/-- The tenant and the case notice nothing of the others. -/
def Noninterference (tooling : Tooling) (tenant case_ : String) : Prop :=
  ∀ run run', Agree tooling tenant case_ run run' →
    ownOutcomes tooling tenant case_ run = ownOutcomes tooling tenant case_ run'

section Example

/-- The texts and digests of the denials of two tenants' requests. -/
def sharedTooling : Tooling where
  codec :=
    { contentDigest := fun v =>
        match v with
        | .obj [_, ("source_record_id", .str id), _, _] =>
          if id = "RQ-1:deny" then "1ed4af9f8805e76db05b5d6a006aaf6f33383933cd6bec83f03307c33be8e2fe"
          else "0201cc43c351e72029b972ca80ebb91d3c861e299cbe0347332c8bbceede1950"
        | v =>
          if v.member? "tenant" = some (.str "CL-1") then
            "937e64ae435a8dfee3b49c3560de12dbfe29d9f958ad1ce240c90fcd9013ec49"
          else if (v.member? "provenance").bind (Value.member? "source_record_id") =
              some (.str "RQ-1:deny") then
            "6724d5708d77db55adf9a26ccba073048d10567a2243c05a3f4b2997cc038820"
          else "5c0e776a030339b3e22ec3079507fe2b482c8a6ec5053bbe7c15dbc522f54d02"
      isoformat := fun _ => "1970-01-01T00:00:00+00:00"
      dumpDatetime := fun _ => "1970-01-01T00:00:00Z" }
  reader := ⟨fun _ => "", fun _ _ => "", fun _ => none⟩
  dumpNaive _ := ""
  stableJson _ := "\x7b\"authority_ref\":\"GR-1\",\"decision\":\"deny\"\x7d"
  sha256 _ := "c686616cb5e1c00cddba78c64b3ab42a9c522d2e783cc08889ce98d1cae3555c"
  sanitizeToolOutput _ := ("", false)
  sanitizeOutput _ _ := ""

/-- A gateway denies a tenant's request. -/
def denial (tenant requestId : String) : Ingestion := .gateway 1
  { requestId
    tenantId := tenant
    caseId := "EN-1"
    protocol := .mcp
    agentId := "AG-1"
    serverId := "SV-1"
    toolId := "TL-1"
    declaredCapability := "CAP-1"
    schemaDigest := "sd"
    requestedAction := "invoke"
    targetId := "TG-1"
    principalId := "PR-1"
    engagementId := "EN-1"
    authorityRef := "GR-1"
    approvalId := none
    requestedResources := []
    occurredAt := (true, 0)
    observedAt := (true, 0) }
  .capabilityDecision "deny" ("metadata://gateway/" ++ requestId)
  [("decision", .str "deny"), ("authority_ref", .str "GR-1")]

/-- Another tenant's request of the same id and instant makes the own denial an identity conflict. -/
theorem denial_interferes : ¬ Noninterference sharedTooling "CL-1" "EN-1" := by
  intro h
  have hagree : Agree sharedTooling "CL-1" "EN-1" [denial "CL-2" "RQ-1", denial "CL-1" "RQ-1"]
      [denial "CL-1" "RQ-1"] := rfl
  have houtcomes := congrArg (List.map Except.isOk) (h _ _ hagree)
  revert houtcomes
  decide +kernel

def separateRun : List Ingestion := [denial "CL-2" "RQ-2", denial "CL-1" "RQ-1"]

lemma separate_events : ∀ i ∈ separateRun, ∀ e,
    (toCall sharedTooling i).event sharedTooling.codec sharedTooling.reader = .ok e →
      e ∈ events sharedTooling separateRun := by
  intro i hi e hevent
  refine List.mem_filterMap.mpr ⟨toCall sharedTooling i, List.mem_map_of_mem hi, ?_⟩
  refine IngestCall.admitted_eq_some.mpr ⟨hevent, ?_⟩
  cases hi with
  | head => exact (SecurityEventPlane.normalize_eq_ok hevent).1
  | tail _ hi =>
    obtain rfl := List.mem_singleton.mp hi
    exact (SecurityEventPlane.normalize_eq_ok hevent).1

lemma separate_separates : Separates sharedTooling.codec (· ∈ events sharedTooling separateRun) := by
  have hdigest : ∀ a ∈ events sharedTooling separateRun, ∀ b ∈ events sharedTooling separateRun,
      a.fingerprint sharedTooling.codec = b.fingerprint sharedTooling.codec → a = b := by
    decide
  have hinstants : ∀ e ∈ events sharedTooling separateRun, e.occurredAt = 0 ∧ e.observedAt = 0 := by
    decide
  refine ⟨?_, ?_, ?_⟩
  · intro a b ha hb h
    rw [hdigest a ha b hb h]
  · exact fun a b ha hb _ => (hinstants a ha).1.trans (hinstants b hb).1.symm
  · exact fun a b ha hb _ => (hinstants a ha).2.trans (hinstants b hb).2.symm

theorem separate_ownOutcomes_eq_iff :
    ownOutcomes sharedTooling "CL-1" "EN-1" separateRun =
        ownOutcomes sharedTooling "CL-1" "EN-1" [denial "CL-1" "RQ-1"] ↔
      ∀ e ∈ events sharedTooling separateRun, belongs "CL-1" "EN-1" e = true →
        (FirstIsOwn sharedTooling "CL-1" "EN-1" separateRun e.eventId ↔
          FirstIsOwn sharedTooling "CL-1" "EN-1" [denial "CL-1" "RQ-1"] e.eventId) := by
  refine ownOutcomes_eq_iff separate_separates ?_ rfl
  intro i hi
  apply separate_events
  rcases List.mem_append.mp hi with hi | hi
  · exact hi
  · exact List.mem_cons_of_mem _ hi

end Example

end Ingestion

end SecScanMonitor.ContinuousSecurity
