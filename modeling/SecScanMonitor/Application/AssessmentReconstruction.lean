import SecScanMonitor.Application.FirmSecurityServices
import SecScanMonitor.Foundations.Runs

/-! Which assessment is read back after a history of runs. A run stores its chain in the row of its first service
run, and the reader takes the chain of the smallest row id, so that what it finds depends on the ids of all runs
that the engagement has had. -/

namespace SecScanMonitor.Application.Firm

open Foundations Domain

section Reader

variable {clientId engagementId : String} {store : AssessmentStore}

/-- A row of the engagement with a chain. -/
structure Carries (clientId engagementId : String) (row : SecurityServiceRunRow)
    (chain : List (String × Value)) : Prop where
  client : row.run.clientId = clientId
  engagement : row.run.engagementId = engagementId
  chain : row.payload.assessmentChain = some chain

lemma mem_listRuns {row : SecurityServiceRunRow} :
    row ∈ listRuns clientId engagementId store ↔
      row ∈ store.runs ∧ row.run.clientId = clientId ∧ row.run.engagementId = engagementId := by
  simp only [listRuns, mem_sortBy, Table.mem_select, Bool.and_eq_true, decide_eq_true_eq]

lemma listRuns_sorted :
    (listRuns clientId engagementId store).Pairwise fun r s => r.run.runId ≤ s.run.runId :=
  sortBy_sorted

lemma findSome_sorted {α κ β : Type} [Preorder κ] {key : α → κ} {f : α → Option β} {l : List α} {b : β}
    (hl : l.Pairwise fun x y => key x ≤ key y) (h : l.findSome? f = some b) :
    ∃ a ∈ l, f a = some b ∧ ∀ x ∈ l, f x ≠ none → key a ≤ key x := by
  induction l with
  | nil => cases h
  | cons a l ih =>
    obtain ⟨hfirst, hl⟩ := List.pairwise_cons.mp hl
    rw [List.findSome?_cons] at h
    cases ha : f a with
    | some c =>
      rw [ha] at h
      refine ⟨a, List.mem_cons_self, ha.trans h, fun x hx _ => ?_⟩
      rcases List.mem_cons.mp hx with rfl | hx
      · exact le_refl _
      · exact hfirst x hx
    | none =>
      rw [ha] at h
      obtain ⟨c, hc, hfc, hmin⟩ := ih hl h
      refine ⟨c, List.mem_cons_of_mem a hc, hfc, fun x hx hfx => ?_⟩
      rcases List.mem_cons.mp hx with rfl | hx
      · exact absurd ha hfx
      · exact hmin x hx hfx

/-- The chain that is read is the one of the smallest row id. -/
lemma getAssessmentChain_eq_some {chain : List (String × Value)} :
    getAssessmentChain clientId engagementId store = some chain ↔
      ∃ row ∈ store.runs, Carries clientId engagementId row chain ∧
        ∀ other ∈ store.runs, ∀ c, Carries clientId engagementId other c →
          row.run.runId ≤ other.run.runId := by
  have hread : ∀ {c}, getAssessmentChain clientId engagementId store = some c →
      ∃ row ∈ store.runs, Carries clientId engagementId row c ∧
        ∀ other ∈ store.runs, ∀ c, Carries clientId engagementId other c →
          row.run.runId ≤ other.run.runId := by
    intro c h
    obtain ⟨row, hrow, hchain, hmin⟩ := findSome_sorted listRuns_sorted h
    obtain ⟨hmem, hclient, hengagement⟩ := mem_listRuns.mp hrow
    refine ⟨row, hmem, ⟨hclient, hengagement, hchain⟩, fun other hother d hd => ?_⟩
    refine hmin other (mem_listRuns.mpr ⟨hother, hd.client, hd.engagement⟩) ?_
    rw [hd.chain]
    exact Option.some_ne_none d
  refine ⟨hread, ?_⟩
  rintro ⟨row, hrow, hcarries, hmin⟩
  cases hfound : getAssessmentChain clientId engagementId store with
  | none =>
    have hnone := List.findSome?_eq_none_iff.mp hfound row
      (mem_listRuns.mpr ⟨hrow, hcarries.client, hcarries.engagement⟩)
    exact absurd (hcarries.chain.symm.trans hnone) (Option.some_ne_none chain)
  | some c =>
    obtain ⟨first, hfirst, hcarriesFirst, hminFirst⟩ := hread hfound
    have hid := le_antisymm (hminFirst row hrow chain hcarries) (hmin first hfirst c hcarriesFirst)
    have hrows := Table.eq_of_key_eq hfirst hrow hid
    rw [← hcarriesFirst.chain, hrows, hcarries.chain]

end Reader

section Assembled

variable {docs : Documents} {services : FirmSecurityServices} {call : AssessmentCall}
  {assessment : FirmAssessment}

/-- The services of the plan for a target of this profile, in their order. -/
def assessedServices (profile : TargetSecurityProfile) (engagement : FirmEngagement) : List String :=
  if profile.hasAgenticSurface || mentions "agent" engagement.scope then
    ["AGENTSEC", "APPSEC", "SUPPLYCHAIN", "VULNINTEL"]
  else ["APPSEC", "SUPPLYCHAIN", "VULNINTEL"]

/-- The ids under which the service runs of a call are stored. -/
def runIds (docs : Documents) (call : AssessmentCall) (profile : TargetSecurityProfile) : List String :=
  (assessedServices profile call.engagement).map
    (runIdOf docs.sha256 call.engagement.engagementId call.snapshot.snapshotId)

lemma routeServices_selected {stamps : DomainModel} {profile : TargetSecurityProfile}
    {engagement : FirmEngagement} {registry : SecurityServiceRegistry} {plan : AssessmentPlan}
    (h : routeServices stamps profile engagement registry = .ok plan) :
    plan.selectedServices = assessedServices profile engagement := by
  rw [routeServices] at h
  obtain ⟨contracts, -, h⟩ := bind_eq_ok.mp h
  obtain ⟨-, -, h⟩ := bind_eq_ok.mp h
  cases h
  have hagentic : sortedSet (["APPSEC", "VULNINTEL", "SUPPLYCHAIN"] ++ ["AGENTSEC"]) =
      ["AGENTSEC", "APPSEC", "SUPPLYCHAIN", "VULNINTEL"] := by decide
  have hplain : sortedSet (["APPSEC", "VULNINTEL", "SUPPLYCHAIN"] ++ []) =
      ["APPSEC", "SUPPLYCHAIN", "VULNINTEL"] := by decide
  by_cases hsurface : (profile.hasAgenticSurface || mentions "agent" engagement.scope) = true
  · simp only [AssessmentPlan.selectedServices, assessedServices, if_pos hsurface, hagentic]
  · simp only [AssessmentPlan.selectedServices, assessedServices, if_neg hsurface, hplain]

/-- What a service run says of the call and of its service. -/
structure RunOf (docs : Documents) (call : AssessmentCall) (result : ServiceResult) (run : ServiceRun) :
    Prop where
  service : run.serviceId = result.serviceId
  runId : run.runId =
    runIdOf docs.sha256 call.engagement.engagementId call.snapshot.snapshotId result.serviceId
  client : run.clientId = call.engagement.clientId
  engagement : run.engagementId = call.engagement.engagementId

lemma serviceRun_runOf {plan : AssessmentPlan} {claims : List Claim} {result : ServiceResult}
    {run : ServiceRun} (h : serviceRun docs services call plan claims result = .ok run) :
    RunOf docs call result run := by
  rw [serviceRun] at h
  obtain ⟨contract, -, h⟩ := bind_eq_ok.mp h
  obtain ⟨-, -, h⟩ := bind_eq_ok.mp h
  obtain ⟨bound, hbound, h⟩ := bind_eq_ok.mp h
  rw [ServiceRun.bindContract, raiseIf_bind_eq_ok, raiseIf_bind_eq_ok] at hbound
  obtain ⟨-, -, hbound⟩ := hbound
  cases hbound
  cases h
  exact ⟨rfl, rfl, rfl, rfl⟩

/-- What an assembled assessment takes over from its call. -/
structure Assembled (docs : Documents) (services : FirmSecurityServices) (call : AssessmentCall)
    (assessment : FirmAssessment) : Prop where
  mapped : services.map call.clock call.snapshot = .ok assessment.profile
  engagement : assessment.engagement = call.engagement
  runIds : assessment.serviceRuns.map (·.runId) = runIds docs call assessment.profile
  ofCall : ∀ run ∈ assessment.serviceRuns, run.clientId = call.engagement.clientId ∧
    run.engagementId = call.engagement.engagementId
  served : ∀ run ∈ assessment.serviceRuns, ∃ r ∈ assessment.results, r.serviceId = run.serviceId
  report : docs.dumpReport (fromCanonical docs.render assessment.engagement assessment.profile
    assessment.plan assessment.results assessment.findings assessment.evidence.length) =
      .ok assessment.report

lemma assessedServices_known (profile : TargetSecurityProfile) (engagement : FirmEngagement) :
    (assessedServices profile engagement).filter (fun id => decide (id ∈ knownServices)) =
      assessedServices profile engagement := by
  rw [assessedServices]
  split
  · decide
  · decide

lemma assemble_assembled (h : assemble docs services call = .ok assessment) :
    Assembled docs services call assessment := by
  rw [assemble] at h
  obtain ⟨-, -, h⟩ := bind_eq_ok.mp h
  obtain ⟨⟨profile, plan⟩, hplanned, h⟩ := bind_eq_ok.mp h
  obtain ⟨results, hresults, h⟩ := bind_eq_ok.mp h
  obtain ⟨adjudicated, -, h⟩ := bind_eq_ok.mp h
  obtain ⟨runs, hruns, h⟩ := bind_eq_ok.mp h
  obtain ⟨report, hreport, h⟩ := bind_eq_ok.mp h
  obtain ⟨contracts, -, h⟩ := bind_eq_ok.mp h
  cases h
  rw [profileAndPlan] at hplanned
  obtain ⟨mapped, hmapped, hplanned⟩ := bind_eq_ok.mp hplanned
  obtain ⟨routed, hrouted, hplanned⟩ := bind_eq_ok.mp hplanned
  cases hplanned
  have hserviceIds : results.map (·.serviceId) = assessedServices profile call.engagement := by
    have hids := mapM_map_eq (k := id) hresults
      fun id r hr => services.assess_serviceId id call.snapshot profile call.advisories r hr
    rw [hids, List.map_id, routeServices_selected hrouted, assessedServices_known]
  refine ⟨hmapped, rfl, ?_, fun run hrun => ?_, fun run hrun => ?_, hreport⟩
  · have hrunIds := mapM_map_eq hruns fun result run hrun => (serviceRun_runOf hrun).runId
    rw [hrunIds, runIds, ← hserviceIds, List.map_map]
    rfl
  · obtain ⟨result, -, hresult⟩ := (mapM_eq_ok hruns).2 run hrun
    have hof := serviceRun_runOf hresult
    exact ⟨hof.client, hof.engagement⟩
  · obtain ⟨result, hmem, hresult⟩ := (mapM_eq_ok hruns).2 run hrun
    exact ⟨result, hmem, (serviceRun_runOf hresult).service.symm⟩

lemma runIds_ne_nil (docs : Documents) (call : AssessmentCall) (profile : TargetSecurityProfile) :
    runIds docs call profile ≠ [] := by
  rw [runIds, assessedServices]
  split
  · exact List.cons_ne_nil _ _
  · exact List.cons_ne_nil _ _

end Assembled

section Writer

variable {docs : Documents} {services : FirmSecurityServices} {call : AssessmentCall}
  {assessment : FirmAssessment} {store store' : AssessmentStore}

/-- The rows of an assessment: one for each service run, and the chain in the first of them. -/
structure ChainRows (assessment : FirmAssessment) (chain : List (String × Value))
    (first : SecurityServiceRunRow) (later : List SecurityServiceRunRow) : Prop where
  runs : (first :: later).map (·.run) = assessment.serviceRuns
  chain : first.payload.assessmentChain = some chain
  bare : ∀ row ∈ later, row.payload.assessmentChain = none

lemma rowsOf_chainRows {chain : List (String × Value)} {rows : List SecurityServiceRunRow}
    (h : rowsOf docs assessment chain = .ok rows) (hruns : assessment.serviceRuns ≠ []) :
    ∃ first later, rows = first :: later ∧ ChainRows assessment chain first later := by
  rw [rowsOf] at h
  obtain ⟨plain, hplain, h⟩ := bind_eq_ok.mp h
  have hrow : ∀ run row, (payloadOf assessment.results run >>= fun payload =>
      pure (⟨run, payload⟩ : SecurityServiceRunRow)) = .ok row →
      row.run = run ∧ row.payload.assessmentChain = none := by
    intro run row hrow
    obtain ⟨payload, hpayload, hrow⟩ := bind_eq_ok.mp hrow
    obtain ⟨result, -, hpayload⟩ := bind_eq_ok.mp hpayload
    cases hpayload
    cases hrow
    exact ⟨rfl, rfl⟩
  have hmap : plain.map (·.run) = assessment.serviceRuns := by
    have hids := mapM_map_eq (k := id) hplain fun run row hr => (hrow run row hr).1
    rw [hids, List.map_id]
  cases plain with
  | nil => exact absurd hmap.symm hruns
  | cons first later =>
    cases h
    refine ⟨_, later, rfl, hmap, rfl, fun row hmem => ?_⟩
    obtain ⟨run, -, hof⟩ := (mapM_eq_ok hplain).2 row (List.mem_cons_of_mem first hmem)
    exact (hrow run row hof).2

lemma run_cases :
    (∃ e, run docs services call store = (.error e, store)) ∨
      ∃ assessment chain first later store', run docs services call store = (.ok assessment, store') ∧
        Assembled docs services call assessment ∧ docs.dump assessment = .ok chain ∧
        ChainRows assessment chain first later ∧ store'.runs = store.runs.writeAll (first :: later) := by
  rw [run]
  cases hassembled : assemble docs services call with
  | error e => exact Or.inl ⟨e, rfl⟩
  | ok assessment =>
    simp only
    cases hsaved : saveAssessment docs assessment store with
    | error e => exact Or.inl ⟨e, rfl⟩
    | ok store' =>
      have hof := assemble_assembled hassembled
      rw [saveAssessment] at hsaved
      obtain ⟨chain, hchain, hsaved⟩ := bind_eq_ok.mp hsaved
      obtain ⟨rows, hrows, hsaved⟩ := bind_eq_ok.mp hsaved
      have hruns : assessment.serviceRuns ≠ [] := fun hnil =>
        runIds_ne_nil docs call assessment.profile (by rw [← hof.runIds, hnil, List.map_nil])
      obtain ⟨first, later, rfl, hchainRows⟩ := rowsOf_chainRows hrows hruns
      cases hsaved
      exact Or.inr ⟨assessment, chain, first, later, _, rfl, hof, hchain, hchainRows, rfl⟩

lemma payloadOf_isOk {results : List ServiceResult} {run : ServiceRun}
    (h : ∃ r ∈ results, r.serviceId = run.serviceId) : ∃ payload, payloadOf results run = .ok payload := by
  obtain ⟨r, hr, hid⟩ := h
  rw [payloadOf]
  cases hfound : results.reverse.find? fun r => decide (r.serviceId = run.serviceId) with
  | none =>
    have hne := List.find?_eq_none.mp hfound r (List.mem_reverse.mpr hr)
    exact absurd (decide_eq_true hid) hne
  | some result => exact ⟨_, rfl⟩

/-- What is assembled is saved wherever it has a document. -/
lemma run_eq_ok {chain : List (String × Value)} (h : assemble docs services call = .ok assessment)
    (hdump : docs.dump assessment = .ok chain) :
    ∃ store', run docs services call store = (.ok assessment, store') := by
  have hof := assemble_assembled h
  have hrows : ∃ rows, rowsOf docs assessment chain = .ok rows := by
    have hplain : ∃ plain, (assessment.serviceRuns.mapM fun run => do
        let payload ← payloadOf assessment.results run
        return (⟨run, payload⟩ : SecurityServiceRunRow)) = .ok plain := by
      refine mapM_isOk.mpr fun run hrun => ?_
      obtain ⟨payload, hpayload⟩ := payloadOf_isOk (hof.served run hrun)
      exact map_isOk.mpr ⟨payload, hpayload⟩
    obtain ⟨plain, hplain⟩ := hplain
    rw [rowsOf, hplain, ok_bind]
    cases plain with
    | nil => exact ⟨[], rfl⟩
    | cons first later => exact ⟨_, rfl⟩
  obtain ⟨rows, hrows⟩ := hrows
  rw [run, h]
  simp only [saveAssessment, hdump, ok_bind, hrows]
  exact ⟨_, rfl⟩

/-- A row that is there after a run was there before under an id that the run does not take, or is a row of the run
whose id no later one of it takes. -/
lemma mem_writeAll_chainRows {chain : List (String × Value)} {first row : SecurityServiceRunRow}
    {later : List SecurityServiceRunRow} (hrows : ChainRows assessment chain first later)
    (hwritten : store'.runs = store.runs.writeAll (first :: later))
    (hcarried : row.payload.assessmentChain ≠ none) :
    row ∈ store'.runs ↔
      (row ∈ store.runs ∧ row.run.runId ∉ assessment.serviceRuns.map (·.runId)) ∨
        row = first ∧ first.run.runId ∉ later.map (·.run.runId) := by
  have hids : (first :: later).map (·.run.runId) = assessment.serviceRuns.map (·.runId) := by
    rw [← hrows.runs, List.map_map]
    rfl
  rw [hwritten, Table.mem_writeAll]
  constructor
  · rintro (⟨hkept, hfree⟩ | ⟨before, after, hsplit, hlast⟩)
    · refine Or.inl ⟨hkept, fun htaken => ?_⟩
      rw [← hids] at htaken
      obtain ⟨written, hmem, hid⟩ := List.mem_map.mp htaken
      exact hfree written hmem hid
    · cases before with
      | nil =>
        obtain ⟨rfl, rfl⟩ := List.cons.inj hsplit
        refine Or.inr ⟨rfl, fun htaken => ?_⟩
        obtain ⟨written, hmem, hid⟩ := List.mem_map.mp htaken
        exact hlast written hmem hid
      | cons b before =>
        obtain ⟨-, rfl⟩ := List.cons.inj hsplit
        exact absurd (hrows.bare row (List.mem_append_right before List.mem_cons_self)) hcarried
  · rintro (⟨hkept, hfree⟩ | ⟨rfl, hfree⟩)
    · refine Or.inl ⟨hkept, fun written hmem hid => hfree ?_⟩
      rw [← hids, ← hid]
      exact List.mem_map_of_mem hmem
    · refine Or.inr ⟨[], later, rfl, fun written hmem hid => hfree ?_⟩
      rw [← hid]
      exact List.mem_map_of_mem hmem

end Writer

section History

variable {docs : Documents} {services : FirmSecurityServices} {call : AssessmentCall}
  {assessment : FirmAssessment} {store store' : AssessmentStore}

/-- No assessment has been run. -/
def Unassessed (store : AssessmentStore) : Prop :=
  store = ⟨Table.empty, Table.empty, Table.empty⟩

/-- One more assessment, of any engagement and any snapshot. -/
def Assesses (docs : Documents) (store store' : AssessmentStore) : Prop :=
  ∃ services call, (run docs services call store).2 = store'

/-- Every chain is the document of an assessment whose first service run has the id of the row. -/
def ChainsLead (docs : Documents) (store : AssessmentStore) : Prop :=
  ∀ row ∈ store.runs, ∀ chain, row.payload.assessmentChain = some chain →
    ∃ a : FirmAssessment, docs.dump a = .ok chain ∧ row.run.runId ∈ a.serviceRuns.map (·.runId) ∧
      docs.dumpReport (fromCanonical docs.render a.engagement a.profile a.plan a.results a.findings
        a.evidence.length) = .ok a.report

lemma chainsLead_next (h : ChainsLead docs store) (hs : Assesses docs store store') :
    ChainsLead docs store' := by
  obtain ⟨services, call, rfl⟩ := hs
  rcases @run_cases docs services call store with
    ⟨e, hrun⟩ | ⟨a, chain, first, later, store', hrun, hof, hdump, hrows, hwritten⟩
  · rw [hrun]
    exact h
  · rw [hrun]
    intro row hrow c hc
    have hcarried : row.payload.assessmentChain ≠ none := by
      rw [hc]
      exact Option.some_ne_none c
    rcases (mem_writeAll_chainRows hrows hwritten hcarried).mp hrow with ⟨hkept, -⟩ | ⟨rfl, -⟩
    · exact h row hkept c hc
    · obtain rfl := Option.some.inj (hc.symm.trans hrows.chain)
      refine ⟨a, hdump, ?_, hof.report⟩
      rw [← hrows.runs, List.map_map]
      exact List.mem_cons_self

lemma chainsLead_inductive : Inductive Unassessed (Assesses docs) (ChainsLead docs) where
  start := by
    rintro store rfl row hrow
    cases hrow
  next := fun _ _ h hs => chainsLead_next h hs

/-- The stored report is the one that is composed of the chain again, so that no chain is refused. -/
lemma reconstructAssessment_eq_ok {clientId engagementId : String} (hlead : ChainsLead docs store) :
    reconstructAssessment docs clientId engagementId store = .ok assessment ↔
      ∃ chain, getAssessmentChain clientId engagementId store = some chain ∧
        docs.dump assessment = .ok chain := by
  have hchain : ∀ {chain}, getAssessmentChain clientId engagementId store = some chain →
      ∃ a : FirmAssessment, docs.dump a = .ok chain ∧
        reconstructAssessment docs clientId engagementId store = .ok a := by
    intro chain hread
    obtain ⟨row, hrow, hcarries, -⟩ := getAssessmentChain_eq_some.mp hread
    obtain ⟨a, hdump, -, hreport⟩ := hlead row hrow chain hcarries.chain
    refine ⟨a, hdump, ?_⟩
    have hstored := docs.validate_dumpReport _ _ hreport
    rw [reconstructAssessment, hread]
    simp only [orRaise, ok_bind, docs.validate_dump a chain hdump, hstored, hreport]
    simp only [raiseIf, ne_eq, not_true_eq_false, if_false, ok_bind]
    rfl
  constructor
  · intro h
    cases hread : getAssessmentChain clientId engagementId store with
    | none =>
      rw [reconstructAssessment, hread] at h
      cases h
    | some chain =>
      obtain ⟨a, hdump, hok⟩ := hchain hread
      obtain rfl := Except.ok.inj (hok.symm.trans h)
      exact ⟨chain, rfl, hdump⟩
  · rintro ⟨chain, hread, hdump⟩
    obtain ⟨a, hdump', hok⟩ := hchain hread
    have ha := Except.ok.inj
      ((docs.validate_dump a chain hdump').symm.trans (docs.validate_dump assessment chain hdump))
    rw [← ha]
    exact hok

/-- Two assessments agree in what a reader looks for. -/
structure SameAssessment (a b : FirmAssessment) : Prop where
  snapshotId : a.profile.snapshotId = b.profile.snapshotId
  profile : a.profile = b.profile
  plan : a.plan = b.plan
  serviceRuns : a.serviceRuns = b.serviceRuns
  findings : a.findings = b.findings
  claims : a.claims = b.claims
  observations : a.observations = b.observations
  evidence : a.evidence = b.evidence

/-- The chain of a call stands in front: no later service run of the call takes the row of its first, and the chains
of other rows of the engagement have greater ids. -/
def ChainStandsFirst (docs : Documents) (call : AssessmentCall) (profile : TargetSecurityProfile)
    (store : AssessmentStore) : Prop :=
  ∃ first later, runIds docs call profile = first :: later ∧ first ∉ later ∧
    ∀ row ∈ store.runs, ∀ chain,
      Carries call.engagement.clientId call.engagement.engagementId row chain →
        row.run.runId ∉ runIds docs call profile → first < row.run.runId

lemma chain_of_run (hrun : run docs services call store = (.ok assessment, store')) :
    ∃ chain first later, Assembled docs services call assessment ∧ docs.dump assessment = .ok chain ∧
      ChainRows assessment chain first later ∧ store'.runs = store.runs.writeAll (first :: later) ∧
      runIds docs call assessment.profile = first.run.runId :: later.map (·.run.runId) ∧
      Carries call.engagement.clientId call.engagement.engagementId first chain := by
  rcases @run_cases docs services call store with
    ⟨e, herror⟩ | ⟨a, chain, first, later, written, hok, hof, hdump, hrows, hwritten⟩
  · cases (congrArg Prod.fst herror).symm.trans (congrArg Prod.fst hrun)
  obtain ⟨⟨⟩, rfl⟩ := Prod.mk.inj (hok.symm.trans hrun)
  have hids : runIds docs call assessment.profile = first.run.runId :: later.map (·.run.runId) := by
    rw [← hof.runIds, ← hrows.runs, List.map_map]
    rfl
  have hmem : first.run ∈ assessment.serviceRuns := by
    rw [← hrows.runs]
    exact List.mem_cons_self
  obtain ⟨hclient, hengagement⟩ := hof.ofCall first.run hmem
  exact ⟨chain, first, later, hof, hdump, hrows, hwritten, hids, hclient, hengagement, hrows.chain⟩

lemma Carries.carried {clientId engagementId : String} {row : SecurityServiceRunRow}
    {chain : List (String × Value)} (h : Carries clientId engagementId row chain) :
    row.payload.assessmentChain ≠ none := by
  rw [h.chain]
  exact Option.some_ne_none chain

lemma chainStandsFirst_of_read (hlead : ChainsLead docs store)
    (hrun : run docs services call store = (.ok assessment, store')) {read : FirmAssessment}
    (hread : reconstructAssessment docs call.engagement.clientId call.engagement.engagementId store' =
      .ok read) (hsame : SameAssessment read assessment) :
    ChainStandsFirst docs call assessment.profile store := by
  have hlead' := chainsLead_next hlead ⟨services, call, congrArg Prod.snd hrun⟩
  obtain ⟨chain, first, later, hof, hdump, hrows, hwritten, hids, -⟩ := chain_of_run hrun
  obtain ⟨c, hfound, hdumped⟩ := (reconstructAssessment_eq_ok hlead').mp hread
  obtain ⟨row, hrow, hcarries, hmin⟩ := getAssessmentChain_eq_some.mp hfound
  refine ⟨_, _, hids, ?_⟩
  rcases (mem_writeAll_chainRows hrows hwritten hcarries.carried).mp hrow with
    ⟨hkept, hfree⟩ | ⟨rfl, hfree⟩
  · -- a row from before leads a chain of its own, whose service runs are not those of this call
    obtain ⟨b, hb, hid, -⟩ := hlead row hkept c hcarries.chain
    have hread := Except.ok.inj
      ((docs.validate_dump b c hb).symm.trans (docs.validate_dump read c hdumped))
    rw [hread, hsame.serviceRuns] at hid
    exact absurd hid hfree
  · refine ⟨hfree, fun other hother d hd hfreeOther => ?_⟩
    rw [← hof.runIds] at hfreeOther
    have hkept : other ∈ store'.runs :=
      (mem_writeAll_chainRows hrows hwritten hd.carried).mpr (Or.inl ⟨hother, hfreeOther⟩)
    refine lt_of_le_of_ne (hmin other hkept d hd) fun heq => hfreeOther ?_
    rw [hof.runIds, hids, ← heq]
    exact List.mem_cons_self

lemma read_of_chainStandsFirst (hlead : ChainsLead docs store)
    (hrun : run docs services call store = (.ok assessment, store'))
    (hfirst : ChainStandsFirst docs call assessment.profile store) :
    reconstructAssessment docs call.engagement.clientId call.engagement.engagementId store' =
      .ok assessment := by
  have hlead' := chainsLead_next hlead ⟨services, call, congrArg Prod.snd hrun⟩
  obtain ⟨chain, first, later, hof, hdump, hrows, hwritten, hids, hcarries⟩ := chain_of_run hrun
  obtain ⟨head, rest, hsplit, hfree, hgreater⟩ := hfirst
  obtain ⟨rfl, rfl⟩ := List.cons.inj (hids.symm.trans hsplit)
  refine (reconstructAssessment_eq_ok hlead').mpr ⟨chain, ?_, hdump⟩
  refine getAssessmentChain_eq_some.mpr ⟨first, ?_, hcarries, fun other hother d hd => ?_⟩
  · exact (mem_writeAll_chainRows hrows hwritten hcarries.carried).mpr (Or.inr ⟨rfl, hfree⟩)
  · rcases (mem_writeAll_chainRows hrows hwritten hd.carried).mp hother with
      ⟨hkept, hfreeOther⟩ | ⟨rfl, -⟩
    · rw [hof.runIds] at hfreeOther
      exact le_of_lt (hgreater other hkept d hd hfreeOther)
    · exact le_refl _

/-- After any runs, what is read back for an engagement is its last assessment exactly if the chain of that
assessment stands in front of those of the earlier ones. -/
theorem reconstructs_last_iff (hstore : Reachable Unassessed (Assesses docs) store)
    (hrun : run docs services call store = (.ok assessment, store')) :
    (∃ read, reconstructAssessment docs call.engagement.clientId call.engagement.engagementId store' =
        .ok read ∧ SameAssessment read assessment) ↔
      ∃ profile, services.map call.clock call.snapshot = .ok profile ∧
        ChainStandsFirst docs call profile store := by
  have hlead := chainsLead_inductive.reachable hstore
  obtain ⟨chain, first, later, hof, -⟩ := chain_of_run hrun
  constructor
  · rintro ⟨read, hread, hsame⟩
    exact ⟨assessment.profile, hof.mapped, chainStandsFirst_of_read hlead hrun hread hsame⟩
  · rintro ⟨profile, hmapped, hfirst⟩
    obtain rfl := Except.ok.inj (hof.mapped.symm.trans hmapped)
    exact ⟨assessment, read_of_chainStandsFirst hlead hrun hfirst, rfl, rfl, rfl, rfl, rfl, rfl, rfl, rfl⟩

end History

section Example

def sampleContract (serviceId owner : String) : SecurityServiceContract :=
  ⟨serviceId, "0.1.0", ["CAP-REPO-READONLY-INSPECTION"], ["claims", "limitations"], owner⟩

def sampleProfile (snapshotId : String) : TargetSecurityProfile where
  createdAt := 0
  updatedAt := 0
  targetId := "T-1"
  snapshotId
  targetIdentity := "T-1"
  snapshotIdentity := snapshotId
  targetClass := "static_library"
  languages := []
  frameworks := []
  packageEcosystems := []
  entryPoints := []
  apiSurfaces := []
  authenticationSurfaces := []
  authorizationSurfaces := []
  databaseStorage := []
  networkInterfaces := []
  containers := []
  infrastructureAsCode := []
  cicd := []
  buildRelease := []
  externalServices := []
  cloudIntegrations := []
  agenticComponents := []
  modelProviders := []
  mcpServers := []
  toolInterfaces := []
  memoryPersistence := []
  secretReferences := []
  securityConfiguration := []
  unknowns := []
  contradictions := []

/-- Services that find nothing. -/
def sampleServices : FirmSecurityServices where
  registry :=
    ⟨⟨[("APPSEC", sampleContract "APPSEC" "AGT-APPSEC-SPECIALIST"),
        ("VULNINTEL", sampleContract "VULNINTEL" "AGT-VULNINTEL-SPECIALIST"),
        ("SUPPLYCHAIN", sampleContract "SUPPLYCHAIN" "AGT-SUPPLYCHAIN-SPECIALIST")], by decide⟩⟩
  map := fun _ snapshot => .ok (sampleProfile snapshot.snapshotId)
  assess := fun id _ _ _ => .ok ⟨id, .completed, [], [], []⟩
  adjudicate := fun _ _ _ _ _ => .ok ⟨[], [], [], [], []⟩
  assess_serviceId := by
    rintro id _ _ _ r h
    cases h
    rfl

def sampleCall (snapshotId : String) : AssessmentCall where
  engagement := ⟨"EN-1", "CL-1", "U-1", ["T-1"], "repository review", .inspectionOnly, .active, 0⟩
  snapshot := ⟨"T-1", snapshotId, "T-1", Table.empty, "T-1"⟩
  principalId := "U-1"
  advisories := []
  authorityId := "AUTH-1"
  opaDecisionRefs := ["OPA-1"]
  sandboxExecutionRefs := ["SBX-1"]
  clock := fun _ => 0

def sampleReport (snapshotId : String) : FirmAssessmentReport where
  engagementId := "EN-1"
  targetId := "T-1"
  scope := "repository review"
  servicesPerformed := ["APPSEC", "SUPPLYCHAIN", "VULNINTEL"]
  profileSummary := ⟨"static_library", snapshotId, [], [], [], false, [], []⟩
  findings := []
  vulnerabilityPriorities := .arr []
  agentSecuritySummary := .null
  supplyChainSummary := .null
  limitations := ["runtime deployment exposure is not inferred from repository routes"]
  evidenceCount := 0
  qualification := [("APPSEC", "NOT_VALIDATED"), ("SUPPLYCHAIN", "NOT_VALIDATED"),
    ("VULNINTEL", "NOT_VALIDATED")]
  generatedAt := 0

/-- The members of the report that tell these reports apart. -/
def dumpSampleReport (r : FirmAssessmentReport) : Except Raised Value :=
  if r = sampleReport r.profileSummary.snapshotId then
    .ok (.obj [("engagement_id", .str "EN-1"), ("target_id", .str "T-1"),
      ("snapshot_id", .str r.profileSummary.snapshotId)])
  else .error ⟨.valueError, "not a sample"⟩

def validateSampleReport : Value → Except Raised FirmAssessmentReport
  | .obj [_, _, (_, .str snapshotId)] => .ok (sampleReport snapshotId)
  | _ => .error ⟨.valueError, "not a sample"⟩

lemma validate_dumpSampleReport (r : FirmAssessmentReport) (report : Value)
    (h : dumpSampleReport r = .ok report) : validateSampleReport report = .ok r := by
  rw [dumpSampleReport] at h
  split at h
  · rename_i hr
    cases h
    exact congrArg Except.ok hr.symm
  · cases h

/-- Documents of the reports alone. -/
def reportDocuments : Documents where
  sha256 := fun s => s
  render := fun _ => ""
  compact := fun _ => "{}"
  dump := fun _ => .error ⟨.valueError, "not a sample"⟩
  validate := fun _ => .error ⟨.valueError, "not a sample"⟩
  dumpReport := dumpSampleReport
  validateReport := validateSampleReport
  validate_dump := by
    intro a chain h
    cases h
  validate_dumpReport := validate_dumpSampleReport

/-- An assessment of a snapshot is told by its snapshot. -/
def sampleDocuments : Documents :=
  { reportDocuments with
    dump := fun a =>
      if assemble reportDocuments sampleServices (sampleCall a.profile.snapshotId) = .ok a then
        .ok [("engagement_id", .str "EN-1"), ("snapshot_id", .str a.profile.snapshotId)]
      else .error ⟨.valueError, "not a sample"⟩
    validate := fun chain =>
      match chain with
      | [_, (_, .str snapshotId)] => assemble reportDocuments sampleServices (sampleCall snapshotId)
      | _ => .error ⟨.valueError, "not a sample"⟩
    validate_dump := by
      intro a chain h
      split at h
      · rename_i ha
        cases h
        exact ha
      · cases h }

lemma assemble_sampleDocuments (services : FirmSecurityServices) (call : AssessmentCall) :
    assemble sampleDocuments services call = assemble reportDocuments services call := by
  have hsha : sampleDocuments.sha256 = reportDocuments.sha256 := rfl
  have hrender : sampleDocuments.render = reportDocuments.render := rfl
  have hreport : sampleDocuments.dumpReport = reportDocuments.dumpReport := rfl
  have hrun : serviceRun sampleDocuments services call = serviceRun reportDocuments services call := by
    funext plan claims result
    rw [serviceRun, serviceRun, hsha]
  rw [assemble, assemble, hrun, hrender, hreport]

def unassessed : AssessmentStore := ⟨Table.empty, Table.empty, Table.empty⟩

def sampleRun (snapshotId : String) (store : AssessmentStore) : Except Raised FirmAssessment × AssessmentStore :=
  run sampleDocuments sampleServices (sampleCall snapshotId) store

lemma sampleRun_eq_ok {snapshotId : String} {store : AssessmentStore}
    (h : (assemble reportDocuments sampleServices (sampleCall snapshotId)).isOk = true) :
    ∃ a store', sampleRun snapshotId store = (.ok a, store') ∧ a.profile = sampleProfile snapshotId := by
  cases ha : assemble reportDocuments sampleServices (sampleCall snapshotId) with
  | error e =>
    rw [ha] at h
    cases h
  | ok a =>
    have hprofile := Except.ok.inj (assemble_assembled ha).mapped.symm
    have hdump : sampleDocuments.dump a =
        .ok [("engagement_id", .str "EN-1"), ("snapshot_id", .str a.profile.snapshotId)] := by
      have hsame : assemble reportDocuments sampleServices (sampleCall a.profile.snapshotId) = .ok a := by
        rw [hprofile]
        exact ha
      simp only [sampleDocuments, hsame, if_true]
    rw [← assemble_sampleDocuments] at ha
    obtain ⟨store', hrun⟩ := @run_eq_ok _ _ _ a store _ ha hdump
    exact ⟨a, store', hrun, hprofile⟩

theorem first_run_read : ∃ a store', sampleRun "SNAP-1" unassessed = (.ok a, store') ∧
    ((∃ read, reconstructAssessment sampleDocuments "CL-1" "EN-1" store' = .ok read ∧
        SameAssessment read a) ↔
      ∃ profile, sampleServices.map (sampleCall "SNAP-1").clock (sampleCall "SNAP-1").snapshot =
        .ok profile ∧ ChainStandsFirst sampleDocuments (sampleCall "SNAP-1") profile unassessed) := by
  obtain ⟨a, store', hrun, -⟩ := @sampleRun_eq_ok "SNAP-1" unassessed (by decide +kernel)
  exact ⟨a, store', hrun, reconstructs_last_iff (Reachable.start rfl) hrun⟩

lemma sample_runIds (snapshotId : String) :
    runIds sampleDocuments (sampleCall snapshotId) (sampleProfile snapshotId) =
      ["APPSEC", "SUPPLYCHAIN", "VULNINTEL"].map (runIdOf sampleDocuments.sha256 "EN-1" snapshotId) := by
  have hsurface : (sampleProfile snapshotId).hasAgenticSurface = false := rfl
  have hscope : mentions "agent" (sampleCall snapshotId).engagement.scope = false := by
    change mentions "agent" "repository review" = false
    decide +kernel
  have hservices : assessedServices (sampleProfile snapshotId) (sampleCall snapshotId).engagement =
      ["APPSEC", "SUPPLYCHAIN", "VULNINTEL"] := by
    rw [assessedServices, hsurface, hscope, Bool.or_self, if_neg Bool.false_ne_true]
  rw [runIds, hservices]
  rfl

/-- After an assessment of one snapshot and one of a later snapshot, the later one is not read back. -/
theorem later_snapshot_missed : ∃ a b store store',
    sampleRun "SNAP-1" unassessed = (.ok a, store) ∧ sampleRun "SNAP-2" store = (.ok b, store') ∧
      ¬ ∃ read, reconstructAssessment sampleDocuments "CL-1" "EN-1" store' = .ok read ∧
        SameAssessment read b := by
  obtain ⟨a, store, hrun, ha⟩ := @sampleRun_eq_ok "SNAP-1" unassessed (by decide +kernel)
  obtain ⟨b, store', hlast, hb⟩ := @sampleRun_eq_ok "SNAP-2" store (by decide +kernel)
  refine ⟨a, b, store, store', hrun, hlast, ?_⟩
  rintro ⟨read, hread, hsame⟩
  have hstart : Reachable Unassessed (Assesses sampleDocuments) unassessed := Reachable.start rfl
  have hreachable := hstart.next ⟨sampleServices, sampleCall "SNAP-1", congrArg Prod.snd hrun⟩
  have hfirst := chainStandsFirst_of_read (chainsLead_inductive.reachable hreachable) hlast hread hsame
  obtain ⟨chain, row, later, -, -, hrows, hwritten, hids, hcarries⟩ := chain_of_run hrun
  rw [hb] at hfirst
  obtain ⟨head, rest, hsplit, -, hgreater⟩ := hfirst
  rw [ha, sample_runIds] at hids
  rw [sample_runIds] at hsplit hgreater
  rw [List.map_cons] at hids
  obtain ⟨hid, hlater⟩ := List.cons.inj hids
  have hid' : row.run.runId = "SR-EN-1-SNAP-1-APPSEC" := hid.symm.trans (by decide +kernel)
  have hhead : head = "SR-EN-1-SNAP-2-APPSEC" := (List.cons.inj hsplit).1.symm.trans (by decide +kernel)
  have hkept : row ∈ store.runs := by
    refine (mem_writeAll_chainRows hrows hwritten hcarries.carried).mpr (Or.inr ⟨rfl, ?_⟩)
    rw [← hlater, hid']
    decide +kernel
  have hlt := hgreater row hkept chain hcarries (by rw [hid']; decide +kernel)
  rw [hhead, hid'] at hlt
  exact absurd hlt (by decide +kernel)

end Example

end SecScanMonitor.Application.Firm
