import SecScanMonitor.Application.IncidentAdjudication
import SecScanMonitor.Application.Replay

/-! What an adjudication that passes rests on: the records that each of its transactions has read. -/

namespace SecScanMonitor.Application.LiveIncidentControlPlane

open Foundations Domain DetectionResponse ContinuousSecurity Persistence

variable {codec : Codec} {secretLike : Value → Bool} {dump : SecurityEvent → Value}
  {decode : Value → Option SecurityEvent}

section Dictionaries

variable {ν : Type}

lemma dictOf_find {entries : List (String × ν)} {k : String} {v : ν}
    (h : (dictOf entries).find? k = some v) : (k, v) ∈ entries := by
  have hfold : ∀ (rest : List (String × ν)) (d : Dict String ν),
      (rest.foldl (fun d e => d.set e.1 e.2) d).find? k = some v →
        d.find? k = some v ∨ (k, v) ∈ rest := by
    intro rest
    induction rest with
    | nil => exact fun d h => Or.inl h
    | cons e rest ih =>
      intro d h
      rcases ih _ h with h | h
      · rcases Dict.find?_set_eq_some h with ⟨rfl, rfl⟩ | h
        · exact Or.inr List.mem_cons_self
        · exact Or.inl h
      · exact Or.inr (List.mem_cons_of_mem e h)
  rcases hfold entries Table.empty h with h | h
  · cases h
  · exact h

end Dictionaries

section Claims

variable {scope : Scope} {claimIds ids : List String}

lemma rowsOf_eq_ok {ρ : Type} {key : ρ → String} {t : Table key} {allowed : ρ → Bool} {message : String}
    {rows : List ρ} (h : rowsOf t ids allowed message = .ok rows) {r : ρ} (hr : r ∈ rows) :
    r ∈ t ∧ key r ∈ ids ∧ allowed r = true := by
  obtain ⟨hall, h⟩ := raiseIf_bind_eq_ok.mp h
  obtain rfl := Except.ok.inj h
  obtain ⟨hmem, hkey⟩ := Table.mem_select.mp hr
  rw [not_or] at hall
  refine ⟨hmem, of_decide_eq_true hkey, ?_⟩
  by_contra hno
  exact hall.2 ⟨r, hr, eq_false_of_ne_true hno⟩

lemma evidenceTexts_mem {values : List Value} {texts : List String} (h : evidenceTexts values = .ok texts)
    {s : String} (hs : s ∈ texts) : Value.str s ∈ values := by
  obtain ⟨v, hv, hread⟩ := (mapM_eq_ok h).2 s hs
  cases v with
  | str text =>
    simp only at hread
    split at hread
    · cases hread
    · rw [← Except.ok.inj hread]
      exact hv
  | _ => cases hread

/-- The claim row names the evidence, itself or through an observation of its engagement. -/
def Names (store : IncidentStore) (scope : Scope) (row : ClaimRow) (evidenceId : String) : Prop :=
  .str evidenceId ∈ row.evidenceIds ∨ ∃ o ∈ store.observations, o.observationId ∈ row.observationIds ∧
    o.engagementId = scope.caseId ∧ .str evidenceId ∈ o.evidenceIds

/-- The row of a loaded claim. -/
structure ClaimOf (store : IncidentStore) (scope : Scope) (entry : String × DetectionResponse.Claim) (row : ClaimRow) :
    Prop where
  stored : row ∈ store.claims
  requested : row.claimId = entry.1
  engagement : row.engagementId = scope.caseId
  observations : entry.2.observationIds = row.observationIds
  named : ∀ id ∈ entry.2.evidenceIds, Names store scope row id

lemma loadClaims_eq_ok {store : IncidentStore} {claims : List (String × DetectionResponse.Claim)}
    (h : loadClaims claimIds scope store = .ok claims) {entry : String × DetectionResponse.Claim}
    (hentry : entry ∈ claims) :
    ∃ row, ClaimOf store scope entry row := by
  simp only [loadClaims] at h
  split at h
  · obtain rfl := Except.ok.inj h
    cases hentry
  obtain ⟨-, -, h⟩ := bind_eq_ok.mp h
  obtain ⟨rows, hrows, h⟩ := bind_eq_ok.mp h
  obtain ⟨observations, hobservations, h⟩ := bind_eq_ok.mp h
  obtain ⟨texts, -, h⟩ := bind_eq_ok.mp h
  obtain ⟨-, h⟩ := raiseIf_bind_eq_ok.mp h
  obtain ⟨-, -, h⟩ := bind_eq_ok.mp h
  obtain ⟨row, hrow, hread⟩ := (mapM_eq_ok h).2 entry hentry
  obtain ⟨ids, hids, hread⟩ := bind_eq_ok.mp hread
  obtain ⟨-, hread⟩ := raiseIf_bind_eq_ok.mp hread
  obtain ⟨hstored, -, hcase⟩ := rowsOf_eq_ok hrows hrow
  rw [← Except.ok.inj hread]
  refine ⟨row, hstored, rfl, of_decide_eq_true hcase, rfl, fun id hid => ?_⟩
  -- an evidence id of the claim comes from its own column or from that of one of its observations
  obtain ⟨texts, htexts, rfl⟩ := map_eq_ok.mp hids
  have hvalue := evidenceTexts_mem htexts (List.mem_eraseDups.mp hid)
  rcases List.mem_append.mp hvalue with hown | hobserved
  · exact Or.inl hown
  · obtain ⟨o, ho, hin⟩ := List.mem_flatMap.mp hobserved
    obtain ⟨observation, hfound, hin⟩ := List.mem_flatMap.mp hin
    obtain ⟨hfound, hid⟩ := List.mem_filter.mp hfound
    obtain ⟨hmem, -, hengagement⟩ := rowsOf_eq_ok hobservations hfound
    refine Or.inr ⟨observation, hmem, ?_, of_decide_eq_true hengagement, hin⟩
    rw [of_decide_eq_true hid]
    exact ho

/-- The evidence reference is that of stored evidence of the scope that the claim named. -/
def Grounds (stores : List IncidentStore) (scope : Scope) (claimId ref : String) : Prop :=
  ∃ claimsView ∈ stores, ∃ evidenceView ∈ stores, ∃ row ∈ claimsView.claims,
    row.claimId = claimId ∧ row.engagementId = scope.caseId ∧
      ∃ e ∈ evidenceView.evidenceMetadata, e.engagementId = scope.caseId ∧
        e.targetId = scope.targetId ∧ e.storageRef = ref ∧ Names claimsView scope row e.evidenceId

lemma Grounds.mono {stores stores' : List IncidentStore} {claimId ref : String}
    (h : Grounds stores scope claimId ref) (hsub : stores ⊆ stores') : Grounds stores' scope claimId ref := by
  obtain ⟨claimsView, hclaims, evidenceView, hevidence, hrow⟩ := h
  exact ⟨claimsView, hsub hclaims, evidenceView, hsub hevidence, hrow⟩

lemma loadClaimEvidenceRefs_eq_ok {claimsView evidenceView : IncidentStore}
    {refs : List (String × List String)}
    (h : loadClaimEvidenceRefs claimIds scope claimsView evidenceView = .ok refs)
    {entry : String × List String} (hentry : entry ∈ refs) {ref : String} (href : ref ∈ entry.2) :
    Grounds [claimsView, evidenceView] scope entry.1 ref := by
  obtain ⟨claims, hclaims, h⟩ := bind_eq_ok.mp h
  split at h
  · obtain rfl := Except.ok.inj h
    cases hentry
  obtain ⟨rows, hrows, h⟩ := bind_eq_ok.mp h
  obtain rfl := Except.ok.inj h
  obtain ⟨c, hc, rfl⟩ := List.mem_map.mp hentry
  obtain ⟨row, hrow⟩ := loadClaims_eq_ok hclaims hc
  obtain ⟨e, he, rfl⟩ := List.mem_map.mp (mem_normalized.mp href)
  obtain ⟨he, hid⟩ := List.mem_filter.mp he
  obtain ⟨-, -, hrows⟩ := bind_eq_ok.mp hrows
  obtain ⟨hstored, -, hallowed⟩ := rowsOf_eq_ok hrows he
  simp only [Bool.and_eq_true, decide_eq_true_eq] at hallowed
  refine ⟨claimsView, by simp, evidenceView, by simp, row, hrow.stored, hrow.requested, hrow.engagement, e,
    hstored, hallowed.1.1, hallowed.1.2, rfl, ?_⟩
  exact hrow.named e.evidenceId (of_decide_eq_true hid)

end Claims

section Engine

variable {scope : Scope} {known : List String} {signals : List DetectionSignal}
  {engine engine' : DetectionEngine}

lemma bindSignals_eq_ok (h : bindSignals known signals engine = .ok engine') :
    engine'.events = engine.events ∧ ∀ id x, engine'.signals.find? id = some x →
      engine.signals.find? id = some x ∨ x ∈ signals ∧ x.signalId = id := by
  induction signals generalizing engine with
  | nil =>
    obtain rfl := Except.ok.inj h
    exact ⟨rfl, fun id x hx => Or.inl hx⟩
  | cons signal signals ih =>
    obtain ⟨-, h⟩ := raiseIf_bind_eq_ok.mp h
    obtain ⟨engine₁, hbind, h⟩ := bind_eq_ok.mp h
    obtain ⟨-, -, hbind⟩ := bind_eq_ok.mp hbind
    obtain ⟨-, hbind⟩ := raiseIf_bind_eq_ok.mp hbind
    obtain rfl := Except.ok.inj hbind
    obtain ⟨hevents, hfound⟩ := ih h
    refine ⟨hevents, fun id x hx => ?_⟩
    rcases hfound id x hx with hx | ⟨hx, hid⟩
    · rcases Dict.find?_set_eq_some hx with ⟨rfl, rfl⟩ | hx
      · exact Or.inr ⟨List.mem_cons_self, rfl⟩
      · exact Or.inl hx
    · exact Or.inr ⟨List.mem_cons_of_mem signal hx, hid⟩

lemma severityOf_value (s : Severity) : severityOf s.value = some s := by cases s <;> rfl

lemma confidenceOf_value (c : Confidence) : confidenceOf c.value = some c := by cases c <;> rfl

/-- A stored signal is read back as it is. -/
lemma validatedSignal_of {x y : DetectionSignal} (hscope : y.scope = scope)
    (h : validatedSignal scope (DetectionSignalRow.of y) = some x) : x = y := by
  rw [validatedSignal] at h
  obtain ⟨severity, hseverity, h⟩ := Option.bind_eq_some_iff.mp h
  obtain ⟨confidence, hconfidence, h⟩ := Option.bind_eq_some_iff.mp h
  obtain rfl := Option.some.inj (hseverity.symm.trans (severityOf_value y.severity))
  obtain rfl := Option.some.inj (hconfidence.symm.trans (confidenceOf_value y.confidence))
  split at h
  · cases h
  · obtain rfl := Option.some.inj h
    subst hscope
    rfl

lemma signalsFor_all {db : Database} (h : signalsFor codec dump decode scope [] db = .ok signals)
    {x : DetectionSignal} (hx : x ∈ signals) : x ∈ db.detectionSignals ∧ x.scope = scope := by
  by_cases hheld : held scope (db.detectionTables codec dump) = []
  · rw [(load_nil_iff h).mpr hheld] at hx
    cases hx
  obtain ⟨events, hwhole⟩ := whole_of_load h hheld
  obtain ⟨row, hrow, -, hread⟩ := hwhole.toRead.of_signal hx
  obtain ⟨hstored, hscope⟩ := mem_held.mp hrow
  obtain ⟨y, hy, rfl⟩ := List.mem_map.mp hstored
  obtain rfl := validatedSignal_of hscope (readSignal_valid hread)
  exact ⟨hy, hscope⟩

/-- The signals and the events of the engine are stored in its scope. -/
lemma engineOver_eq_ok {clock : ℕ → Datetime} {eventsView signalsView : IncidentStore}
    (h : engineOver codec dump decode scope clock eventsView signalsView = .ok engine) :
    (∀ id x, engine.signals.find? id = some x →
      x ∈ signalsView.database.detectionSignals ∧ x.scope = scope ∧ x.signalId = id) ∧
      ∀ events, engine.events.events (some scope) = .ok events →
        ∀ e ∈ events, e ∈ eventsView.database.securityEvents ∧ e.scope = scope := by
  obtain ⟨engine₀, hrebuild, h⟩ := bind_eq_ok.mp h
  obtain ⟨signals, hsignals, h⟩ := bind_eq_ok.mp h
  obtain ⟨hevents, hfound⟩ := bindSignals_eq_ok h
  obtain ⟨i, read, hingest, -, rfl⟩ := rebuild_eq_ok hrebuild
  refine ⟨fun id x hx => ?_, fun events hread e he => ?_⟩
  · rcases hfound id x hx with hx | ⟨hx, hid⟩
    · cases hx
    · obtain ⟨hstored, hscope⟩ := signalsFor_all hsignals hx
      exact ⟨hstored, hscope, hid⟩
  · rw [hevents] at hread
    exact (rebuilt_events eventsView.database.securityEvents.nodup hingest hread e).mp he

end Engine

section Decide

/-- The records of a decision are those of a judgement that was reviewed over what was read. -/
structure Decides (codec : Codec) (dump : SecurityEvent → Value) (decode : Value → Option SecurityEvent)
    (call : AdjudicateIncident) (clock : ℕ → Datetime) (now : Datetime) (v : AdjudicationViews)
    (h : IncidentHypothesis) (d : Decision) : Prop where
  operator : canonicalHuman v.operator.database call.decidedBy = true
  loaded : loadHypothesis call.hypothesisId v.hypothesis = .ok (some h)
  reviewed : ∃ a, call.adjudicator codec dump decode clock v h = .ok a ∧
    a.review (call.judgement h) = .ok ()
  investigation : d.investigation = (call.judgement h).investigation codec now
  adjudication : d.adjudication = (call.judgement h).adjudication codec now
  incident : d.incident = (call.judgement h).incident codec now

lemma adjudicator_new {call : AdjudicateIncident} {clock : ℕ → Datetime} {v : AdjudicationViews}
    {h : IncidentHypothesis} {a : IncidentAdjudicator}
    (ha : call.adjudicator codec dump decode clock v h = .ok a) :
    ∃ claims refs detector, loadClaims call.claimIds h.scope v.claims = .ok claims ∧
      loadClaimEvidenceRefs call.claimIds h.scope v.claimsAgain v.evidence = .ok refs ∧
      engineOver codec dump decode h.scope clock v.events v.signals = .ok detector ∧
      a = IncidentAdjudicator.init detector (some h.scope) [call.decidedBy] (dictOf claims)
        (some (dictOf refs)) := by
  obtain ⟨claims, hclaims, ha⟩ := bind_eq_ok.mp ha
  obtain ⟨refs, hrefs, ha⟩ := bind_eq_ok.mp ha
  obtain ⟨detector, hdetector, ha⟩ := bind_eq_ok.mp ha
  exact ⟨claims, refs, detector, hclaims, hrefs, hdetector, (Except.ok.inj ha).symm⟩

lemma decide_eq_ok {call : AdjudicateIncident} {clock : ℕ → Datetime} {now : Datetime}
    {v : AdjudicationViews} {d : Decision}
    (hd : call.decide codec secretLike dump decode clock now v = .ok d) :
    ∃ h, Decides codec dump decode call clock now v h d := by
  obtain ⟨u, hoperator, hd⟩ := bind_eq_ok.mp hd
  obtain ⟨-, hd⟩ := raiseIf_bind_eq_ok.mp hd
  obtain ⟨loaded, hloaded, hd⟩ := bind_eq_ok.mp hd
  obtain ⟨h, hsome, hd⟩ := orRaise_bind_eq_ok.mp hd
  obtain ⟨a, ha, hd⟩ := bind_eq_ok.mp hd
  rw [hsome] at hloaded
  obtain ⟨-, hhuman⟩ := raiseIf_bind_eq_ok.mp hoperator
  have hhuman := eq_true_of_ne_false (raiseIf_eq_ok.mp hhuman)
  have hnew := adjudicator_new ha
  obtain ⟨claims, refs, detector, -, -, -, hinit⟩ := hnew
  simp only [IncidentAdjudicator.adjudicate] at hd
  cases hreview : a.review (call.judgement h) with
  | error e =>
    simp only [hreview] at hd
    cases hd
  | ok u =>
    have hnone : a.adjudications.find? ((call.judgement h).adjudicationId codec) = none := by
      rw [hinit]
      rfl
    have hnone' : a.incidents.find? ((call.judgement h).incidentId codec) = none := by
      rw [hinit]
      rfl
    simp only [hreview, hnone, hnone'] at hd
    cases hvalid : ((call.judgement h).investigation codec now).validate >>= fun _ =>
        ((call.judgement h).adjudication codec now).validate >>= fun _ =>
          ((call.judgement h).incident codec now).validate with
    | error e =>
      simp only [hvalid] at hd
      cases hd
    | ok incident =>
      simp only [hvalid] at hd
      obtain ⟨-, -, hvalid⟩ := bind_eq_ok.mp hvalid
      obtain ⟨-, -, hvalid⟩ := bind_eq_ok.mp hvalid
      have hincident : incident = (call.judgement h).incident codec now := by
        rw [Incident.validate] at hvalid
        split at hvalid
        · cases hvalid
        · exact (Except.ok.inj hvalid).symm
      subst hincident
      obtain ⟨stored, hstored, hd⟩ := bind_eq_ok.mp hd
      obtain ⟨-, hstored⟩ := raiseIf_bind_eq_ok.mp hstored
      obtain ⟨found, hfound, hstored⟩ := orRaise_bind_eq_ok.mp hstored
      obtain ⟨-, hstored⟩ := raiseIf_bind_eq_ok.mp hstored
      obtain rfl := Except.ok.inj hstored
      obtain rfl := Option.some.inj (hfound.symm.trans (Dict.find?_set_self _ _ _))
      obtain ⟨investigation, hinvestigation, hd⟩ := orRaise_bind_eq_ok.mp hd
      obtain ⟨adjudication, hadjudication, hd⟩ := orRaise_bind_eq_ok.mp hd
      obtain rfl := Except.ok.inj hd
      obtain rfl := Option.some.inj (hinvestigation.symm.trans (Dict.find?_set_self _ _ _))
      obtain rfl := Option.some.inj (hadjudication.symm.trans (Dict.find?_set_self _ _ _))
      exact ⟨h, hhuman, hloaded, ⟨a, ha, hreview⟩, rfl, rfl, rfl⟩

end Decide

end SecScanMonitor.Application.LiveIncidentControlPlane
