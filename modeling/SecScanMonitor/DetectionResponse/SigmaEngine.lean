import SecScanMonitor.DetectionResponse.Incremental
import SecScanMonitor.DetectionResponse.Sigma

/-! The rules that the importer makes against what the engine asks of a rule. -/

namespace SecScanMonitor.DetectionResponse

open Foundations Domain ContinuousSecurity DetectionEngine

namespace Sigma

/-- A field with a modifier names something before it. -/
def NamedField (field : String) : Prop :=
  '|' ∈ field.toList → isBlank (rsplitBar field).1 = false

instance : DecidablePred NamedField := fun field => by
  unfold NamedField
  infer_instance

def fieldOf : Yaml → Option String
  | .str s => some s
  | _ => none

def fieldsOf (entries : YamlMap) : List String := entries.filterMap fun e => fieldOf e.1

def fieldsIn : Yaml → List String
  | .map entries => fieldsOf entries
  | _ => []

/-- The fields of the selectors of a document. -/
def selectorFields : Yaml → List String
  | .map root =>
    match get root "detection" with
    | some (.map detection) => (selectors detection).flatMap fun e => fieldsIn e.2
    | _ => []
  | _ => []

section Predicates

/-- A scalar, or a list of scalars that is not empty. -/
def plain : Value → Bool
  | .arr items => !items.isEmpty && items.all isScalar
  | v => isScalar v

lemma validatePredicate_eq_ok {field : String} {v : Value} : validatePredicate field v = .ok () ↔
    isBlank field = false ∧ ('|' ∈ field.toList → isBlank (rsplitBar field).1 = false ∧
      (rsplitBar field).2 ∈ ["contains", "startswith", "endswith"]) ∧ plain v = true := by
  unfold validatePredicate
  rw [raiseIf_bind_eq_ok, raiseIf_bind_eq_ok, Bool.not_eq_true, not_and, not_or, Bool.not_eq_true,
    not_not]
  refine and_congr_right fun _ => and_congr_right fun _ => ?_
  cases v with
  | obj members => exact ⟨nofun, nofun⟩
  | arr items =>
    rw [raiseIf_eq_ok]
    simp [plain]
  | _ =>
    rw [raiseIf_eq_ok]
    simp [plain]

lemma scalar_isScalar {y : Yaml} {v : Value} (h : scalar y = some v) : isScalar v = true := by
  cases y with
  | str _ | int _ | float _ | bool _ =>
    obtain rfl := Option.some.inj h
    rfl
  | _ => cases h

lemma scalars_isScalar {ys : List Yaml} {vs : List Value} (h : scalars ys = some vs) :
    vs.length = ys.length ∧ vs.all isScalar = true := by
  induction ys generalizing vs with
  | nil =>
    obtain rfl := Option.some.inj h
    exact ⟨rfl, rfl⟩
  | cons y ys ih =>
    obtain ⟨v, hv, h⟩ := Option.bind_eq_some_iff.mp h
    obtain ⟨ws, hws, h⟩ := Option.bind_eq_some_iff.mp h
    obtain rfl := Option.some.inj h
    obtain ⟨hlength, hall⟩ := ih hws
    simp [hlength, hall, scalar_isScalar hv]

lemma expected_plain {y : Yaml} {v : Value} (h : expected y = .ok v) : plain v = true := by
  cases y with
  | seq items =>
    obtain ⟨-, h⟩ := raiseIf_bind_eq_ok.mp h
    obtain ⟨hempty, h⟩ := raiseIf_bind_eq_ok.mp h
    obtain ⟨vs, hvs, h⟩ := orRaise_bind_eq_ok.mp h
    obtain rfl := Except.ok.inj h
    obtain ⟨hlength, hall⟩ := scalars_isScalar hvs
    have hvs : vs ≠ [] := by
      rintro rfl
      apply hempty
      simpa using hlength.symm
    simp [plain, hall, hvs]
  | map entries => cases h
  | null | other _ _ => cases h
  | bool _ | int _ | float _ | str _ =>
    obtain rfl := Except.ok.inj h
    rfl

lemma mem_assign {field : String} {v : Value} {ps : List (String × Value)} {p : String × Value}
    (h : p ∈ assign field v ps) : p = (field, v) ∨ p ∈ ps := by
  induction ps with
  | nil => exact Or.inl (List.mem_singleton.mp h)
  | cons q ps ih =>
    obtain ⟨k, w⟩ := q
    rw [assign] at h
    split at h
    · rename_i hk
      rcases List.mem_cons.mp h with rfl | h
      · exact Or.inl (by rw [hk])
      · exact Or.inr (List.mem_cons_of_mem _ h)
    · rcases List.mem_cons.mp h with rfl | h
      · exact Or.inr List.mem_cons_self
      · rcases ih h with rfl | h
        · exact Or.inl rfl
        · exact Or.inr (List.mem_cons_of_mem _ h)

lemma keys_assign {field k : String} {v : Value} {ps : List (String × Value)} :
    k ∈ (assign field v ps).map Prod.fst ↔ k = field ∨ k ∈ ps.map Prod.fst := by
  induction ps with
  | nil => simp [assign]
  | cons q ps ih =>
    obtain ⟨l, w⟩ := q
    rw [assign]
    split
    · rename_i hl
      simp [hl]
    · rw [List.map_cons, List.mem_cons, ih, List.map_cons, List.mem_cons, or_left_comm]

/-- What the importer has checked of a predicate. -/
structure Checked (p : String × Value) : Prop where
  nonblank : isBlank p.1 = false
  modifier : '|' ∈ p.1.toList → (rsplitBar p.1).2 ∈ ["contains", "startswith", "endswith"]
  value : plain p.2 = true

lemma predicatesOf_spec {entries : YamlMap} {acc ps : List (String × Value)}
    (h : predicatesOf entries acc = .ok ps) (hacc : ∀ p ∈ acc, Checked p) :
    (∀ p ∈ ps, Checked p) ∧
      ∀ k, k ∈ ps.map Prod.fst ↔ k ∈ acc.map Prod.fst ∨ k ∈ fieldsOf entries := by
  induction entries generalizing acc with
  | nil =>
    obtain rfl := Except.ok.inj h
    exact ⟨hacc, by simp [fieldsOf]⟩
  | cons e entries ih =>
    obtain ⟨key, value⟩ := e
    cases key with
    | str field =>
      obtain ⟨hblank, h⟩ := raiseIf_bind_eq_ok.mp h
      obtain ⟨u, hfield, h⟩ := bind_eq_ok.mp h
      obtain ⟨v, hv, h⟩ := bind_eq_ok.mp h
      have hmodifier := raiseIf_eq_ok.mp hfield
      rw [not_and, not_not] at hmodifier
      have hchecked : Checked (field, v) :=
        ⟨by simpa using hblank, hmodifier, expected_plain hv⟩
      obtain ⟨hall, hkeys⟩ := ih h fun p hp => by
        rcases mem_assign hp with rfl | hp
        · exact hchecked
        · exact hacc p hp
      refine ⟨hall, ?_⟩
      intro k
      rw [hkeys, keys_assign]
      simp only [fieldsOf, List.filterMap_cons, fieldOf, List.mem_cons]
      rw [or_assoc, or_left_comm]
    | _ => cases h

/-- The engine takes checked predicates exactly if their fields are named. -/
lemma validatePredicates_checked {ps : List (String × Value)} (h : ∀ p ∈ ps, Checked p) :
    validatePredicates ps = .ok () ↔ ∀ k ∈ ps.map Prod.fst, NamedField k := by
  rw [validatePredicates_eq_ok]
  constructor
  · intro hvalid k hk
    obtain ⟨p, hp, rfl⟩ := List.mem_map.mp hk
    intro hbar
    exact ((validatePredicate_eq_ok.mp (hvalid p hp)).2.1 hbar).1
  · intro hnamed p hp
    have hchecked := h p hp
    refine validatePredicate_eq_ok.mpr ⟨hchecked.nonblank, ?_, hchecked.value⟩
    intro hbar
    exact ⟨hnamed p.1 (List.mem_map_of_mem hp) hbar, hchecked.modifier hbar⟩

lemma mapping_eq_ok {value : Option Yaml} {label : String} {entries : YamlMap} :
    mapping value label = .ok entries ↔ value = some (.map entries) := by
  constructor
  · intro h
    unfold mapping at h
    split at h
    · rw [Except.ok.inj h]
    · cases h
  · rintro rfl
    rfl

lemma selector_spec {detection : YamlMap} {selected : String × List (String × Value)}
    (h : selector detection = .ok selected) : (∀ p ∈ selected.2, Checked p) ∧
      ∀ k, k ∈ selected.2.map Prod.fst ↔ k ∈ (selectors detection).flatMap fun e => fieldsIn e.2 := by
  unfold selector at h
  split at h
  · rename_i condition hcondition
    obtain ⟨-, h⟩ := raiseIf_bind_eq_ok.mp h
    obtain ⟨y, hy, h⟩ := orRaise_bind_eq_ok.mp h
    obtain ⟨hlength, h⟩ := raiseIf_bind_eq_ok.mp h
    obtain ⟨entries, hentries, h⟩ := bind_eq_ok.mp h
    obtain ⟨ps, hps, h⟩ := bind_eq_ok.mp h
    obtain ⟨-, h⟩ := raiseIf_bind_eq_ok.mp h
    obtain rfl := Except.ok.inj h
    obtain ⟨hall, hkeys⟩ := predicatesOf_spec hps (by simp)
    refine ⟨hall, ?_⟩
    -- the one selector is the one that the condition names
    obtain ⟨e, he⟩ := List.length_eq_one_iff.mp (not_not.mp hlength)
    obtain ⟨e', hfind, rfl⟩ := Option.map_eq_some_iff.mp hy
    have hmem := List.mem_of_find?_eq_some hfind
    rw [he] at hmem
    obtain rfl := List.mem_singleton.mp hmem
    have hmap : e'.2 = .map entries := Option.some.inj (mapping_eq_ok.mp hentries)
    intro k
    rw [hkeys, he, List.flatMap_singleton, hmap]
    simp [fieldsIn]
  · cases h

end Predicates

section Import

variable {tooling : SigmaTooling} {codec : Codec} {document : Document} {root : YamlMap}
  {sourceReference : String} {createdAt modifiedAt : Datetime} {parts : Parts}

lemma statusOf_enabled {text : String} {status : RuleStatus} (h : statusOf text = some status) :
    status ≠ .disabled ∧ status ≠ .deprecated := by
  unfold statusOf at h
  split at h
  · obtain rfl := Option.some.inj h
    exact ⟨nofun, nofun⟩
  · obtain rfl := Option.some.inj h
    exact ⟨nofun, nofun⟩
  · obtain rfl := Option.some.inj h
    exact ⟨nofun, nofun⟩
  · cases h

variable (tooling codec root) in
/-- What the checks have found in a document, as the parts hold it. -/
structure Found (parts : Parts) : Prop where
  keys : root.filter (fun e => !allowedKey e.1) = []
  title : titleOf ((get root "title").or (get root "name")) = .ok parts.title
  logsource : ∃ entries, get root "logsource" = some (.map entries) ∧ sourceFamily tooling entries = .ok parts.family
  detection : ∃ entries, get root "detection" = some (.map entries) ∧
    selector entries = .ok (parts.condition, parts.predicates)
  tags : tags tooling (get root "tags") = .ok (parts.attack, parts.atlas)
  references : referencesOf (get root "references") = .ok parts.references
  status : statusOf (tooling.lower (((get root "status").map tooling.str).getD "stable")) = some parts.status
  digest : tooling.contentDigest (.map root) = .ok parts.digest
  ruleId : ruleIdOf codec (get root "id") parts.title parts.digest = .ok parts.ruleId
  rationale : isText ((get root "x_secscan_rationale").getD
    (.str "SecScanMonitor-owned bounded detection content")) = true
  confidence : confidenceOf (tooling.lower
    (((get root "x_secscan_confidence").map tooling.str).getD "medium")) = some parts.confidence
  version : versionOf (get root "x_secscan_version") = .ok parts.version
  severity : severity tooling (get root "level") = .ok parts.severity

lemma partsOf_found (h : partsOf tooling codec root sourceReference createdAt modifiedAt = .ok parts) :
    Found tooling codec root parts ∧ parts.sourceReference = sourceReference := by
  obtain ⟨hkeys, h⟩ := raiseIf_bind_eq_ok.mp h
  obtain ⟨title, htitle, h⟩ := bind_eq_ok.mp h
  obtain ⟨entries, hlogsource, h⟩ := bind_eq_ok.mp h
  obtain ⟨family, hfamily, h⟩ := bind_eq_ok.mp h
  obtain ⟨detection, hdetection, h⟩ := bind_eq_ok.mp h
  obtain ⟨selected, hselected, h⟩ := bind_eq_ok.mp h
  obtain ⟨kinds, hkinds, h⟩ := bind_eq_ok.mp h
  obtain ⟨references, hreferences, h⟩ := bind_eq_ok.mp h
  obtain ⟨status, hstatus, h⟩ := orRaise_bind_eq_ok.mp h
  obtain ⟨digest, hdigest, h⟩ := bind_eq_ok.mp h
  obtain ⟨ruleId, hid, h⟩ := bind_eq_ok.mp h
  obtain ⟨hrationale, h⟩ := raiseIf_bind_eq_ok.mp h
  obtain ⟨confidence, hconfidence, h⟩ := orRaise_bind_eq_ok.mp h
  obtain ⟨version, hversion, h⟩ := bind_eq_ok.mp h
  obtain ⟨s, hseverity, h⟩ := bind_eq_ok.mp h
  obtain rfl := Except.ok.inj h
  exact ⟨{ keys := not_not.mp hkeys
           title := htitle
           logsource := ⟨entries, mapping_eq_ok.mp hlogsource, hfamily⟩
           detection := ⟨detection, mapping_eq_ok.mp hdetection, hselected⟩
           tags := hkinds
           references := hreferences
           status := hstatus
           digest := hdigest
           ruleId := hid
           rationale := by simpa using hrationale
           confidence := hconfidence
           version := hversion
           severity := hseverity }, rfl⟩

lemma partsOf_spec (h : partsOf tooling codec root sourceReference createdAt modifiedAt = .ok parts) :
    (parts.status ≠ .disabled ∧ parts.status ≠ .deprecated) ∧ (∀ p ∈ parts.predicates, Checked p) ∧
      ∀ k, k ∈ parts.predicates.map Prod.fst ↔ k ∈ selectorFields (.map root) := by
  obtain ⟨hfound, -⟩ := partsOf_found h
  obtain ⟨entries, hdetection, hselected⟩ := hfound.detection
  obtain ⟨hall, hkeys⟩ := selector_spec hselected
  refine ⟨statusOf_enabled hfound.status, hall, ?_⟩
  intro k
  rw [hkeys, selectorFields, hdetection]

lemma importRule_eq_ok {r : ImportResult}
    (h : importRule tooling codec document sourceReference createdAt modifiedAt = .ok r) :
    ∃ root parts, payloadOf tooling document = .ok (.map root) ∧
      partsOf tooling codec root sourceReference createdAt modifiedAt = .ok parts ∧
      ∃ hvalid : parts.Valid, r = ⟨Parts.rule hvalid, Parts.plan codec hvalid, parts.digest⟩ := by
  obtain ⟨payload, hpayload, h⟩ := bind_eq_ok.mp h
  obtain ⟨root, hroot, h⟩ := bind_eq_ok.mp h
  obtain ⟨parts, hparts, h⟩ := bind_eq_ok.mp h
  rw [Option.some.inj (mapping_eq_ok.mp hroot)] at hpayload
  split at h
  · rename_i hvalid
    exact ⟨root, parts, hpayload, hparts, hvalid, (Except.ok.inj h).symm⟩
  · cases h

lemma active_rule (hvalid : parts.Valid) : (Parts.rule hvalid).active = Parts.ruleVersion hvalid :=
  List.mem_singleton.mp (Parts.rule hvalid).active_mem

end Import

end Sigma

section Fresh

variable {codec : Codec} {render : Value → String} {rule : DetectionRule} {s : Scope}
  {engine engine₀ engine₁ : DetectionEngine} {number : Option Int}

lemma DetectionRule.active_version (r : DetectionRule) : r.active.version = r.activeVersion := by
  have hactive : r.find r.activeVersion = some r.active := (Option.some_get r.find_active).symm
  have hversion := List.find?_some hactive
  exact of_decide_eq_true hversion

lemma requestedVersion_active (hnumber : ∀ n, number = some n → n = rule.activeVersion) :
    requestedVersion rule number = .ok rule.active := by
  cases number with
  | none => rfl
  | some n =>
    obtain rfl := hnumber n rfl
    rw [← DetectionRule.active_version]
    exact orRaise_eq_ok.mpr rule.find_activeVersion

/-- The plan of the active version is the one that registration makes of it. -/
lemma registerRule_plan :
    registerRule codec rule (some (rule.active.plan codec)) none engine =
      registerRule codec rule none (some rule.active.version) engine := by
  have hversion : requestedVersion rule (some rule.active.version) = .ok rule.active :=
    requestedVersion_active fun n hn => by rw [← Option.some.inj hn, DetectionRule.active_version]
  unfold registerRule
  rw [hversion]
  rfl

/-- Two runs that use one version on one engine are one run. -/
lemma run_selected {ref : RuleRef} {requested : Option Scope}
    (hrequested : (requested <|> engine.scope) = some s) (hscope : engine.requireScope s = .ok ())
    (hselect : selectVersion codec ref number engine = .ok rule.active)
    (hbind : DetectionEngine.bind codec ref rule.active engine = .ok engine₁)
    (hscope₀ : engine₀.requireScope s = .ok ())
    (hbind₀ : DetectionEngine.bind codec (.rule rule) rule.active engine₀ = .ok engine₁) :
    DetectionEngine.run codec render ref requested number engine =
      DetectionEngine.run codec render (.rule rule) (some s) none engine₀ := by
  unfold DetectionEngine.run
  rw [hrequested, show orRaise (some s) _ _ = .ok s from rfl, ok_bind, hscope, ok_bind, hselect,
    ok_bind, hbind, ok_bind, show orRaise (some s <|> engine₀.scope) _ _ = .ok s from rfl, ok_bind,
    hscope₀, ok_bind, show selectVersion codec (.rule rule) none engine₀ = .ok rule.active from rfl,
    ok_bind, hbind₀, ok_bind]

/-- An engine that holds one rule selects it by its id. -/
lemma selectVersion_only (hrules : engine.rules.rows = [((rule.active.ruleId, rule.active.version), rule)])
    (hbinding : engine.ruleBindings.find? (rule.active.ruleId, rule.active.version) =
      some (rule.active.bindingDigest codec))
    {plan : DetectionPlan}
    (hplan : engine.plans.find? (rule.active.ruleId, rule.active.version) = some plan)
    (hplanBinding : engine.planBindings.find? (rule.active.ruleId, rule.active.version) =
      some (plan.bindingDigest codec))
    (hnumber : ∀ n, number = some n → n = rule.activeVersion) :
    selectVersion codec (.id rule.ruleId) number engine = .ok rule.active := by
  have hassert : assertRegisteredBinding codec rule.active engine = .ok () := by
    refine raiseIf_bind_eq_ok.mpr ⟨not_not.mpr hbinding, raiseIf_eq_ok.mpr ?_⟩
    rw [hplan]
    simp [hplanBinding]
  cases number with
  | none =>
    have hfilter : (engine.rules.rows.filter fun e => e.1.1 = rule.ruleId).map Prod.snd = [rule] := by
      rw [hrules]
      simp [rule.active_ruleId]
    unfold selectVersion
    simp only [hfilter]
    rw [hplan, hassert]
    rfl
  | some n =>
    obtain rfl := hnumber n rfl
    have hfind : engine.rules.find? (rule.ruleId, rule.activeVersion) = some rule := by
      rw [← rule.active_ruleId, ← rule.active_version]
      apply Dict.find?_eq_some_iff.mpr
      rw [Table.mem_def, hrules]
      exact List.mem_singleton_self _
    have hversion : rule.find rule.activeVersion = some rule.active := by
      rw [← rule.active_version]
      exact rule.find_activeVersion
    unfold selectVersion
    simp only [hfind]
    rw [show orRaise (some rule) _ _ = .ok rule from rfl, ok_bind, hversion,
      show orRaise (some rule.active) _ _ = .ok rule.active from rfl, ok_bind, hassert]
    rfl

end Fresh

namespace Sigma

section Accept

variable (codec : Codec) (render : Value → String)

/-- A view of a plane of events, for one scope, whose documents have digests that do not collide. -/
structure Readable (rule : DetectionRuleVersion) (i : BoundedSecurityEventIngestor)
    (view : Option Scope) (s : Scope) (events : List SecurityEvent) : Prop where
  scope : ∀ t, (view <|> i.scope) = some t → t = s
  read : i.events (some s) = .ok events
  keyed : ∀ id e, i.plane.events.find? id = some e → e.eventId = id
  free : CollisionFree codec render s [rule] fun a => a = events

/-- An engine over any events takes the rule with its plan, and then runs it. -/
def EngineAccepts (r : ImportResult) : Prop :=
  ∀ i view clock s events, Readable codec render r.rule.active i view s events →
    ∃ engine, registerRule codec r.rule (some r.plan) none (DetectionEngine.init i view clock) =
        .ok (r.plan, engine) ∧
      ∀ ref ∈ [RuleRef.rule r.rule, .id r.rule.ruleId], ∀ number,
        (∀ n, number = some n → n = r.rule.activeVersion) → ∀ requested,
        (requested <|> engine.scope) = some s →
        ∃ run engine', DetectionEngine.run codec render ref requested number engine =
          .ok (run, engine')

variable {codec render} {rule : DetectionRuleVersion} {i : BoundedSecurityEventIngestor}
  {view : Option Scope} {clock : ℕ → Datetime} {s : Scope} {events : List SecurityEvent}

lemma Readable.named (h : Readable codec render rule i view s events) :
    Named [rule] fun a => a = events where
  rule v hv w hw _ _ := by rw [List.mem_singleton.mp hv, List.mem_singleton.mp hw]
  event := by
    rintro a b rfl rfl e he e' he' hid
    obtain ⟨⟨k, hk⟩, -⟩ := (BoundedSecurityEventIngestor.mem_events h.read).mp he
    obtain ⟨⟨k', hk'⟩, -⟩ := (BoundedSecurityEventIngestor.mem_events h.read).mp he'
    rw [← h.keyed k e hk, hid, h.keyed k' e' hk', hk'] at hk
    exact (Option.some.inj hk).symm

lemma Readable.maintained (h : Readable codec render rule i view s events) :
    Maintained codec render s [rule] (fun a => a = events) (DetectionEngine.init i view clock) where
  canonical :=
    { scope := h.scope
      version := rfl
      read := ⟨events, rfl, h.read⟩
      evaluations _ _ hx := nomatch hx
      signals _ _ hx := nomatch hx
      runs _ _ hx := nomatch hx }
  registered := ⟨fun _ _ _ hd => (nomatch hd), fun _ _ _ hd => (nomatch hd)⟩
  paired _ _ _ hx _ := nomatch hx
  completed _ _ hr _ _ := nomatch hr
  keyed := h.keyed

def sigmaScope : Scope := ⟨"CL-1", "EN-1", "TG-1", sampleNames_nonblank⟩

lemma accepts_admissible {r : ImportResult} (ha : Admissible r.rule.active)
    (htype : r.rule.active.ruleType = .eventMatch) (hplan : r.plan = r.rule.active.plan codec) :
    EngineAccepts codec render r := by
  intro i view clock s events h
  have hm : Maintained codec render s [r.rule.active] (fun a => a = events)
      (DetectionEngine.init i view clock) := h.maintained
  have hscope := requireScope_of hm.canonical.scope
  have hread : (DetectionEngine.init i view clock).events.events (some s) = .ok events := h.read
  obtain ⟨engine, hregister⟩ := register_total hm.registered List.mem_cons_self ha
  obtain ⟨hcanonical, hevents⟩ := hm.canonical.register hregister
  have hscope' := requireScope_of hcanonical.scope
  obtain ⟨v, -, hfound, -, hengine⟩ := registerRule_eq_ok hregister
  obtain rfl : r.rule.active = v := by
    have hv := hfound _ rfl
    rw [DetectionRule.find_activeVersion] at hv
    exact Option.some.inj hv
  have hregistered := hm.registered.register h.named.rule List.mem_cons_self hregister
  have hbind : DetectionEngine.bind codec (.rule r.rule) r.rule.active
      (DetectionEngine.init i view clock) = .ok engine := by
    rw [DetectionEngine.bind, hregister]
    rfl
  refine ⟨engine, ?_, ?_⟩
  · rw [hplan, registerRule_plan, hregister]
  intro ref href number hnumber requested hrequested
  rcases List.mem_cons.mp href with rfl | href
  · -- a rule is registered again, which changes nothing
    obtain ⟨engine₁, hregister₁⟩ := register_total hregistered List.mem_cons_self ha
    have hbind₁ : DetectionEngine.bind codec (.rule r.rule) r.rule.active engine = .ok engine₁ := by
      rw [DetectionEngine.bind, hregister₁]
      rfl
    have hm₁ : Maintained codec render s [r.rule.active] (fun a => a = events) engine := by
      refine ⟨hcanonical, hregistered, ?_, ?_, ?_⟩
      · rw [hengine]
        exact hm.paired
      · rw [hengine]
        exact hm.completed
      · rw [hevents]
        exact hm.keyed
    have hread₁ : engine.events.events (some s) = .ok events := by
      rw [hevents]
      exact hread
    obtain ⟨run, engine', hrun, -⟩ :=
      run_total h.free h.named hm₁ List.mem_cons_self htype ha hread₁
    have hselect : selectVersion codec (.rule r.rule) number engine = .ok r.rule.active :=
      requestedVersion_active hnumber
    refine ⟨run, engine', ?_⟩
    rw [run_selected hrequested hscope' hselect hbind₁ hscope' hbind₁]
    exact hrun
  · obtain rfl := List.mem_singleton.mp href
    obtain ⟨run, engine', hrun, -⟩ := run_total h.free h.named hm List.mem_cons_self htype ha hread
    have hselect : selectVersion codec (.id r.rule.ruleId) number engine = .ok r.rule.active := by
      rw [hengine]
      exact selectVersion_only rfl (Dict.find?_set_self _ _ _) (Dict.find?_set_self _ _ _)
        (Dict.find?_set_self _ _ _) hnumber
    refine ⟨run, engine', ?_⟩
    rw [run_selected hrequested hscope' hselect rfl hscope hbind]
    exact hrun

/-- No engine takes a rule whose predicates it refuses. -/
lemma accepts_validated {r : ImportResult} (h : EngineAccepts codec render r) :
    validatePredicates r.plan.predicates = .ok () := by
  have hreadable : Readable codec render r.rule.active ⟨SecurityEventPlane.empty, none⟩ none sigmaScope [] := by
    refine ⟨nofun, rfl, fun _ _ he => (nomatch he), ?_⟩
    -- nothing but a run's input has an identity there
    have hinput : ∀ {v : DetectionRuleVersion} {sources : List SecurityEvent},
        Input [r.rule.active] (fun a => a = []) v sources → v = r.rule.active ∧ sources = [] := by
      rintro v sources ⟨hv, events, rfl, rfl⟩
      exact ⟨List.mem_singleton.mp hv, rfl⟩
    have hall : ∀ d, Digested codec render sigmaScope [r.rule.active] (fun a => a = []) d →
        d = .arr (runIdentity sigmaScope r.rule.active []) := by
      intro d hd
      cases hd with
      | run h =>
        obtain ⟨rfl, rfl⟩ := hinput h
        rfl
      | evaluation h he | idempotency h he | signal h he =>
        obtain ⟨-, rfl⟩ := hinput h
        cases he
    intro d d' hd hd' _
    rw [hall d hd, hall d' hd']
  obtain ⟨engine, hregister, -⟩ := h _ none (fun n => n) _ _ hreadable
  obtain ⟨v, hregistrable, -⟩ := registerRule_enters hregister
  exact hregistrable.validated

/-- The engine takes and runs an imported rule exactly if the modifiers of its fields all modify a name. -/
theorem engine_accepts_iff (tooling : SigmaTooling) (codec : Codec) (render : Value → String)
    (document : Document) (sourceReference : String) (createdAt modifiedAt : Datetime)
    (r : ImportResult)
    (h : importRule tooling codec document sourceReference createdAt modifiedAt = .ok r) :
    EngineAccepts codec render r ↔ ∀ payload, payloadOf tooling document = .ok payload →
      ∀ field ∈ selectorFields payload, NamedField field := by
  obtain ⟨root, parts, hpayload, hparts, hvalid, rfl⟩ := importRule_eq_ok h
  obtain ⟨hstatus, hchecked, hkeys⟩ := partsOf_spec hparts
  have hactive := active_rule hvalid
  have hfields : (∀ payload, payloadOf tooling document = .ok payload →
      ∀ field ∈ selectorFields payload, NamedField field) ↔
      ∀ k ∈ parts.predicates.map Prod.fst, NamedField k := by
    constructor
    · intro hnamed k hk
      exact hnamed _ hpayload k ((hkeys k).mp hk)
    · intro hnamed payload hpayload' field hfield
      obtain rfl := Except.ok.inj (hpayload.symm.trans hpayload')
      exact hnamed field ((hkeys field).mpr hfield)
  rw [hfields, ← validatePredicates_checked hchecked]
  constructor
  · exact fun haccepts => accepts_validated haccepts
  · intro hpredicates
    apply accepts_admissible
    · rw [hactive]
      exact ⟨hstatus.1, hstatus.2, hpredicates⟩
    · rw [hactive]
      rfl
    · rw [hactive]
      rfl

end Accept

section Example

def sigmaTooling : SigmaTooling where
  load _ := .error .yamlError
  lower := String.toLower
  str := textOf
  isDecimal := Char.isDigit
  contentDigest
    | .map [_, _, (_, .map [(.str "selection", .map [(.str "action", _)]), _])] =>
      .ok "ba930fed6acf255e4148b740fc1656571856ea2046d96ad33622c782b7d01a6d"
    | _ => .ok "a56ef382f9be05deccb9a38d9aad793171934da8deef6186fc2229cd5417123f"

def sigmaDigests : Codec where
  contentDigest
    | .arr [_, .str "ba930fed6acf255e4148b740fc1656571856ea2046d96ad33622c782b7d01a6d"] =>
      "12f3fef7fec678698594ea939627433dda01bbd49589d3db029aef6688d6637f"
    | .arr [_, .str _] => "ffb551dae89cdfde87f5fcbe3217a906d5abb11bd451180395b614eb6cf931ef"
    | .arr [_, _, .str "ba930fed6acf255e4148b740fc1656571856ea2046d96ad33622c782b7d01a6d"] =>
      "60d9b04c042102d5ed8b4197a75f324fc194b1247fa4dc91b857149a222cf20e"
    | _ => "5e44325adca3ba54c53657d10be38997aebf5cbc3075d20bba077fe0ae1ce786"
  isoformat _ := "1970-01-01T00:00:00+00:00"
  dumpDatetime _ := "1970-01-01T00:00:00Z"

/-- A rule that asks one field of an event to be `invoke`. -/
def sigmaDocument (field : String) : Document :=
  .decoded (.map [(.str "title", .str "Agent invoke"),
    (.str "logsource", .map [(.str "product", .str "windows")]),
    (.str "detection", .map [(.str "selection", .map [(.str field, .str "invoke")]),
      (.str "condition", .str "selection")])])

def sigmaImport (field : String) : Except Raised ImportResult :=
  importRule sigmaTooling sigmaDigests (sigmaDocument field) "sigma:inline" 0 0

lemma sigmaImport_ok {s : String} (h : (sigmaImport s).toOption.isSome = true) :
    ∃ r, sigmaImport s = .ok r := by
  cases hr : sigmaImport s with
  | ok r => exact ⟨r, rfl⟩
  | error e =>
    rw [hr] at h
    cases h

theorem engine_accepts_named :
    ∃ r, sigmaImport "action" = .ok r ∧ EngineAccepts sigmaDigests (fun _ => "") r := by
  obtain ⟨r, hr⟩ := sigmaImport_ok (s := "action") (by decide +kernel)
  refine ⟨r, hr, (engine_accepts_iff _ _ _ (sigmaDocument "action") _ _ _ r hr).mpr ?_⟩
  intro payload hpayload
  obtain rfl := Except.ok.inj hpayload
  decide

/-- The importer takes a field that is nothing but a modifier. -/
theorem engine_refuses_unnamed :
    ∃ r, sigmaImport "|contains" = .ok r ∧ ∀ render, ¬ EngineAccepts sigmaDigests render r := by
  obtain ⟨r, hr⟩ := sigmaImport_ok (s := "|contains") (by decide +kernel)
  refine ⟨r, hr, ?_⟩
  intro render haccepts
  have hvalid := accepts_validated haccepts
  have hrefused : (sigmaImport "|contains").toOption.map (fun r => r.plan.predicates) =
      some [("|contains", .str "invoke")] := by decide +kernel
  rw [hr] at hrefused
  rw [show r.plan.predicates = [("|contains", .str "invoke")] from Option.some.inj hrefused,
    validatePredicates_eq_ok] at hvalid
  have hfield := (validatePredicate_eq_ok.mp (hvalid _ List.mem_cons_self)).2.1 (by decide)
  exact absurd hfield.1 (by decide)

end Example

end Sigma

end SecScanMonitor.DetectionResponse
