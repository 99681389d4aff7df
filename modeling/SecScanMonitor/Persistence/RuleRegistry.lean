import SecScanMonitor.DetectionResponse.RunHistory
import SecScanMonitor.Persistence.DetectionLedger

/-! The registry of live rules over its registrations. `registerRule` takes versions one at a time, and
`activeRules` refuses a registry in which some rule has two. -/

namespace SecScanMonitor.Persistence

open Foundations Domain DetectionResponse

variable {codec : Codec} {db db' : Database} {calls : List DetectionRule}

/-- The rules whose registrations were accepted, the latest first, since the registry was empty. What
else is committed between them leaves the registry alone. -/
inductive Registrations (codec : Codec) : List DetectionRule → Database → Prop
  | start {db : Database} : db.detectionRuleVersions.rows = [] → Registrations codec [] db
  | elsewhere {calls : List DetectionRule} {db db' : Database} : Registrations codec calls db →
      db'.detectionRuleVersions = db.detectionRuleVersions → Registrations codec calls db'
  | register {calls : List DetectionRule} {db db' : Database} {rule : DetectionRule}
      {plan : Option DetectionPlan} {p : DetectionPlan} : Registrations codec calls db →
      registerRule codec rule plan db = .ok (p, db') → Registrations codec (rule :: calls) db'

/-- The row is an ACTIVE version of the rule. -/
def Live (db : Database) (ruleId : String) (row : DetectionRuleVersionRow) : Prop :=
  row ∈ db.detectionRuleVersions ∧ row.rule.status = .active ∧ row.rule.ruleId = ruleId

/-- Every accepted rule has exactly one ACTIVE version, and the rules can be read. -/
structure Available (codec : Codec) (calls : List DetectionRule) (db : Database) : Prop where
  single : ∀ rule ∈ calls, ∃ row, Live db rule.ruleId row ∧
    ∀ row', Live db rule.ruleId row' → row' = row
  read : ∃ rules, activeRules codec db = .ok rules

/-- No rule was registered again with another version. -/
def OneVersion (calls : List DetectionRule) : Prop :=
  ∀ r ∈ calls, ∀ r' ∈ calls, r.ruleId = r'.ruleId → r.active.version = r'.active.version

instance (calls : List DetectionRule) : Decidable (OneVersion calls) := by
  unfold OneVersion
  infer_instance

/-- The registry holds the versions of the accepted rules, each bound to its digest. -/
structure Entered (codec : Codec) (calls : List DetectionRule) (db : Database) : Prop where
  row : ∀ row ∈ db.detectionRuleVersions, row.rule.status = .active ∧
    row.rule.owner = "SecScanMonitor" ∧ row.canonicalDigest = canonicalRuleDigest codec row.rule
  call : ∀ row ∈ db.detectionRuleVersions, ∃ rule ∈ calls, rule.ruleId = row.rule.ruleId ∧
    rule.active.version = row.rule.version
  held : ∀ rule ∈ calls, ∃ row ∈ db.detectionRuleVersions, row.rule.ruleId = rule.ruleId ∧
    row.rule.version = rule.active.version

lemma Entered.register {rule : DetectionRule} {plan : Option DetectionPlan} {p : DetectionPlan}
    (hdb : Entered codec calls db) (h : registerRule codec rule plan db = .ok (p, db')) :
    Entered codec (rule :: calls) db' := by
  obtain ⟨howned, h⟩ := raiseIf_bind_eq_ok.mp h
  obtain ⟨-, h⟩ := raiseIf_bind_eq_ok.mp h
  obtain ⟨versions, hversions, h⟩ := bind_eq_ok.mp h
  obtain ⟨plans, -, h⟩ := bind_eq_ok.mp h
  obtain ⟨-, rfl⟩ := Prod.mk.inj (Except.ok.inj h)
  simp only [not_or, not_not] at howned
  have hold : ∀ r ∈ db.detectionRuleVersions, ∃ rule' ∈ rule :: calls, rule'.ruleId = r.rule.ruleId ∧
      rule'.active.version = r.rule.version := by
    intro r hr
    obtain ⟨rule', hrule', heq⟩ := hdb.call r hr
    exact ⟨rule', List.mem_cons_of_mem rule hrule', heq⟩
  rcases insertOrReplay_eq_ok hversions with ⟨x, hx, hkey, -, rfl⟩ | ⟨-, hrows, -⟩
  · obtain ⟨hid, hversion⟩ := Prod.mk.inj hkey
    refine ⟨hdb.row, hold, ?_⟩
    intro r hr
    rcases List.mem_cons.mp hr with rfl | hr
    · exact ⟨x, hx, hid.trans r.active_ruleId, hversion⟩
    · exact hdb.held r hr
  · have hmem : ∀ r, r ∈ versions ↔
        r = DetectionRuleVersionRow.of codec rule.active ∨ r ∈ db.detectionRuleVersions := by
      intro r
      rw [Table.mem_def, hrows, List.mem_cons, Table.mem_def]
    refine ⟨?_, ?_, ?_⟩
    · intro r hr
      rcases (hmem r).mp hr with rfl | hr
      · exact ⟨howned.1, howned.2.2, rfl⟩
      · exact hdb.row r hr
    · intro r hr
      rcases (hmem r).mp hr with rfl | hr
      · exact ⟨rule, List.mem_cons_self, rule.active_ruleId.symm, rfl⟩
      · exact hold r hr
    · intro r hr
      rcases List.mem_cons.mp hr with rfl | hr
      · exact ⟨_, (hmem _).mpr (Or.inl rfl), r.active_ruleId, rfl⟩
      · obtain ⟨row, hrow, heq⟩ := hdb.held r hr
        exact ⟨row, (hmem row).mpr (Or.inr hrow), heq⟩

lemma Registrations.entered (h : Registrations codec calls db) : Entered codec calls db := by
  induction h with
  | @start db hempty =>
    have hnone : ∀ row, row ∉ db.detectionRuleVersions := by
      intro row hrow
      rw [Table.mem_def, hempty] at hrow
      cases hrow
    constructor
    · intro row hrow
      exact absurd hrow (hnone row)
    · intro row hrow
      exact absurd hrow (hnone row)
    · intro rule hrule
      cases hrule
  | elsewhere _ heq ih =>
    constructor
    · rw [heq]
      exact ih.row
    · rw [heq]
      exact ih.call
    · rw [heq]
      exact ih.held
  | register _ hcall ih => exact ih.register hcall

lemma Entered.activeRules (hdigest : ∀ d, codec.contentDigest d ≠ "") (h : Entered codec calls db)
    (hone : OneVersion calls) : ∃ rules, activeRules codec db = .ok rules := by
  set rows := (db.detectionRuleVersions.select fun r => r.rule.status = .active).insertionSort
    versionBefore with hrows
  have hmem : ∀ row ∈ rows, row ∈ db.detectionRuleVersions := by
    intro row hrow
    exact (mem_activeRows.mp hrow).1
  have hcheck : ∀ row ∈ rows, ∃ r, checkRow codec row = .ok r := by
    intro row hrow
    obtain ⟨-, howner, hbound⟩ := h.row row (hmem row hrow)
    refine ⟨(liveRule row.rule howner, row.rule.plan codec), ?_⟩
    rw [checkRow, dif_pos howner, if_neg]
    rintro (hempty | hne)
    · exact hdigest _ (hbound.symm.trans hempty)
    · exact hne hbound.symm
  obtain ⟨rules, hrules⟩ := mapM_isOk.mpr hcheck
  have hids : rules.map (fun r => r.1.ruleId) = rows.map fun row => row.rule.ruleId :=
    mapM_map_eq hrules fun _ _ => checkRow_ids
  have hnodup : (rules.map fun r => r.1.ruleId).Nodup := by
    rw [hids]
    apply List.Nodup.map_on
    · intro a ha b hb heq
      obtain ⟨r, hr, hid, hversion⟩ := h.call a (hmem a ha)
      obtain ⟨r', hr', hid', hversion'⟩ := h.call b (hmem b hb)
      have hsame := hone r hr r' hr' ((hid.trans heq).trans hid'.symm)
      exact Table.eq_of_key_eq (hmem a ha) (hmem b hb)
        (Prod.ext heq ((hversion.symm.trans hsame).trans hversion'))
    · rw [hrows, (List.perm_insertionSort versionBefore _).nodup_iff]
      exact (List.Nodup.of_map _ db.detectionRuleVersions.nodup).filter _
  exact ⟨rules, bind_eq_ok.mpr ⟨rules, hrules,
    raiseIf_bind_eq_ok.mpr ⟨not_not.mpr hnodup, rfl⟩⟩⟩

/-- In every state that registrations reach, the registry is available if and only if no rule has been
accepted with two versions. -/
theorem available_iff (hdigest : ∀ d, codec.contentDigest d ≠ "") (h : Registrations codec calls db) :
    Available codec calls db ↔ OneVersion calls := by
  have hentered := h.entered
  constructor
  · intro havailable r hr r' hr' hid
    obtain ⟨row, hrow, hid₁, hversion⟩ := hentered.held r hr
    obtain ⟨row', hrow', hid₂, hversion'⟩ := hentered.held r' hr'
    obtain ⟨live, -, hlive⟩ := havailable.single r hr
    have hfirst := hlive row ⟨hrow, (hentered.row row hrow).1, hid₁⟩
    have hsecond := hlive row' ⟨hrow', (hentered.row row' hrow').1, hid₂.trans hid.symm⟩
    rw [← hversion, ← hversion', hfirst, hsecond]
  · intro hone
    refine ⟨?_, hentered.activeRules hdigest hone⟩
    intro rule hrule
    obtain ⟨row, hrow, hid, hversion⟩ := hentered.held rule hrule
    refine ⟨row, ⟨hrow, (hentered.row row hrow).1, hid⟩, ?_⟩
    rintro row' ⟨hrow', -, hid'⟩
    obtain ⟨r, hr, hrid, hrversion⟩ := hentered.call row' hrow'
    have hsame := hone r hr rule hrule (hrid.trans hid')
    exact Table.eq_of_key_eq hrow' hrow
      (Prod.ext (hid'.trans hid.symm) ((hrversion.symm.trans hsame).trans hversion.symm))

section Example

/-- The registry's documents for the two versions of one rule. -/
def ruleDigests : Codec where
  contentDigest
    | .arr [_, .int 1, _] => "8ebb681f1d8196ea0912a89899ea02f98b677e300bd7cc4eba48f541b60fe9dd"
    | .arr _ => "b357607c6d6b51ed4439889feb2fccd1d36147361943f71c4e0a555850624c9f"
    | .obj members =>
      if members.lookup "version" = some (.int 1) then
        "e50c61323c392842fccad844f4787d20bd7750865db065d30a8dca5b341cf82c"
      else "85f8916884ae7303a599a99bb50ba212a00e51f5abbc1bce1f7ec9eb484d543f"
    | _ => "e3b0c44298fc1c149afbf4c8996fb92427ae41e4649b934ca495991b7852b855"
  isoformat _ := "1970-01-01T00:00:00+00:00"
  dumpDatetime _ := "1970-01-01T00:00:00Z"

lemma ruleDigests_ne (d : Value) : ruleDigests.contentDigest d ≠ "" := by
  dsimp only [ruleDigests]
  split
  · decide
  · decide
  · split
    · decide
    · decide
  · decide

def invocation : DetectionRuleVersion where
  ruleType := .eventMatch
  contentDigest := "c1"
  eventSchema := "OCSF"
  supportedSourceFamilies := ["secscan"]
  predicates := [("action", .str "invoke")]
  correlationKeys := []
  windowSeconds := 0
  threshold := 1
  ruleId := "DR-1"
  version := 1
  title := "tool use"
  source := "secscan"
  sourceReference := "rules/1"
  owner := "SecScanMonitor"
  ocsfVersion := "1.8.0"
  severity := .high
  confidence := .high
  confidenceMetadata := []
  attackMappings := []
  atlasMappings := []
  references := []
  status := .active
  createdAt := 0
  modifiedAt := 0
  evaluationMetadata := []
  valid := toolVersion.valid
  nonblank := toolVersion.nonblank
  ocsf := rfl
  positive := toolVersion.positive

def firstVersion : DetectionRule := liveRule invocation rfl

/-- The rule again, with its next version. -/
def secondVersion : DetectionRule :=
  liveRule
    { invocation with contentDigest := "c2", version := 2, valid := by decide, positive := by decide }
    rfl

/-- The database after the registrations of the rules. -/
def registering (rules : List DetectionRule) : Database :=
  rules.foldl (fun db rule => committed db (registerRule ruleDigests rule none db)) Database.empty

lemma registrations_first : Registrations ruleDigests [firstVersion] (registering [firstVersion]) := by
  have hcall : (registerRule ruleDigests firstVersion none Database.empty).isOk = true := by
    decide
  obtain ⟨p, hp⟩ := exists_eq_ok Database.empty _ hcall
  exact (@Registrations.start _ Database.empty rfl).register hp

lemma registrations_second : Registrations ruleDigests [secondVersion, firstVersion]
    (registering [firstVersion, secondVersion]) := by
  have hcall : (registerRule ruleDigests secondVersion none (registering [firstVersion])).isOk =
      true := by
    decide
  obtain ⟨p, hp⟩ := exists_eq_ok (registering [firstVersion]) _ hcall
  exact registrations_first.register hp

theorem first_available : Available ruleDigests [firstVersion] (registering [firstVersion]) :=
  (available_iff ruleDigests_ne registrations_first).mpr (by decide +kernel)

/-- A rule that is registered again with its next version. -/
theorem second_unavailable : ¬ ∀ codec calls db, (∀ d, codec.contentDigest d ≠ "") →
    Registrations codec calls db → Available codec calls db := by
  intro h
  obtain ⟨rules, hrules⟩ := (h _ _ _ ruleDigests_ne registrations_second).read
  have hraised : (activeRules ruleDigests (registering [firstVersion, secondVersion])).isOk =
      false := by
    decide +kernel
  rw [hrules] at hraised
  cases hraised

end Example

end SecScanMonitor.Persistence
