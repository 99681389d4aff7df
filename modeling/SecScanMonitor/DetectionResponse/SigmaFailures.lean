import Mathlib.Algebra.Group.Nat.Defs
import SecScanMonitor.DetectionResponse.SigmaEngine

/-! What escapes from an import. The checks of the importer raise one kind of error; the loader, the digest and
the models of the rule have kinds of their own. -/

namespace SecScanMonitor.DetectionResponse.Sigma

open Foundations Domain

section Digest

def shortInt (n : Int) : Bool := decide (n.natAbs < 10 ^ 4300)

def jsonKey : Yaml → Bool
  | .null | .bool _ | .float _ | .str _ => true
  | .int n => shortInt n
  | _ => false

def textKey : Yaml → Bool
  | .str _ => true
  | _ => false

def numberKey : Yaml → Bool
  | .bool _ | .int _ | .float _ => true
  | _ => false

/-- Keys that `sort_keys` can compare: texts, or numbers, or one key. -/
def comparableKeys (entries : YamlMap) : Bool :=
  decide (entries.length ≤ 1) || entries.all (fun e => textKey e.1) || entries.all fun e => numberKey e.1

mutual

/-- `json.dumps(v, sort_keys=True)` has a text. Python writes no integer of more than 4300 digits. -/
def dumpable : Yaml → Bool
  | .int n => shortInt n
  | .seq items => dumpableItems items
  | .map entries => comparableKeys entries && dumpableEntries entries
  | .other _ _ => false
  | _ => true

def dumpableItems : List Yaml → Bool
  | [] => true
  | v :: vs => dumpable v && dumpableItems vs

def dumpableEntries : List (Yaml × Yaml) → Bool
  | [] => true
  | (k, v) :: es => jsonKey k && dumpable v && dumpableEntries es

end

/-- What the loader and the digest do. -/
structure Documented (tooling : SigmaTooling) : Prop where
  dumps : ∀ v, (∃ d, tooling.contentDigest v = .ok d) ↔ dumpable v = true
  refuses : ∀ v e, tooling.contentDigest v = .error e → e.kind ≠ .unsupportedDetectionConstruct
  digits : ∀ v d, tooling.contentDigest v = .ok d → isBlank d = false
  loads : ∀ s e, tooling.load s = .error (.other e) → e.kind ≠ .unsupportedDetectionConstruct

end Digest

/-- Nothing but the error of the importer escapes. -/
def OneFailure {α : Type} (m : Except Raised α) : Prop :=
  Raises (fun e => e.kind = .unsupportedDetectionConstruct) m

section Checks

variable {tooling : SigmaTooling} {codec : Codec}

lemma refuse_oneFailure {α : Type} (message : String) : OneFailure (refuse message : Except Raised α) :=
  Raises.raise rfl

lemma orRefuse_oneFailure {α : Type} (value : Option α) (message : String) :
    OneFailure (orRaise value .unsupportedDetectionConstruct message) :=
  Raises.orRaise rfl

lemma mapping_oneFailure (value : Option Yaml) (label : String) : OneFailure (mapping value label) := by
  unfold mapping
  split
  · exact Raises.ok _
  · exact refuse_oneFailure _

lemma checkLogsourceValues_oneFailure (entries : YamlMap) :
    OneFailure (checkLogsourceValues tooling entries) := by
  induction entries with
  | nil => exact Raises.ok ()
  | cons e entries ih => exact Raises.bind (Raises.raiseIf rfl) fun _ _ => ih

lemma sourceFamily_oneFailure (logsource : YamlMap) : OneFailure (sourceFamily tooling logsource) := by
  refine Raises.bind (Raises.raiseIf rfl) fun _ _ =>
    Raises.bind (checkLogsourceValues_oneFailure logsource) fun _ _ => ?_
  dsimp only
  split
  · exact Raises.ok _
  · exact refuse_oneFailure _

lemma expected_oneFailure (v : Yaml) : OneFailure (expected v) := by
  unfold expected
  split
  · exact refuse_oneFailure _
  · exact Raises.bind (Raises.raiseIf rfl) fun _ _ => Raises.bind (Raises.raiseIf rfl) fun _ _ =>
      Raises.bind (Raises.orRaise rfl) fun _ _ => Raises.ok _
  · exact orRefuse_oneFailure _ _

lemma predicatesOf_oneFailure (entries : YamlMap) (predicates : List (String × Value)) :
    OneFailure (predicatesOf entries predicates) := by
  induction entries generalizing predicates with
  | nil => exact Raises.ok predicates
  | cons e entries ih =>
    obtain ⟨key, value⟩ := e
    cases key with
    | str field =>
      exact Raises.bind (Raises.raiseIf rfl) fun _ _ => Raises.bind (Raises.raiseIf rfl) fun _ _ =>
        Raises.bind (expected_oneFailure value) fun v _ => ih (assign field v predicates)
    | _ => exact refuse_oneFailure _

lemma selector_oneFailure (detection : YamlMap) : OneFailure (selector detection) := by
  unfold selector
  split
  · exact Raises.bind (Raises.raiseIf rfl) fun _ _ => Raises.bind (Raises.orRaise rfl) fun _ _ =>
      Raises.bind (Raises.raiseIf rfl) fun _ _ => Raises.bind (mapping_oneFailure _ _) fun entries _ =>
        Raises.bind (predicatesOf_oneFailure entries []) fun _ _ =>
          Raises.bind (Raises.raiseIf rfl) fun _ _ => Raises.ok _
  · exact refuse_oneFailure _

lemma tagKinds_oneFailure (tags : List String) : OneFailure (tagKinds tooling tags) := by
  induction tags with
  | nil => exact Raises.ok _
  | cons tag tags ih =>
    unfold tagKinds
    dsimp only
    split
    · exact Raises.bind (Raises.raiseIf rfl) fun _ _ => Raises.bind ih fun _ _ => Raises.ok _
    · split
      · exact Raises.bind (Raises.raiseIf rfl) fun _ _ => Raises.bind ih fun _ _ => Raises.ok _
      · exact Raises.bind (Raises.raiseIf rfl) fun _ _ => ih

lemma tags_oneFailure (value : Option Yaml) : OneFailure (tags tooling value) := by
  unfold tags
  split
  · exact Raises.ok _
  · exact Raises.ok _
  · exact Raises.bind (Raises.orRaise rfl) fun names _ =>
      Raises.bind (tagKinds_oneFailure names) fun _ _ => Raises.ok _
  · exact refuse_oneFailure _

lemma titleOf_oneFailure (value : Option Yaml) : OneFailure (titleOf value) := by
  unfold titleOf
  split
  · split
    · exact refuse_oneFailure _
    · exact Raises.ok _
  · exact refuse_oneFailure _

lemma referencesOf_oneFailure (value : Option Yaml) : OneFailure (referencesOf value) := by
  unfold referencesOf
  split
  · exact Raises.ok _
  · split
    · exact Raises.ok _
    · exact refuse_oneFailure _
  · exact refuse_oneFailure _

lemma ruleIdOf_oneFailure (value : Option Yaml) (title digest : String) :
    OneFailure (ruleIdOf codec value title digest) := by
  unfold ruleIdOf
  split
  · exact Raises.ok _
  · exact Raises.ok _
  · split
    · exact refuse_oneFailure _
    · exact Raises.ok _
  · exact refuse_oneFailure _

lemma versionOf_oneFailure (value : Option Yaml) : OneFailure (versionOf value) := by
  unfold versionOf
  split
  · exact Raises.ok _
  · split
    · exact refuse_oneFailure _
    · exact Raises.ok _
  · exact refuse_oneFailure _

end Checks

section Parts

variable (tooling : SigmaTooling)

/-- The checks of `import_rule` that come before the digest of the document. -/
structure PassesBefore (root : YamlMap) : Prop where
  keys : root.filter (fun e => !allowedKey e.1) = []
  title : ∃ title, titleOf ((get root "title").or (get root "name")) = .ok title
  logsource : ∃ entries family, get root "logsource" = some (.map entries) ∧
    sourceFamily tooling entries = .ok family
  detection : ∃ entries selected, get root "detection" = some (.map entries) ∧ selector entries = .ok selected
  tags : ∃ kinds, tags tooling (get root "tags") = .ok kinds
  references : ∃ references, referencesOf (get root "references") = .ok references
  status : ∃ status, statusOf (tooling.lower (((get root "status").map tooling.str).getD "stable")) = some status

/-- The id is missing or a text that is not blank. -/
def idFits : Option Yaml → Prop
  | none | some .null => True
  | some (.str s) => isBlank s = false
  | some _ => False

/-- The checks that come after it. -/
structure PassesAfter (root : YamlMap) : Prop where
  id : idFits (get root "id")
  rationale : isText ((get root "x_secscan_rationale").getD
    (.str "SecScanMonitor-owned bounded detection content")) = true
  confidence : ∃ confidence, confidenceOf (tooling.lower
    (((get root "x_secscan_confidence").map tooling.str).getD "medium")) = some confidence
  version : ∃ version, versionOf (get root "x_secscan_version") = .ok version
  severity : ∃ s, severity tooling (get root "level") = .ok s

variable {tooling} {codec : Codec} {root : YamlMap} {sourceReference : String}
  {createdAt modifiedAt : Datetime} {parts : Parts}

lemma ruleIdOf_isOk (codec : Codec) (title digest : String) {value : Option Yaml} :
    (∃ id, ruleIdOf codec value title digest = .ok id) ↔ idFits value := by
  unfold ruleIdOf idFits
  split
  · exact iff_of_true ⟨_, rfl⟩ trivial
  · exact iff_of_true ⟨_, rfl⟩ trivial
  · rename_i s
    split
    · rename_i hblank
      exact iff_of_false (fun ⟨_, h⟩ => nomatch h) fun h => absurd (h.symm.trans hblank) Bool.false_ne_true
    · rename_i hblank
      exact iff_of_true ⟨_, rfl⟩ (Bool.eq_false_of_not_eq_true hblank)
  · rename_i v hnull hstr hnone
    refine iff_of_false (fun ⟨_, h⟩ => nomatch h) ?_
    cases v <;> simp_all

lemma oneFailure_or {α : Type} {m : Except Raised α} {p : Raised → Prop} (h : OneFailure m) :
    Raises (fun e => e.kind = .unsupportedDetectionConstruct ∨ p e) m :=
  fun e he => Or.inl (h e he)

/-- An error is the importer's own, or that of the digest of a document that has passed the checks before it. -/
lemma partsOf_raises : Raises (fun e => e.kind = .unsupportedDetectionConstruct ∨
      PassesBefore tooling root ∧ tooling.contentDigest (.map root) = .error e)
    (partsOf tooling codec root sourceReference createdAt modifiedAt) := by
  refine Raises.bind (oneFailure_or (Raises.raiseIf rfl)) fun u hkeys => ?_
  refine Raises.bind (oneFailure_or (titleOf_oneFailure _)) fun title htitle => ?_
  refine Raises.bind (oneFailure_or (mapping_oneFailure _ _)) fun entries hlogsource => ?_
  refine Raises.bind (oneFailure_or (sourceFamily_oneFailure _)) fun family hfamily => ?_
  refine Raises.bind (oneFailure_or (mapping_oneFailure _ _)) fun detection hdetection => ?_
  refine Raises.bind (oneFailure_or (selector_oneFailure _)) fun selected hselected => ?_
  refine Raises.bind (oneFailure_or (tags_oneFailure _)) fun kinds hkinds => ?_
  refine Raises.bind (oneFailure_or (referencesOf_oneFailure _)) fun references hreferences => ?_
  refine Raises.bind (oneFailure_or (orRefuse_oneFailure _ _)) fun status hstatus => ?_
  have hpasses : PassesBefore tooling root :=
    { keys := not_not.mp (raiseIf_eq_ok.mp hkeys)
      title := ⟨title, htitle⟩
      logsource := ⟨entries, family, mapping_eq_ok.mp hlogsource, hfamily⟩
      detection := ⟨detection, selected, mapping_eq_ok.mp hdetection, hselected⟩
      tags := ⟨kinds, hkinds⟩
      references := ⟨references, hreferences⟩
      status := ⟨status, orRaise_eq_ok.mp hstatus⟩ }
  refine Raises.bind (fun e he => Or.inr ⟨hpasses, he⟩) fun digest _ => oneFailure_or ?_
  exact Raises.bind (ruleIdOf_oneFailure _ _ _) fun _ _ => Raises.bind (Raises.raiseIf rfl) fun _ _ =>
    Raises.bind (orRefuse_oneFailure _ _) fun _ _ => Raises.bind (versionOf_oneFailure _) fun _ _ =>
      Raises.bind (orRefuse_oneFailure _ _) fun _ _ => Raises.ok _

/-- The parts are made exactly of a document that passes the checks and has a digest. -/
lemma partsOf_isOk : (∃ parts, partsOf tooling codec root sourceReference createdAt modifiedAt = .ok parts) ↔
    PassesBefore tooling root ∧ (∃ d, tooling.contentDigest (.map root) = .ok d) ∧ PassesAfter tooling root := by
  constructor
  · rintro ⟨parts, h⟩
    obtain ⟨hfound, -⟩ := partsOf_found h
    obtain ⟨entries, hlogsource, hfamily⟩ := hfound.logsource
    obtain ⟨detection, hdetection, hselected⟩ := hfound.detection
    refine ⟨⟨hfound.keys, ⟨_, hfound.title⟩, ⟨entries, _, hlogsource, hfamily⟩, ⟨detection, _, hdetection, hselected⟩,
      ⟨_, hfound.tags⟩, ⟨_, hfound.references⟩, ⟨_, hfound.status⟩⟩, ⟨_, hfound.digest⟩, ?_⟩
    exact ⟨(ruleIdOf_isOk codec _ _).mp ⟨_, hfound.ruleId⟩, hfound.rationale, ⟨_, hfound.confidence⟩,
      ⟨_, hfound.version⟩, ⟨_, hfound.severity⟩⟩
  · rintro ⟨hbefore, ⟨digest, hdigest⟩, hafter⟩
    obtain ⟨title, htitle⟩ := hbefore.title
    obtain ⟨entries, family, hlogsource, hfamily⟩ := hbefore.logsource
    obtain ⟨detection, selected, hdetection, hselected⟩ := hbefore.detection
    obtain ⟨kinds, hkinds⟩ := hbefore.tags
    obtain ⟨references, hreferences⟩ := hbefore.references
    obtain ⟨status, hstatus⟩ := hbefore.status
    obtain ⟨ruleId, hid⟩ := (ruleIdOf_isOk codec title digest).mpr hafter.id
    obtain ⟨confidence, hconfidence⟩ := hafter.confidence
    obtain ⟨version, hversion⟩ := hafter.version
    obtain ⟨s, hseverity⟩ := hafter.severity
    refine ⟨_, raiseIf_bind_eq_ok.mpr ⟨not_not.mpr hbefore.keys, bind_eq_ok.mpr ⟨title, htitle,
      bind_eq_ok.mpr ⟨entries, mapping_eq_ok.mpr hlogsource, bind_eq_ok.mpr ⟨family, hfamily,
      bind_eq_ok.mpr ⟨detection, mapping_eq_ok.mpr hdetection, bind_eq_ok.mpr ⟨selected, hselected,
      bind_eq_ok.mpr ⟨kinds, hkinds, bind_eq_ok.mpr ⟨references, hreferences,
      orRaise_bind_eq_ok.mpr ⟨status, hstatus, bind_eq_ok.mpr ⟨digest, hdigest,
      bind_eq_ok.mpr ⟨ruleId, hid, raiseIf_bind_eq_ok.mpr ⟨?_, orRaise_bind_eq_ok.mpr ⟨confidence, hconfidence,
      bind_eq_ok.mpr ⟨version, hversion, bind_eq_ok.mpr ⟨s, hseverity, rfl⟩⟩⟩⟩⟩⟩⟩⟩⟩⟩⟩⟩⟩⟩⟩⟩
    rw [hafter.rationale]
    exact Bool.noConfusion

end Parts

section Valid

variable {tooling : SigmaTooling} {codec : Codec} {document : Document} {root : YamlMap} {sourceReference : String}
  {createdAt modifiedAt : Datetime} {parts : Parts}

lemma all_dropWhile {α : Type} (p : α → Bool) (l : List α) (h : (l.dropWhile p).all p = true) : l.all p = true := by
  induction l with
  | nil => rfl
  | cons a l ih =>
    by_cases ha : p a = true
    · rw [List.dropWhile_cons_of_pos ha] at h
      rw [List.all_cons, ha, ih h, Bool.true_and]
    · rw [List.dropWhile_cons_of_neg ha] at h
      exact h

lemma strip_nonblank {s : String} (h : isBlank s = false) : isBlank (strip s) = false := by
  apply Bool.eq_false_of_not_eq_true
  intro hstrip
  rw [isBlank, strip, String.toList_ofList, List.all_reverse] at hstrip
  have hrest := all_dropWhile isSpace _ hstrip
  rw [List.all_reverse] at hrest
  have hall : isBlank s = true := all_dropWhile isSpace s.toList hrest
  rw [h] at hall
  exact Bool.false_ne_true hall

lemma titleOf_nonblank {value : Option Yaml} {title : String} (h : titleOf value = .ok title) :
    isBlank title = false := by
  unfold titleOf at h
  split at h
  · split at h
    · cases h
    · rename_i hblank
      obtain rfl := Except.ok.inj h
      exact Bool.eq_false_of_not_eq_true hblank
  · cases h

lemma ruleIdOf_nonblank {value : Option Yaml} {title digest ruleId : String}
    (h : ruleIdOf codec value title digest = .ok ruleId) : isBlank ruleId = false := by
  unfold ruleIdOf at h
  split at h
  · obtain rfl := Except.ok.inj h
    exact isBlank_append (by decide) _
  · obtain rfl := Except.ok.inj h
    exact isBlank_append (by decide) _
  · split at h
    · cases h
    · rename_i hblank
      obtain rfl := Except.ok.inj h
      exact strip_nonblank (Bool.eq_false_of_not_eq_true hblank)
  · cases h

lemma versionOf_positive {value : Option Yaml} {version : Int} (h : versionOf value = .ok version) :
    1 ≤ version := by
  unfold versionOf at h
  split at h
  · obtain rfl := Except.ok.inj h
    exact le_refl 1
  · split at h
    · cases h
    · obtain rfl := Except.ok.inj h
      omega
  · cases h

lemma familiesOf_supported (category product service : String) :
    ∀ f ∈ familiesOf category product service, f ∈ supportedSourceFamilies := by
  intro f hf
  simp only [familiesOf, List.mem_append, List.mem_ite_nil_right, List.mem_singleton] at hf
  rcases hf with (((⟨-, rfl⟩ | ⟨-, rfl⟩) | ⟨-, rfl⟩) | ⟨-, rfl⟩) | ⟨-, rfl⟩ <;> decide

lemma sourceFamily_supported {logsource : YamlMap} {family : String}
    (h : sourceFamily tooling logsource = .ok family) : family ∈ supportedSourceFamilies := by
  obtain ⟨-, h⟩ := raiseIf_bind_eq_ok.mp h
  obtain ⟨-, -, h⟩ := bind_eq_ok.mp h
  dsimp only at h
  split at h
  · rename_i family' hfamilies
    obtain rfl := Except.ok.inj h
    apply familiesOf_supported
    rw [hfamilies]
    exact List.mem_singleton_self _
  · cases h

lemma assign_nodup {field : String} {v : Value} {ps : List (String × Value)} (h : (ps.map Prod.fst).Nodup) :
    ((assign field v ps).map Prod.fst).Nodup := by
  induction ps with
  | nil => exact List.nodup_singleton _
  | cons p ps ih =>
    obtain ⟨k, w⟩ := p
    rw [List.map_cons, List.nodup_cons] at h
    rw [assign]
    split
    · exact List.nodup_cons.mpr h
    · rename_i hk
      refine List.nodup_cons.mpr ⟨?_, ih h.2⟩
      rw [keys_assign]
      rintro (hfield | hmem)
      · exact hk hfield
      · exact h.1 hmem

lemma predicatesOf_nodup {entries : YamlMap} {acc ps : List (String × Value)} (h : predicatesOf entries acc = .ok ps)
    (hacc : (acc.map Prod.fst).Nodup) : (ps.map Prod.fst).Nodup := by
  induction entries generalizing acc with
  | nil =>
    obtain rfl := Except.ok.inj h
    exact hacc
  | cons e entries ih =>
    obtain ⟨key, value⟩ := e
    cases key with
    | str field =>
      obtain ⟨-, h⟩ := raiseIf_bind_eq_ok.mp h
      obtain ⟨-, -, h⟩ := bind_eq_ok.mp h
      obtain ⟨v, -, h⟩ := bind_eq_ok.mp h
      exact ih h (assign_nodup hacc)
    | _ => cases h

lemma selector_nodup {detection : YamlMap} {selected : String × List (String × Value)}
    (h : selector detection = .ok selected) : (selected.2.map Prod.fst).Nodup := by
  unfold selector at h
  split at h
  · obtain ⟨-, h⟩ := raiseIf_bind_eq_ok.mp h
    obtain ⟨y, -, h⟩ := orRaise_bind_eq_ok.mp h
    obtain ⟨-, h⟩ := raiseIf_bind_eq_ok.mp h
    obtain ⟨entries, -, h⟩ := bind_eq_ok.mp h
    obtain ⟨ps, hps, h⟩ := bind_eq_ok.mp h
    obtain ⟨-, h⟩ := raiseIf_bind_eq_ok.mp h
    obtain rfl := Except.ok.inj h
    exact predicatesOf_nodup hps List.nodup_nil
  · cases h

/-- The importer has checked all that the models ask, but for the reference it is called with. -/
lemma partsOf_valid (hdocumented : Documented tooling)
    (h : partsOf tooling codec root sourceReference createdAt modifiedAt = .ok parts) :
    parts.Valid ↔ isBlank sourceReference = false := by
  obtain ⟨hfound, hreferred⟩ := partsOf_found h
  obtain ⟨entries, -, hfamily⟩ := hfound.logsource
  obtain ⟨detection, -, hselected⟩ := hfound.detection
  have hnonblank : ([parts.ruleId, parts.title, parts.sourceReference].all fun s => !isBlank s) = true ↔
      isBlank sourceReference = false := by
    simp [ruleIdOf_nonblank hfound.ruleId, titleOf_nonblank hfound.title, hreferred]
  constructor
  · intro hvalid
    exact hnonblank.mp hvalid.nonblank
  · intro hreference
    refine ⟨⟨hdocumented.digits _ _ hfound.digest, rfl, ?_, ?_, selector_nodup hselected, rfl, rfl⟩,
      hnonblank.mpr hreference, versionOf_positive hfound.version⟩
    · refine ⟨List.cons_ne_nil _ _, ?_⟩
      intro f hf
      obtain rfl := List.mem_singleton.mp hf
      exact sourceFamily_supported hfamily
    · exact List.pairwise_singleton _ _

end Valid

section Escape

variable (tooling : SigmaTooling)

/-- What the importer leaves to others: the loader, the digest of a document that has passed the checks before
it, and the reference of a rule that has passed them all. -/
structure Settled (document : Document) (sourceReference : String) : Prop where
  loads : ∀ s e, document = .text s → tooling.load s ≠ .error (.other e)
  dumps : ∀ root, payloadOf tooling document = .ok (.map root) → PassesBefore tooling root →
    dumpable (.map root) = true
  reference : ∀ root, payloadOf tooling document = .ok (.map root) → PassesBefore tooling root →
    PassesAfter tooling root → isBlank sourceReference = false

variable {tooling} {codec : Codec} {document : Document} {root : YamlMap} {sourceReference : String}
  {createdAt modifiedAt : Datetime}

lemma partsOf_digest {e : Raised} (hbefore : PassesBefore tooling root)
    (hdigest : tooling.contentDigest (.map root) = .error e) :
    partsOf tooling codec root sourceReference createdAt modifiedAt = .error e := by
  obtain ⟨title, htitle⟩ := hbefore.title
  obtain ⟨entries, family, hlogsource, hfamily⟩ := hbefore.logsource
  obtain ⟨detection, selected, hdetection, hselected⟩ := hbefore.detection
  obtain ⟨kinds, hkinds⟩ := hbefore.tags
  obtain ⟨references, hreferences⟩ := hbefore.references
  obtain ⟨status, hstatus⟩ := hbefore.status
  have hkeys := hbefore.keys
  simp only [partsOf, hkeys, htitle, mapping_eq_ok.mpr hlogsource, hfamily, mapping_eq_ok.mpr hdetection, hselected,
    hkinds, hreferences, hstatus, hdigest, ok_bind, ne_eq, not_true_eq_false, raiseIf, if_false, orRaise]
  rfl

lemma payloadOf_raises (hloads : ∀ s e, document = .text s → tooling.load s ≠ .error (.other e)) :
    OneFailure (payloadOf tooling document) := by
  cases document with
  | decoded payload => exact Raises.ok payload
  | text s =>
    rw [payloadOf]
    split
    · exact Raises.ok _
    · exact refuse_oneFailure _
    · rename_i e he
      exact absurd he (hloads s e rfl)

end Escape

section Example

def ruleText : String :=
  "title: Agent invoke\nlogsource:\n  product: windows\ndetection:\n  selection:\n    action: invoke\n" ++
    "  condition: selection\n"

def datedText : String := "date: 2024-01-01\n" ++ ruleText

def ruleRoot : YamlMap :=
  [(.str "title", .str "Agent invoke"), (.str "logsource", .map [(.str "product", .str "windows")]),
    (.str "detection", .map [(.str "selection", .map [(.str "action", .str "invoke")]),
      (.str "condition", .str "selection")])]

/-- A loader that reads these two texts; YAML reads a date for what is written like one. -/
def datedTooling : SigmaTooling where
  load s :=
    if s = ruleText then .ok (.map ruleRoot)
    else if s = datedText then .ok (.map ((.str "date", .other "timestamp" "2024-01-01") :: ruleRoot))
    else .error .yamlError
  lower := String.toLower
  str := textOf
  isDecimal := Char.isDigit
  contentDigest v :=
    if dumpable v then .ok "ba930fed6acf255e4148b740fc1656571856ea2046d96ad33622c782b7d01a6d"
    else raise .typeError "Object of type date is not JSON serializable"

lemma datedTooling_dumps {v : Yaml} (hv : dumpable v = true) : datedTooling.contentDigest v =
    .ok "ba930fed6acf255e4148b740fc1656571856ea2046d96ad33622c782b7d01a6d" :=
  if_pos hv

lemma datedTooling_refuses {v : Yaml} (hv : ¬ dumpable v = true) : datedTooling.contentDigest v =
    raise .typeError "Object of type date is not JSON serializable" :=
  if_neg hv

lemma datedTooling_loads (s : String) (e : Raised) : datedTooling.load s ≠ .error (.other e) := by
  intro he
  simp only [datedTooling] at he
  split at he
  · cases he
  · split at he <;> cases he

lemma datedTooling_documented : Documented datedTooling where
  dumps v := by
    by_cases hv : dumpable v = true
    · exact iff_of_true ⟨_, datedTooling_dumps hv⟩ hv
    · rw [datedTooling_refuses hv]
      exact iff_of_false nofun hv
  refuses v e he := by
    by_cases hv : dumpable v = true
    · rw [datedTooling_dumps hv] at he
      cases he
    · rw [datedTooling_refuses hv] at he
      obtain rfl := Except.error.inj he
      exact nofun
  digits v d hd := by
    by_cases hv : dumpable v = true
    · rw [datedTooling_dumps hv] at hd
      obtain rfl := Except.ok.inj hd
      decide
    · rw [datedTooling_refuses hv] at hd
      cases hd
  loads s e he := absurd he (datedTooling_loads s e)

lemma ruleText_loads : payloadOf datedTooling (.text ruleText) = .ok (.map ruleRoot) := by
  simp only [payloadOf, datedTooling, if_true]

end Example

end SecScanMonitor.DetectionResponse.Sigma
