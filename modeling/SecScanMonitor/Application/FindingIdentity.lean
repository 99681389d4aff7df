import SecScanMonitor.Application.FirmSecurityServices
import SecScanMonitor.Sanitize.Serialization

/-! The receipts of an adjudication (`_adjudicate_with_receipts` of `application/security_services.py`), and
which dedupe keys its ids tell apart. -/

namespace SecScanMonitor.Application.Firm

open Foundations Domain Adjudication Sanitize

section Model

/-- The candidates of one dedupe key; `grouped` has no empty list. -/
structure CandidateGroup where
  dedupeKey : String
  first : ClaimCandidate
  later : List ClaimCandidate

def CandidateGroup.candidates (g : CandidateGroup) : List ClaimCandidate := g.first :: g.later

/-- `grouped.setdefault(candidate.dedupe_key, []).append(candidate)` -/
def appendCandidate (grouped : Table CandidateGroup.dedupeKey) (candidate : ClaimCandidate) :
    Table CandidateGroup.dedupeKey :=
  grouped.write
    (match grouped.get? candidate.dedupeKey with
      | none => ⟨candidate.dedupeKey, candidate, []⟩
      | some g => { g with later := g.later ++ [candidate] })

def groupedCandidates (results : List ServiceResult) : Table CandidateGroup.dedupeKey :=
  (results.flatMap (·.claimCandidates)).foldl appendCandidate Table.empty

/-- What an adjudication meets outside of it: the digest, the tables of characters, the texts of numbers, the
clock and the ids that are minted. -/
structure AdjudicationTooling where
  sha256 : String → String
  unicode : UnicodeTables
  floatText : Rat → Text
  clock : ℕ → Datetime
  mint : ℕ → AdjudicationIds

/-- What is recorded of one group. -/
structure GroupReceipt where
  dedupeKey : String
  evidence : List EvidenceService.EvidenceObject
  observation : Observation
  claim : Claim
  adjudication : Adjudication
  finding : Option Finding

variable (tooling : AdjudicationTooling)

def safeText (value : String) : String := String.ofList (scrubText tooling.unicode value.toList []).1

variable (engagementId targetId principalId : String) (n : ℕ) (g : CandidateGroup)

namespace CandidateGroup

def evidenceIds : List String := sortedSet (g.candidates.flatMap (·.evidenceRefs))

def contradictingIds : List String := sortedSet (g.candidates.flatMap (·.contradictingEvidenceRefs))

def services : List String := sortedSet (g.candidates.map (·.serviceId))

def standardReferences : List String := sortedSet (g.candidates.flatMap (·.standardReferences))

def sanitizedPayload (evidenceId : String) : String :=
  String.ofList (dumps false tooling.floatText (.obj
    [("evidence_id", .str (safeText tooling evidenceId)),
      ("dedupe_key", .str (safeText tooling g.dedupeKey)),
      ("service_id", .str (safeText tooling g.first.serviceId)),
      ("statement", .str (safeText tooling g.first.statement)),
      ("severity", .str g.first.severity.value), ("confidence", .str g.first.confidence.value),
      ("affected_component", .str (safeText tooling g.first.affectedComponent)),
      ("impact", .str (safeText tooling g.first.impact)),
      ("remediation", .str (safeText tooling g.first.remediation)),
      ("verification", .str (safeText tooling g.first.verification)),
      ("standard_references", .arr ((sortedSet ((g.candidates.flatMap (·.standardReferences)).map
        (safeText tooling))).map .str))]))

def evidenceObject (evidenceId : String) : EvidenceService.EvidenceObject :=
  let payload := g.sanitizedPayload tooling evidenceId
  let digest := tooling.sha256 payload
  { evidenceId
    engagementId
    targetId
    collector := g.first.serviceId
    toolVersion := "deterministic-service-0.1.0"
    capabilityId := "CAP-REPO-READONLY-INSPECTION"
    invocationId := "TI-" ++ safeSlug tooling.sha256 evidenceId
    sandboxId := none
    collectedAt := tooling.clock n
    contentType := "sanitized-observation"
    byteSize := payload.utf8ByteSize
    sha256 := digest
    storageRef := "canonical://evidence/" ++ digest
    sanitizationState := .sanitized
    sourceIdentity := "immutable-snapshot"
    sanitizedPayload := payload
    agentRunId := none
    secretObservations := [] }

def observation : Observation where
  observationId := "OB-" ++ safeSlug tooling.sha256 g.dedupeKey
  engagementId := engagementId
  evidenceIds := g.evidenceIds
  kind := "service-claim-candidate"
  statement := g.first.statement
  recordedByAgentId := g.first.serviceId
  recordedAt := tooling.clock n

/-- The claim of a group, without the note of its services. -/
def claim : Claim :=
  let impacts := sortedSet ((g.candidates.map (·.impact)).filter fun impact => decide (impact ≠ ""))
  { claimId := "CL-" ++ safeSlug tooling.sha256 g.dedupeKey
    engagementId
    agentId := g.first.serviceId
    agentRunId := "AR-" ++ safeSlug tooling.sha256 g.dedupeKey
    observationIds := [(g.observation tooling engagementId n).observationId]
    evidenceIds := g.evidenceIds
    statement := g.first.statement
    confidence := g.first.confidence
    uncertainty :=
      if impacts = [] then "service-specific context is bounded by the recorded snapshot"
      else "; ".intercalate impacts }

def adjudicationInput : AdjudicationInput where
  engagementId := engagementId
  claim := g.claim tooling engagementId n
  supportingEvidenceIds := g.evidenceIds
  contradictingEvidenceIds := g.contradictingIds
  specialistIdentity := g.first.serviceId
  toolConfidence := none
  scopeNote := "deduplicated across service outputs"
  severity := some g.first.severity
  decidedByPrincipalId := principalId

def findingOf (finding : Domain.Finding) : Finding :=
  { finding with
    findingId := "FIN-" ++ safeSlug tooling.sha256 g.dedupeKey
    contributingServices := g.services
    dedupeKey := g.dedupeKey
    affectedComponent := g.first.affectedComponent
    preconditions := sortedSet (g.candidates.flatMap (·.preconditions))
    standardReferences := g.standardReferences
    impact := g.first.impact
    remediationGuidance := g.first.remediation
    verificationStep := g.first.verification }

def receipt : Except Raised GroupReceipt := do
  let (adjudication, finding) ← AdjudicationService.adjudicate
    (g.adjudicationInput tooling engagementId principalId n) (tooling.mint n)
  return {
      dedupeKey := g.dedupeKey
      evidence := g.evidenceIds.map (g.evidenceObject tooling engagementId targetId n)
      observation := g.observation tooling engagementId n
      claim := g.claim tooling engagementId n
      adjudication
      finding := finding.map (g.findingOf tooling) }

end CandidateGroup

variable (results : List ServiceResult)

def groupReceipts : Except Raised (List GroupReceipt) :=
  (sortBy (·.dedupeKey) (groupedCandidates results).rows).zipIdx.mapM fun (g, n) =>
    g.receipt tooling engagementId targetId principalId n

def Adjudicated.ofReceipts (receipts : List GroupReceipt) : Adjudicated where
  findings := receipts.filterMap (·.finding)
  claims := receipts.map (·.claim)
  evidence := receipts.flatMap (·.evidence)
  observations := receipts.map (·.observation)
  adjudications := receipts.map (·.adjudication)

/-- `_adjudicate_with_receipts` -/
def adjudicateWithReceipts : Except Raised Adjudicated := do
  let receipts ← groupReceipts tooling engagementId targetId principalId results
  return Adjudicated.ofReceipts receipts

end Model

section Grouping

variable {grouped : Table CandidateGroup.dedupeKey} {candidate : ClaimCandidate}
  {candidates : List ClaimCandidate}

lemma exists_appendCandidate {key : String} :
    (∃ g ∈ appendCandidate grouped candidate, g.dedupeKey = key) ↔
      key = candidate.dedupeKey ∨ ∃ g ∈ grouped, g.dedupeKey = key := by
  have hkey : (match grouped.get? candidate.dedupeKey with
      | none => (⟨candidate.dedupeKey, candidate, []⟩ : CandidateGroup)
      | some g => { g with later := g.later ++ [candidate] }).dedupeKey = candidate.dedupeKey := by
    cases hg : grouped.get? candidate.dedupeKey with
    | none => rfl
    | some g => exact (Table.get?_eq_some_iff.mp hg).2
  constructor
  · rintro ⟨g, hg, rfl⟩
    rcases Table.mem_write.mp hg with rfl | ⟨hold, -⟩
    · exact Or.inl hkey
    · exact Or.inr ⟨g, hold, rfl⟩
  · rintro (rfl | ⟨g, hg, rfl⟩)
    · exact ⟨_, Table.mem_write.mpr (Or.inl rfl), hkey⟩
    · by_cases hsame : g.dedupeKey = candidate.dedupeKey
      · exact ⟨_, Table.mem_write.mpr (Or.inl rfl), hkey.trans hsame.symm⟩
      · exact ⟨g, Table.mem_write.mpr (Or.inr ⟨hg, fun h => hsame (h.trans hkey)⟩), rfl⟩

lemma exists_grouped {key : String} :
    (∃ g ∈ candidates.foldl appendCandidate grouped, g.dedupeKey = key) ↔
      (∃ c ∈ candidates, c.dedupeKey = key) ∨ ∃ g ∈ grouped, g.dedupeKey = key := by
  induction candidates generalizing grouped with
  | nil => simp
  | cons c candidates ih =>
    rw [List.foldl_cons, ih, exists_appendCandidate, List.exists_mem_cons_iff,
      @eq_comm _ key, or_left_comm, or_assoc]

end Grouping

section Slugs

/-- A part of a key: a character that a slug keeps, or a run of others. -/
inductive SlugPart where
  | kept (c : Char)
  | run
  deriving DecidableEq

namespace SlugPart

/-- The parts that may stand for a dash. -/
def Dashlike : SlugPart → Prop
  | kept c => c = '-'
  | run => True

instance : DecidablePred Dashlike
  | kept c => inferInstanceAs (Decidable (c = '-'))
  | run => isTrue trivial

/-- The same character, or a dash or a run of other characters on both sides. -/
def Alike (p q : SlugPart) : Prop := p = q ∨ p.Dashlike ∧ q.Dashlike

/-- The part spells the character. -/
def Spells (p : SlugPart) (c : Char) : Prop := p = kept c ∨ p = run ∧ c = '-'

def char : SlugPart → Char
  | kept c => c
  | run => '-'

variable {p q : SlugPart} {c : Char}

lemma char_eq_dash : p.char = '-' ↔ p.Dashlike := by
  cases p with
  | kept c => rfl
  | run => exact iff_of_true rfl trivial

lemma alike_iff : p.Alike q ↔ p.char = q.char := by
  constructor
  · rintro (rfl | ⟨hp, hq⟩)
    · rfl
    · rw [char_eq_dash.mpr hp, char_eq_dash.mpr hq]
  · intro h
    cases p with
    | run => exact Or.inr ⟨trivial, char_eq_dash.mp h.symm⟩
    | kept c =>
      cases q with
      | run => exact Or.inr ⟨char_eq_dash.mp h, trivial⟩
      | kept d => exact Or.inl (congrArg kept h)

lemma spells_iff : p.Spells c ↔ p.char = c := by
  cases p with
  | kept d => simp [Spells, char]
  | run => simp [Spells, char, eq_comm]

end SlugPart

def slugParts : List Char → List SlugPart
  | [] => []
  | c :: s =>
    if isSlugChar c then .kept c :: slugParts s
    else
      match slugParts s with
      | .run :: later => .run :: later
      | later => .run :: later

/-- The parts without those at the ends that may stand for a dash. -/
def keyParts (key : String) : List SlugPart :=
  let dashlike : SlugPart → Bool := fun p => p.Dashlike
  ((slugParts key.toList).dropWhile dashlike).reverse.dropWhile dashlike |>.reverse

/-- What is left of the parts inside a run. -/
def afterRun : List SlugPart → List SlugPart
  | .run :: later => later
  | parts => parts

lemma dashed_eq (s : List Char) : dashed false s = (slugParts s).map SlugPart.char ∧
    dashed true s = (afterRun (slugParts s)).map SlugPart.char := by
  induction s with
  | nil => exact ⟨rfl, rfl⟩
  | cons c s ih =>
    obtain ⟨hout, hin⟩ := ih
    by_cases hc : isSlugChar c = true
    · simp only [dashed, slugParts, hc, if_true, hout]
      exact ⟨rfl, rfl⟩
    · simp only [dashed, slugParts, hc, hin]
      rcases hparts : slugParts s with - | ⟨- | -, later⟩ <;> exact ⟨rfl, rfl⟩

variable {sha256 : String → String} {a b key : String} {ps qs : List SlugPart} {t : List Char}

lemma dropWhile_dash : (ps.map SlugPart.char).dropWhile (fun c => decide (c = '-')) =
    (ps.dropWhile fun p => decide p.Dashlike).map SlugPart.char := by
  have hdash : (fun c => decide (c = '-')) ∘ SlugPart.char = fun p => decide p.Dashlike :=
    funext fun p => decide_eq_decide.mpr SlugPart.char_eq_dash
  rw [List.dropWhile_map, hdash]

lemma normalized_eq :
    (((dashed false key.toList).dropWhile (fun c => decide (c = '-'))).reverse.dropWhile
      (fun c => decide (c = '-'))).reverse = (keyParts key).map SlugPart.char := by
  rw [(dashed_eq key.toList).1, dropWhile_dash, ← List.map_reverse, dropWhile_dash, ← List.map_reverse]
  rfl

variable (sha256 key) in
/-- The slug of a key that has too many parts. -/
def cutText : List Char :=
  ((keyParts key).take 45).map SlugPart.char ++ '-' :: (sha256 key).toList.take 10

variable (sha256 key) in
def slugText : List Char :=
  if keyParts key = [] then "root".toList
  else if 56 < (keyParts key).length then cutText sha256 key
  else (keyParts key).map SlugPart.char

lemma safeSlug_eq : safeSlug sha256 key = String.ofList (slugText sha256 key) := by
  simp only [safeSlug, normalized_eq, List.length_map, ← List.map_take]
  rw [slugText, ← cutText]
  by_cases hlong : 56 < (keyParts key).length
  · have hne : keyParts key ≠ [] := List.ne_nil_of_length_pos (by omega)
    have hcut : cutText sha256 key ≠ [] := List.append_ne_nil_of_right_ne_nil _ (List.cons_ne_nil _ _)
    rw [if_pos hlong, if_neg hcut, if_neg hne]
  · rw [if_neg hlong]
    by_cases hnil : keyParts key = []
    · rw [hnil]
      rfl
    · rw [if_neg hnil, if_neg fun h => hnil (List.map_eq_nil_iff.mp h)]

lemma map_char_eq_iff :
    ps.map SlugPart.char = qs.map SlugPart.char ↔ List.Forall₂ SlugPart.Alike ps qs := by
  rw [← List.forall₂_eq_eq_eq, List.forall₂_map_left_iff, List.forall₂_map_right_iff]
  simp only [← SlugPart.alike_iff]

lemma map_char_spells_iff : ps.map SlugPart.char = t ↔ List.Forall₂ SlugPart.Spells ps t := by
  rw [← List.forall₂_eq_eq_eq, List.forall₂_map_left_iff]
  simp only [← SlugPart.spells_iff]

def Nameless (key : String) : Prop :=
  keyParts key = [] ∨ List.Forall₂ SlugPart.Spells (keyParts key) "root".toList

variable (sha256 a b) in
/-- What two keys of one slug have in common. -/
inductive Confused : Prop
  | respelled (ha : (keyParts a).length ≤ 56) (hb : (keyParts b).length ≤ 56)
      (h : List.Forall₂ SlugPart.Alike (keyParts a) (keyParts b))
  | nameless (ha : Nameless a) (hb : Nameless b)
  | cut (ha : 56 < (keyParts a).length) (hb : 56 < (keyParts b).length)
      (h : List.Forall₂ SlugPart.Alike ((keyParts a).take 45) ((keyParts b).take 45))
      (hdigest : (sha256 a).toList.take 10 = (sha256 b).toList.take 10)
  | forgedRight (ha : 56 < (keyParts a).length) (hb : (keyParts b).length ≤ 56)
      (h : List.Forall₂ SlugPart.Spells (keyParts b) (cutText sha256 a))
  | forgedLeft (ha : (keyParts a).length ≤ 56) (hb : 56 < (keyParts b).length)
      (h : List.Forall₂ SlugPart.Spells (keyParts a) (cutText sha256 b))

lemma slugText_nameless (h : Nameless key) : slugText sha256 key = "root".toList := by
  rw [slugText]
  rcases h with hnil | hroot
  · rw [if_pos hnil]
  · have hlength := hroot.length_eq
    have hshort : ¬ 56 < (keyParts key).length := by
      rw [hlength]
      decide
    rw [if_neg hshort, map_char_spells_iff.mpr hroot]
    split
    · rfl
    · rfl

lemma slugText_long (h : 56 < (keyParts key).length) : slugText sha256 key = cutText sha256 key := by
  have hne : keyParts key ≠ [] := List.ne_nil_of_length_pos (by omega)
  rw [slugText, if_neg hne, if_pos h]

lemma slugText_short (h : (keyParts key).length ≤ 56) (hne : keyParts key ≠ []) :
    slugText sha256 key = (keyParts key).map SlugPart.char := by
  rw [slugText, if_neg hne, if_neg (by omega)]

variable (sha256 key) in
lemma cutText_length : 46 ≤ (cutText sha256 key).length ∨ (keyParts key).length < 45 := by
  rw [cutText, List.length_append, List.length_map, List.length_take, List.length_cons]
  omega

/-- The text of a cut slug is not that of a key without a name. -/
lemma cutText_ne_root (h : 56 < (keyParts key).length) : cutText sha256 key ≠ "root".toList := by
  intro hroot
  have hlength := congrArg List.length hroot
  have hfour : "root".toList.length = 4 := rfl
  have hlong := cutText_length sha256 key
  omega

lemma cutText_eq_iff (ha : 56 < (keyParts a).length) (hb : 56 < (keyParts b).length) :
    cutText sha256 a = cutText sha256 b ↔
      List.Forall₂ SlugPart.Alike ((keyParts a).take 45) ((keyParts b).take 45) ∧
        (sha256 a).toList.take 10 = (sha256 b).toList.take 10 := by
  rw [← map_char_eq_iff, cutText, cutText]
  constructor
  · intro h
    have hlengths : (((keyParts a).take 45).map SlugPart.char).length =
        (((keyParts b).take 45).map SlugPart.char).length := by
      simp only [List.length_map, List.length_take]
      omega
    obtain ⟨hfirst, hlast⟩ := List.append_inj h hlengths
    exact ⟨hfirst, (List.cons.inj hlast).2⟩
  · rintro ⟨hfirst, hlast⟩
    rw [hfirst, hlast]

/-- A short key has the slug of a cut one where it spells it. -/
lemma slugText_forged_iff (ha : (keyParts a).length ≤ 56) (hb : 56 < (keyParts b).length) :
    slugText sha256 a = slugText sha256 b ↔
      List.Forall₂ SlugPart.Spells (keyParts a) (cutText sha256 b) := by
  rw [slugText_long hb, ← map_char_spells_iff]
  by_cases hnil : keyParts a = []
  · rw [slugText_nameless (Or.inl hnil), hnil]
    refine iff_of_false (fun h => cutText_ne_root hb h.symm) fun h => ?_
    exact List.append_ne_nil_of_right_ne_nil _ (List.cons_ne_nil _ _) h.symm
  · rw [slugText_short ha hnil]

lemma slugText_short_iff (ha : (keyParts a).length ≤ 56) (hb : (keyParts b).length ≤ 56) :
    slugText sha256 a = slugText sha256 b ↔
      List.Forall₂ SlugPart.Alike (keyParts a) (keyParts b) ∨ Nameless a ∧ Nameless b := by
  by_cases hanil : keyParts a = []
  · rw [slugText_nameless (Or.inl hanil)]
    by_cases hbnil : keyParts b = []
    · rw [slugText_nameless (Or.inl hbnil)]
      exact iff_of_true rfl (Or.inr ⟨Or.inl hanil, Or.inl hbnil⟩)
    · rw [slugText_short hb hbnil, eq_comm, map_char_spells_iff, hanil]
      constructor
      · exact fun h => Or.inr ⟨Or.inl hanil, Or.inr h⟩
      · rintro (h | ⟨-, hnil | h⟩)
        · exact absurd (List.forall₂_nil_left_iff.mp h) hbnil
        · exact absurd hnil hbnil
        · exact h
  · rw [slugText_short ha hanil]
    by_cases hbnil : keyParts b = []
    · rw [slugText_nameless (Or.inl hbnil), map_char_spells_iff, hbnil]
      constructor
      · exact fun h => Or.inr ⟨Or.inr h, Or.inl hbnil⟩
      · rintro (h | ⟨hnil | h, -⟩)
        · exact absurd (List.forall₂_nil_right_iff.mp h) hanil
        · exact absurd hnil hanil
        · exact h
    · rw [slugText_short hb hbnil, map_char_eq_iff]
      constructor
      · exact Or.inl
      · rintro (h | ⟨hna | hsa, hnb | hsb⟩)
        · exact h
        · exact absurd hna hanil
        · exact absurd hna hanil
        · exact absurd hnb hbnil
        · rw [← map_char_eq_iff, map_char_spells_iff.mpr hsa, map_char_spells_iff.mpr hsb]

/-- The slugs of two keys are equal exactly where the keys are confused. -/
lemma safeSlug_eq_iff : safeSlug sha256 a = safeSlug sha256 b ↔ Confused sha256 a b := by
  rw [safeSlug_eq, safeSlug_eq, String.ofList_inj]
  have hnames : ∀ {key}, Nameless key → (keyParts key).length ≤ 56 := by
    rintro key (hnil | hroot)
    · rw [hnil]
      decide
    · rw [hroot.length_eq]
      decide
  rcases Nat.lt_or_ge 56 (keyParts a).length with ha | ha <;>
    rcases Nat.lt_or_ge 56 (keyParts b).length with hb | hb
  · rw [slugText_long ha, slugText_long hb, cutText_eq_iff ha hb]
    constructor
    · exact fun h => .cut ha hb h.1 h.2
    · rintro (⟨h, -, -⟩ | ⟨h, -⟩ | ⟨-, -, h, hdigest⟩ | ⟨-, h, -⟩ | ⟨h, -, -⟩)
      · omega
      · exact absurd (hnames h) (by omega)
      · exact ⟨h, hdigest⟩
      · omega
      · omega
  · rw [eq_comm, slugText_forged_iff hb ha]
    constructor
    · exact fun h => .forgedRight ha hb h
    · rintro (⟨h, -, -⟩ | ⟨h, -⟩ | ⟨-, h, -, -⟩ | ⟨-, -, h⟩ | ⟨h, -, -⟩)
      · omega
      · exact absurd (hnames h) (by omega)
      · omega
      · exact h
      · omega
  · rw [slugText_forged_iff ha hb]
    constructor
    · exact fun h => .forgedLeft ha hb h
    · rintro (⟨-, h, -⟩ | ⟨-, h⟩ | ⟨h, -, -, -⟩ | ⟨h, -, -⟩ | ⟨-, -, h⟩)
      · omega
      · exact absurd (hnames h) (by omega)
      · omega
      · omega
      · exact h
  · rw [slugText_short_iff ha hb]
    constructor
    · rintro (h | ⟨hna, hnb⟩)
      · exact .respelled ha hb h
      · exact .nameless hna hnb
    · rintro (⟨-, -, h⟩ | ⟨hna, hnb⟩ | ⟨h, -, -, -⟩ | ⟨h, -, -⟩ | ⟨-, h, -⟩)
      · exact Or.inl h
      · exact Or.inr ⟨hna, hnb⟩
      · omega
      · omega
      · omega

end Slugs

section Identity

variable (tooling : AdjudicationTooling) (engagementId targetId principalId : String)
  (results : List ServiceResult)

/-- The ids of the groups of different keys are different. -/
def IdsApart (receipts : List GroupReceipt) : Prop :=
  ∀ r ∈ receipts, ∀ r' ∈ receipts, r.dedupeKey ≠ r'.dedupeKey →
    r.observation.observationId ≠ r'.observation.observationId ∧ r.claim.claimId ≠ r'.claim.claimId ∧
      ∀ f ∈ r.finding, ∀ f' ∈ r'.finding, f.findingId ≠ f'.findingId

def dedupeKeys : List String := results.flatMap fun result => result.claimCandidates.map (·.dedupeKey)

/-- The ids of a receipt are those of the slug of its key. -/
structure Slugged (r : GroupReceipt) : Prop where
  observation : r.observation.observationId = "OB-" ++ safeSlug tooling.sha256 r.dedupeKey
  claim : r.claim.claimId = "CL-" ++ safeSlug tooling.sha256 r.dedupeKey
  finding : ∀ f ∈ r.finding, f.findingId = "FIN-" ++ safeSlug tooling.sha256 r.dedupeKey

variable {tooling engagementId targetId principalId results} {g : CandidateGroup} {n : ℕ}
  {receipts : List GroupReceipt} {r : GroupReceipt}

/-- A claim of its engagement is adjudicated where a severity is given. -/
lemma adjudicate_isOk {i : AdjudicationInput} {severity : Severity} (ids : AdjudicationIds)
    (hengagement : i.claim.engagementId = i.engagementId) (hseverity : i.severity = some severity) :
    ∃ r, AdjudicationService.adjudicate i ids = .ok r := by
  simp only [AdjudicationService.adjudicate, raiseIf_bind_eq_ok, hseverity]
  by_cases hverdict : (AdjudicationService.adjudicationOf i ids).verdict = .confirmed ∨
      (AdjudicationService.adjudicationOf i ids).verdict = .supported
  · rw [if_pos hverdict]
    exact ⟨_, not_not.mpr hengagement, rfl⟩
  · rw [if_neg hverdict]
    exact ⟨_, not_not.mpr hengagement, rfl⟩

lemma CandidateGroup.receipt_isOk : ∃ r, g.receipt tooling engagementId targetId principalId n = .ok r := by
  obtain ⟨⟨adjudication, finding⟩, h⟩ := @adjudicate_isOk
    (g.adjudicationInput tooling engagementId principalId n) g.first.severity (tooling.mint n) rfl rfl
  exact ⟨_, bind_eq_ok.mpr ⟨_, h, rfl⟩⟩

lemma CandidateGroup.receipt_slugged (h : g.receipt tooling engagementId targetId principalId n = .ok r) :
    r.dedupeKey = g.dedupeKey ∧ Slugged tooling r := by
  obtain ⟨⟨adjudication, finding⟩, -, h⟩ := bind_eq_ok.mp h
  obtain rfl := Except.ok.inj h
  refine ⟨rfl, rfl, rfl, fun f hf => ?_⟩
  obtain ⟨found, -, rfl⟩ := Option.map_eq_some_iff.mp hf
  rfl

variable (tooling engagementId targetId principalId results) in
lemma groupReceipts_isOk : ∃ receipts,
    groupReceipts tooling engagementId targetId principalId results = .ok receipts :=
  mapM_isOk.mpr fun _ _ => CandidateGroup.receipt_isOk

lemma mem_dedupeKeys {key : String} :
    key ∈ dedupeKeys results ↔ ∃ c ∈ results.flatMap (·.claimCandidates), c.dedupeKey = key := by
  simp only [dedupeKeys, List.mem_flatMap, List.mem_map]
  constructor
  · rintro ⟨result, hresult, c, hc, rfl⟩
    exact ⟨c, ⟨result, hresult, hc⟩, rfl⟩
  · rintro ⟨c, ⟨result, hresult, hc⟩, rfl⟩
    exact ⟨result, hresult, c, hc, rfl⟩

section Receipts

variable (h : groupReceipts tooling engagementId targetId principalId results = .ok receipts)

include h

lemma receipts_slugged : ∀ r ∈ receipts, Slugged tooling r := by
  intro r hr
  obtain ⟨⟨g, n⟩, -, hreceipt⟩ := (mapM_eq_ok h).2 r hr
  exact (CandidateGroup.receipt_slugged hreceipt).2

lemma receipts_keys : receipts.map (·.dedupeKey) =
    (sortBy (·.dedupeKey) (groupedCandidates results).rows).map (·.dedupeKey) := by
  rw [mapM_map_eq h fun p r hr => (CandidateGroup.receipt_slugged hr).1]
  have hfst := congrArg (List.map CandidateGroup.dedupeKey)
    (List.zipIdx_map_fst 0 (sortBy (·.dedupeKey) (groupedCandidates results).rows))
  rwa [List.map_map] at hfst

/-- There is one receipt for each key. -/
lemma receipts_nodup : (receipts.map (·.dedupeKey)).Nodup := by
  rw [receipts_keys h]
  exact (sortBy_perm.map _).nodup_iff.mpr (groupedCandidates results).nodup

lemma exists_receipt {key : String} :
    (∃ r ∈ receipts, r.dedupeKey = key) ↔ key ∈ dedupeKeys results := by
  rw [← List.mem_map, receipts_keys h, (sortBy_perm.map _).mem_iff, mem_dedupeKeys, List.mem_map]
  exact exists_grouped.trans (or_iff_left nofun)

lemma confused_not_apart {a b : String} (ha : a ∈ dedupeKeys results) (hb : b ∈ dedupeKeys results)
    (hne : a ≠ b) (hsame : safeSlug tooling.sha256 a = safeSlug tooling.sha256 b) :
    ¬ IdsApart receipts := by
  intro happart
  obtain ⟨r, hr, rfl⟩ := (exists_receipt h).mpr ha
  obtain ⟨r', hr', rfl⟩ := (exists_receipt h).mpr hb
  obtain ⟨hobservation, -⟩ := happart r hr r' hr' hne
  apply hobservation
  rw [(receipts_slugged h r hr).observation, (receipts_slugged h r' hr').observation, hsame]

end Receipts

/-- The groups of different keys have different ids exactly where no two of the keys are confused. -/
theorem groups_told_apart_iff (tooling : AdjudicationTooling)
    (engagementId targetId principalId : String) (results : List ServiceResult) :
    ∃ receipts, groupReceipts tooling engagementId targetId principalId results = .ok receipts ∧
      adjudicateWithReceipts tooling engagementId targetId principalId results =
        .ok (Adjudicated.ofReceipts receipts) ∧
      (receipts.map (·.dedupeKey)).Nodup ∧
      (∀ key, (∃ r ∈ receipts, r.dedupeKey = key) ↔ key ∈ dedupeKeys results) ∧
      (IdsApart receipts ↔ ∀ a ∈ dedupeKeys results, ∀ b ∈ dedupeKeys results, a ≠ b →
        ¬ Confused tooling.sha256 a b) := by
  obtain ⟨receipts, h⟩ := groupReceipts_isOk tooling engagementId targetId principalId results
  refine ⟨receipts, h, bind_eq_ok.mpr ⟨_, h, rfl⟩, receipts_nodup h, fun key => exists_receipt h, ?_⟩
  constructor
  · intro happart a ha b hb hne hconfused
    exact confused_not_apart h ha hb hne (safeSlug_eq_iff.mpr hconfused) happart
  · intro hclear r hr r' hr' hne
    have hslugs : safeSlug tooling.sha256 r.dedupeKey ≠ safeSlug tooling.sha256 r'.dedupeKey := by
      intro hsame
      exact hclear _ ((exists_receipt h).mp ⟨r, hr, rfl⟩) _ ((exists_receipt h).mp ⟨r', hr', rfl⟩) hne
        (safeSlug_eq_iff.mp hsame)
    have hids := receipts_slugged h r hr
    have hids' := receipts_slugged h r' hr'
    refine ⟨?_, ?_, fun f hf f' hf' => ?_⟩
    · rw [hids.observation, hids'.observation, Ne, String.append_right_inj]
      exact hslugs
    · rw [hids.claim, hids'.claim, Ne, String.append_right_inj]
      exact hslugs
    · rw [hids.finding f hf, hids'.finding f' hf', Ne, String.append_right_inj]
      exact hslugs

section Example

def debugCandidate (path evidenceId : String) : ClaimCandidate where
  serviceId := "APPSEC"
  dedupeKey := "debug-enabled:" ++ path ++ ":3"
  statement := "Debug mode is configured true at " ++ path ++ ":3; deployment state is not established."
  evidenceRefs := [evidenceId]
  severity := .medium
  confidence := .high
  affectedComponent := path
  preconditions := []
  impact := "Verbose errors or debug behavior may disclose implementation details if enabled in deployment."
  remediation := "Disable debug mode in release configuration and add a deployment assertion."
  verification := "Inspect release configuration and verify the running service reports debug disabled."
  standardReferences := ["ASVS 5.0.0"]
  contradictingEvidenceRefs := []

/-- Debug mode in two files, one of them in a directory. -/
def debugResults : List ServiceResult :=
  [⟨"APPSEC", .completed,
    [debugCandidate "a/b.py" "EVD-a624ee8f06e4abcb0ab9", debugCandidate "a-b.py" "EVD-1013c21e7d973ecd8c00"], [], []⟩]

theorem slashed_path_collides :
    ¬ ∃ tooling receipts,
      groupReceipts tooling "EN-1" "TG-1" "U-1" debugResults = .ok receipts ∧ IdsApart receipts := by
  rintro ⟨tooling, receipts, h, happart⟩
  have hkeys : dedupeKeys debugResults = ["debug-enabled:a/b.py:3", "debug-enabled:a-b.py:3"] := by
    decide +kernel
  refine @confused_not_apart _ _ _ _ _ _ h "debug-enabled:a/b.py:3" "debug-enabled:a-b.py:3" ?_ ?_ ?_ ?_
    happart
  · rw [hkeys]
    exact List.mem_cons_self
  · rw [hkeys]
    exact List.mem_cons_of_mem _ List.mem_cons_self
  · decide
  · apply safeSlug_eq_iff.mpr
    refine .respelled (by decide) (by decide) (map_char_eq_iff.mp ?_)
    decide +kernel

end Example

end Identity

end SecScanMonitor.Application.Firm
