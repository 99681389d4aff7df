import SecScanMonitor.DetectionResponse.Records

/-! How a rule's predicates are matched against an event (`_field_value`, `_value_matches`,
`_validate_predicates` and `_matches` of `detection_response/engine.py`). -/

namespace SecScanMonitor.DetectionResponse

open Foundations Domain ContinuousSecurity

section Glob

/-- The parts of a shell pattern. -/
inductive GlobPart where
  | star
  | any
  | char (c : Char)
  | set (negated : Bool) (body : List Char)
  deriving Repr, DecidableEq

/-- The members of a bracket expression: ranges and single characters. -/
def inClass (x : Char) : List Char → Bool
  | c :: '-' :: d :: rest => (c ≤ x && x ≤ d) || inClass x rest
  | c :: rest => x = c || inClass x rest
  | [] => false

/-- Split a bracket expression from what follows it. A `]` that comes first belongs to it. -/
def splitClass (cs : List Char) : Option (Bool × List Char × List Char) :=
  let (negated, cs) := match cs with
    | '!' :: cs => (true, cs)
    | cs => (false, cs)
  let (lead, cs) := match cs with
    | ']' :: cs => ([']'], cs)
    | cs => ([], cs)
  match cs.dropWhile (· ≠ ']') with
  | [] => none
  | _ :: rest => some (negated, lead ++ cs.takeWhile (· ≠ ']'), rest)

/-- The parts of a pattern, read in at most `n` parts. -/
def globParts : ℕ → List Char → List GlobPart
  | 0, _ => []
  | _, [] => []
  | n + 1, '*' :: cs => .star :: globParts n cs
  | n + 1, '?' :: cs => .any :: globParts n cs
  | n + 1, '[' :: cs =>
    match splitClass cs with
    | none => .char '[' :: globParts n cs
    | some (negated, body, rest) => .set negated body :: globParts n rest
  | n + 1, c :: cs => .char c :: globParts n cs

def starMatches (k : List Char → Bool) : List Char → Bool
  | [] => k []
  | c :: cs => k (c :: cs) || starMatches k cs

def globMatches : List GlobPart → List Char → Bool
  | [], cs => cs.isEmpty
  | .star :: parts, cs => starMatches (globMatches parts) cs
  | .any :: parts, _ :: cs => globMatches parts cs
  | .char c :: parts, d :: cs => c = d && globMatches parts cs
  | .set negated body :: parts, d :: cs => (inClass d body != negated) && globMatches parts cs
  | _ :: _, [] => false

/-- `fnmatch.fnmatchcase` -/
def fnmatchcase (name pattern : String) : Bool :=
  globMatches (globParts pattern.length pattern.toList) name.toList

end Glob

def aliases (event : SecurityEvent) : List (String × Value) :=
  [("event_id", .str event.eventId), ("event.class", .str event.eventClass.value),
    ("event_class", .str event.eventClass.value), ("source", .str event.source),
    ("source_type", .str event.sourceType), ("source_family", .str event.sourceFamily),
    ("ocsf_class", .str event.ocsfClass), ("ocsf_version", .str event.ocsfVersion),
    ("tenant", .str event.scope.tenantId), ("case", .str event.scope.caseId),
    ("target", .str event.scope.targetId), ("actor", .str event.actor), ("user", .str event.actor),
    ("object", .str event.objectRef), ("object_ref", .str event.objectRef),
    ("action", .str event.action), ("outcome", .str event.outcome),
    ("severity", match event.severity with
      | none => .null
      | some severity => .str severity),
    ("raw_evidence_ref", .str event.rawEvidenceRef)]

/-- Follow a path into a document; `None` where it leads nowhere. -/
def follow : List String → Value → Value
  | [], current => current
  | part :: parts, current =>
    match current.member? part with
    | some next => follow parts next
    | none => .null

def fieldValue (event : SecurityEvent) (field : String) : Value :=
  match (aliases event).lookup field with
  | some v => v
  | none => follow ((field.toList.splitOn '.').map String.ofList) (.obj event.attributes)

section Values

variable (render : Value → String)

/-- `str(v)`, where `render` is the text of a fractional number and of a container. -/
def text : Value → String
  | .str s => s
  | .int n => toString n
  | .bool b => if b then "True" else "False"
  | .null => "None"
  | v => render v

/-- The comparison of two values that are not lists. -/
def textMatches (actual expected : Value) (operator : Option String) : Bool :=
  let actualText := text render actual
  let expectedText := text render expected
  if operator = some "contains" then decide (expectedText.toList <:+: actualText.toList)
  else if operator = some "startswith" then decide (expectedText.toList <+: actualText.toList)
  else if operator = some "endswith" then decide (expectedText.toList <:+ actualText.toList)
  else if '*' ∈ expectedText.toList ∨ '?' ∈ expectedText.toList then
    fnmatchcase actualText expectedText
  else actual.pyEq expected || actualText = expectedText

mutual

/-- `expected` is not a list. -/
def actualMatches (expected : Value) (operator : Option String) : Value → Bool
  | .null => if operator = some "exists" then !expected.truthy else false
  | .arr items =>
    if operator = some "exists" then expected.truthy else anyActualMatches expected operator items
  | actual =>
    if operator = some "exists" then expected.truthy else textMatches render actual expected operator

def anyActualMatches (expected : Value) (operator : Option String) : List Value → Bool
  | [] => false
  | v :: vs => actualMatches expected operator v || anyActualMatches expected operator vs

end

mutual

def valueMatches (actual : Value) (operator : Option String) : (expected : Value) → Bool
  | .arr items => anyValueMatches actual operator items
  | expected => actualMatches render expected operator actual

def anyValueMatches (actual : Value) (operator : Option String) : List Value → Bool
  | [] => false
  | v :: vs => valueMatches actual operator v || anyValueMatches actual operator vs

end

/-- `raw_field.rsplit("|", 1)` -/
def rsplitBar (s : String) : String × String :=
  let reversed := s.toList.reverse
  (String.ofList ((reversed.dropWhile (· ≠ '|')).drop 1).reverse,
    String.ofList (reversed.takeWhile (· ≠ '|')).reverse)

def isScalar : Value → Bool
  | .str _ | .int _ | .float _ | .bool _ => true
  | _ => false

def validatePredicate (rawField : String) (expected : Value) : Except Raised Unit := do
  raiseIf (isBlank rawField) .detectionInputError "predicate fields must be non-empty strings"
  raiseIf ('|' ∈ rawField.toList ∧ (isBlank (rsplitBar rawField).1 ∨
      (rsplitBar rawField).2 ∉ ["contains", "startswith", "endswith"])) .detectionInputError
      "unsupported predicate modifier"
  match expected with
  | .obj _ => raise .detectionInputError "nested predicate values are not supported"
  | .arr items =>
    raiseIf (items.isEmpty ∨ items.any (!isScalar ·)) .detectionInputError
        "predicate lists must contain scalar values"
  | v =>
    raiseIf (isScalar v = false) .detectionInputError
        "predicate values must be scalar or scalar lists"

def validatePredicates : List (String × Value) → Except Raised Unit
  | [] => .ok ()
  | (rawField, expected) :: predicates => do
    validatePredicate rawField expected
    validatePredicates predicates

lemma validatePredicates_eq_ok {predicates : List (String × Value)} :
    validatePredicates predicates = .ok () ↔
      ∀ p ∈ predicates, validatePredicate p.1 p.2 = .ok () := by
  induction predicates with
  | nil => simp [validatePredicates]
  | cons p predicates ih =>
    rw [validatePredicates, bind_eq_ok, List.forall_mem_cons, ← ih]
    constructor
    · rintro ⟨u, hp, hps⟩
      exact ⟨hp, hps⟩
    · rintro ⟨hp, hps⟩
      exact ⟨(), hp, hps⟩

def predicateMatches (event : SecurityEvent) (rawField : String) (expected : Value) : Bool :=
  if '|' ∈ rawField.toList then
    valueMatches render (fieldValue event (rsplitBar rawField).1) (some (rsplitBar rawField).2) expected
  else valueMatches render (fieldValue event rawField) none expected

/-- Whether every predicate holds of the event, and the fields that did. -/
def matchesEvent (event : SecurityEvent) (predicates : List (String × Value)) :
    Except Raised (Bool × List String) := do
  validatePredicates predicates
  if predicates.all fun p => predicateMatches render event p.1 p.2 then
    return (true, predicates.map Prod.fst)
  else return (false, [])

end Values

example : fnmatchcase "powershell.exe" "power*.[a-f]?e" = true := by decide

end SecScanMonitor.DetectionResponse
