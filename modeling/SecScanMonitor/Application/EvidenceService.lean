import SecScanMonitor.Application.EngagementService
import SecScanMonitor.Domain.Authority
import SecScanMonitor.Foundations.Dict
import SecScanMonitor.Sanitize.Filters

/-! Ingestion of evidence with its redaction (`application/evidence_service.py`), into a store that is
addressed by the digests of its contents (`evidence/__init__.py`). -/

namespace SecScanMonitor.Application

open Foundations Domain Sanitize Foundations.Regex

namespace EvidenceService

inductive SanitizationState where
  | unsanitized
  | sanitized
  | redacted
  | noneRequired
  deriving Repr, DecidableEq

def SanitizationState.value : SanitizationState → String
  | .unsanitized => "unsanitized"
  | .sanitized => "sanitized"
  | .redacted => "redacted"
  | .noneRequired => "none_required"

inductive SecretClass where
  | apiKey
  | password
  | privateKey
  | token
  | recoveryKey
  | recoveryCode
  | enrollmentSecret
  | clientCredential
  | other
  deriving Repr, DecidableEq

structure SecretObservation where
  secretClass : SecretClass
  redactedLocation : String
  safeFingerprint : Option String
  evidenceId : String
  detectionSource : String
  deriving Repr, DecidableEq

structure EvidenceObject where
  evidenceId : String
  engagementId : String
  targetId : String
  collector : String
  toolVersion : String
  capabilityId : String
  invocationId : String
  sandboxId : Option String
  collectedAt : Datetime
  contentType : String
  byteSize : ℕ
  sha256 : String
  storageRef : String
  sanitizationState : SanitizationState
  sourceIdentity : String
  sanitizedPayload : String
  agentRunId : Option String
  secretObservations : List SecretObservation
  deriving DecidableEq

section Patterns

variable (u : UnicodeTables)

def keyLabel : Regex := seq (plus labelChar) (text "PRIVATE KEY-----")

def privateKeyFooter : Regex := seq (text "-----END ") keyLabel

/-- From a header to the first footer, over the ends of lines. -/
def privateKeyBlock : Regex :=
  sequence [privateKeyHeader, star false (one fun _ => true), privateKeyFooter]

/-- `[0-9A-Z]` -/
def upperOrDigit : Regex := one fun c => c.isUpper || c.isDigit

def accessKey : Regex := sequence [edge u, text "AKIA", times 16 upperOrDigit, edge u]

/-- `[A-Za-z0-9_-]{10,}` -/
def tokenPart : Regex := atLeast 10 (exactAlnumOr "_-")

def webToken : Regex := sequence
  [edge u, text "eyJ", tokenPart, text ".", tokenPart, text ".", tokenPart, edge u]

def slackToken : Regex := sequence
  [edge u, text "xox", one (among "bap"), text "-", atLeast 10 (exactAlnumOr "-"), edge u]

def googleKeyPart : Regex := seq (text "AIza") (atLeast 20 (exactAlnumOr "_-"))

/-- `[^\n]` -/
def inLine : Regex := one fun c => c ≠ '\n'

def recoveryLine : Regex :=
  sequence [anyCase "bitlocker", star true inLine, anyCase "recovery", upTo 80 inLine]

def personalToken : Regex := sequence [edge u, anyCase "ghp_", atLeast 20 (alnumOr "")]

def passwordNames : List Regex := [anyCase "password", anyCase "passwd", anyCase "pwd"]

def keyNames : List Regex := [apiKey, anyCase "apikey", anyCase "secret", anyCase "token"]

/-- `\b[a-z0-9_]*(names)\s*[:=]` -/
def assignment (names : List Regex) : Regex := sequence
  [edge u, star true (alnumOr "_"), oneOf names, star true space, one (among ":=")]

def assignedSecret : Regex := sequence
  [assignment u (passwordNames ++ keyNames), star true space, optOf "\"'",
    atLeast 12 (alnumOr "+/._-"), optOf "\"'"]

/-- `_SECRET_PATTERNS` -/
def secretPatterns : List Regex :=
  [privateKeyBlock, privateKeyHeader, accessKey u, webToken u, slackToken u, googleKeyPart,
    githubToken, recoveryLine, secretKey u, personalToken u, assignedSecret u]

/-- `_SECRET_CLASS_HINTS` -/
def secretClassHints : List (Regex × SecretClass) :=
  [(privateKeyHeader, .privateKey), (accessKey u, .apiKey),
    (sequence [edge u, text "eyJ", tokenPart, text ".", tokenPart, text "."], .token),
    (sequence [edge u, text "xox", one (among "bap"), text "-"], .token),
    (googleKeyPart, .apiKey), (anyCase "github_pat_", .token),
    (sequence [anyCase "bitlocker", star true inLine, anyCase "recovery"], .password),
    (seq (edge u) (anyCase "sk-"), .apiKey), (seq (edge u) (anyCase "ghp_"), .token),
    (assignment u passwordNames, .password), (assignment u keyNames, .apiKey)]

/-- `^[A-Za-z0-9+/=]{40,}$` in every line -/
def encodedLine : Regex := sequence
  [look fun l _ => l.all (· = '\n'), atLeast 40 (exactAlnumOr "+/="), look fun _ n => n.all (· = '\n')]

/-- `_REDACTION_PATTERNS` -/
def redactionPatterns : List Regex := [privateKeyBlock, privateKeyFooter, encodedLine]

end Patterns

section Detect

def isLineBreak (c : Char) : Bool :=
  (10 ≤ c.toNat && c.toNat ≤ 13) || (28 ≤ c.toNat && c.toNat ≤ 30) || c.toNat = 0x85 ||
    c.toNat = 0x2028 || c.toNat = 0x2029

/-- `str.splitlines`, of which the last line read is kept in reverse. -/
def splitLinesFrom : Text → Text → List Text
  | line, [] => if line = [] then [] else [line.reverse]
  | line, '\r' :: '\n' :: cs => line.reverse :: splitLinesFrom [] cs
  | line, c :: cs =>
    if isLineBreak c then line.reverse :: splitLinesFrom [] cs else splitLinesFrom (c :: line) cs

variable (u : UnicodeTables)

/-- `_detect_secrets` -/
def detectSecrets (t : Text) (evidenceId : String) : List SecretObservation :=
  ((splitLinesFrom [] t).zipIdx 1).filterMap fun line =>
    ((secretClassHints u).find? fun hint => hint.1.search line.1).map fun hint =>
      { secretClass := hint.2
        redactedLocation := s!"line:{line.2} [REDACTED]"
        safeFingerprint := none
        evidenceId
        detectionSource := "secscan-platform-secret-detector" }

def redactedSecret : Text := "<REDACTED:secret>".toList

/-- `_redact_secret_values` -/
def redactSecretValues (t : Text) : Text :=
  (secretPatterns u ++ redactionPatterns).foldl (fun t pattern => pattern.subst redactedSecret t) t

def containsSecretLike (t : Text) (evidenceId : String) : Bool :=
  !(detectSecrets u t evidenceId).isEmpty || textContainsSecret u t

/-- What is left of a text. -/
def scrubbed (t : Text) : Text := redactSecretValues u (scrubText u t []).1

/-- `_looks_textual` -/
def looksTextual (contentType : String) : Bool :=
  "text/".toList.isPrefixOf contentType.toList || decide ("json".toList <:+: contentType.toList) ||
    decide ("yaml".toList <:+: contentType.toList)

end Detect

section Ingest

abbrev Bytes := List UInt8

/-- UTF-8, where a decoder puts replacement characters for what is no UTF-8. -/
structure Utf8 where
  encode : Text → Bytes
  decode : Bytes → Text
  decode_encode : ∀ t, decode (encode t) = t

structure IngestRequest where
  evidenceId : String
  auditEventId : String
  engagementId : String
  targetId : String
  principalId : String
  collector : String
  toolVersion : String
  capabilityId : String
  invocationId : String
  content : Bytes
  contentType : String
  sandboxId : Option String
  sourceIdentity : String
  collectedAt : Datetime

/-- The blobs of the evidence store, and the ledger of the audit sink. -/
structure State where
  blobs : Dict String Bytes
  audit : List EngagementService.AuditEvent

variable (u : UnicodeTables) (utf8 : Utf8) (sha256 : Bytes → String)

/-- What of a content is stored. -/
def storedContent (request : IngestRequest) : Bytes :=
  let t := utf8.decode request.content
  if containsSecretLike u t request.evidenceId then utf8.encode (scrubbed u t) else request.content

def sanitizationStateOf (request : IngestRequest) : SanitizationState :=
  if containsSecretLike u (utf8.decode request.content) request.evidenceId then .redacted
  else if looksTextual request.contentType then .sanitized
  else .unsanitized

/-- `put`: a blob that is there already is kept. -/
def put (content : Bytes) (blobs : Dict String Bytes) : String × Dict String Bytes :=
  let address := sha256 content
  (address, if (blobs.find? address).isSome then blobs else blobs.set address content)

def ingest (request : IngestRequest) (state : State) : EvidenceObject × State :=
  let stored := storedContent u utf8 request
  let sanitizationState := sanitizationStateOf u utf8 request
  let observations := detectSecrets u (utf8.decode request.content) request.evidenceId
  let (storageRef, blobs) := put sha256 stored state.blobs
  let event : EngagementService.AuditEvent :=
    { auditEventId := request.auditEventId
      engagementId := some request.engagementId
      principalId := some request.principalId
      kind := .evidenceIngestion
      summary := s!"evidence {request.evidenceId} ingested ({sanitizationState.value})"
      details := [("sha256", storageRef), ("byte_size", toString stored.length),
        ("collector", request.collector), ("tool_version", request.toolVersion),
        ("sanitization_state", sanitizationState.value),
        ("secret_observations", toString observations.length)] }
  ({ evidenceId := request.evidenceId
     engagementId := request.engagementId
     targetId := request.targetId
     collector := request.collector
     toolVersion := request.toolVersion
     capabilityId := request.capabilityId
     invocationId := request.invocationId
     sandboxId := request.sandboxId
     collectedAt := request.collectedAt
     contentType := request.contentType
     byteSize := stored.length
     sha256 := storageRef
     storageRef
     sanitizationState
     sourceIdentity := request.sourceIdentity
     sanitizedPayload := ""
     agentRunId := none
     secretObservations := observations }, ⟨blobs, state.audit ++ [event]⟩)

variable {sha256} in
/-- A content whose address is free is the blob that its evidence refers to. -/
lemma ingest_stores {request : IngestRequest} {state : State}
    (h : state.blobs.find? (sha256 (storedContent u utf8 request)) = none) :
    (ingest u utf8 sha256 request state).2.blobs.find?
      (ingest u utf8 sha256 request state).1.storageRef = some (storedContent u utf8 request) := by
  simp [ingest, put, h]

end Ingest

end EvidenceService

end SecScanMonitor.Application
