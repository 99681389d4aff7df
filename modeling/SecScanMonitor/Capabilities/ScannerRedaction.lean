import SecScanMonitor.Foundations.Views
import SecScanMonitor.Sanitize.JsonText

/-! The sanitized output of a scanner (`capabilities/scanner_adapters.py`). -/

namespace SecScanMonitor.Capabilities

open Foundations Domain Sanitize Foundations.Regex

section Patterns

variable (u : UnicodeTables)

def privateKeyHead : List Regex := [text "-----BEGIN ", plus labelChar, text "PRIVATE KEY-----"]

def privateKeyFoot : List Regex := [text "-----END ", plus labelChar, text "PRIVATE KEY-----"]

/-- `.*?` reads lines as well. -/
def privateKeyBlock : Regex := sequence (privateKeyHead ++ star false (one fun _ => true) :: privateKeyFoot)

def secretName : Regex :=
  oneOf [apiKey, sequence [anyCase "access", optOf "_-", anyCase "token"],
    sequence [anyCase "client", optOf "_-", anyCase "secret"], anyCase "password", anyCase "secret",
    anyCase "authorization"]

def secretAssignment : Regex :=
  sequence [secretName, star true space, one (among ":="), star true space, optOf "'\"",
    plus (one fun c => !(isSpace c || among ",'\"\x7d" c))]

def providerToken : Regex :=
  sequence [edge u, oneOf (["sk", "pk", "ghp", "github_pat", "glpat", "xoxb", "xoxp"].map text), one (among "_-"),
    atLeast 12 (exactAlnumOr "_-"), edge u]

def jsonWebToken : Regex :=
  sequence [edge u, text "eyJ", atLeast 20 (exactAlnumOr "_-"), one (among "."), atLeast 10 (exactAlnumOr "_-"),
    one (among "."), atLeast 10 (exactAlnumOr "_-"), edge u]

/-- `_SECRET_PATTERNS` -/
def secretPatterns : List Regex := [privateKeyBlock, secretAssignment, providerToken u, jsonWebToken u]

def between (a b c : Char) : Bool := a.toNat ≤ c.toNat && c.toNat ≤ b.toNat

/-- `_ANSI_ESCAPE_PATTERN` -/
def ansiEscape : Regex :=
  sequence [text "\x1b[", star true (one (between '0' '?')), star true (one (between ' ' '/')), one (between '@' '~')]

end Patterns

section Redaction

/-- What the patterns see of a code point: a lone surrogate is no letter, digit or blank, as U+FFFF is none. -/
def seen : CodePoint → Char
  | .scalar c => c
  | .surrogate _ => '\uFFFF'

/-- `if pattern.search(s): s = pattern.sub(new, s); notes.append(note)` -/
def replacing (pattern : Regex) (new note : String) (state : Str × List String) : Str × List String :=
  if pattern.searchBy seen state.1 then (pattern.substBy seen (Str.ofString new) state.1, state.2 ++ [note])
  else state

variable (u : UnicodeTables)

/-- `scrub_text(value)` -/
def scrubStr (value : Str) : Str × List String :=
  let state := (forbiddenValuePatterns u).foldl (fun state pattern =>
    replacing pattern "[redacted-sensitive-content]" "secret-like string content redacted" state) (value, [])
  replacing (ip u) "[redacted-ip]" "ip address redacted"
    (replacing evidencePath "[redacted-local-path]" "local evidence/export path redacted" state)

/-- What is seen of a text that is being redacted. -/
def view (state : Str × List String) : Text × List String := (state.1.map seen, state.2)

lemma view_replacing (pattern : Regex) (new note : String) (state : Str × List String) :
    view (replacing pattern new note state) = pass pattern new.toList note (view state) := by
  have hnew : (Str.ofString new).map seen = new.toList := by
    rw [Str.ofString, List.map_map]
    exact List.map_id new.toList
  rw [replacing, Sanitize.pass, searchBy]
  unfold view
  split
  · rw [map_substBy, hnew]
  · rfl

/-- What is seen of a scrubbed text is the text that is seen, scrubbed. -/
theorem view_scrubStr (value : Str) : view (scrubStr u value) = scrubText u (value.map seen) [] := by
  have hforbidden : ∀ (patterns : List Regex) (state : Str × List String), view (patterns.foldl (fun state pattern =>
      replacing pattern "[redacted-sensitive-content]" "secret-like string content redacted" state) state) =
      patterns.foldl (fun state pattern => pass pattern sensitiveContent "secret-like string content redacted" state)
        (view state) := by
    intro patterns
    induction patterns with
    | nil => exact fun state => rfl
    | cons pattern patterns ih =>
      intro state
      rw [List.foldl_cons, List.foldl_cons, ih, view_replacing]
      rfl
  rw [scrubStr, view_replacing, view_replacing, hforbidden, scrubText, scrubPasses, List.foldl_nil]
  rfl

/-- `_redact_text` -/
def redactText (value : Str) : Str × List String :=
  let sanitized := ansiEscape.substBy seen [] value
  let notes := if sanitized ≠ value then ["terminal control sequence redacted"] else []
  let scrubbed := scrubStr u sanitized
  (secretPatterns u).foldl (fun state pattern =>
    replacing pattern "[REDACTED]" "scanner secret-like content redacted" state) (scrubbed.1, notes ++ scrubbed.2)

/-- `s.replace("/src", "[target]")`, after `skip` code points. -/
def hideTarget : ℕ → Str → Str
  | _, [] => []
  | skip + 1, _ :: cs => hideTarget skip cs
  | 0, c :: cs =>
    if Str.ofString "/src" <+: c :: cs then Str.ofString "[target]" ++ hideTarget 3 cs
    else c :: hideTarget 0 cs

/-- What is kept of a text value. -/
def shown (s : Str) : Str := hideTarget 0 (redactText u s).1

mutual

/-- `_redact_json` -/
def redactJson : Parsed → Parsed
  | .dict members => .dict (redactMembers members)
  | .list items => .list (redactItems items)
  | .str s => .str (shown u s)
  | v => v

def redactMembers : List (Str × Parsed) → List (Str × Parsed)
  | [] => []
  | (key, item) :: members => (key, redactJson item) :: redactMembers members

def redactItems : List Parsed → List Parsed
  | [] => []
  | item :: items => redactJson item :: redactItems items

end

mutual

/-- The notes that `_redact_json` appends. -/
def jsonNotes : Parsed → List String
  | .dict members => memberNotes members
  | .list items => itemNotes items
  | .str s => (redactText u s).2
  | _ => []

def memberNotes : List (Str × Parsed) → List String
  | [] => []
  | (_, item) :: members => jsonNotes item ++ memberNotes members

def itemNotes : List Parsed → List String
  | [] => []
  | item :: items => jsonNotes item ++ itemNotes items

end

end Redaction

section Bounds

def maxScannerOutputBytes : ℕ := 1024 * 1024

/-- The text of the first bytes of a text; what is left of a code point that is cut is read as U+FFFD. -/
def cut : ℕ → Str → Str
  | _, [] => []
  | n, c :: cs =>
    if c.encodeReplace.length ≤ n then c.replaced :: cut (n - c.encodeReplace.length) cs
    else if n = 0 then [] else [.scalar '\uFFFD']

def Oversize (value : Str) : Prop := maxScannerOutputBytes < value.encodeReplace.length

instance : DecidablePred Oversize := fun _ => Nat.decLt _ _

/-- `_bounded_text` -/
def boundedText (value : Str) : Str :=
  if Oversize value then cut maxScannerOutputBytes value ++ Str.ofString "\n[scanner output truncated]" else value

end Bounds

def refusal : Raised := ⟨.valueError, "scanner output still contains secret-like content after sanitization"⟩

/-- The interpreter, `float.__repr__` as JSON has it, and the Unicode tables of `re`. What `json.loads` raises is its
own, and neither a blank text nor a text that has been cut is JSON. -/
structure ScannerTooling extends Interpreter where
  floatText : Double → String
  unicode : UnicodeTables
  json_raises : ∀ content e, jsonLoads content = .error e → e ≠ refusal
  json_blank : ∀ content v, jsonLoads content = .ok v → strip content ≠ []
  json_cut : ∀ content v, jsonLoads content = .ok v → Oversize content →
    ∃ e, jsonLoads (boundedText content) = .error e ∧ e.kind = .jsonDecodeError

abbrev Payload := List (Str × Parsed)

structure SafeOutput where
  payload : Payload
  secretObservations : List (List (String × String))
  redacted : Bool
  malformed : Bool

section Payload

variable (tooling : ScannerTooling)

def notNone : Parsed → Option Parsed
  | .none => none
  | v => some v

/-- `json.loads(text) if text.strip() else None`, where a text that is no JSON has no value either. -/
def readJson (s : Str) : Except Raised (Option Parsed) :=
  if strip s = [] then .ok none
  else do
    let read ← excepting .jsonDecodeError (tooling.jsonLoads s)
    return read.bind notNone

/-- What is kept of the two outputs, with the notes on them. -/
def keptOutput (stdout stderr : Str) : Option Parsed → Payload × List String
  | none =>
    let safeStdout := redactText tooling.unicode stdout
    let safeStderr := redactText tooling.unicode stderr
    ([(Str.ofString "stdout", .str safeStdout.1), (Str.ofString "stderr", .str safeStderr.1)],
      safeStdout.2 ++ safeStderr.2)
  | some parsed =>
    let safeStderr := redactText tooling.unicode stderr
    ((Str.ofString "result", redactJson tooling.unicode parsed) ::
        (if safeStderr.1 = [] then [] else [(Str.ofString "stderr", .str safeStderr.1)]),
      jsonNotes tooling.unicode parsed ++ safeStderr.2)

/-- `sorted(set(notes))` -/
def sortedSet (notes : List String) : List String := notes.dedup.insertionSort (· ≤ ·)

def noteList (notes : List String) : Parsed := .list ((sortedSet notes).map fun note => .str (Str.ofString note))

def payloadOf (kept : Payload × List String) (exitCode : ℤ) : Payload :=
  kept.1 ++ [(Str.ofString "exit_code", .int exitCode), (Str.ofString "sanitization_notes", noteList kept.2)]

/-- Does one of the secret patterns match in the serialized payload? -/
def leaks (payload : Payload) : Bool :=
  (secretPatterns tooling.unicode).any fun pattern =>
    pattern.searchBy seen (jsonText tooling.floatText (.dict payload))

def secretObservation : List (String × String) :=
  [("secret_class", "scanner-redacted-content"), ("redacted_location", "scanner output"),
    ("detection_source", "SecScanMonitor sanitizer")]

def safeOutput (kept : Payload × List String) (exitCode : ℤ) (malformed : Bool) : SafeOutput where
  payload := payloadOf kept exitCode
  secretObservations := if kept.2 = [] then [] else [secretObservation]
  redacted := !kept.2.isEmpty
  malformed := malformed

/-- `_safe_payload` -/
def safePayload (stdout stderr : Str) (exitCode : ℤ) : Except Raised SafeOutput := do
  let boundedStdout := boundedText stdout
  let boundedStderr := boundedText stderr
  let parsed ← readJson tooling boundedStdout
  let kept := keptOutput tooling boundedStdout boundedStderr parsed
  raiseIf (leaks tooling (payloadOf kept exitCode)) .valueError
    "scanner output still contains secret-like content after sanitization"
  return safeOutput kept exitCode (parsed.isNone && decide (strip boundedStdout ≠ []))

variable {tooling}

/-- A text that is read as a value, and is not cut, is read so by the sanitizer. -/
lemma readJson_eq {s : Str} {v : Parsed} (hread : tooling.jsonLoads s = .ok v) (hsize : ¬ Oversize s) :
    readJson tooling (boundedText s) = .ok (notNone v) := by
  rw [boundedText, if_neg hsize, readJson, if_neg (tooling.json_blank s v hread), hread]
  rfl

/-- Once the output is read, the payload is refused if it leaks and is given otherwise. -/
lemma safePayload_eq {stdout stderr : Str} {read : Option Parsed}
    (hread : readJson tooling (boundedText stdout) = .ok read) (exitCode : ℤ) :
    safePayload tooling stdout stderr exitCode =
      if leaks tooling (payloadOf (keptOutput tooling (boundedText stdout) (boundedText stderr) read) exitCode) = true
      then .error refusal
      else .ok (safeOutput (keptOutput tooling (boundedText stdout) (boundedText stderr) read) exitCode
        (read.isNone && decide (strip (boundedText stdout) ≠ []))) := by
  rw [safePayload, hread, ok_bind]
  dsimp only
  by_cases hleaks : leaks tooling (payloadOf (keptOutput tooling (boundedText stdout) (boundedText stderr) read)
      exitCode) = true
  · rw [raiseIf, if_pos hleaks, if_pos hleaks]
    rfl
  · rw [raiseIf, if_neg hleaks, if_neg hleaks]
    rfl

end Payload

end SecScanMonitor.Capabilities
