import SecScanMonitor.Foundations.RegexShape
import SecScanMonitor.Foundations.Value
import SecScanMonitor.Sanitize.Patterns

/-! The scrubber of texts and the scan of payloads (`sanitize/filters.py`). -/

namespace SecScanMonitor.Sanitize

open Foundations Domain Foundations.Regex

section Patterns

variable (u : UnicodeTables)

/-- `[A-Z ]` -/
def labelChar : Regex := one fun c => c.isUpper || c = ' '

def privateKeyHeader : Regex :=
  sequence [text "-----BEGIN ", plus labelChar, text "PRIVATE KEY-----"]

def googleKey : Regex := seq (text "AIza") (times 35 (exactAlnumOr "-_"))

def githubToken : Regex := seq (anyCase "github_pat_") (atLeast 20 (alnumOr "_"))

def secretKey : Regex := sequence [edge u, anyCase "sk-", atLeast 20 (alnumOr "")]

def recoveryKey : Regex :=
  sequence [anyCase "bitlocker", star true (one fun c => c ≠ '\n'), anyCase "recovery"]

def apiKey : Regex := sequence [anyCase "api", optOf "_-", anyCase "key"]

/-- `(?:\\?['"])?` -/
def quote : Regex := opt (seq (optOf "\\") (one (among "'\"")))

def credential : Regex :=
  sequence [edge u, star true (alnumOr "_"),
    oneOf [anyCase "password", anyCase "passwd", anyCase "pwd", apiKey, anyCase "apikey",
      anyCase "secret", anyCase "token", anyCase "authorization"],
    quote, star true space, one (among ":="), star true space, quote,
    plus (one fun c => !(among ",\\\x7d\"'" c || isSpace c)), quote]

def forbiddenValuePatterns : List Regex :=
  [privateKeyHeader, googleKey, githubToken, secretKey u, recoveryKey, credential u]

/-- `[^"'\s]` -/
def pathChar : Regex := one fun c => !(among "\"'" c || isSpace c)

def evidencePath : Regex :=
  alt (sequence [one fun c => (fold c).isAlpha, one (among ":"), one (among "\\/"), plus pathChar])
    (sequence [alt (look fun l _ => l.isNone) (one fun c => isSpace c || among "\"'" c),
      oneOf [anyCase "evidence", anyCase "exports"], one (among "\\/"), plus pathChar])

/-- `\d{1,3}` -/
def digits : Regex := seq (one (isDecimal u)) (upTo 2 (one (isDecimal u)))

def ip : Regex := sequence [edge u, times 3 (seq (digits u) (one (among "."))), digits u, edge u]

end Patterns

section Scrub

def sensitiveContent : Text := "[redacted-sensitive-content]".toList

def localPath : Text := "[redacted-local-path]".toList

def redactedIp : Text := "[redacted-ip]".toList

/-- `if pattern.search(text): text = pattern.sub(new, text); notes.append(note)` -/
def pass (pattern : Regex) (new : Text) (note : String) (state : Text × List String) :
    Text × List String :=
  if pattern.search state.1 then (pattern.subst new state.1, state.2 ++ [note]) else state

/-- `text.replace(original, alias)`, for an original that is not empty. -/
def replaceFrom (original replacement : Text) : ℕ → Text → Text
  | _, [] => []
  | skip + 1, _ :: cs => replaceFrom original replacement skip cs
  | 0, c :: cs =>
    if original <+: c :: cs then replacement ++ replaceFrom original replacement (original.length - 1) cs
    else c :: replaceFrom original replacement 0 cs

def replaceHost (state : Text × List String) (host : Text × Text) : Text × List String :=
  if host.1 ≠ [] ∧ host.1 <:+: state.1 then
    (replaceFrom host.1 host.2 0 state.1,
      state.2 ++ ["hostname replaced with deterministic alias"])
  else state

variable (u : UnicodeTables)

/-- The forbidden values, the local paths and the addresses. -/
def scrubPasses (value : Text) : Text × List String :=
  let state := (forbiddenValuePatterns u).foldl (fun state pattern =>
    pass pattern sensitiveContent "secret-like string content redacted" state) (value, [])
  pass (ip u) redactedIp "ip address redacted"
    (pass evidencePath localPath "local evidence/export path redacted" state)

def scrubText (value : Text) (hostAliases : List (Text × Text)) : Text × List String :=
  hostAliases.foldl replaceHost (scrubPasses u value)

end Scrub

section Scan

variable (u : UnicodeTables)

def textContainsSecret (t : Text) : Bool := (forbiddenValuePatterns u).any fun p => p.search t

mutual

/-- The keys of an object are not looked at. -/
def payloadContainsSecretLikeContent : Value → Bool
  | .obj members => membersContainSecret members
  | .arr items => itemsContainSecret items
  | .str s => textContainsSecret u s.toList
  | _ => false

def membersContainSecret : List (String × Value) → Bool
  | [] => false
  | (_, value) :: members => payloadContainsSecretLikeContent value || membersContainSecret members

def itemsContainSecret : List Value → Bool
  | [] => false
  | value :: items => payloadContainsSecretLikeContent value || itemsContainSecret items

end

end Scan

section Unseen

variable {u : UnicodeTables} {x : Char}

lemma unseen_edge (hx : isWord u x = false) : Unseen x (edge u) := by
  constructor
  · intro n
    simp [hx]
  · intro l
    simp [hx]

lemma unseen_forbidden (hx : isWord u x = false) {r : Regex} (hr : r ∈ forbiddenValuePatterns u) :
    Unseen x r := by
  simp only [forbiddenValuePatterns, List.mem_cons, List.not_mem_nil, or_false] at hr
  rcases hr with rfl | rfl | rfl | rfl | rfl | rfl
  · exact unseen_of_free rfl
  · exact unseen_of_free rfl
  · exact unseen_of_free rfl
  · exact ⟨unseen_edge hx, unseen_of_free rfl⟩
  · exact unseen_of_free rfl
  · exact ⟨unseen_edge hx, unseen_of_free rfl⟩

end Unseen

end SecScanMonitor.Sanitize
