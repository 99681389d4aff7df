import SecScanMonitor.Application.VulnerabilityIntelligence
import SecScanMonitor.Sanitize.JsonText

/-! The adapters of the vulnerability feeds and the enricher that consults them
(`application/security_services.py`). -/

namespace SecScanMonitor.Application

open Foundations Domain Sanitize

/-- The functions of the language that the adapters read a response with, and the time at which they do. -/
structure FeedTooling extends Interpreter where
  /-- `json.loads` of bytes -/
  loadsBody : List UInt8 → Except Raised Parsed
  floatText : Double → String
  /-- `datetime.fromisoformat` in microseconds, of a time without an offset as UTC -/
  fromisoformat : Str → Option ℤ
  /-- `float(s)` of a text -/
  readFloat : Str → Option Double
  isDecimal : CodePoint → Bool
  now : ℤ
  /-- `repr` escapes what has no bytes. -/
  render_encodable : ∀ v, isEncodable (render v) = true

structure FeedRequest where
  url : Str
  package : Option (Str × Str × Str) := none

structure FeedResponse where
  status : ℕ
  body : List UInt8

/-- Where an adapter reads: from a fetcher, from the official feed, or nowhere. -/
inductive FeedSource where
  | fetcher (payload : FeedRequest → Parsed)
  | live (respond : FeedRequest → FeedResponse)
  | unconfigured

abbrev JsonObject := List (Str × Parsed)

section Reading

variable (py : FeedTooling)

def feedUnavailable {α : Type} (message : String) : Except Raised α :=
  raise .vulnerabilityFeedUnavailable message

def feedMalformed {α : Type} (message : String) : Except Raised α :=
  raise .vulnerabilityFeedMalformed message

/-- `urlopen`: a response of another status than 2xx is raised. -/
def urlopen (response : FeedResponse) : Except Raised FeedResponse := do
  raiseIf (¬ (200 ≤ response.status ∧ response.status < 300)) .httpError
    s!"HTTP Error {response.status}"
  return response

/-- What `_fetch_live_json` catches. -/
def isRequestFailure (kind : ExceptionKind) : Bool :=
  kind ∈ [.httpError, .fileNotFoundError, .permissionError, .jsonDecodeError]

/-- `except (HTTPError, URLError, TimeoutError, OSError, json.JSONDecodeError)` -/
def failedRequest {α : Type} (opened : Except Raised α) : Except Raised α :=
  match opened with
  | .ok a => .ok a
  | .error e =>
    if isRequestFailure e.kind then feedUnavailable s!"official feed request failed: {e.kind.name}" else .error e

/-- `_fetch_live_json` -/
def fetchLiveJson (respond : FeedRequest → FeedResponse) (request : FeedRequest) : Except Raised Parsed := do
  let decoded ← failedRequest do
    let response ← urlopen (respond request)
    raiseIf (¬ (200 ≤ response.status ∧ response.status < 300)) .vulnerabilityFeedUnavailable
      s!"official feed returned HTTP {response.status}"
    py.loadsBody response.body
  match decoded with
  | .dict _ => return decoded
  | _ => feedUnavailable "official feed returned a non-object JSON document"

def FeedSource.read (source : FeedSource) (kind : ExceptionKind) (missing : String) (request : FeedRequest) :
    Except Raised Parsed :=
  match source with
  | .fetcher payload => .ok (payload request)
  | .live respond => fetchLiveJson py respond request
  | .unconfigured => raise kind missing

mutual

/-- A value that `json.dumps` knows: no date is in it. -/
def isJson : Parsed → Bool
  | .temporal _ _ => false
  | .list items => areJson items
  | .dict members => holdJson members
  | _ => true

def areJson : List Parsed → Bool
  | [] => true
  | v :: vs => isJson v && areJson vs

def holdJson : List (Str × Parsed) → Bool
  | [] => true
  | (_, v) :: ms => isJson v && holdJson ms

end

/-- `json.dumps(payload, sort_keys=True, separators=(",", ":"), ensure_ascii=False)` -/
def canonicalJson (payload : Parsed) : Except Raised Str := do
  raiseIf (payload.printable = false) .valueError
    "Exceeds the limit (4300 digits) for integer string conversion"
  raiseIf (isJson payload = false) .typeError "Object of type datetime is not JSON serializable"
  return jsonText py.floatText payload

/-- `_feed_content_sha256` -/
def feedContentSha256 (payload : Parsed) : Except Raised Str := do
  let canonical ← canonicalJson py payload
  let bytes ← encode canonical
  return py.sha256 bytes

/-- `s.replace("Z", "+00:00")` -/
def withOffset (s : Str) : Str :=
  s.flatMap fun c => if c = .scalar 'Z' then Str.ofString "+00:00" else [c]

/-- `timedelta(days=30)` -/
def thirtyDays : ℤ := 30 * 24 * 3600 * 1000000

/-- `_feed_state` -/
def feedStateOf (dataVersion : Str) (retrievedAt : ℤ) : FeedState :=
  if strip dataVersion = [] then .stale
  else
    match py.fromisoformat (withOffset dataVersion) with
    | some versionTime => if versionTime < retrievedAt - thirtyDays then .stale else .fresh
    | none => .stale

/-- `_unavailable_provenance` -/
def unavailableProvenance (source sourceUrl limitation : Str) : FeedProvenance where
  source
  sourceUrl
  retrievedAt := py.now
  state := .unavailable
  limitation

/-- The models take no text with a lone surrogate. -/
def validated {α : Type} (texts : List Str) (model : α) : Except Raised α := do
  raiseIf (texts.all isEncodable = false) .validationError "Input should be a valid string"
  return model

/-- The provenance of a response. -/
def provenanceOf (source sourceUrl dataVersion schemaVersion limitation : Str) (payload : Parsed) :
    Except Raised FeedProvenance := do
  let contentSha256 ← feedContentSha256 py payload
  validated [source, sourceUrl, dataVersion, schemaVersion, limitation]
    { source
      sourceUrl
      retrievedAt := py.now
      dataVersion
      schemaVersion
      contentSha256
      state := feedStateOf py dataVersion py.now
      limitation }

def objectOf (payload : Parsed) (message : String) : Except Raised JsonObject :=
  match payload with
  | .dict members => .ok members
  | _ => feedMalformed message

def listOf (value : Parsed) (message : String) : Except Raised (List Parsed) :=
  match value with
  | .list items => .ok items
  | _ => feedMalformed message

/-- An entry with its identifier: what is no object, or has a blank one, is malformed. -/
def identified (key message : String) (raw : Parsed) : Except Raised (JsonObject × Str) := do
  let members ← objectOf raw message
  let identifier ← py.text (getMember members key (.str []))
  raiseIf (strip identifier = []) .vulnerabilityFeedMalformed message
  return (members, identifier)

end Reading

/-- `members.get(key)` is a list, where there is one. -/
def listsWhere (members : JsonObject) (key : String) : Bool :=
  match members.lookup (Str.ofString key) with
  | some (.list _) | none => true
  | some _ => false

/-- The first result of a loop that returns at one. -/
def firstSome {α β : Type} (f : α → Except Raised (Option β)) : List α → Except Raised (Option β)
  | [] => .ok none
  | x :: xs => do
    match ← f x with
    | some b => return some b
    | none => firstSome f xs

namespace OsVFeedAdapter

variable (py : FeedTooling)

def endpoint : Str := "https://api.osv.dev/v1/query"

/-- The check of one entry of `vulns`. -/
def checkEntry (raw : Parsed) : Except Raised (JsonObject × Str) := do
  let entry ← identified py "id" "OSV vulnerability entries must contain an id" raw
  raiseIf (listsWhere entry.1 "aliases" = false) .vulnerabilityFeedMalformed "OSV aliases must be a list"
  raiseIf (listsWhere entry.1 "affected" = false) .vulnerabilityFeedMalformed "OSV affected must be a list"
  raiseIf (listsWhere entry.1 "references" = false) .vulnerabilityFeedMalformed "OSV references must be a list"
  return entry

def items : Parsed → List Parsed
  | .list items => items
  | _ => []

def fixedEvent (event : Parsed) : Except Raised (Option Str) :=
  match event with
  | .dict members => do
    let fixed := getMember members "fixed" .none
    if fixed.truthy then return some (← py.text fixed) else return none
  | _ => .ok none

/-- `for x in v.get(key, []) if isinstance(v, Mapping) else []` -/
def searchMember {β : Type} (key : String) (f : Parsed → Except Raised (Option β)) (v : Parsed) :
    Except Raised (Option β) :=
  match v with
  | .dict members => do
    let found ← (getMember members key (.list [])).iterate
    firstSome f found
  | _ => .ok none

def fixedRange : Parsed → Except Raised (Option Str) := searchMember "events" (fixedEvent py)

def fixedAffected : Parsed → Except Raised (Option Str) := searchMember "ranges" (fixedRange py)

/-- `_first_fixed_version` -/
def firstFixedVersion (raw : JsonObject) : Except Raised (Option Str) :=
  firstSome (fixedAffected py) (items (getMember raw "affected" (.list [])))

def advisorySource (reference : Parsed) : Except Raised (Option Str) :=
  match reference with
  | .dict members => do return some (← py.text (getMember members "url" (.str [])))
  | _ => .ok none

def recordOf (ecosystem packageName version : Str) (provenance : FeedProvenance) (raw : JsonObject) :
    Except Raised VulnerabilityRecord := do
  let aliases ← (items (getMember raw "aliases" (.list []))).mapM py.text
  let vulnerabilityId ← py.text (getMember raw "id" (.str []))
  let affectedRange ← py.text (getMember raw "affected" (.str []))
  let fixedVersion ← firstFixedVersion py raw
  let references ← (items (getMember raw "references" (.list []))).mapM (advisorySource py)
  let advisorySources := references.filterMap id
  validated (packageName :: ecosystem :: version :: vulnerabilityId :: affectedRange ::
      (aliases ++ fixedVersion.toList ++ advisorySources))
    { packageName
      ecosystem
      installedVersion := version
      vulnerabilityId
      aliases
      affectedRange
      fixedVersion
      advisorySources
      provenance := [provenance]
      freshness := provenance.state }

/-- The latest of the entries' versions that are not blank, or else the response's. -/
def dataVersionOf (payload : JsonObject) (entries : List JsonObject) : Except Raised Str := do
  let default ← py.text (getMember payload "modified" (.str []))
  let modified ← entries.mapM fun entry => py.text (getMember entry "modified" (.str []))
  return (modified.filter fun s => strip s ≠ []).max?.getD default

/-- The records of a response whose entries are checked. -/
def recordsOf (ecosystem packageName version : Str) (payload : JsonObject) (entries : List (JsonObject × Str)) :
    Except Raised (List VulnerabilityRecord) := do
  let dataVersion ← dataVersionOf py payload (entries.map Prod.fst)
  let provenance ← provenanceOf py "OSV" endpoint dataVersion "1.0" [] (.dict payload)
  entries.mapM fun entry => recordOf py ecosystem packageName version provenance entry.1

def query (source : FeedSource) (ecosystem packageName version : Str) :
    Except Raised (List VulnerabilityRecord) := do
  let payload ← source.read py .osvFeedUnavailable
    "OSV fetcher is not configured; set live=True for the official feed"
    ⟨endpoint, some (packageName, ecosystem, version)⟩
  let members ← objectOf payload "OSV response is not an object"
  raiseIf ((members.lookup (Str.ofString "vulns")).isNone = true ∧ members.isEmpty = false)
    .vulnerabilityFeedMalformed "OSV response is missing vulns"
  let vulns ← listOf (getMember members "vulns" (.list [])) "OSV vulns must be a list"
  let entries ← vulns.mapM (checkEntry py)
  recordsOf py ecosystem packageName version members entries

end OsVFeedAdapter

namespace CisaKevFeedAdapter

variable (py : FeedTooling)

def endpoint : Str := "https://www.cisa.gov/sites/default/files/feeds/known_exploited_vulnerabilities.json"

/-- What a catalog whose entries are checked says of the wanted identifiers. -/
def matchOf (wanted : List Str) (payload : JsonObject) (entries : List (JsonObject × Str)) :
    Except Raised (Bool × FeedProvenance) := do
  let matched := entries.any fun entry => decide (py.upper (strip entry.2) ∈ wanted)
  let dataVersion ← py.text
    (getMember payload "catalogVersion" (getMember payload "dateReleased" (.str [])))
  let provenance ← provenanceOf py "CISA-KEV" endpoint dataVersion "CISA-KEV-1.0"
    (if matched then [] else "CVE not present in the current catalog") (.dict payload)
  return (matched, provenance)

def lookup (source : FeedSource) (vulnerabilityIds : List Str) : Except Raised (Bool × FeedProvenance) := do
  let payload ← source.read py .vulnerabilityFeedUnavailable
    "CISA KEV fetcher is not configured; set live=True for the official feed" ⟨endpoint, none⟩
  let members ← objectOf payload "CISA KEV response is not an object"
  let wanted := (vulnerabilityIds.filter fun value => strip value ≠ []).map fun value => py.upper (strip value)
  let rows ← listOf (getMember members "vulnerabilities" .none) "CISA KEV vulnerabilities must be a list"
  let entries ← rows.mapM (identified py "cveID" "CISA KEV entries must contain cveID")
  matchOf py wanted members entries

end CisaKevFeedAdapter

namespace FirstEpssFeedAdapter

variable (py : FeedTooling)

def endpoint : Str := "https://api.first.org/data/v1/epss"

/-- `CVE-\d{4}-\d{4,}`, all of the text -/
def isCve (s : Str) : Bool :=
  startsWith "CVE-" s && decide (((s.drop 4).take 4).length = 4) && ((s.drop 4).take 4).all py.isDecimal &&
    decide ((s.drop 8).head? = some (.scalar '-')) && decide (4 ≤ (s.drop 9).length) &&
    (s.drop 9).all py.isDecimal

def hexDigit (n : ℕ) : CodePoint := .scalar (Char.ofNat (if n < 10 then 48 + n else 55 + n))

def quotedByte (b : UInt8) : Str :=
  let c := Char.ofNat b.toNat
  if b.toNat < 128 ∧ (c.isAlphanum ∨ c ∈ ['_', '.', '-', '~']) then [.scalar c]
  else if b = 0x20 then [.scalar '+']
  else [.scalar '%', hexDigit (b.toNat / 16), hexDigit (b.toNat % 16)]

/-- `urlencode` of one field with digits and capitals -/
def urlencode (name value : Str) : Str := name ++ .scalar '=' :: value.encodeReplace.flatMap quotedByte

/-- A float from 0 to 1. -/
def inUnit : Double → Option Double
  | .finite q => if 0 ≤ q ∧ q ≤ 1 then some (.finite q) else none
  | .negativeZero => some .negativeZero
  | _ => none

/-- The first integers that a float is too small for: they round to `2 ** 1024`. -/
def floatLimit : ℕ := 2 ^ 1024 - 2 ^ 970

/-- `_float_or_none` -/
def floatOrNone : Parsed → Except Raised (Option Double)
  | .int i => do
    raiseIf (floatLimit ≤ i.natAbs) .overflowError "int too large to convert to float"
    -- what is rounded is far from the unit interval
    return inUnit (.finite i)
  | .bool b => .ok (some (.finite (if b then 1 else 0)))
  | .float x => .ok (inUnit x)
  | .str s => .ok ((py.readFloat s).bind inUnit)
  | _ => .ok none

def notRun : FeedProvenance where
  source := "FIRST-EPSS"
  sourceUrl := endpoint
  retrievedAt := py.now
  schemaVersion := "FIRST-EPSS-1.0"
  state := .notRun
  limitation := "no valid CVE identifier was available for EPSS lookup"

def urlOf (normalized : Str) : Str := endpoint ++ .scalar '?' :: urlencode "cve" normalized

/-- `_float_or_none` of a member of the row, where there is one -/
def scoreOf (row : Option JsonObject) (key : String) : Except Raised (Option Double) :=
  match row with
  | some row => floatOrNone py (getMember row key .none)
  | none => .ok none

/-- What a response whose entries are checked says of the identifier. -/
def scoresOf (normalized : Str) (payload : JsonObject) (entries : List (JsonObject × Str)) :
    Except Raised (Option Double × Option Double × FeedProvenance) := do
  let row := (entries.find? fun entry => decide (py.upper entry.2 = normalized)).map Prod.fst
  let probability ← scoreOf py row "epss"
  let percentile ← scoreOf py row "percentile"
  let dataVersion ← py.text (getMember payload "version" (.str []))
  let provenance ← provenanceOf py "FIRST-EPSS" (urlOf normalized) dataVersion "FIRST-EPSS-1.0"
    (if row.isNone then "CVE not present in the current EPSS response" else []) (.dict payload)
  return (probability, percentile, provenance)

def lookup (source : FeedSource) (cveId : Str) :
    Except Raised (Option Double × Option Double × FeedProvenance) := do
  let normalized := py.upper (strip cveId)
  if isCve py normalized = false then return (none, none, notRun py)
  let payload ← source.read py .vulnerabilityFeedUnavailable
    "FIRST EPSS fetcher is not configured; set live=True for the official feed" ⟨urlOf normalized, none⟩
  let members ← objectOf payload "FIRST EPSS response is not an object"
  let rows ← listOf (getMember members "data" .none) "FIRST EPSS data must be a list"
  let entries ← rows.mapM (identified py "cve" "FIRST EPSS entries must contain cve")
  scoresOf py normalized members entries

end FirstEpssFeedAdapter

namespace VulnerabilityFeedEnricher

variable (py : FeedTooling)

/-- `except VulnerabilityFeedUnavailable`, which takes the malformed too -/
def isFeedError (e : Raised) : Prop :=
  e.kind = .vulnerabilityFeedUnavailable ∨ e.kind = .vulnerabilityFeedMalformed

instance : DecidablePred isFeedError := fun e =>
  inferInstanceAs (Decidable (e.kind = .vulnerabilityFeedUnavailable ∨ e.kind = .vulnerabilityFeedMalformed))

/-- `try: m` where the error of a feed is caught -/
def consulted {α : Type} (m : Except Raised α) : Except Raised (Except Raised α) :=
  match m with
  | .ok a => .ok (.ok a)
  | .error e => if isFeedError e then .ok (.error e) else .error e

/-- The updates of a record and the states of the feeds that were consulted. -/
structure Enrichment where
  record : VulnerabilityRecord
  states : List FeedState

def Enrichment.report (e : Enrichment) (provenance : FeedProvenance) (unknowns : List Str) : Enrichment where
  record := { e.record with
    provenance := e.record.provenance ++ [provenance]
    unknowns := e.record.unknowns ++ unknowns }
  states := e.states ++ [provenance.state]

def consultKev (source : FeedSource) (identifiers : List Str) (e : Enrichment) : Except Raised Enrichment := do
  match ← consulted (CisaKevFeedAdapter.lookup py source identifiers) with
  | .ok (matched, provenance) =>
    return { e with record := { e.record with kevStatus := some matched } }.report provenance []
  | .error x =>
    return e.report (unavailableProvenance py "CISA-KEV" CisaKevFeedAdapter.endpoint (Str.ofString x.message))
      ["CISA KEV enrichment unavailable"]

def consultEpss (source : FeedSource) (cveId : Str) (e : Enrichment) : Except Raised Enrichment := do
  match ← consulted (FirstEpssFeedAdapter.lookup py source cveId) with
  | .ok (probability, percentile, provenance) =>
    return { e with record := { e.record with
      epssProbability := probability, epssPercentile := percentile } }.report provenance []
  | .error x =>
    return e.report (unavailableProvenance py "FIRST-EPSS" FirstEpssFeedAdapter.endpoint (Str.ofString x.message))
      ["FIRST EPSS enrichment unavailable"]

/-- The freshness that the states allow. -/
def freshnessOf (states : List FeedState) (freshness : FeedState) : FeedState :=
  if .unavailable ∈ states then .unavailable
  else if .stale ∈ states then .stale
  else if .notRun ∈ states then .notRun
  else if states ≠ [] ∧ ∀ state ∈ states, state = .fresh then .fresh
  else freshness

/-- `if source is not None:` -/
def whereGiven (consult : FeedSource → Enrichment → Except Raised Enrichment) (source : Option FeedSource)
    (e : Enrichment) : Except Raised Enrichment :=
  match source with
  | some source => consult source e
  | none => .ok e

def enrich (kev epss : Option FeedSource) (record : VulnerabilityRecord) : Except Raised VulnerabilityRecord := do
  let identifiers := record.vulnerabilityId :: record.aliases
  let cveId := canonicalVulnerabilityId py.toInterpreter record.vulnerabilityId record.aliases
  let e ← whereGiven (fun source => consultKev py source identifiers) kev ⟨record, [record.freshness]⟩
  let e ← whereGiven (fun source => consultEpss py source cveId) epss e
  return { e.record with freshness := freshnessOf e.states e.record.freshness }

end VulnerabilityFeedEnricher

end SecScanMonitor.Application
