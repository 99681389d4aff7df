import SecScanMonitor.Application.VulnerabilityFeeds

/-! What escapes from the feeds. The adapters refuse a response in one way as long as they check it; the digest,
the models, and the loops over what is nested deeper raise errors of other kinds. -/

namespace SecScanMonitor.Application

open Foundations Domain Sanitize VulnerabilityFeedEnricher

section Kinds

variable {α β : Type} {m : Except Raised α}

/-- Nothing but the error of a feed escapes. -/
def FeedFailure (m : Except Raised α) : Prop := Raises isFeedError m

/-- No error of a feed is raised. -/
def Foreign (m : Except Raised α) : Prop := Raises (fun e => ¬ isFeedError e) m

lemma feedMalformed_failure (message : String) : FeedFailure (feedMalformed message : Except Raised α) :=
  Raises.raise (Or.inr rfl)

lemma feedUnavailable_failure (message : String) : FeedFailure (feedUnavailable message : Except Raised α) :=
  Raises.raise (Or.inl rfl)

/-- What raises no error of a feed fails in one way exactly if it returns. -/
lemma Foreign.failure_iff (h : Foreign m) : FeedFailure m ↔ ∃ a, m = .ok a := by
  cases m with
  | ok a => exact iff_of_true (Raises.ok a) ⟨a, rfl⟩
  | error e => exact iff_of_false (fun hf => h e rfl (hf e rfl)) nofun

lemma failure_of_isOk (h : ∃ a, m = .ok a) : FeedFailure m := by
  obtain ⟨a, rfl⟩ := h
  exact Raises.ok a

/-- After a step that fails as a feed does. -/
lemma failure_bind_iff {f : α → Except Raised β} (hm : FeedFailure m) :
    FeedFailure (m >>= f) ↔ ∀ a, m = .ok a → FeedFailure (f a) :=
  raises_bind_iff.trans (and_iff_right hm)

lemma foreign_raiseIf {c : Prop} [Decidable c] {kind : ExceptionKind} {message : String}
    (h₁ : kind ≠ .vulnerabilityFeedUnavailable) (h₂ : kind ≠ .vulnerabilityFeedMalformed) :
    Foreign (raiseIf c kind message) :=
  Raises.raiseIf fun h => h.elim h₁ h₂

lemma text_foreign (py : Interpreter) (v : Parsed) : Foreign (py.text v) := by
  unfold Interpreter.text
  split
  · exact Raises.ok _
  · exact Raises.bind (foreign_raiseIf nofun nofun) fun _ _ => Raises.ok _

lemma text_failure_iff {py : Interpreter} {v : Parsed} : FeedFailure (py.text v) ↔ v.printable = true :=
  (text_foreign py v).failure_iff.trans text_isOk

end Kinds

section Clean

/-- Every integer can be written and every text encoded. -/
structure Clean (v : Parsed) : Prop where
  printable : v.printable = true
  encodable : encodable v = true

variable {v : Parsed} {members : JsonObject} {items : List Parsed}

lemma Clean.member (h : Clean (.dict members)) {m : Str × Parsed} (hm : m ∈ members) : Clean m.2 := by
  refine ⟨Parsed.printable_member h.printable hm, ?_⟩
  obtain ⟨before, after, rfl⟩ := List.append_of_mem hm
  have henc := h.encodable
  rw [Sanitize.encodable, encodableMembers_append, encodableMembers] at henc
  simp only [Bool.and_eq_true] at henc
  exact henc.2.1.2

lemma Clean.item (h : Clean (.list items)) {item : Parsed} (hitem : item ∈ items) : Clean item := by
  refine ⟨Parsed.printable_item h.printable hitem, ?_⟩
  have henc := h.encodable
  rw [Sanitize.encodable, encodableItems_eq, List.all_eq_true] at henc
  exact henc item hitem

lemma clean_text : Clean (.str []) := ⟨Parsed.printable_str [], rfl⟩

lemma clean_list : Clean (.list []) := ⟨by rw [Parsed.printable]; rfl, rfl⟩

lemma Clean.getMember {default : Parsed} (h : Clean (.dict members)) (key : String) (hdefault : Clean default) :
    Clean (getMember members key default) := by
  rw [Domain.getMember]
  cases hv : members.lookup (Str.ofString key) with
  | none => exact hdefault
  | some v =>
    obtain ⟨before, after, rfl, -⟩ := List.lookup_eq_some_iff.mp hv
    exact h.member (m := (Str.ofString key, v)) (List.mem_append_right before List.mem_cons_self)

lemma Clean.iterate (h : Clean v) (hitems : v.iterate = .ok items) {item : Parsed} (hitem : item ∈ items) :
    Clean item := by
  refine ⟨Parsed.printable_iterate h.printable hitems hitem, ?_⟩
  cases v with
  | list _ =>
    obtain rfl := Except.ok.inj hitems
    exact (h.item hitem).encodable
  | dict members =>
    obtain rfl := Except.ok.inj hitems
    obtain ⟨m, hm, rfl⟩ := List.mem_map.mp hitem
    obtain ⟨before, after, rfl⟩ := List.append_of_mem hm
    have henc := h.encodable
    rw [Sanitize.encodable, encodableMembers_append, encodableMembers] at henc
    simp only [Bool.and_eq_true] at henc
    exact henc.2.1.1
  | str s =>
    obtain rfl := Except.ok.inj hitems
    obtain ⟨c, hc, rfl⟩ := List.mem_map.mp hitem
    have henc := h.encodable
    rw [Sanitize.encodable, isEncodable, List.all_eq_true] at henc
    rw [Sanitize.encodable, isEncodable, List.all_cons, henc c hc]
    rfl
  | none | bool _ | int _ | float _ | temporal _ _ => cases hitems

variable {py : FeedTooling}

lemma Clean.text (py : FeedTooling) (h : Clean v) : ∃ s, py.text v = .ok s ∧ isEncodable s = true := by
  obtain ⟨s, hs⟩ : ∃ s, py.text v = .ok s := text_isOk.mpr h.printable
  refine ⟨s, hs, ?_⟩
  cases v with
  | str t =>
    obtain rfl := Except.ok.inj hs
    exact h.encodable
  | none | bool _ | int _ | float _ | temporal _ _ | list _ | dict _ =>
    rw [Interpreter.text] at hs
    · obtain ⟨-, hs⟩ := raiseIf_bind_eq_ok.mp hs
      obtain rfl := Except.ok.inj hs
      exact py.render_encodable _
    · intro t ht
      cases ht

lemma Clean.text_eq {s : Str} (h : Clean v) (hs : py.text v = .ok s) : isEncodable s = true := by
  obtain ⟨t, ht, henc⟩ := h.text py
  obtain rfl := Except.ok.inj (hs.symm.trans ht)
  exact henc

end Clean

section Digests

variable {py : FeedTooling} {payload : Parsed}

/-- The response can be written in JSON and in bytes. -/
structure Digested (payload : Parsed) : Prop extends Clean payload where
  json : isJson payload = true

lemma canonicalJson_isOk {text : Str} : canonicalJson py payload = .ok text ↔
    payload.printable = true ∧ isJson payload = true ∧ jsonText py.floatText payload = text := by
  rw [canonicalJson, raiseIf_bind_eq_ok, raiseIf_bind_eq_ok, Bool.not_eq_false, Bool.not_eq_false]
  exact and_congr_right fun _ => and_congr_right fun _ => ⟨Except.ok.inj, congrArg Except.ok⟩

lemma feedContentSha256_isOk : (∃ d, feedContentSha256 py payload = .ok d) ↔ Digested payload := by
  rw [feedContentSha256, bind_isOk]
  simp only [map_isOk, canonicalJson_isOk]
  constructor
  · rintro ⟨_, ⟨hprintable, hjson, rfl⟩, hbytes⟩
    rw [Sanitize.encode_isOk, isEncodable_jsonText] at hbytes
    exact ⟨⟨hprintable, hbytes⟩, hjson⟩
  · intro h
    refine ⟨_, ⟨h.printable, h.json, rfl⟩, ?_⟩
    rw [Sanitize.encode_isOk, isEncodable_jsonText]
    exact h.encodable

lemma feedContentSha256_foreign : Foreign (feedContentSha256 py payload) := by
  refine Raises.bind ?_ fun text _ => Raises.bind (Raises.orRaise ?_) fun _ _ => Raises.ok _
  · exact Raises.bind (foreign_raiseIf nofun nofun) fun _ _ =>
      Raises.bind (foreign_raiseIf nofun nofun) fun _ _ => Raises.ok _
  · rintro (h | h) <;> cases h

lemma validated_isOk {α : Type} {texts : List Str} {model : α} :
    (∃ a, validated texts model = .ok a) ↔ ∀ s ∈ texts, isEncodable s = true := by
  rw [validated]
  simp only [raiseIf_bind_eq_ok, exists_and_left, Bool.not_eq_false, List.all_eq_true]
  exact ⟨And.left, fun h => ⟨h, model, rfl⟩⟩

lemma validated_foreign {α : Type} (texts : List Str) (model : α) : Foreign (validated texts model) :=
  Raises.bind (foreign_raiseIf nofun nofun) fun _ _ => Raises.ok _

lemma provenanceOf_isOk {source sourceUrl dataVersion schemaVersion limitation : Str} :
    (∃ p, provenanceOf py source sourceUrl dataVersion schemaVersion limitation payload = .ok p) ↔
      Digested payload ∧
        ∀ s ∈ [source, sourceUrl, dataVersion, schemaVersion, limitation], isEncodable s = true := by
  rw [provenanceOf, bind_isOk]
  simp only [validated_isOk, exists_and_right, feedContentSha256_isOk]

lemma provenanceOf_foreign (source sourceUrl dataVersion schemaVersion limitation : Str) :
    Foreign (provenanceOf py source sourceUrl dataVersion schemaVersion limitation payload) :=
  Raises.bind feedContentSha256_foreign fun _ _ => validated_foreign _ _

end Digests

section Sources

variable {py : FeedTooling} {kind : ExceptionKind} {missing : String} {request : FeedRequest}

/-- A source gives a value, or fails as a feed does: the body of a good response is JSON, or json.loads says that
it is not. -/
def SourceReads (py : FeedTooling) (kind : ExceptionKind) (request : FeedRequest) : FeedSource → Prop
  | .fetcher _ => True
  | .live respond => 200 ≤ (respond request).status → (respond request).status < 300 →
      ∀ e, py.loadsBody (respond request).body = .error e → isRequestFailure e.kind = true ∨ isFeedError e
  | .unconfigured => isFeedError ⟨kind, ""⟩

lemma failedRequest_failure_iff {α : Type} {opened : Except Raised α} : FeedFailure (failedRequest opened) ↔
    ∀ e, opened = .error e → isRequestFailure e.kind = true ∨ isFeedError e := by
  cases opened with
  | ok a => exact iff_of_true (Raises.ok a) nofun
  | error e =>
    rw [failedRequest]
    by_cases hcaught : isRequestFailure e.kind = true
    · rw [if_pos hcaught]
      refine iff_of_true (feedUnavailable_failure _) fun e' he => ?_
      obtain rfl := Except.error.inj he
      exact Or.inl hcaught
    · rw [if_neg hcaught]
      constructor
      · intro h e' he
        obtain rfl := Except.error.inj he
        exact Or.inr (h e rfl)
      · intro h e' he
        obtain rfl := Except.error.inj he
        exact (h _ rfl).resolve_left hcaught

lemma urlopen_of_status {response : FeedResponse} (h : 200 ≤ response.status ∧ response.status < 300) :
    urlopen response = .ok response := by
  rw [urlopen, raiseIf, if_neg (not_not.mpr h)]
  rfl

lemma fetchLiveJson_failure_iff {respond : FeedRequest → FeedResponse} :
    FeedFailure (fetchLiveJson py respond request) ↔ SourceReads py kind request (.live respond) := by
  rw [fetchLiveJson, FeedFailure, raises_bind_iff]
  refine (and_iff_left fun decoded _ => ?_).trans ?_
  · cases decoded with
    | dict _ => exact Raises.ok _
    | none | bool _ | int _ | float _ | str _ | temporal _ _ | list _ => exact feedUnavailable_failure _
  refine failedRequest_failure_iff.trans ?_
  by_cases hstatus : 200 ≤ (respond request).status ∧ (respond request).status < 300
  · rw [urlopen_of_status hstatus, ok_bind, raiseIf, if_neg (not_not.mpr hstatus), ok_bind]
    exact ⟨fun h _ _ => h, fun h => h hstatus.1 hstatus.2⟩
  · refine iff_of_true ?_ fun h₁ h₂ => absurd ⟨h₁, h₂⟩ hstatus
    intro e he
    rw [urlopen, raiseIf, if_pos hstatus] at he
    obtain rfl := Except.error.inj he
    exact Or.inl rfl

lemma read_failure_iff {source : FeedSource} :
    FeedFailure (source.read py kind missing request) ↔ SourceReads py kind request source := by
  cases source with
  | fetcher payload => exact iff_of_true (Raises.ok _) trivial
  | live respond => exact fetchLiveJson_failure_iff
  | unconfigured =>
    constructor
    · exact fun h => h ⟨kind, missing⟩ rfl
    · exact fun h => Raises.raise h

end Sources

section Entries

variable {py : FeedTooling} {key message : String} {raw : Parsed}

lemma objectOf_failure (payload : Parsed) (message : String) : FeedFailure (objectOf payload message) := by
  unfold objectOf
  split
  · exact Raises.ok _
  · exact feedMalformed_failure message

lemma objectOf_eq_ok {payload : Parsed} {members : JsonObject} :
    objectOf payload message = .ok members ↔ payload = .dict members := by
  cases payload with
  | dict _ => exact ⟨fun h => congrArg Parsed.dict (Except.ok.inj h), fun h => by cases h; rfl⟩
  | none | bool _ | int _ | float _ | str _ | temporal _ _ | list _ => exact ⟨nofun, nofun⟩

lemma listOf_failure (value : Parsed) (message : String) : FeedFailure (listOf value message) := by
  unfold listOf
  split
  · exact Raises.ok _
  · exact feedMalformed_failure message

lemma listOf_eq_ok {value : Parsed} {items : List Parsed} :
    listOf value message = .ok items ↔ value = .list items := by
  cases value with
  | list _ => exact ⟨fun h => congrArg Parsed.list (Except.ok.inj h), fun h => by cases h; rfl⟩
  | none | bool _ | int _ | float _ | str _ | temporal _ _ | dict _ => exact ⟨nofun, nofun⟩

/-- The identifier of an entry can be written, where the entry is an object. -/
def IdentifierReads (key : String) (raw : Parsed) : Prop :=
  ∀ members, raw = .dict members → (getMember members key (.str [])).printable = true

/-- The entry is an object with an identifier that is not blank. -/
def Identified (py : FeedTooling) (key : String) (raw : Parsed) : Prop :=
  ∃ members identifier, raw = .dict members ∧ py.text (getMember members key (.str [])) = .ok identifier ∧
    strip identifier ≠ []

lemma identified_failure_iff : FeedFailure (identified py key message raw) ↔ IdentifierReads key raw := by
  rw [identified, FeedFailure, raises_bind_iff]
  refine (and_iff_right (objectOf_failure raw message)).trans ?_
  refine forall_congr' fun members => ?_
  rw [objectOf_eq_ok]
  refine imp_congr_right fun _ => ?_
  rw [raises_bind_iff]
  refine (and_iff_left fun identifier _ => ?_).trans text_failure_iff
  exact Raises.bind (Raises.raiseIf (Or.inr rfl)) fun _ _ => Raises.ok _

lemma identified_eq_ok {entry : JsonObject × Str} : identified py key message raw = .ok entry ↔
    raw = .dict entry.1 ∧ py.text (getMember entry.1 key (.str [])) = .ok entry.2 ∧ strip entry.2 ≠ [] := by
  obtain ⟨members, identifier⟩ := entry
  rw [identified]
  simp only [bind_eq_ok, objectOf_eq_ok, raiseIf_eq_ok]
  constructor
  · rintro ⟨members', hraw, identifier', htext, u, hblank, h⟩
    cases h
    exact ⟨hraw, htext, hblank⟩
  · rintro ⟨hraw, htext, hblank⟩
    exact ⟨members, hraw, identifier, htext, (), hblank, rfl⟩

lemma identified_isOk : (∃ entry, identified py key message raw = .ok entry) ↔ Identified py key raw := by
  simp only [identified_eq_ok, Prod.exists, Identified]

/-- The entries of a response are taken in one way: each can be read up to the first that is refused, and if none
is refused, the response as a whole can be. -/
structure Takes (reads accepted : Parsed → Prop) (content : Prop) (rows : List Parsed) : Prop where
  entries : ∀ before raw after, rows = before ++ raw :: after → (∀ b ∈ before, accepted b) → reads raw
  content : (∀ raw ∈ rows, accepted raw) → content

/-- A list is required, its entries are checked, and what they are checked to is used. -/
lemma rows_failure_iff {β γ : Type} {value : Parsed} {check : Parsed → Except Raised β}
    {reads accepted : Parsed → Prop} {use : List β → Except Raised γ} {content : List Parsed → Prop}
    (hreads : ∀ raw, FeedFailure (check raw) ↔ reads raw)
    (haccepted : ∀ raw, (∃ b, check raw = .ok b) ↔ accepted raw)
    (huse : ∀ rows entries, value = .list rows → rows.mapM check = .ok entries →
      (FeedFailure (use entries) ↔ content rows)) :
    FeedFailure (do
      let rows ← listOf value message
      let entries ← rows.mapM check
      use entries) ↔ ∀ rows, value = .list rows → Takes reads accepted (content rows) rows := by
  have hchecks : ∀ rows : List Parsed, FeedFailure (rows.mapM check) ↔
      ∀ before raw after, rows = before ++ raw :: after → (∀ b ∈ before, accepted b) → reads raw := by
    intro rows
    rw [FeedFailure, raises_mapM_iff]
    refine forall₄_congr fun before raw after _ => ?_
    exact imp_congr (forall₂_congr fun b _ => haccepted b) (hreads raw)
  have haccepts : ∀ rows : List Parsed, (∃ entries, rows.mapM check = .ok entries) ↔ ∀ raw ∈ rows, accepted raw :=
    fun rows => mapM_isOk.trans (forall₂_congr fun raw _ => haccepted raw)
  refine (failure_bind_iff (listOf_failure _ _)).trans (forall_congr' fun rows => ?_)
  rw [listOf_eq_ok]
  refine imp_congr_right fun hvalue => raises_bind_iff.trans ?_
  constructor
  · rintro ⟨hcheck, hrest⟩
    refine ⟨(hchecks rows).mp hcheck, fun haccept => ?_⟩
    obtain ⟨entries, hentries⟩ := (haccepts rows).mpr haccept
    exact (huse rows entries hvalue hentries).mp (hrest entries hentries)
  · intro h
    refine ⟨(hchecks rows).mpr h.entries, fun entries hentries => (huse rows entries hvalue hentries).mpr ?_⟩
    exact h.content ((haccepts rows).mp ⟨entries, hentries⟩)

end Entries

section Loops

variable {α β : Type} {f : α → Except Raised (Option β)} {xs : List α} {fixes opens : α → Prop}

/-- Every item opens that stands before nothing fixed. -/
def OpensToFixed (fixes opens : α → Prop) (xs : List α) : Prop :=
  ∀ before x after, xs = before ++ x :: after → (∀ b ∈ before, ¬ fixes b) → opens x

lemma firstSome_foreign (hf : ∀ x ∈ xs, Foreign (f x)) : Foreign (firstSome f xs) := by
  induction xs with
  | nil => exact Raises.ok _
  | cons x xs ih =>
    rw [firstSome]
    refine Raises.bind (hf x List.mem_cons_self) fun found _ => ?_
    cases found with
    | some b => exact Raises.ok _
    | none => exact ih fun y hy => hf y (List.mem_cons_of_mem x hy)

/-- A search returns exactly if it opens, finds what there is to find, and finds only what is good. -/
structure Finds (good : β → Prop) (r : Except Raised (Option β)) (opens fixes : Prop) : Prop where
  isOk : (∃ o, r = .ok o) ↔ opens
  found : ∀ o, r = .ok o → (o = none ↔ ¬ fixes)
  good : ∀ b, r = .ok (some b) → good b

/-- A loop that returns at the first find returns where every item opens up to it. -/
lemma firstSome_finds {good : β → Prop} (hf : ∀ x ∈ xs, Finds good (f x) (opens x) (fixes x)) :
    Finds good (firstSome f xs) (OpensToFixed fixes opens xs) (∃ x ∈ xs, fixes x) := by
  induction xs with
  | nil =>
    refine ⟨iff_of_true ⟨none, rfl⟩ fun before x after h => by simp at h, fun o ho => ?_, nofun⟩
    obtain rfl := Except.ok.inj ho
    exact iff_of_true rfl (by simp)
  | cons x xs ih =>
    have hx := hf x List.mem_cons_self
    have ih := ih fun y hy => hf y (List.mem_cons_of_mem x hy)
    refine ⟨?_, fun o ho => ?_, fun b hb => ?_⟩
    · rw [firstSome, bind_isOk]
      constructor
      · rintro ⟨found, hfound, hrest⟩ before y after h hbefore
        cases before with
        | nil =>
          obtain ⟨rfl, -⟩ := List.cons.inj h
          exact hx.isOk.mp ⟨found, hfound⟩
        | cons z before =>
          obtain ⟨rfl, hxs⟩ := List.cons.inj h
          obtain ⟨hz, hbefore⟩ := List.forall_mem_cons.mp hbefore
          obtain rfl := (hx.found found hfound).mpr hz
          exact ih.isOk.mp hrest before y after hxs hbefore
      · intro h
        obtain ⟨found, hfound⟩ := hx.isOk.mpr (h [] x xs rfl nofun)
        refine ⟨found, hfound, ?_⟩
        cases found with
        | some b => exact ⟨some b, rfl⟩
        | none =>
          refine ih.isOk.mpr fun before y after hxs hbefore => ?_
          exact h (x :: before) y after (by rw [hxs, List.cons_append])
            (List.forall_mem_cons.mpr ⟨(hx.found none hfound).mp rfl, hbefore⟩)
    · rw [firstSome] at ho
      obtain ⟨found, hfound, ho⟩ := bind_eq_ok.mp ho
      rw [List.exists_mem_cons_iff, not_or, ← hx.found found hfound]
      cases found with
      | some b =>
        obtain rfl := Except.ok.inj ho
        exact iff_of_false nofun nofun
      | none => exact (ih.found o ho).trans (and_iff_right rfl).symm
    · rw [firstSome] at hb
      obtain ⟨found, hfound, hb⟩ := bind_eq_ok.mp hb
      cases found with
      | some _ =>
        cases hb
        exact hx.good b hfound
      | none => exact ih.good b hb

end Loops

section Fixed

open OsVFeedAdapter

variable {py : FeedTooling} {v : Parsed} {raw : JsonObject}

def EventFixes (event : Parsed) : Prop :=
  ∃ members, event = .dict members ∧ (getMember members "fixed" .none).truthy = true

def RangeFixes (range : Parsed) : Prop :=
  ∃ members events, range = .dict members ∧ (getMember members "events" (.list [])).iterate = .ok events ∧
    ∃ event ∈ events, EventFixes event

/-- The events of a range can be gone through. -/
def RangeOpens (range : Parsed) : Prop :=
  ∀ members, range = .dict members → ∃ events, (getMember members "events" (.list [])).iterate = .ok events

def AffectedFixes (affected : Parsed) : Prop :=
  ∃ members ranges, affected = .dict members ∧ (getMember members "ranges" (.list [])).iterate = .ok ranges ∧
    ∃ range ∈ ranges, RangeFixes range

/-- The ranges of an affected package can be gone through, and the events of each up to the first fix. -/
def AffectedOpens (affected : Parsed) : Prop :=
  ∀ members, affected = .dict members → ∃ ranges,
    (getMember members "ranges" (.list [])).iterate = .ok ranges ∧ OpensToFixed RangeFixes RangeOpens ranges

/-- The fixed versions of an entry can be gone through up to the first. -/
def FixesRead (raw : JsonObject) : Prop :=
  OpensToFixed AffectedFixes AffectedOpens (items (getMember raw "affected" (.list [])))

lemma clean_none : Clean .none := ⟨by rw [Parsed.printable]; all_goals nofun, rfl⟩

lemma fixedEvent_finds (py : FeedTooling) (h : Clean v) :
    Finds (fun s => isEncodable s = true) (fixedEvent py v) True (EventFixes v) := by
  cases v with
  | dict members =>
    obtain ⟨s, hs, henc⟩ := (h.getMember "fixed" clean_none).text py
    have hfixes : EventFixes (.dict members) ↔ (getMember members "fixed" .none).truthy = true := by
      constructor
      · rintro ⟨_, ⟨⟩, htruthy⟩
        exact htruthy
      · exact fun htruthy => ⟨members, rfl, htruthy⟩
    rw [hfixes, fixedEvent, hs]
    cases (getMember members "fixed" .none).truthy with
    | true =>
      refine ⟨iff_of_true ⟨some s, rfl⟩ trivial, fun o ho => ?_, fun b hb => ?_⟩
      · obtain rfl := Except.ok.inj ho
        exact iff_of_false nofun (not_not.mpr rfl)
      · cases hb
        exact henc
    | false =>
      refine ⟨iff_of_true ⟨none, rfl⟩ trivial, fun o ho => ?_, nofun⟩
      obtain rfl := Except.ok.inj ho
      exact iff_of_true rfl nofun
  | none | bool _ | int _ | float _ | str _ | temporal _ _ | list _ =>
    refine ⟨iff_of_true ⟨none, rfl⟩ trivial, fun o ho => ?_, nofun⟩
    obtain rfl := Except.ok.inj ho
    exact iff_of_true rfl nofun

/-- A search through what a member of an object holds. -/
lemma searchMember_finds (key : String) {f : Parsed → Except Raised (Option Str)} {opens fixes : Parsed → Prop}
    (h : Clean v) (hf : ∀ x, Clean x → Finds (fun s => isEncodable s = true) (f x) (opens x) (fixes x)) :
    Finds (fun s => isEncodable s = true) (searchMember key f v)
      (∀ members, v = .dict members → ∃ found, (getMember members key (.list [])).iterate = .ok found ∧
        OpensToFixed fixes opens found)
      (∃ members found, v = .dict members ∧ (getMember members key (.list [])).iterate = .ok found ∧
        ∃ x ∈ found, fixes x) := by
  cases v with
  | dict members =>
    have hmember := h.getMember key clean_list
    have hfinds : ∀ found, (getMember members key (.list [])).iterate = .ok found →
        Finds (fun s => isEncodable s = true) (firstSome f found) (OpensToFixed fixes opens found)
          (∃ x ∈ found, fixes x) :=
      fun found hfound => firstSome_finds fun x hx => hf x (hmember.iterate hfound hx)
    refine ⟨?_, fun o ho => ?_, fun b hb => ?_⟩
    · rw [searchMember, bind_isOk]
      constructor
      · rintro ⟨found, hfound, hrest⟩ _ ⟨⟩
        exact ⟨found, hfound, (hfinds found hfound).isOk.mp hrest⟩
      · intro h
        obtain ⟨found, hfound, hrest⟩ := h members rfl
        exact ⟨found, hfound, (hfinds found hfound).isOk.mpr hrest⟩
    · obtain ⟨found, hfound, ho⟩ := bind_eq_ok.mp ho
      rw [(hfinds found hfound).found o ho, not_iff_not]
      constructor
      · exact fun h => ⟨members, found, rfl, hfound, h⟩
      · rintro ⟨_, found', ⟨⟩, hfound', h⟩
        obtain rfl := Except.ok.inj (hfound.symm.trans hfound')
        exact h
    · obtain ⟨found, hfound, hb⟩ := bind_eq_ok.mp hb
      exact (hfinds found hfound).good b hb
  | none | bool _ | int _ | float _ | str _ | temporal _ _ | list _ =>
    refine ⟨iff_of_true ⟨none, rfl⟩ nofun, fun o ho => ?_, nofun⟩
    obtain rfl := Except.ok.inj ho
    exact iff_of_true rfl (by rintro ⟨_, _, ⟨⟩, _⟩)

lemma fixedRange_finds (h : Clean v) :
    Finds (fun s => isEncodable s = true) (fixedRange py v) (RangeOpens v) (RangeFixes v) := by
  have hfinds := searchMember_finds "events" h fun x hx => fixedEvent_finds py hx
  have hopens : (∀ members, v = .dict members → ∃ found, (getMember members "events" (.list [])).iterate = .ok found ∧
      OpensToFixed EventFixes (fun _ => True) found) ↔ RangeOpens v := by
    refine forall₂_congr fun members _ => exists_congr fun found => and_iff_left ?_
    exact fun _ _ _ _ _ => trivial
  exact ⟨hfinds.isOk.trans hopens, hfinds.found, hfinds.good⟩

lemma fixedAffected_finds (h : Clean v) :
    Finds (fun s => isEncodable s = true) (fixedAffected py v) (AffectedOpens v) (AffectedFixes v) :=
  searchMember_finds "ranges" h fun _ hx => fixedRange_finds hx

lemma Clean.items (h : Clean v) {x : Parsed} (hx : x ∈ items v) : Clean x := by
  cases v with
  | list _ => exact h.item hx
  | none | bool _ | int _ | float _ | str _ | temporal _ _ | dict _ => cases hx

lemma firstFixedVersion_finds (py : FeedTooling) (h : Clean (.dict raw)) : Finds (fun s => isEncodable s = true)
    (firstFixedVersion py raw) (FixesRead raw)
    (∃ x ∈ OsVFeedAdapter.items (getMember raw "affected" (.list [])), AffectedFixes x) :=
  firstSome_finds fun _ hx => fixedAffected_finds ((h.getMember _ clean_list).items hx)

end Fixed

section Records

open OsVFeedAdapter

variable {py : FeedTooling} {raw members : JsonObject} {ecosystem packageName version : Str}
variable {provenance : FeedProvenance}

lemma clean_texts (py : FeedTooling) {l : List Parsed} (h : ∀ v ∈ l, Clean v) :
    ∃ texts, l.mapM py.text = .ok texts ∧ ∀ s ∈ texts, isEncodable s = true := by
  obtain ⟨texts, htexts⟩ := mapM_isOk.mpr fun v hv => (h v hv).text py |>.imp fun s hs => hs.1
  refine ⟨texts, htexts, fun s hs => ?_⟩
  obtain ⟨v, hv, htext⟩ := (mapM_eq_ok htexts).2 s hs
  exact (h v hv).text_eq htext

lemma advisorySource_isOk (py : FeedTooling) {v : Parsed} (h : Clean v) :
    ∃ o, advisorySource py v = .ok o ∧ ∀ s, o = some s → isEncodable s = true := by
  cases v with
  | dict members =>
    obtain ⟨s, hs, henc⟩ := (h.getMember "url" clean_text).text py
    refine ⟨some s, by rw [advisorySource, hs]; rfl, ?_⟩
    rintro _ ⟨⟩
    exact henc
  | none | bool _ | int _ | float _ | str _ | temporal _ _ | list _ => exact ⟨none, rfl, nofun⟩

lemma clean_references (py : FeedTooling) {l : List Parsed} (h : ∀ v ∈ l, Clean v) :
    ∃ references, l.mapM (advisorySource py) = .ok references ∧
      ∀ s ∈ references.filterMap id, isEncodable s = true := by
  obtain ⟨references, hreferences⟩ := mapM_isOk.mpr fun v hv =>
    (advisorySource_isOk py (h v hv)).imp fun o ho => ho.1
  refine ⟨references, hreferences, fun s hs => ?_⟩
  obtain ⟨o, ho, rfl⟩ := List.mem_filterMap.mp hs
  obtain ⟨v, hv, hsource⟩ := (mapM_eq_ok hreferences).2 _ ho
  obtain ⟨o', ho', henc⟩ := advisorySource_isOk py (h v hv)
  obtain rfl := Except.ok.inj (hsource.symm.trans ho')
  exact henc s rfl

/-- The record of an entry is made where the fixed versions can be gone through and the query has bytes. -/
lemma recordOf_isOk (h : Clean (.dict raw)) :
    (∃ r, recordOf py ecosystem packageName version provenance raw = .ok r) ↔
      FixesRead raw ∧ ∀ s ∈ [packageName, ecosystem, version], isEncodable s = true := by
  obtain ⟨aliases, haliases, hencAliases⟩ := clean_texts py fun v hv =>
    (h.getMember "aliases" clean_list).items hv
  obtain ⟨identifier, hidentifier, hencIdentifier⟩ := (h.getMember "id" clean_text).text py
  obtain ⟨range, hrange, hencRange⟩ := (h.getMember "affected" clean_text).text py
  obtain ⟨references, hreferences, hencReferences⟩ := clean_references py fun v hv =>
    (h.getMember "references" clean_list).items hv
  have hfinds := firstFixedVersion_finds py h
  rw [recordOf, haliases, ok_bind, hidentifier, ok_bind, hrange, ok_bind, bind_isOk, ← hfinds.isOk]
  simp only [hreferences, ok_bind, validated_isOk]
  constructor
  · rintro ⟨fixed, hfixed, henc⟩
    refine ⟨⟨fixed, hfixed⟩, fun s hs => henc s ?_⟩
    simp only [List.mem_cons, List.not_mem_nil, or_false] at hs ⊢
    tauto
  · rintro ⟨⟨fixed, hfixed⟩, henc⟩
    refine ⟨fixed, hfixed, fun s hs => ?_⟩
    have hencFixed : ∀ s ∈ fixed.toList, isEncodable s = true := by
      intro s hs
      rw [Option.mem_toList] at hs
      obtain rfl := hs
      exact hfinds.good s hfixed
    simp only [List.mem_cons, List.mem_append] at hs
    rcases hs with rfl | rfl | rfl | rfl | rfl | (hs | hs) | hs
    · exact henc _ (by simp)
    · exact henc _ (by simp)
    · exact henc _ (by simp)
    · exact hencIdentifier
    · exact hencRange
    · exact hencAliases s hs
    · exact hencFixed s hs
    · exact hencReferences s hs

lemma iterate_foreign (v : Parsed) : Foreign v.iterate := by
  cases v with
  | list _ | dict _ | str _ => exact Raises.ok _
  | none | bool _ | int _ | float _ | temporal _ _ =>
    refine Raises.raise ?_
    rintro (h | h) <;> cases h

lemma searchMember_foreign {key : String} {f : Parsed → Except Raised (Option Str)} (hf : ∀ x, Foreign (f x))
    (v : Parsed) : Foreign (searchMember key f v) := by
  unfold searchMember
  split
  · exact Raises.bind (iterate_foreign _) fun _ _ => firstSome_foreign fun x _ => hf x
  · exact Raises.ok _

lemma fixedEvent_foreign (v : Parsed) : Foreign (fixedEvent py v) := by
  unfold fixedEvent
  split
  · dsimp only
    split
    · exact Raises.bind (text_foreign _ _) fun _ _ => Raises.ok _
    · exact Raises.ok _
  · exact Raises.ok _

lemma advisorySource_foreign (v : Parsed) : Foreign (advisorySource py v) := by
  unfold advisorySource
  split
  · exact Raises.bind (text_foreign _ _) fun _ _ => Raises.ok _
  · exact Raises.ok _

lemma recordOf_foreign : Foreign (recordOf py ecosystem packageName version provenance raw) := by
  refine Raises.bind (Raises.mapM fun _ _ => text_foreign _ _) fun _ _ => ?_
  refine Raises.bind (text_foreign _ _) fun _ _ => Raises.bind (text_foreign _ _) fun _ _ => ?_
  have hfixed : Foreign (firstFixedVersion py raw) :=
    firstSome_foreign fun _ _ => searchMember_foreign (searchMember_foreign fixedEvent_foreign) _
  refine Raises.bind hfixed fun _ _ => ?_
  exact Raises.bind (Raises.mapM fun _ _ => advisorySource_foreign _) fun _ _ => validated_foreign _ _

lemma dataVersionOf_foreign {entries : List JsonObject} : Foreign (dataVersionOf py members entries) :=
  Raises.bind (text_foreign _ _) fun _ _ =>
    Raises.bind (Raises.mapM fun _ _ => text_foreign _ _) fun _ _ => Raises.ok _

lemma dataVersionOf_isOk (py : FeedTooling) {entries : List JsonObject} (h : Clean (.dict members))
    (hentries : ∀ entry ∈ entries, Clean (.dict entry)) :
    ∃ s, dataVersionOf py members entries = .ok s ∧ isEncodable s = true := by
  obtain ⟨default, hdefault, henc⟩ := (h.getMember "modified" clean_text).text py
  have hclean : ∀ entry ∈ entries, Clean (getMember entry "modified" (.str [])) :=
    fun entry hentry => (hentries entry hentry).getMember _ clean_text
  obtain ⟨modified, hmodified⟩ := mapM_isOk.mpr fun entry hentry =>
    (hclean entry hentry).text py |>.imp fun s hs => hs.1
  refine ⟨_, by rw [dataVersionOf, hdefault, ok_bind, hmodified, ok_bind]; rfl, ?_⟩
  cases hmax : (modified.filter fun s => decide (strip s ≠ [])).max? with
  | none => exact henc
  | some s =>
    have hs := List.mem_of_mem_filter (List.max?_mem hmax)
    obtain ⟨entry, hentry, htext⟩ := (mapM_eq_ok hmodified).2 s hs
    exact (hclean entry hentry).text_eq htext

end Records

section Osv

open OsVFeedAdapter

variable {py : FeedTooling} {ecosystem packageName version : Str} {payload : Parsed} {members : JsonObject}
variable {vulns : List Parsed}

/-- The response lists vulnerabilities: it has a list of them, or is empty. -/
def ListsVulns (members : JsonObject) (vulns : List Parsed) : Prop :=
  ¬ ((members.lookup (Str.ofString "vulns")).isNone = true ∧ members.isEmpty = false) ∧
    getMember members "vulns" (.list []) = .list vulns

/-- The entry passes the adapter's checks. -/
def OsvAccepts (py : FeedTooling) (raw : Parsed) : Prop :=
  ∃ entry : JsonObject × Str, (raw = .dict entry.1 ∧ py.text (getMember entry.1 "id" (.str [])) = .ok entry.2 ∧
    strip entry.2 ≠ []) ∧ ∀ key ∈ ["aliases", "affected", "references"], listsWhere entry.1 key = true

/-- A response that the adapter takes in one way: each identifier can be written up to the first entry that is
refused; and if none is, the response can be written in JSON and in bytes, and the fixed versions gone through. -/
def OsvReads (py : FeedTooling) (ecosystem packageName version : Str) (payload : Parsed) : Prop :=
  ∀ members vulns, payload = .dict members → ListsVulns members vulns →
    Takes (IdentifierReads "id") (OsvAccepts py) (Digested payload ∧ ∀ raw, .dict raw ∈ vulns →
      FixesRead raw ∧ ∀ s ∈ [packageName, ecosystem, version], isEncodable s = true) vulns

lemma checkEntry_failure_iff {raw : Parsed} : FeedFailure (checkEntry py raw) ↔ IdentifierReads "id" raw := by
  rw [checkEntry, FeedFailure, raises_bind_iff]
  refine (and_iff_left fun entry _ => ?_).trans identified_failure_iff
  exact Raises.bind (Raises.raiseIf (Or.inr rfl)) fun _ _ => Raises.bind (Raises.raiseIf (Or.inr rfl)) fun _ _ =>
    Raises.bind (Raises.raiseIf (Or.inr rfl)) fun _ _ => Raises.ok _

lemma checkEntry_eq_ok {raw : Parsed} {entry : JsonObject × Str} : checkEntry py raw = .ok entry ↔
    (raw = .dict entry.1 ∧ py.text (getMember entry.1 "id" (.str [])) = .ok entry.2 ∧ strip entry.2 ≠ []) ∧
      ∀ key ∈ ["aliases", "affected", "references"], listsWhere entry.1 key = true := by
  rw [checkEntry]
  simp only [bind_eq_ok, identified_eq_ok, raiseIf_eq_ok, Bool.not_eq_false, List.forall_mem_cons,
    List.not_mem_nil, false_imp_iff, implies_true, and_true]
  constructor
  · rintro ⟨entry', hentry, _, haliases, _, haffected, _, hreferences, h⟩
    cases h
    exact ⟨hentry, haliases, haffected, hreferences⟩
  · rintro ⟨hentry, haliases, haffected, hreferences⟩
    exact ⟨entry, hentry, (), haliases, (), haffected, (), hreferences, rfl⟩

lemma checkEntry_isOk {raw : Parsed} : (∃ entry, checkEntry py raw = .ok entry) ↔ OsvAccepts py raw := by
  simp only [checkEntry_eq_ok, OsvAccepts]

lemma recordsOf_foreign {entries : List (JsonObject × Str)} :
    Foreign (recordsOf py ecosystem packageName version members entries) :=
  Raises.bind dataVersionOf_foreign fun _ _ => Raises.bind (provenanceOf_foreign _ _ _ _ _) fun _ _ =>
    Raises.mapM fun _ _ => recordOf_foreign

/-- What is done once the entries are checked. -/
lemma recordsOf_failure_iff {entries : List (JsonObject × Str)} (hlist : ListsVulns members vulns)
    (hentries : vulns.mapM (checkEntry py) = .ok entries) :
    FeedFailure (recordsOf py ecosystem packageName version members entries) ↔
      Digested (.dict members) ∧ ∀ raw, .dict raw ∈ vulns →
        FixesRead raw ∧ ∀ s ∈ [packageName, ecosystem, version], isEncodable s = true := by
  refine recordsOf_foreign.failure_iff.trans ?_
  obtain ⟨hforth, hback⟩ := mapM_eq_ok hentries
  have hmem : ∀ entry ∈ entries, .dict entry.1 ∈ vulns := by
    intro entry hentry
    obtain ⟨raw, hraw, hcheck⟩ := hback entry hentry
    obtain ⟨⟨rfl, -⟩, -⟩ := checkEntry_eq_ok.mp hcheck
    exact hraw
  have hclean : Clean (.dict members) → ∀ raw, .dict raw ∈ vulns → Clean (.dict raw) := by
    intro h raw hraw
    have hvulns := h.getMember "vulns" clean_list
    rw [hlist.2] at hvulns
    exact hvulns.item hraw
  constructor
  · rintro ⟨records, h⟩
    obtain ⟨dataVersion, hversion, h⟩ := bind_eq_ok.mp h
    obtain ⟨provenance, hprovenance, h⟩ := bind_eq_ok.mp h
    have hdigested := (provenanceOf_isOk.mp ⟨provenance, hprovenance⟩).1
    refine ⟨hdigested, fun raw hraw => ?_⟩
    obtain ⟨entry, hentry, hcheck⟩ := hforth _ hraw
    obtain ⟨⟨heq, -⟩, -⟩ := checkEntry_eq_ok.mp hcheck
    obtain rfl := Parsed.dict.inj heq
    exact (recordOf_isOk (hclean hdigested.toClean _ hraw)).mp (mapM_isOk.mp ⟨records, h⟩ entry hentry)
  · rintro ⟨hdigested, hraws⟩
    have hclean := hclean hdigested.toClean
    obtain ⟨dataVersion, hversion, henc⟩ : ∃ s, dataVersionOf py members (entries.map Prod.fst) = .ok s ∧
        isEncodable s = true := by
      refine dataVersionOf_isOk py hdigested.toClean fun entry hentry => ?_
      obtain ⟨e, he, rfl⟩ := List.mem_map.mp hentry
      exact hclean _ (hmem e he)
    obtain ⟨provenance, hprovenance⟩ : ∃ provenance, provenanceOf py "OSV" endpoint dataVersion "1.0" []
        (.dict members) = .ok provenance := provenanceOf_isOk.mpr ⟨hdigested, by
        intro s hs
        simp only [List.mem_cons, List.not_mem_nil, or_false] at hs
        rcases hs with rfl | rfl | rfl | rfl | rfl
        · exact isEncodable_ofString _
        · exact isEncodable_ofString _
        · exact henc
        · exact isEncodable_ofString _
        · rfl⟩
    rw [recordsOf, hversion, ok_bind, hprovenance, ok_bind, mapM_isOk]
    intro entry hentry
    exact (recordOf_isOk (hclean _ (hmem entry hentry))).mpr (hraws _ (hmem entry hentry))

/-- The source of OSV gives a response that is taken in one way. -/
def OsvTakes (py : FeedTooling) (ecosystem packageName version : Str) (source : FeedSource) : Prop :=
  SourceReads py .osvFeedUnavailable ⟨endpoint, some (packageName, ecosystem, version)⟩ source ∧
    ∀ payload, source.read py .osvFeedUnavailable
      "OSV fetcher is not configured; set live=True for the official feed"
      ⟨endpoint, some (packageName, ecosystem, version)⟩ = .ok payload →
        OsvReads py ecosystem packageName version payload

/-- The adapter of OSV fails as a feed does exactly if its source does and the response can be read. -/
theorem osv_failure_iff {source : FeedSource} : FeedFailure (query py source ecosystem packageName version) ↔
    OsvTakes py ecosystem packageName version source := by
  refine raises_bind_iff.trans (and_congr read_failure_iff (forall₂_congr fun payload _ => ?_))
  refine (failure_bind_iff (objectOf_failure _ _)).trans ?_
  simp only [objectOf_eq_ok]
  constructor
  · rintro h members vulns rfl hlist
    have hrest := (failure_bind_iff (Raises.raiseIf (Or.inr rfl))).mp (h members rfl) () (raiseIf_eq_ok.mpr hlist.1)
    exact (rows_failure_iff (fun _ => checkEntry_failure_iff) (fun _ => checkEntry_isOk)
      fun rows entries hrows hread => recordsOf_failure_iff ⟨hlist.1, hrows⟩ hread).mp hrest vulns hlist.2
  · rintro h members rfl
    refine (failure_bind_iff (Raises.raiseIf (Or.inr rfl))).mpr fun _ hmissing => ?_
    rw [raiseIf_eq_ok] at hmissing
    exact (rows_failure_iff (fun _ => checkEntry_failure_iff) (fun _ => checkEntry_isOk)
      fun rows entries hrows hread => recordsOf_failure_iff ⟨hmissing, hrows⟩ hread).mpr
        fun vulns hvulns => h members vulns rfl ⟨hmissing, hvulns⟩

end Osv

section Kev

open CisaKevFeedAdapter

variable {py : FeedTooling} {wanted : List Str} {members : JsonObject}

/-- A response that the adapter takes in one way: each identifier can be written up to the first entry that is
refused; and if none is, the response can be written in JSON and in bytes. -/
def KevReads (py : FeedTooling) (payload : Parsed) : Prop :=
  ∀ members, payload = .dict members → ∀ rows, getMember members "vulnerabilities" .none = .list rows →
    Takes (IdentifierReads "cveID") (Identified py "cveID") (Digested payload) rows

lemma matchOf_failure_iff {entries : List (JsonObject × Str)} :
    FeedFailure (matchOf py wanted members entries) ↔ Digested (.dict members) := by
  have hforeign : Foreign (matchOf py wanted members entries) :=
    Raises.bind (text_foreign _ _) fun _ _ => Raises.bind (provenanceOf_foreign _ _ _ _ _) fun _ _ => Raises.ok _
  refine hforeign.failure_iff.trans ?_
  rw [matchOf, bind_isOk]
  simp only [map_isOk, provenanceOf_isOk]
  constructor
  · rintro ⟨_, -, h, -⟩
    exact h
  · intro h
    obtain ⟨version, hversion, henc⟩ := (h.toClean.getMember "catalogVersion"
      (h.toClean.getMember "dateReleased" clean_text)).text py
    refine ⟨version, hversion, h, fun s hs => ?_⟩
    simp only [List.mem_cons, List.not_mem_nil, or_false] at hs
    rcases hs with rfl | rfl | rfl | rfl | rfl
    · exact isEncodable_ofString _
    · exact isEncodable_ofString _
    · exact henc
    · exact isEncodable_ofString _
    · split
      · rfl
      · exact isEncodable_ofString _

/-- The source of CISA gives a response that is taken in one way. -/
def KevTakes (py : FeedTooling) (source : FeedSource) : Prop :=
  SourceReads py .vulnerabilityFeedUnavailable ⟨endpoint, none⟩ source ∧
    ∀ payload, source.read py .vulnerabilityFeedUnavailable
      "CISA KEV fetcher is not configured; set live=True for the official feed" ⟨endpoint, none⟩ = .ok payload →
        KevReads py payload

/-- The adapter of CISA fails as a feed does exactly if its source does and the response can be read. -/
theorem kev_failure_iff (vulnerabilityIds : List Str) {source : FeedSource} :
    FeedFailure (CisaKevFeedAdapter.lookup py source vulnerabilityIds) ↔ KevTakes py source := by
  refine raises_bind_iff.trans (and_congr read_failure_iff (forall₂_congr fun payload _ => ?_))
  refine (failure_bind_iff (objectOf_failure _ _)).trans (forall_congr' fun members => ?_)
  rw [objectOf_eq_ok]
  refine imp_congr_right fun hpayload => ?_
  subst hpayload
  exact rows_failure_iff (fun _ => identified_failure_iff) (fun _ => identified_isOk)
    fun rows entries _ _ => matchOf_failure_iff

end Kev

section Epss

open FirstEpssFeedAdapter

variable {py : FeedTooling} {normalized : Str} {members : JsonObject} {rows : List Parsed}

/-- The number is not beyond the floats. -/
def FloatFits (v : Parsed) : Prop := ∀ i, v = .int i → i.natAbs < floatLimit

/-- A row, if its identifier is the one that is looked up. -/
def namedRow (py : FeedTooling) (normalized : Str) : Parsed → Option JsonObject
  | .dict members =>
    if (py.text (getMember members "cve" (.str []))).toOption.map py.upper = some normalized then some members
    else none
  | _ => none

/-- A response that the adapter takes in one way: each identifier can be written up to the first row that is
refused; and if none is, the response can be written in JSON and in bytes, and the scores of the row are not beyond
the floats. -/
def EpssReads (py : FeedTooling) (normalized : Str) (payload : Parsed) : Prop :=
  ∀ members, payload = .dict members → ∀ rows, getMember members "data" .none = .list rows →
    Takes (IdentifierReads "cve") (Identified py "cve") (Digested payload ∧
      ∀ row, rows.findSome? (namedRow py normalized) = some row → ∀ key ∈ ["epss", "percentile"],
        FloatFits (getMember row key .none)) rows

lemma floatOrNone_isOk {v : Parsed} : (∃ o, floatOrNone py v = .ok o) ↔ FloatFits v := by
  cases v with
  | int i =>
    rw [floatOrNone, map_isOk]
    simp only [raiseIf_eq_ok, exists_const, not_le]
    exact ⟨fun h _ hi => by cases hi; exact h, fun h => h i rfl⟩
  | none | bool _ | float _ | str _ | temporal _ _ | list _ | dict _ => exact iff_of_true ⟨_, rfl⟩ nofun

lemma floatOrNone_foreign (v : Parsed) : Foreign (floatOrNone py v) := by
  unfold floatOrNone
  split
  · exact Raises.bind (foreign_raiseIf nofun nofun) fun _ _ => Raises.ok _
  all_goals exact Raises.ok _

lemma scoreOf_isOk (py : FeedTooling) {row : Option JsonObject} {key : String} :
    (∃ o, scoreOf py row key = .ok o) ↔ ∀ members, row = some members → FloatFits (getMember members key .none) := by
  cases row with
  | none => exact iff_of_true ⟨none, rfl⟩ nofun
  | some members =>
    rw [scoreOf, floatOrNone_isOk]
    exact ⟨fun h _ hm => by cases hm; exact h, fun h => h members rfl⟩

lemma scoreOf_foreign (row : Option JsonObject) (key : String) : Foreign (scoreOf py row key) := by
  cases row with
  | none => exact Raises.ok _
  | some members => exact floatOrNone_foreign _

lemma find?_entries {message : String} {entries : List (JsonObject × Str)}
    (h : rows.mapM (identified py "cve" message) = .ok entries) :
    (entries.find? fun entry => decide (py.upper entry.2 = normalized)).map Prod.fst =
      rows.findSome? (namedRow py normalized) := by
  induction rows generalizing entries with
  | nil =>
    cases h
    rfl
  | cons raw rows ih =>
    rw [List.mapM_cons] at h
    obtain ⟨entry, hentry, hrows⟩ := bind_eq_ok.mp h
    obtain ⟨rest, hrest, hcons⟩ := bind_eq_ok.mp hrows
    obtain rfl := Except.ok.inj hcons
    obtain ⟨rfl, htext, -⟩ := identified_eq_ok.mp hentry
    rw [List.findSome?_cons, namedRow, htext, List.find?_cons, ← ih hrest]
    by_cases hname : py.upper entry.2 = normalized
    · simp [Except.toOption, hname]
    · simp [Except.toOption, hname]

lemma scoresOf_failure_iff {message : String} {entries : List (JsonObject × Str)}
    (hurl : isEncodable (urlOf normalized) = true) (h : rows.mapM (identified py "cve" message) = .ok entries) :
    FeedFailure (scoresOf py normalized members entries) ↔ Digested (.dict members) ∧
      ∀ row, rows.findSome? (namedRow py normalized) = some row → ∀ key ∈ ["epss", "percentile"],
        FloatFits (getMember row key .none) := by
  have hforeign : Foreign (scoresOf py normalized members entries) :=
    Raises.bind (scoreOf_foreign _ _) fun _ _ => Raises.bind (scoreOf_foreign _ _) fun _ _ =>
      Raises.bind (text_foreign _ _) fun _ _ => Raises.bind (provenanceOf_foreign _ _ _ _ _) fun _ _ => Raises.ok _
  refine hforeign.failure_iff.trans ?_
  rw [scoresOf, find?_entries h]
  simp only [bind_isOk]
  constructor
  · rintro ⟨_, hepss, _, hpercentile, _, -, provenance, hprovenance, -⟩
    refine ⟨(provenanceOf_isOk.mp ⟨provenance, hprovenance⟩).1, fun row hrow => ?_⟩
    simp only [List.forall_mem_cons, List.not_mem_nil, false_imp_iff, implies_true, and_true]
    exact ⟨(scoreOf_isOk py).mp ⟨_, hepss⟩ row hrow, (scoreOf_isOk py).mp ⟨_, hpercentile⟩ row hrow⟩
  · rintro ⟨hdigested, hrow⟩
    obtain ⟨version, hversion, henc⟩ := (hdigested.toClean.getMember "version" clean_text).text py
    obtain ⟨probability, hepss⟩ := (scoreOf_isOk py).mpr fun row h => hrow row h "epss" (by simp)
    obtain ⟨percentile, hpercentile⟩ := (scoreOf_isOk py).mpr fun row h => hrow row h "percentile" (by simp)
    suffices hmade : ∃ provenance, provenanceOf py "FIRST-EPSS" (urlOf normalized) version "FIRST-EPSS-1.0"
        (if (rows.findSome? (namedRow py normalized)).isNone then "CVE not present in the current EPSS response"
          else []) (.dict members) = .ok provenance from
      ⟨probability, hepss, percentile, hpercentile, version, hversion, hmade.imp fun _ h => ⟨h, _, rfl⟩⟩
    refine provenanceOf_isOk.mpr ⟨hdigested, fun s hs => ?_⟩
    simp only [List.mem_cons, List.not_mem_nil, or_false] at hs
    rcases hs with rfl | rfl | rfl | rfl | rfl
    · exact isEncodable_ofString _
    · exact hurl
    · exact henc
    · exact isEncodable_ofString _
    · split
      · exact isEncodable_ofString _
      · rfl

lemma isEncodable_hexDigit (n : ℕ) : (hexDigit n).isScalar = true := rfl

lemma isEncodable_urlOf (normalized : Str) : isEncodable (urlOf normalized) = true := by
  have hbyte : ∀ b, isEncodable (quotedByte b) = true := by
    intro b
    rw [quotedByte]
    split
    · rfl
    · split <;> rfl
  have hquoted : ∀ bytes : List UInt8, isEncodable (bytes.flatMap quotedByte) = true := by
    intro bytes
    induction bytes with
    | nil => rfl
    | cons b bytes ih => rw [List.flatMap_cons, isEncodable_append, hbyte, ih, Bool.and_self]
  rw [urlOf, urlencode, isEncodable_append, isEncodable_cons, isEncodable_append, isEncodable_cons, hquoted]
  exact Bool.and_eq_true_iff.mpr ⟨isEncodable_ofString _, by rw [isEncodable_ofString]; rfl⟩

/-- For a CVE identifier the source of FIRST gives a response that is taken in one way. -/
def EpssTakes (py : FeedTooling) (normalized : Str) (source : FeedSource) : Prop :=
  isCve py normalized = true →
    SourceReads py .vulnerabilityFeedUnavailable ⟨urlOf normalized, none⟩ source ∧
      ∀ payload, source.read py .vulnerabilityFeedUnavailable
        "FIRST EPSS fetcher is not configured; set live=True for the official feed" ⟨urlOf normalized, none⟩ =
          .ok payload → EpssReads py normalized payload

/-- The adapter of FIRST fails as a feed does exactly if, for what is an identifier, its source does and the
response can be read. -/
theorem epss_failure_iff {source : FeedSource} {cveId : Str} :
    FeedFailure (FirstEpssFeedAdapter.lookup py source cveId) ↔ EpssTakes py (py.upper (strip cveId)) source := by
  rw [FirstEpssFeedAdapter.lookup, EpssTakes]
  generalize py.upper (strip cveId) = normalized
  cases hcve : isCve py normalized with
  | false => exact iff_of_true (Raises.ok _) nofun
  | true =>
    simp only [reduceCtorEq, if_false, forall_const]
    refine raises_bind_iff.trans (and_congr read_failure_iff (forall₂_congr fun payload _ => ?_))
    refine (failure_bind_iff (objectOf_failure _ _)).trans (forall_congr' fun members => ?_)
    rw [objectOf_eq_ok]
    refine imp_congr_right fun hpayload => ?_
    subst hpayload
    exact rows_failure_iff (fun _ => identified_failure_iff) (fun _ => identified_isOk)
      fun rows entries _ hread => scoresOf_failure_iff (isEncodable_urlOf normalized) hread

end Epss

section Enrich

variable {py : FeedTooling} {kev epss : Option FeedSource} {record enriched : VulnerabilityRecord}

lemma consulted_isOk {α : Type} {m : Except Raised α} : (∃ r, consulted m = .ok r) ↔ FeedFailure m := by
  cases m with
  | ok a => exact iff_of_true ⟨_, rfl⟩ (Raises.ok a)
  | error e =>
    rw [consulted]
    by_cases he : isFeedError e
    · rw [if_pos he]
      refine iff_of_true ⟨_, rfl⟩ fun x hx => ?_
      obtain rfl := Except.error.inj hx
      exact he
    · rw [if_neg he]
      exact iff_of_false nofun fun h => he (h e rfl)

lemma consultKev_isOk {source : FeedSource} {identifiers : List Str} {e : Enrichment} :
    (∃ e', consultKev py source identifiers e = .ok e') ↔ KevTakes py source := by
  rw [← kev_failure_iff identifiers, ← consulted_isOk, consultKev, bind_isOk]
  refine exists_congr fun r => and_iff_left ?_
  cases r with
  | ok _ => exact ⟨_, rfl⟩
  | error _ => exact ⟨_, rfl⟩

lemma consultEpss_isOk {source : FeedSource} {cveId : Str} {e : Enrichment} :
    (∃ e', consultEpss py source cveId e = .ok e') ↔ EpssTakes py (py.upper (strip cveId)) source := by
  rw [← epss_failure_iff, ← consulted_isOk, consultEpss, bind_isOk]
  refine exists_congr fun r => and_iff_left ?_
  cases r with
  | ok _ => exact ⟨_, rfl⟩
  | error _ => exact ⟨_, rfl⟩

lemma whereGiven_isOk {consult : FeedSource → Enrichment → Except Raised Enrichment} {source : Option FeedSource}
    {e : Enrichment} {takes : FeedSource → Prop} (h : ∀ source, (∃ e', consult source e = .ok e') ↔ takes source) :
    (∃ e', whereGiven consult source e = .ok e') ↔ ∀ s ∈ source, takes s := by
  cases source with
  | none => exact iff_of_true ⟨e, rfl⟩ nofun
  | some s =>
    rw [whereGiven, h]
    exact ⟨fun h _ hs => by cases hs; exact h, fun h => h s rfl⟩

/-- The identifier that the EPSS of a record is looked up by. -/
def epssIdentifier (py : FeedTooling) (record : VulnerabilityRecord) : Str :=
  canonicalVulnerabilityId py.toInterpreter record.vulnerabilityId record.aliases

/-- An enrichment returns exactly if the feeds it consults give responses that are taken in one way. -/
theorem enrich_isOk : (∃ r, enrich py kev epss record = .ok r) ↔ (∀ source ∈ kev, KevTakes py source) ∧
    ∀ source ∈ epss, EpssTakes py (py.upper (strip (epssIdentifier py record))) source := by
  have hepss : ∀ e, (∃ e', whereGiven (fun source => consultEpss py source (epssIdentifier py record)) epss e =
      .ok e') ↔ _ := fun e => whereGiven_isOk fun source => consultEpss_isOk
  rw [enrich, bind_isOk]
  simp only [map_isOk]
  have hkev : (∃ e', whereGiven (fun source => consultKev py source (record.vulnerabilityId :: record.aliases)) kev
      ⟨record, [record.freshness]⟩ = .ok e') ↔ _ := whereGiven_isOk fun source => consultKev_isOk
  rw [← hkev, ← exists_and_right]
  exact exists_congr fun e => and_congr_right fun _ => hepss e

/-- The states are fresh, and where a feed was consulted, it was read. -/
lemma consultKev_state {source : FeedSource} {identifiers : List Str} {e e' : Enrichment}
    (h : consultKev py source identifiers e = .ok e') : ∃ state, e'.states = e.states ++ [state] ∧
      (state = .fresh → ∃ matched provenance,
        CisaKevFeedAdapter.lookup py source identifiers = .ok (matched, provenance) ∧ provenance.state = .fresh) := by
  obtain ⟨r, hr, h⟩ := bind_eq_ok.mp h
  cases hlookup : CisaKevFeedAdapter.lookup py source identifiers with
  | ok reading =>
    obtain ⟨matched, provenance⟩ := reading
    rw [hlookup] at hr
    cases hr
    cases h
    exact ⟨provenance.state, rfl, fun hfresh => ⟨matched, provenance, rfl, hfresh⟩⟩
  | error x =>
    rw [hlookup, consulted] at hr
    split at hr
    · cases hr
      cases h
      exact ⟨.unavailable, rfl, nofun⟩
    · cases hr

lemma consultEpss_state {source : FeedSource} {cveId : Str} {e e' : Enrichment}
    (h : consultEpss py source cveId e = .ok e') : ∃ state, e'.states = e.states ++ [state] ∧
      (state = .fresh → ∃ probability percentile provenance,
        FirstEpssFeedAdapter.lookup py source cveId = .ok (probability, percentile, provenance) ∧
          provenance.state = .fresh) := by
  obtain ⟨r, hr, h⟩ := bind_eq_ok.mp h
  cases hlookup : FirstEpssFeedAdapter.lookup py source cveId with
  | ok reading =>
    obtain ⟨probability, percentile, provenance⟩ := reading
    rw [hlookup] at hr
    cases hr
    cases h
    exact ⟨provenance.state, rfl, fun hfresh => ⟨probability, percentile, provenance, rfl, hfresh⟩⟩
  | error x =>
    rw [hlookup, consulted] at hr
    split at hr
    · cases hr
      cases h
      exact ⟨.unavailable, rfl, nofun⟩
    · cases hr

lemma fresh_of_freshnessOf {states : List FeedState} {freshness : FeedState}
    (h : freshnessOf states freshness = .fresh) : ∀ state ∈ states, state = .fresh := by
  rw [freshnessOf] at h
  split at h
  · cases h
  · rename_i hunavailable
    split at h
    · cases h
    · rename_i hstale
      split at h
      · cases h
      · rename_i hnotRun
        intro state hstate
        cases state with
        | fresh => rfl
        | stale => exact absurd hstate hstale
        | unavailable => exact absurd hstate hunavailable
        | notRun => exact absurd hstate hnotRun

/-- A record is fresh only where it was itself and every feed was that was consulted. -/
structure FreshThroughout (py : FeedTooling) (kev epss : Option FeedSource) (record : VulnerabilityRecord) :
    Prop where
  recordFresh : record.freshness = .fresh
  kevFresh : ∀ source ∈ kev, ∃ matched provenance,
    CisaKevFeedAdapter.lookup py source (record.vulnerabilityId :: record.aliases) = .ok (matched, provenance) ∧
      provenance.state = .fresh
  epssFresh : ∀ source ∈ epss, ∃ probability percentile provenance,
    FirstEpssFeedAdapter.lookup py source (epssIdentifier py record) = .ok (probability, percentile, provenance) ∧
      provenance.state = .fresh

theorem fresh_of_enrich (h : enrich py kev epss record = .ok enriched) (hfresh : enriched.freshness = .fresh) :
    FreshThroughout py kev epss record := by
  obtain ⟨e₁, hkev, h⟩ := bind_eq_ok.mp h
  obtain ⟨e₂, hepss, h⟩ := bind_eq_ok.mp h
  obtain rfl := Except.ok.inj h
  have hkev' : (∀ state ∈ e₁.states, state = .fresh) → record.freshness = .fresh ∧
      ∀ source ∈ kev, ∃ matched provenance, CisaKevFeedAdapter.lookup py source
        (record.vulnerabilityId :: record.aliases) = .ok (matched, provenance) ∧ provenance.state = .fresh := by
    cases kev with
    | none =>
      cases hkev
      exact fun hall => ⟨hall _ List.mem_cons_self, nofun⟩
    | some source =>
      obtain ⟨state, hstates, hstate⟩ := consultKev_state hkev
      rw [hstates]
      refine fun hall => ⟨hall _ (by simp), ?_⟩
      rintro _ ⟨⟩
      exact hstate (hall state (by simp))
  have hepss' : (∀ state ∈ e₂.states, state = .fresh) → (∀ state ∈ e₁.states, state = .fresh) ∧
      ∀ source ∈ epss, ∃ probability percentile provenance, FirstEpssFeedAdapter.lookup py source
        (epssIdentifier py record) = .ok (probability, percentile, provenance) ∧ provenance.state = .fresh := by
    cases epss with
    | none =>
      cases hepss
      exact fun hall => ⟨hall, nofun⟩
    | some source =>
      obtain ⟨state, hstates, hstate⟩ := consultEpss_state hepss
      rw [hstates]
      refine fun hall => ⟨fun s hs => hall s (List.mem_append_left _ hs), ?_⟩
      rintro _ ⟨⟩
      exact hstate (hall state (by simp))
  obtain ⟨hfirst, hepssFresh⟩ := hepss' (fresh_of_freshnessOf hfresh)
  obtain ⟨hrecord, hkevFresh⟩ := hkev' hfirst
  exact ⟨hrecord, hkevFresh, hepssFresh⟩

end Enrich

/-- The feeds fail in one way: the adapters return or raise the error of a feed, an enrichment returns, and reports
no freshness that it has not seen. -/
structure FailOneWay (py : FeedTooling) (osv kev epss : FeedSource) (ecosystem packageName version : Str)
    (vulnerabilityIds : List Str) (cveId : Str) (enricherKev enricherEpss : Option FeedSource)
    (record : VulnerabilityRecord) : Prop where
  osv : FeedFailure (OsVFeedAdapter.query py osv ecosystem packageName version)
  kev : FeedFailure (CisaKevFeedAdapter.lookup py kev vulnerabilityIds)
  epss : FeedFailure (FirstEpssFeedAdapter.lookup py epss cveId)
  returns : ∃ enriched, enrich py enricherKev enricherEpss record = .ok enriched
  fresh : ∀ enriched, enrich py enricherKev enricherEpss record = .ok enriched →
    enriched.freshness = .fresh → FreshThroughout py enricherKev enricherEpss record

section Ranges

def numberedRanges : Parsed := .list [.dict [("ranges", .int 1)]]

def numberedResponse : JsonObject :=
  [("vulns", .list [.dict [("id", .str "OSV-1"), ("affected", numberedRanges)]])]

/-- The functions of the language on the response below. -/
def numberedTooling : FeedTooling where
  jsonLoads _ := raise .jsonDecodeError "Expecting value: line 1 column 1 (char 0)"
  tomlLoads _ := raise .tomlDecodeError "Invalid statement"
  render _ := "[\x7b'ranges': 1\x7d]"
  renderFixed _ := "0.0"
  lower s := s
  upper s := s
  sha256 _ := []
  json_printable _ _ := nofun
  loadsBody _ := raise .jsonDecodeError "Expecting value: line 1 column 1 (char 0)"
  floatText _ := "0.0"
  fromisoformat _ := none
  readFloat _ := none
  isDecimal c := decide (c ∈ Str.ofString "0123456789")
  now := 0
  render_encodable _ := isEncodable_ofString _

def numberedRecord : VulnerabilityRecord where
  packageName := "package"
  ecosystem := "PyPI"
  installedVersion := "1.0"
  vulnerabilityId := "OSV-1"

end Ranges

end SecScanMonitor.Application
