import SecScanMonitor.Persistence.SignalTrust

/-! Where the signals of a scope can be read all together, so can any of them: a request raises only for an id that
is not stored. -/

namespace SecScanMonitor.Persistence

open Foundations Domain DetectionResponse ContinuousSecurity Relation

variable {codec : Codec} {decode : Value → Option SecurityEvent} {scope : Scope}
  {tables : DetectionTables}

/-- The load of the whole scope does not raise. -/
def SignalsReadable (codec : Codec) (decode : Value → Option SecurityEvent) (scope : Scope)
    (tables : DetectionTables) : Prop :=
  ∃ signals, loadSignals codec decode scope tables [] = .ok signals

/-- What a load of the whole scope has read and checked. -/
structure WholeScope (codec : Codec) (decode : Value → Option SecurityEvent) (scope : Scope)
    (tables : DetectionTables) (events : List SecurityEvent) (signals : List DetectionSignal) : Prop
    extends Read codec decode scope tables (held scope tables) events signals where
  resolved : ∀ s ∈ signals, ∃ refs, evidenceRefs events signals s.signalId = .ok refs ∧
    s.rawEvidenceRefs ⊆ refs ∧ refs ⊆ s.rawEvidenceRefs
  backed : ∀ s ∈ signals, ∃ u, checkBacked scope tables s = .ok u

lemma requestedRows_nil : requestedRows scope tables [] = held scope tables := by
  rw [requestedRows]
  exact List.filter_eq_self.mpr fun _ _ => decide_eq_true (Or.inl rfl)

lemma validatedSignal_cites {row : DetectionSignalRow} {signal : DetectionSignal}
    (h : validatedSignal scope row = some signal) :
    ¬ (signal.eventIds = [] ∧ signal.sourceSignalIds = []) := by
  obtain ⟨-, hevents, hsources⟩ := validatedSignal_row h
  rw [hevents, hsources]
  intro hnone
  rw [validatedSignal] at h
  obtain ⟨severity, -, h⟩ := Option.bind_eq_some_iff.mp h
  obtain ⟨confidence, -, h⟩ := Option.bind_eq_some_iff.mp h
  rw [if_pos (Or.inl hnone)] at h
  cases h

lemma checkEvidence_eq_ok {events : List SecurityEvent} {signals : List DetectionSignal}
    {signal : DetectionSignal} {u : Unit} : checkEvidence events signals signal = .ok u ↔
      ∃ refs, evidenceRefs events signals signal.signalId = .ok refs ∧
        signal.rawEvidenceRefs ⊆ refs ∧ refs ⊆ signal.rawEvidenceRefs := by
  simp only [checkEvidence, bind_eq_ok, raiseIf_eq_ok, not_not]

/-- A load of the whole scope that finds signals has read and checked them all. -/
lemma whole_of_load {out : List DetectionSignal} (hload : loadSignals codec decode scope tables [] = .ok out)
    (hheld : held scope tables ≠ []) : ∃ events, WholeScope codec decode scope tables events out := by
  obtain ⟨-, h⟩ := raiseIf_bind_eq_ok.mp hload
  have hnil : ([] : List String).eraseDups = [] := rfl
  rw [hnil, requestedRows_nil, if_neg (by rw [List.map_eq_nil_iff]; exact hheld)] at h
  obtain ⟨rows, hrows, h⟩ := bind_eq_ok.mp h
  obtain ⟨events, hevents, h⟩ := bind_eq_ok.mp h
  obtain ⟨signals, hsignals, h⟩ := bind_eq_ok.mp h
  obtain ⟨us, hevidence, h⟩ := bind_eq_ok.mp h
  obtain ⟨vs, hbacked, h⟩ := bind_eq_ok.mp h
  rw [if_pos rfl] at h
  obtain rfl := Except.ok.inj h
  rw [loadedRows, if_pos rfl, requestedRows_nil] at hrows
  obtain rfl := Except.ok.inj hrows
  refine ⟨events, ⟨fun _ hrow => hrow, hevents, hsignals⟩, fun s hs => ?_, fun s hs => ?_⟩
  · obtain ⟨u, -, hu⟩ := (mapM_eq_ok hevidence).1 s hs
    exact checkEvidence_eq_ok.mp hu
  · obtain ⟨v, -, hv⟩ := (mapM_eq_ok hbacked).1 s hs
    exact ⟨v, hv⟩

lemma SignalsReadable.whole (h : SignalsReadable codec decode scope tables)
    (hheld : held scope tables ≠ []) :
    ∃ events signals, WholeScope codec decode scope tables events signals := by
  obtain ⟨out, hload⟩ := h
  obtain ⟨events, hwhole⟩ := whole_of_load hload hheld
  exact ⟨events, out, hwhole⟩

/-- A load of the whole scope answers every stored signal. -/
lemma load_nil_iff {out : List DetectionSignal} (hload : loadSignals codec decode scope tables [] = .ok out) :
    out = [] ↔ held scope tables = [] := by
  by_cases hheld : held scope tables = []
  · refine iff_of_true ?_ hheld
    obtain ⟨-, h⟩ := raiseIf_bind_eq_ok.mp hload
    have hnil : ([] : List String).eraseDups = [] := rfl
    rw [hnil, requestedRows_nil, hheld, List.map_nil, if_pos rfl] at h
    exact (Except.ok.inj h).symm
  · refine iff_of_false (fun hout => ?_) hheld
    obtain ⟨row, hrow⟩ := List.exists_mem_of_ne_nil _ hheld
    obtain ⟨events, hwhole⟩ := whole_of_load hload hheld
    obtain ⟨s, hs, -⟩ := hwhole.of_row hrow
    rw [hout] at hs
    cases hs

section Part

variable {rows : List DetectionSignalRow} {events : List SecurityEvent}
  {signals part : List DetectionSignal}

/-- Everything that a stored signal is derived from is stored, and it is not derived from itself. -/
lemma WholeScope.sources (h : WholeScope codec decode scope tables events signals) {row : DetectionSignalRow}
    (hrow : row ∈ held scope tables) {id : String}
    (hid : ReflTransGen (Sources scope tables) row.signalId id) :
    (∃ r ∈ held scope tables, r.signalId = id) ∧ ¬ TransGen (Sources scope tables) id id := by
  obtain ⟨s, hs, hread⟩ := h.of_row hrow
  obtain ⟨refs, hrefs, -⟩ := h.resolved s hs
  rw [(validatedSignal_row (readSignal_valid hread)).1] at hrefs
  exact (h.toRead.evidence hrefs).1 id hid

/-- A part of the rows is read as in the load of them all. -/
lemma WholeScope.mem_of_part (h : WholeScope codec decode scope tables events signals)
    (hpart : Read codec decode scope tables rows events part) {s : DetectionSignal} (hs : s ∈ part) :
    s ∈ signals := by
  obtain ⟨row, hrow, -, hread⟩ := hpart.of_signal hs
  obtain ⟨s', hs', hread'⟩ := h.of_row (hpart.inScope row hrow)
  obtain rfl := Except.ok.inj (hread.symm.trans hread')
  exact hs'

lemma Read.signalNamed (h : Read codec decode scope tables rows events part) {row : DetectionSignalRow}
    (hrow : row ∈ rows) : ∃ s ∈ part, signalNamed part row.signalId = some s ∧ s.signalId = row.signalId := by
  obtain ⟨s, hs, hread⟩ := h.of_row hrow
  have hid := (validatedSignal_row (readSignal_valid hread)).1
  cases hfind : Persistence.signalNamed part row.signalId with
  | none => exact absurd (List.find?_eq_none.mp hfind s hs) (by simp [hid])
  | some s' =>
    obtain ⟨hs', hid'⟩ := signalNamed_eq_some hfind
    exact ⟨s', hs', rfl, hid'⟩

/-- An answer with evidence in it. -/
def Evident (r : Except Raised (List String)) : Prop := ∃ refs, r = .ok refs ∧ refs ≠ []

/-- The evidence of one signal is found again, given that of its sources. -/
lemma WholeScope.gather_evident (h : WholeScope codec decode scope tables events signals)
    (hpart : Read codec decode scope tables rows events part) {row : DetectionSignalRow}
    (hrow : row ∈ rows) {f : String → Except Raised (List String)}
    (hf : ∀ id ∈ row.sourceSignalIds, Evident (f id)) :
    Evident (gather events part row.signalId f) := by
  obtain ⟨s, hs, hnamed, hid⟩ := hpart.signalNamed hrow
  obtain ⟨row', hrow', hid', hread⟩ := hpart.of_signal hs
  obtain rfl := held_unique (hpart.inScope row' hrow') (hpart.inScope row hrow) (hid'.trans hid)
  have hvalid := readSignal_valid hread
  obtain ⟨-, -, hsources⟩ := validatedSignal_row hvalid
  -- the events were found when all was read
  have hown : ∃ own, (s.eventIds.mapM fun eventId => do
      let event ← orRaise (events.find? fun e => decide (e.eventId = eventId)) .permissionError
        "canonical signal references an unknown event"
      return event.rawEvidenceRef : Except Raised (List String)) = .ok own := by
    obtain ⟨refs, hrefs, -⟩ := h.resolved s (h.mem_of_part hpart hs)
    rw [evidenceRefs, Paths.along, if_neg List.not_mem_nil] at hrefs
    obtain ⟨s', hnamed', hrefs⟩ := orRaise_bind_eq_ok.mp hrefs
    obtain ⟨own, hown, -⟩ := bind_eq_ok.mp hrefs
    obtain ⟨hs', hidNamed⟩ := signalNamed_eq_some hnamed'
    obtain ⟨whole, hwhole, hidWhole, hread''⟩ := h.of_signal hs'
    obtain rfl := held_unique hwhole (hpart.inScope row' hrow') (hidWhole.trans (hidNamed.trans hid))
    obtain rfl := Except.ok.inj (hread''.symm.trans hread)
    exact ⟨own, hown⟩
  obtain ⟨own, hown⟩ := hown
  have hinherited : ∃ inherited, s.sourceSignalIds.mapM f = .ok inherited := by
    refine mapM_isOk.mpr fun id hin => ?_
    rw [hsources] at hin
    obtain ⟨refs, hrefs, -⟩ := hf id hin
    exact ⟨refs, hrefs⟩
  obtain ⟨inherited, hinherited⟩ := hinherited
  have hsome : own ++ inherited.flatten ≠ [] := by
    intro hnil
    obtain ⟨rfl, hflat⟩ := List.append_eq_nil_iff.mp hnil
    have hevents : s.eventIds = [] := by
      rw [List.eq_nil_iff_forall_not_mem]
      intro eventId hin
      obtain ⟨ref, href, -⟩ := (mapM_eq_ok hown).1 eventId hin
      cases href
    have hnone : s.sourceSignalIds = [] := by
      rw [List.eq_nil_iff_forall_not_mem]
      intro id hin
      obtain ⟨found, hfound, hcall⟩ := (mapM_eq_ok hinherited).1 id hin
      obtain ⟨refs, hrefs, hrefs'⟩ := hf id (hsources ▸ hin)
      obtain rfl := Except.ok.inj (hcall.symm.trans hrefs)
      exact hrefs' (List.flatten_eq_nil_iff.mp hflat found hfound)
    exact validatedSignal_cites hvalid ⟨hevents, hnone⟩
  refine ⟨own ++ inherited.flatten, ?_, hsome⟩
  rw [gather, hnamed]
  refine orRaise_bind_eq_ok.mpr ⟨s, rfl, bind_eq_ok.mpr ⟨own, hown, bind_eq_ok.mpr ⟨inherited, hinherited, ?_⟩⟩⟩
  exact raiseIf_bind_eq_ok.mpr ⟨hsome, rfl⟩

/-- The rows of a part contain the sources of each of them. -/
def ClosedRows (rows : List DetectionSignalRow) : Prop :=
  ∀ row ∈ rows, ∀ id ∈ row.sourceSignalIds, ∃ r ∈ rows, r.signalId = id

lemma ClosedRows.reaches (h : ClosedRows rows) (hrows : ∀ row ∈ rows, row ∈ held scope tables)
    {row : DetectionSignalRow} (hrow : row ∈ rows) {id : String}
    (hid : ReflTransGen (Sources scope tables) row.signalId id) : ∃ r ∈ rows, r.signalId = id := by
  induction hid with
  | refl => exact ⟨row, hrow, rfl⟩
  | tail _ hstep ih =>
    obtain ⟨r, hr, rfl⟩ := ih
    obtain ⟨r', hr', hsame, hin⟩ := hstep
    obtain rfl := held_unique hr' (hrows r hr) hsame
    exact h r' hr _ hin

/-- In a closed part the evidence of a signal is what it is in the whole. -/
lemma WholeScope.checkEvidence (h : WholeScope codec decode scope tables events signals)
    (hpart : Read codec decode scope tables rows events part) (hclosed : ClosedRows rows)
    {s : DetectionSignal} (hs : s ∈ part) : ∃ u, checkEvidence events part s = .ok u := by
  obtain ⟨row, hrow, hid, hread⟩ := hpart.of_signal hs
  have hgood : Evident (evidenceRefs events part s.signalId) := by
    refine @Paths.along_good _ _ _ _ _ (part.map (·.signalId)) (sourcesOf scope tables) _ _ _ _
      ?_ ?_ ?_ (fun _ hin => absurd hin List.not_mem_nil) ?_
    · intro b f hpath hf
      rw [← sources_eq, ← hid] at hpath
      obtain ⟨r, hr, rfl⟩ := hclosed.reaches hpart.inScope hrow hpath
      rw [sourcesOf_row (hpart.inScope r hr)] at hf
      exact h.gather_evident hpart hr hf
    · intro b hpath
      rw [← sources_eq, ← hid] at hpath
      obtain ⟨r, hr, rfl⟩ := hclosed.reaches hpart.inScope hrow hpath
      obtain ⟨s', hs', -, hid'⟩ := hpart.signalNamed hr
      exact List.mem_map.mpr ⟨s', hs', hid'⟩
    · intro b hpath
      rw [← sources_eq] at hpath ⊢
      rw [← hid] at hpath
      exact (h.sources (hpart.inScope row hrow) hpath).2
    · have hle := Paths.room_le (part.map (·.signalId)) []
      rw [List.length_map] at hle
      omega
  obtain ⟨refs, hrefs, -⟩ := hgood
  obtain ⟨refs', hrefs', hforth, hback⟩ := h.resolved s (h.mem_of_part hpart hs)
  have hsame : ∀ ref, ref ∈ refs ↔ ref ∈ refs' := fun ref =>
    ((hpart.evidence hrefs).2 ref).trans ((h.toRead.evidence hrefs').2 ref).symm
  refine ⟨(), checkEvidence_eq_ok.mpr ⟨refs, hrefs, fun ref href => ?_, fun ref href => ?_⟩⟩
  · exact (hsame ref).mpr (hforth href)
  · exact hback ((hsame ref).mp href)

end Part

/-- Whether a signal is stored for the scope. -/
def IsHeld (scope : Scope) (tables : DetectionTables) (id : String) : Prop :=
  ∃ row ∈ held scope tables, row.signalId = id

/-- The sources of a readable signal are stored. -/
lemma SignalsReadable.source (h : SignalsReadable codec decode scope tables) {row : DetectionSignalRow}
    (hrow : row ∈ held scope tables) {id : String} (hid : id ∈ row.sourceSignalIds) :
    IsHeld scope tables id := by
  obtain ⟨events, signals, hwhole⟩ := h.whole (List.ne_nil_of_mem hrow)
  have hstep : Sources scope tables row.signalId id := ⟨row, hrow, rfl, hid⟩
  exact (hwhole.sources hrow (.single hstep)).1

/-- Stored signals of a readable scope are returned, each once. -/
theorem SignalsReadable.loads (h : SignalsReadable codec decode scope tables) {ids : List String} (hids : ids ≠ [])
    (hheld : ∀ id ∈ ids, IsHeld scope tables id) :
    ∃ signals, loadSignals codec decode scope tables ids = .ok signals := by
  have hrequested : ids.eraseDups ≠ [] := by
    obtain ⟨id, hid⟩ := List.exists_mem_of_ne_nil ids hids
    exact List.ne_nil_of_mem (List.mem_eraseDups.mpr hid)
  have hrow : ∀ id ∈ ids.eraseDups, ∃ row ∈ requestedRows scope tables ids.eraseDups, row.signalId = id := by
    intro id hid
    obtain ⟨row, hrow, rfl⟩ := hheld id (List.mem_eraseDups.mp hid)
    exact ⟨row, (mem_requestedRows hrequested).mpr ⟨hrow, hid⟩, rfl⟩
  have hfound : ids.eraseDups ⊆ (requestedRows scope tables ids.eraseDups).map (·.signalId) :=
    fun id hid => List.mem_map.mpr (hrow id hid)
  have hsome : (requestedRows scope tables ids.eraseDups).map (·.signalId) ≠ [] := by
    intro hnil
    rw [hnil, List.subset_nil] at hfound
    exact hrequested hfound
  have hin : ∀ row ∈ requestedRows scope tables ids.eraseDups, row ∈ held scope tables :=
    fun row hrow => List.mem_of_mem_filter hrow
  obtain ⟨row, hmem⟩ := List.exists_mem_of_ne_nil _ (List.map_eq_nil_iff.not.mp hsome)
  obtain ⟨events, signals, hwhole⟩ := h.whole (List.ne_nil_of_mem (hin row hmem))
  -- the sources of what is asked for are loaded with it
  obtain ⟨rows, hclose⟩ : ∃ rows, Closure.closeOver DetectionSignalRow.signalId DetectionSignalRow.sourceSignalIds
      (held scope tables) _ _ = some rows := Closure.closeOver_isSome hin (fun _ hrow => hrow) fun id hid => by
      obtain ⟨r, hr, hpath⟩ := hid
      exact List.mem_map.mpr (hwhole.sources (hin r hr) hpath).1
  obtain ⟨hkept, hout, hends⟩ := Closure.closeOver_sound hin (fun _ hrow => hrow)
    (fun row hrow => Or.inl hrow) hclose
  have hclosed : ClosedRows rows := fun row hrow id hid => List.mem_map.mp (hends row hrow id hid)
  have hrows : loadedRows scope tables ids.eraseDups = .ok rows := by
    rw [loadedRows, if_neg hrequested]
    exact orRaise_eq_ok.mpr hclose
  obtain ⟨part, hreads⟩ : ∃ part, (sortBy DetectionSignalRow.signalId rows).mapM
      (readSignal codec scope tables) = .ok part := by
    refine mapM_isOk.mpr fun row hrow => ?_
    obtain ⟨s, -, hs⟩ := hwhole.of_row (hout row (mem_sortBy.mp hrow)).1
    exact ⟨s, hs⟩
  have hpart : Read codec decode scope tables rows events part :=
    ⟨fun row hrow => (hout row hrow).1, hwhole.loads, hreads⟩
  obtain ⟨us, hevidence⟩ := mapM_isOk.mpr fun s hs => hwhole.checkEvidence hpart hclosed hs
  obtain ⟨vs, hbacked⟩ := mapM_isOk.mpr fun s hs => hwhole.backed s (hwhole.mem_of_part hpart hs)
  obtain ⟨out, hnamed⟩ : ∃ out, (ids.eraseDups.mapM fun id => orRaise (signalNamed part id) .keyError id)
      = .ok out := by
    refine mapM_isOk.mpr fun id hid => ?_
    obtain ⟨row, hrow, rfl⟩ := hrow id hid
    obtain ⟨s, -, hs, -⟩ := hpart.signalNamed (hkept row hrow)
    exact ⟨s, orRaise_eq_ok.mpr hs⟩
  refine ⟨out, raiseIf_bind_eq_ok.mpr ⟨not_not.mpr hfound, ?_⟩⟩
  rw [if_neg hsome]
  refine bind_eq_ok.mpr ⟨rows, hrows, bind_eq_ok.mpr ⟨events, hwhole.loads, bind_eq_ok.mpr ⟨part, hreads, ?_⟩⟩⟩
  refine bind_eq_ok.mpr ⟨us, hevidence, bind_eq_ok.mpr ⟨vs, hbacked, ?_⟩⟩
  rw [if_neg hrequested]
  exact hnamed

end SecScanMonitor.Persistence
