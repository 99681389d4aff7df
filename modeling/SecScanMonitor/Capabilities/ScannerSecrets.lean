import Mathlib.Data.List.Dedup
import SecScanMonitor.Capabilities.ScannerRedaction
import SecScanMonitor.Foundations.Gaps
import SecScanMonitor.Foundations.Substitution

/-! Two outputs of a scanner that differ in one secret. The redaction sees a value without its key, and the last
check sees a key with a quote after it. -/

namespace SecScanMonitor.Capabilities

open Foundations Domain Sanitize Foundations.Regex

section Notes

variable {u : UnicodeTables}

/-- The notes of the sanitizer. -/
def scanNotes : List String :=
  ["ip address redacted", "local evidence/export path redacted", "scanner secret-like content redacted",
    "secret-like string content redacted", "terminal control sequence redacted"]

lemma replacing_notes {pattern : Regex} {new note : String} {state : Str × List String} (hnote : note ∈ scanNotes)
    (hstate : state.2 ⊆ scanNotes) : (replacing pattern new note state).2 ⊆ scanNotes := by
  unfold replacing
  split
  · exact List.append_subset.mpr ⟨hstate, List.cons_subset.mpr ⟨hnote, List.nil_subset _⟩⟩
  · exact hstate

lemma replacing_foldl_notes {new note : String} (hnote : note ∈ scanNotes) (patterns : List Regex)
    {state : Str × List String} (hstate : state.2 ⊆ scanNotes) :
    (patterns.foldl (fun state pattern => replacing pattern new note state) state).2 ⊆ scanNotes := by
  induction patterns generalizing state with
  | nil => exact hstate
  | cons pattern patterns ih => exact ih (replacing_notes hnote hstate)

lemma scrubStr_notes (value : Str) : (scrubStr u value).2 ⊆ scanNotes :=
  replacing_notes (by decide) (replacing_notes (by decide)
    (replacing_foldl_notes (by decide) _ (List.nil_subset _)))

lemma redactText_notes (value : Str) : (redactText u value).2 ⊆ scanNotes := by
  refine replacing_foldl_notes (by decide) _ (List.append_subset.mpr ⟨?_, scrubStr_notes _⟩)
  split
  · decide
  · exact List.nil_subset _

mutual

lemma jsonNotes_subset : (v : Parsed) → jsonNotes u v ⊆ scanNotes
  | .dict members => by
    rw [jsonNotes]
    exact memberNotes_subset members
  | .list items => by
    rw [jsonNotes]
    exact itemNotes_subset items
  | .str s => by
    rw [jsonNotes]
    exact redactText_notes s
  | .none | .bool _ | .int _ | .float _ | .temporal _ _ => by
    rw [jsonNotes]
    · exact List.nil_subset _
    all_goals nofun

lemma memberNotes_subset : (members : List (Str × Parsed)) → memberNotes u members ⊆ scanNotes
  | [] => by
    rw [memberNotes]
    exact List.nil_subset _
  | (_, item) :: members => by
    rw [memberNotes]
    exact List.append_subset.mpr ⟨jsonNotes_subset item, memberNotes_subset members⟩

lemma itemNotes_subset : (items : List Parsed) → itemNotes u items ⊆ scanNotes
  | [] => by
    rw [itemNotes]
    exact List.nil_subset _
  | item :: items => by
    rw [itemNotes]
    exact List.append_subset.mpr ⟨jsonNotes_subset item, itemNotes_subset items⟩

end

lemma keptOutput_notes (tooling : ScannerTooling) (stdout stderr : Str) (parsed : Option Parsed) :
    (keptOutput tooling stdout stderr parsed).2 ⊆ scanNotes := by
  cases parsed with
  | none => exact List.append_subset.mpr ⟨redactText_notes _, redactText_notes _⟩
  | some v => exact List.append_subset.mpr ⟨jsonNotes_subset v, redactText_notes _⟩

lemma sortedSet_subset {notes : List String} (h : notes ⊆ scanNotes) : sortedSet notes ⊆ scanNotes := by
  intro note hnote
  exact h (List.mem_dedup.mp ((List.perm_insertionSort _ _).mem_iff.mp hnote))

end Notes

section Text

variable {floatText : Double → String}

def noteEnd : Str := [.scalar ']']

def noteHead : Str := quotedStr (Str.ofString "sanitization_notes") ++ [.scalar ':', .scalar '[']

/-- The member of a payload that lists the notes. -/
def noteText (notes : List String) : Str :=
  noteHead ++ (commas (notes.map fun note => quotedStr (Str.ofString note)) ++ noteEnd)

variable (floatText) in
lemma jsonText_noteList (notes : List String) :
    memberText (Str.ofString "sanitization_notes", jsonText floatText (noteList notes)) =
      noteText (sortedSet notes) := by
  have htexts : ∀ l : List String,
      itemTexts floatText (l.map fun note => .str (Str.ofString note)) =
        l.map fun note => quotedStr (Str.ofString note) := by
    intro l
    induction l with
    | nil => rfl
    | cons note l ih => rw [List.map_cons, itemTexts, ih, List.map_cons, jsonText]
  rw [noteList, jsonText, htexts, noteText, memberText, noteHead, List.append_assoc]
  rfl

lemma payload_keys : ([Str.ofString "exit_code", Str.ofString "result", Str.ofString "sanitization_notes",
    Str.ofString "stderr"] : List Str).Pairwise (· < ·) := by
  decide

variable (floatText) in
/-- Where the result and the notes stand in the text of a payload. -/
lemma jsonText_payload {stderrPart : Payload} (exitCode : ℤ)
    (hpart : stderrPart = [] ∨ ∃ s, stderrPart = [(Str.ofString "stderr", .str s)]) :
    ∃ before, ∃ d, (d = ',' ∨ d = '\x7d') ∧ ∃ rest, ∀ v notes,
      jsonText floatText (.dict (payloadOf ((Str.ofString "result", v) :: stderrPart, notes) exitCode)) =
        before ++ (jsonText floatText v ++ .scalar ',' :: (noteText (sortedSet notes) ++ .scalar d :: rest)) := by
  let exitText : Str × Str := (Str.ofString "exit_code", jsonText floatText (.int exitCode))
  let before : Str := .scalar '\x7b' :: (memberText exitText ++ .scalar ',' ::
    (quotedStr (Str.ofString "result") ++ [.scalar ':']))
  rcases hpart with rfl | ⟨s, rfl⟩
  · refine ⟨before, '\x7d', Or.inr rfl, [], ?_⟩
    intro v notes
    have hperm : (memberTexts floatText (payloadOf ([(Str.ofString "result", v)], notes) exitCode)).Perm
        [exitText, (Str.ofString "result", jsonText floatText v),
          (Str.ofString "sanitization_notes", jsonText floatText (noteList notes))] :=
      List.Perm.swap exitText _ _
    rw [jsonText_dict hperm (payload_keys.sublist (List.sublist_append_left _ [Str.ofString "stderr"])),
      ← jsonText_noteList floatText notes]
    simp [commas, memberText, before]
  · refine ⟨before, ',', Or.inl rfl, memberText (Str.ofString "stderr", quotedStr s) ++ [.scalar '\x7d'], ?_⟩
    intro v notes
    let stderrText : Str × Str := (Str.ofString "stderr", quotedStr s)
    let noteEntry : Str × Str := (Str.ofString "sanitization_notes", jsonText floatText (noteList notes))
    let resultText : Str × Str := (Str.ofString "result", jsonText floatText v)
    have hperm : (memberTexts floatText (payloadOf ([(Str.ofString "result", v), (Str.ofString "stderr", .str s)],
        notes) exitCode)).Perm [exitText, resultText, noteEntry, stderrText] :=
      ((List.Perm.swap exitText stderrText [noteEntry]).cons resultText).trans
        ((List.Perm.swap exitText resultText _).trans
          (((List.Perm.swap noteEntry stderrText []).cons resultText).cons exitText))
    rw [jsonText_dict hperm payload_keys, ← jsonText_noteList floatText notes]
    simp [commas, memberText, before, resultText, noteEntry, stderrText]

end Text

section Anywhere

variable {u : UnicodeTables} {r : Regex} {s t m m' n n' : Text} {d : Char}

def noTables : UnicodeTables := ⟨fun _ => false, fun _ => false⟩

/-- What a secret pattern would have to match a part of within the notes. -/
def traces : List Regex :=
  [sequence privateKeyHead, sequence privateKeyFoot, secretAssignment,
    loosen (providerToken noTables), loosen (jsonWebToken noTables)]

lemma traces_shape : ∀ f ∈ traces, uses [','] f = false ∧ free f = true := by
  intro f hf
  simp only [traces, List.mem_cons, List.not_mem_nil, or_false] at hf
  rcases hf with rfl | rfl | rfl | rfl | rfl <;> exact ⟨rfl, rfl⟩

/-- A trace in texts with commas between them is a trace in one of the texts. -/
lemma trace_in_commas {f : Regex} (hf : f ∈ traces) {head : Str} {texts : List Str}
    (h : Occurs f ((head ++ (commas texts ++ noteEnd)).map seen)) :
    Occurs f ((head ++ noteEnd).map seen) ∨ ∃ t ∈ texts, Occurs f (t.map seen) ∨
      Occurs f ((t ++ noteEnd).map seen) ∨ Occurs f ((head ++ t).map seen) ∨
      Occurs f ((head ++ (t ++ noteEnd)).map seen) := by
  obtain ⟨hcomma, hfree⟩ := traces_shape f hf
  induction texts generalizing head with
  | nil => exact Or.inl h
  | cons t texts ih =>
    cases texts with
    | nil =>
      refine Or.inr ⟨t, List.mem_cons_self, Or.inr (Or.inr (Or.inr ?_))⟩
      simpa [commas] using h
    | cons t' texts =>
      rw [commas_cons_cons] at h
      simp only [List.append_assoc, List.cons_append, List.map_append, List.map_cons] at h
      rw [← List.append_assoc, show seen (.scalar ',') = ',' from rfl,
        occurs_separated hcomma (unseen_of_free hfree), ← List.map_append] at h
      rcases h with h | h
      · exact Or.inr ⟨t, List.mem_cons_self, Or.inr (Or.inr (Or.inl h))⟩
      · have hrest : Occurs f ((([] : Str) ++ (commas (t' :: texts) ++ noteEnd)).map seen) := by
          simpa using h
        rcases ih hrest with h | ⟨t'', ht'', h⟩
        · exfalso
          have hout : ∀ f ∈ traces, f.searchBy seen noteEnd = false := by decide
          have hsearch := searchBy_iff.mpr h
          rw [List.nil_append, hout f hf] at hsearch
          cases hsearch
        · refine Or.inr ⟨t'', List.mem_cons_of_mem t ht'', ?_⟩
          rw [List.nil_append, List.nil_append] at h
          rcases h with h | h | h | h
          · exact Or.inl h
          · exact Or.inr (Or.inl h)
          · exact Or.inl h
          · exact Or.inr (Or.inl h)

lemma traces_notes : ∀ f ∈ traces, f.searchBy seen (noteHead ++ noteEnd) = false ∧ ∀ note ∈ scanNotes,
    let t := quotedStr (Str.ofString note)
    f.searchBy seen t = false ∧ f.searchBy seen (t ++ noteEnd) = false ∧
      f.searchBy seen (noteHead ++ t) = false ∧ f.searchBy seen (noteHead ++ (t ++ noteEnd)) = false := by
  decide +kernel

/-- No secret pattern matches in the notes. -/
lemma notes_clean {notes : List String} (hnotes : notes ⊆ scanNotes) {f : Regex} (hf : f ∈ traces) :
    ¬ Occurs f ((noteText (sortedSet notes)).map seen) := by
  intro h
  obtain ⟨hhead, hnote⟩ := traces_notes f hf
  rcases trace_in_commas hf h with h | ⟨t, ht, h⟩
  · rw [← searchBy_iff, hhead] at h
    cases h
  · obtain ⟨note, hmem, rfl⟩ := List.mem_map.mp ht
    obtain ⟨h₁, h₂, h₃, h₄⟩ := hnote note (sortedSet_subset hnotes hmem)
    simp only [← searchBy_iff, h₁, h₂, h₃, h₄, Bool.false_eq_true, or_self] at h

lemma not_reads_notes {f : Regex} (hf : f ∈ traces) (hfree : free f = true) (hclean : ∀ f ∈ traces, ¬ Occurs f n) :
    ∀ w, Reads f none w none → ¬ w <:+: n := by
  intro w hw hinfix
  exact hclean f hf (occurs_of_part hfree hinfix hw)

/-- A block of a private key that begins and ends beside the value and the notes. -/
lemma block_anywhere (hd : d = ',' ∨ d = '\x7d') (hclean : ∀ f ∈ traces, ¬ Occurs f n)
    (h : Occurs privateKeyBlock (s ++ '"' :: '"' :: (m ++ ',' :: (n ++ d :: t)))) :
    Occurs privateKeyBlock (s ++ '"' :: (m' ++ '"' :: (m ++ ',' :: (n' ++ d :: t)))) := by
  have hhead : sequence privateKeyHead ∈ traces := by simp [traces]
  have hfoot : sequence privateKeyFoot ∈ traces := by simp [traces]
  have huses : ∀ x ∈ ['"', ',', '\x7d'], uses [x] (sequence privateKeyHead) = false ∧
      uses [x] (sequence privateKeyFoot) = false := by
    intro x hx
    simp only [List.mem_cons, List.not_mem_nil, or_false] at hx
    rcases hx with rfl | rfl | rfl
    all_goals exact ⟨rfl, rfl⟩
  have hquote := huses '"' (by simp)
  have hcomma := huses ',' (by simp)
  have hlast : uses [d] (sequence privateKeyHead) = false ∧ uses [d] (sequence privateKeyFoot) = false := by
    rcases hd with rfl | rfl
    · exact hcomma
    · exact huses '\x7d' (by simp)
  have hnil : ∀ f : Regex, nullable f = false → ∀ w, Reads f none w none → ¬ w <:+: ([] : Text) := by
    intro f hf w hw hinfix
    rw [List.infix_nil.mp hinfix] at hw
    exact solid_of hf _ _ hw
  unfold privateKeyBlock at h ⊢
  rw [occurs_span false rfl rfl] at h ⊢
  have hvalue := spans_around (m := []) ⟨hquote.1, hquote.1⟩ ⟨hquote.2, hquote.2⟩ (hnil _ rfl) (hnil _ rfl) h m'
  rw [show s ++ '"' :: (m' ++ '"' :: (m ++ ',' :: (n ++ d :: t))) =
    (s ++ '"' :: (m' ++ '"' :: m)) ++ ',' :: (n ++ d :: t) by simp] at hvalue
  have hnotes := spans_around ⟨hcomma.1, hlast.1⟩ ⟨hcomma.2, hlast.2⟩ (not_reads_notes hhead rfl hclean)
    (not_reads_notes hfoot rfl hclean) hvalue n'
  simpa using hnotes

lemma isWord_ascii {x : Char} (hx : x ∈ ['"', ',', '\x7d']) : isWord u x = false := by
  simp only [List.mem_cons, List.not_mem_nil, or_false] at hx
  rcases hx with rfl | rfl | rfl <;> rfl

/-- The three patterns of one line. -/
lemma line_anywhere (hr : r ∈ [secretAssignment, providerToken u, jsonWebToken u]) (hd : d = ',' ∨ d = '\x7d')
    (hclean : ∀ f ∈ traces, ¬ Occurs f n)
    (h : Occurs r (s ++ '"' :: '"' :: (m ++ ',' :: (n ++ d :: t)))) :
    Occurs r (s ++ '"' :: (m' ++ '"' :: (m ++ ',' :: (n' ++ d :: t)))) := by
  have hshape : nullable r = false ∧ starts ['"'] r = false ∧ stops ['"'] r = false ∧
      joins ['"'] ['"'] r = false ∧ uses [','] r = false ∧ uses ['\x7d'] r = false := by
    simp only [List.mem_cons, List.not_mem_nil, or_false] at hr
    rcases hr with rfl | rfl | rfl <;> exact ⟨rfl, rfl, rfl, rfl, rfl, rfl⟩
  have hunseen : ∀ x ∈ ['"', ',', '\x7d'], Unseen x r := by
    intro x hx
    have hedge := unseen_edge (isWord_ascii (u := u) hx)
    simp only [List.mem_cons, List.not_mem_nil, or_false] at hr
    rcases hr with rfl | rfl | rfl
    · exact unseen_of_free rfl
    · exact ⟨hedge, unseen_of_free rfl, unseen_of_free rfl, unseen_of_free rfl, hedge⟩
    · exact ⟨hedge, unseen_of_free rfl, unseen_of_free rfl, unseen_of_free rfl, unseen_of_free rfl,
        unseen_of_free rfl, unseen_of_free rfl, hedge⟩
  have hout : ¬ Occurs r n := by
    intro hoccurs
    have hloose := OccursFrom.loosen hoccurs
    simp only [List.mem_cons, List.not_mem_nil, or_false] at hr
    rcases hr with rfl | rfl | rfl
    · exact hclean secretAssignment (by simp [traces]) hoccurs
    · exact hclean (loosen (providerToken noTables)) (by simp [traces]) hloose
    · exact hclean (loosen (jsonWebToken noTables)) (by simp [traces]) hloose
  obtain ⟨hnull, hstart, hstop, hjoin, hcomma, hbrace⟩ := hshape
  have hlast : uses [d] r = false ∧ Unseen d r := by
    rcases hd with rfl | rfl
    · exact ⟨hcomma, hunseen _ (by simp)⟩
    · exact ⟨hbrace, hunseen _ (by simp)⟩
  rw [show s ++ '"' :: '"' :: (m ++ ',' :: (n ++ d :: t)) = (s ++ '"' :: '"' :: m) ++ ',' :: (n ++ d :: t) by simp,
    occurs_separated hcomma (hunseen _ (by simp)), occurs_separated hlast.1 hlast.2] at h
  rw [show s ++ '"' :: (m' ++ '"' :: (m ++ ',' :: (n' ++ d :: t))) =
    (s ++ '"' :: (m' ++ '"' :: m)) ++ ',' :: (n' ++ d :: t) by simp,
    occurs_separated hcomma (hunseen _ (by simp)), occurs_separated hlast.1 hlast.2]
  rcases h with h | h | h
  · exact Or.inl (occurs_between hnull hstart hstop hjoin h m')
  · exact absurd h hout
  · exact Or.inr (Or.inr h)

/-- What matches beside an empty value matches beside every value. -/
theorem secret_anywhere (hr : r ∈ secretPatterns u) (hd : d = ',' ∨ d = '\x7d')
    (hclean : ∀ f ∈ traces, ¬ Occurs f n)
    (h : Occurs r (s ++ '"' :: '"' :: (m ++ ',' :: (n ++ d :: t)))) :
    Occurs r (s ++ '"' :: (m' ++ '"' :: (m ++ ',' :: (n' ++ d :: t)))) := by
  rcases List.mem_cons.mp hr with rfl | hr
  · exact block_anywhere hd hclean h
  · exact line_anywhere hr hd hclean h

end Anywhere

section Empty

variable {u : UnicodeTables}

lemma replacing_nil {pattern : Regex} (hpattern : nullable pattern = false) (new note : String)
    (notes : List String) : replacing pattern new note ([], notes) = ([], notes) := by
  have hout : ¬ pattern.searchBy seen [] = true := by
    rw [searchBy_iff]
    rintro ⟨v, w, v', heq, hw⟩
    obtain ⟨hv, -⟩ := List.append_eq_nil_iff.mp heq.symm
    rw [(List.append_eq_nil_iff.mp hv).2] at hw
    exact solid_of hpattern _ _ hw
  rw [replacing, if_neg hout]

lemma replacing_foldl_nil {patterns : List Regex} (hpatterns : ∀ p ∈ patterns, nullable p = false)
    (new note : String) (notes : List String) :
    patterns.foldl (fun state pattern => replacing pattern new note state) ([], notes) = ([], notes) := by
  induction patterns with
  | nil => rfl
  | cons pattern patterns ih =>
    rw [List.foldl_cons, replacing_nil (hpatterns pattern List.mem_cons_self),
      ih fun p hp => hpatterns p (List.mem_cons_of_mem pattern hp)]

lemma shown_nil : shown u [] = [] := by
  have hforbidden : ∀ p ∈ forbiddenValuePatterns u, nullable p = false := by
    simp only [forbiddenValuePatterns, List.forall_mem_cons]
    exact ⟨rfl, rfl, rfl, rfl, rfl, rfl, nofun⟩
  have hsecret : ∀ p ∈ secretPatterns u, nullable p = false := by
    simp only [secretPatterns, List.forall_mem_cons]
    exact ⟨rfl, rfl, rfl, rfl, nofun⟩
  have hscrub : scrubStr u [] = ([], []) := by
    unfold scrubStr
    rw [replacing_foldl_nil hforbidden]
    dsimp only
    rw [replacing_nil rfl, replacing_nil rfl]
  rw [shown, redactText, substBy_nil, hscrub]
  dsimp only
  rw [replacing_foldl_nil hsecret, hideTarget]

end Empty

section Places

variable (u : UnicodeTables)

/-- The redaction of what stands around a place. -/
def redactAround : Surroundings → Surroundings
  | .here => .here
  | .item before inner after => .item (redactItems u before) (redactAround inner) (redactItems u after)
  | .member before key inner after =>
    .member (redactMembers u before) key (redactAround inner) (redactMembers u after)

variable {u}

lemma redactItems_append (vs ws : List Parsed) :
    redactItems u (vs ++ ws) = redactItems u vs ++ redactItems u ws := by
  induction vs with
  | nil => rw [redactItems, List.nil_append, List.nil_append]
  | cons v vs ih => rw [List.cons_append, redactItems, ih, redactItems, List.cons_append]

lemma redactMembers_append (ms ns : List (Str × Parsed)) :
    redactMembers u (ms ++ ns) = redactMembers u ms ++ redactMembers u ns := by
  induction ms with
  | nil => rw [redactMembers, List.nil_append, List.nil_append]
  | cons m ms ih => rw [List.cons_append, redactMembers, ih, redactMembers, List.cons_append]

/-- A value is redacted without regard to what stands around it. -/
theorem redactJson_fill (s : Surroundings) (v : Parsed) :
    redactJson u (s.fill v) = (redactAround u s).fill (redactJson u v) := by
  induction s with
  | here => rfl
  | item before inner after ih =>
    rw [Surroundings.fill, redactJson, redactItems_append, redactItems, ih, redactAround, Surroundings.fill]
  | member before key inner after ih =>
    rw [Surroundings.fill, redactJson, redactMembers_append, redactMembers, ih, redactAround, Surroundings.fill]

/-- A key that the patterns of the scanner name. -/
def isSecretName (key : Str) : Bool := (ends secretName ⟨none, key.map seen⟩).any fun q => q.ahead.isEmpty

/-- The key that a place is the value of. -/
def placeKey : Surroundings → Option Str
  | .here => none
  | .item _ inner _ => placeKey inner
  | .member _ key .here _ => some key
  | .member _ _ inner _ => placeKey inner

/-- A place in a JSON document for the value of a secret. -/
structure SecretPlace where
  surroundings : Surroundings
  named : (placeKey surroundings).any isSecretName = true

def SecretPlace.document (place : SecretPlace) (w : Str) : Parsed := place.surroundings.fill (.str w)

end Places

section Law

variable (tooling : ScannerTooling) (place : SecretPlace) (stderr : Str) (exitCode : ℤ)

/-- What is kept of an output that is the document with a value in the place. -/
def keptAt (w stdout : Str) : Payload × List String :=
  keptOutput tooling (boundedText stdout) (boundedText stderr)
    (if Oversize stdout then none else some (place.document w))

/-- The document leaks with an empty value in the place. -/
def RestLeaks : Prop :=
  leaks tooling (payloadOf (keptOutput tooling [] (boundedText stderr) (some (place.document []))) exitCode) = true

/-- Two outputs with different values in the place cannot be told apart: the rest of the document leaks; or both
outputs leak; or the values are redacted to one text by themselves; or what is left of the cut outputs is. -/
inductive Hidden (w w' stdout stdout' : Str) : Prop
  | rest : ¬ Oversize stdout → ¬ Oversize stdout' → RestLeaks tooling place stderr exitCode →
      Hidden w w' stdout stdout'
  | leak : leaks tooling (payloadOf (keptAt tooling place stderr w stdout) exitCode) = true →
      leaks tooling (payloadOf (keptAt tooling place stderr w' stdout') exitCode) = true → Hidden w w' stdout stdout'
  | value : ¬ Oversize stdout → ¬ Oversize stdout' → shown tooling.unicode w = shown tooling.unicode w' →
      sortedSet (keptAt tooling place stderr w stdout).2 = sortedSet (keptAt tooling place stderr w' stdout').2 →
      Hidden w w' stdout stdout'
  | cut : Oversize stdout → Oversize stdout' →
      (redactText tooling.unicode (boundedText stdout)).1 = (redactText tooling.unicode (boundedText stdout')).1 →
      sortedSet (keptAt tooling place stderr w stdout).2 = sortedSet (keptAt tooling place stderr w' stdout').2 →
      Hidden w w' stdout stdout'

/-- Both outputs are refused, or both have one payload. -/
def SameOutcome (r r' : Except Raised SafeOutput) : Prop :=
  (r = .error refusal ∧ r' = .error refusal) ∨ ∃ o o', r = .ok o ∧ r' = .ok o' ∧ o.payload = o'.payload

variable {tooling place stderr exitCode} {w w' stdout stdout' : Str}

lemma notNone_document (w : Str) : notNone (place.document w) = some (place.document w) := by
  obtain ⟨surroundings, hnamed⟩ := place
  cases surroundings with
  | here => cases hnamed
  | item before inner after => rfl
  | member before key inner after => rfl

lemma readJson_document (h : tooling.jsonLoads stdout = .ok (place.document w)) :
    readJson tooling (boundedText stdout) =
      .ok (if Oversize stdout then none else some (place.document w)) := by
  by_cases hsize : Oversize stdout
  · obtain ⟨e, he, hkind⟩ := tooling.json_cut stdout _ h hsize
    rw [if_pos hsize, readJson]
    split
    · rfl
    · rw [he, excepting, if_pos hkind]
      rfl
  · rw [if_neg hsize, readJson_eq h hsize, notNone_document]

variable (stderr exitCode) in
lemma safePayload_document (h : tooling.jsonLoads stdout = .ok (place.document w)) :
    ∃ o : SafeOutput, o.payload = payloadOf (keptAt tooling place stderr w stdout) exitCode ∧
      safePayload tooling stdout stderr exitCode =
        if leaks tooling o.payload = true then .error refusal else .ok o := by
  let read : Option Parsed := if Oversize stdout then none else some (place.document w)
  exact ⟨safeOutput (keptAt tooling place stderr w stdout) exitCode
    (read.isNone && decide (strip (boundedText stdout) ≠ [])), rfl, safePayload_eq (readJson_document h) exitCode⟩

lemma sameOutcome_iff (h : tooling.jsonLoads stdout = .ok (place.document w))
    (h' : tooling.jsonLoads stdout' = .ok (place.document w')) :
    SameOutcome (safePayload tooling stdout stderr exitCode) (safePayload tooling stdout' stderr exitCode) ↔
      (leaks tooling (payloadOf (keptAt tooling place stderr w stdout) exitCode) = true ∧
        leaks tooling (payloadOf (keptAt tooling place stderr w' stdout') exitCode) = true) ∨
      payloadOf (keptAt tooling place stderr w stdout) exitCode =
        payloadOf (keptAt tooling place stderr w' stdout') exitCode := by
  obtain ⟨o, ho, hsafe⟩ := safePayload_document stderr exitCode h
  obtain ⟨o', ho', hsafe'⟩ := safePayload_document stderr exitCode h'
  rw [hsafe, hsafe', ← ho, ← ho']
  by_cases hleaks : leaks tooling o.payload = true
  · by_cases hleaks' : leaks tooling o'.payload = true
    · rw [if_pos hleaks, if_pos hleaks']
      exact iff_of_true (Or.inl ⟨rfl, rfl⟩) (Or.inl ⟨hleaks, hleaks'⟩)
    · rw [if_pos hleaks, if_neg hleaks']
      refine iff_of_false ?_ ?_
      · rintro (⟨-, h⟩ | ⟨_, _, h, -⟩)
        · cases h
        · cases h
      · rintro (⟨-, h⟩ | h)
        · exact hleaks' h
        · exact hleaks' (h ▸ hleaks)
  · rw [if_neg hleaks]
    constructor
    · rintro (⟨h, -⟩ | ⟨a, a', ha, ha', hpayload⟩)
      · cases h
      · right
        obtain rfl := Except.ok.inj ha
        split at ha'
        · cases ha'
        · obtain rfl := Except.ok.inj ha'
          exact hpayload
    · rintro (⟨h, -⟩ | h)
      · exact absurd h hleaks
      · rw [if_neg (h ▸ hleaks)]
        exact Or.inr ⟨o, o', rfl, rfl, h⟩

lemma noteList_inj {notes notes' : List String} : noteList notes = noteList notes' ↔
    sortedSet notes = sortedSet notes' := by
  refine ⟨fun h => ?_, fun h => by rw [noteList, noteList, h]⟩
  refine List.map_injective_iff.mpr ?_ (Parsed.list.inj h)
  intro s t hst
  exact Str.ofString_injective (Parsed.str.inj hst)

lemma payloadOf_inj {kept kept' : Payload × List String} : payloadOf kept exitCode = payloadOf kept' exitCode ↔
    kept.1 = kept'.1 ∧ sortedSet kept.2 = sortedSet kept'.2 := by
  constructor
  · intro h
    obtain ⟨hkept, hlast⟩ := List.append_inj' h rfl
    have hnotes := (Prod.mk.inj (List.head_eq_of_cons_eq (List.tail_eq_of_cons_eq hlast))).2
    exact ⟨hkept, noteList_inj.mp hnotes⟩
  · rintro ⟨hkept, hnotes⟩
    rw [payloadOf, payloadOf, hkept, noteList_inj.mpr hnotes]

/-- What the rest of the document leaks is found whatever the value is. -/
lemma leaks_of_rest (hrest : RestLeaks tooling place stderr exitCode) (hsize : ¬ Oversize stdout) :
    leaks tooling (payloadOf (keptAt tooling place stderr w stdout) exitCode) = true := by
  let safeStderr := redactText tooling.unicode (boundedText stderr)
  let stderrPart : Payload := if safeStderr.1 = [] then [] else [(Str.ofString "stderr", .str safeStderr.1)]
  have hpart : stderrPart = [] ∨ ∃ s, stderrPart = [(Str.ofString "stderr", .str s)] := by
    by_cases hempty : safeStderr.1 = []
    · exact Or.inl (if_pos hempty)
    · exact Or.inr ⟨safeStderr.1, if_neg hempty⟩
  obtain ⟨before, d, hd, after, htext⟩ := jsonText_payload tooling.floatText exitCode hpart
  obtain ⟨l, r, haround⟩ := jsonText_around tooling.floatText
    (redactAround tooling.unicode place.surroundings)
  -- the text of the payload with a value in the place
  have hshape : ∀ x : Str,
      jsonText tooling.floatText (.dict (payloadOf (keptOutput tooling stdout (boundedText stderr)
        (some (place.document x))) exitCode)) =
      before ++ l ++ .scalar '"' :: ((shown tooling.unicode x).flatMap escapePoint ++ .scalar '"' ::
        (r ++ .scalar ',' :: (noteText (sortedSet (jsonNotes tooling.unicode (place.document x) ++ safeStderr.2)) ++
          .scalar d :: after))) := by
    intro x
    refine (htext (redactJson tooling.unicode (place.document x)) _).trans ?_
    rw [SecretPlace.document, redactJson_fill, haround, redactJson, jsonText, quotedStr]
    simp only [List.append_assoc, List.cons_append, List.nil_append]
    rfl
  obtain ⟨p, hp, hsearch⟩ := List.any_eq_true.mp hrest
  refine List.any_eq_true.mpr ⟨p, hp, ?_⟩
  have hkept : keptAt tooling place stderr w stdout =
      keptOutput tooling stdout (boundedText stderr) (some (place.document w)) := by
    rw [keptAt, if_neg hsize]
    rfl
  have hnotes : jsonNotes tooling.unicode (place.document []) ++ safeStderr.2 ⊆ scanNotes :=
    keptOutput_notes tooling stdout (boundedText stderr) (some (place.document []))
  have hoccurs : Occurs p ((jsonText tooling.floatText (.dict (payloadOf (keptOutput tooling stdout
    (boundedText stderr) (some (place.document []))) exitCode))).map seen) := searchBy_iff.mp hsearch
  rw [searchBy_iff, hkept, hshape]
  rw [hshape, shown_nil] at hoccurs
  simp only [List.map_append, List.map_cons, List.flatMap_nil, List.nil_append] at hoccurs ⊢
  exact secret_anywhere hp hd (fun f hf => notes_clean hnotes hf) hoccurs

end Law

section Example

def passwordPlace : SecretPlace where
  surroundings := .member [] (Str.ofString "password") .here []
  named := by decide +kernel

def passwords : List String := ["hunter2", "hunter3", "sk-aaaaaaaaaaaaaaaaaaaa", "sk-bbbbbbbbbbbbbbbbbbbb"]

def passwordOutput (w : String) : Str := Str.ofString ("\x7b\"password\":\"" ++ w ++ "\"\x7d")

def readPassword (content : Str) : Except Raised Parsed :=
  match passwords.find? fun w => decide (passwordOutput w = content) with
  | some w => .ok (passwordPlace.document (Str.ofString w))
  | none => raise .jsonDecodeError "Expecting value: line 1 column 1 (char 0)"

lemma readPassword_ok {content : Str} {v : Parsed} (h : readPassword content = .ok v) :
    ∃ w ∈ passwords, content = passwordOutput w ∧ v = passwordPlace.document (Str.ofString w) := by
  unfold readPassword at h
  split at h
  · rename_i w hw
    have houtput := List.find?_some hw
    exact ⟨w, List.mem_of_find?_eq_some hw, (of_decide_eq_true houtput).symm, (Except.ok.inj h).symm⟩
  · cases h

/-- An interpreter that reads the outputs with one of these passwords. -/
def passwordTooling : ScannerTooling where
  jsonLoads := readPassword
  tomlLoads _ := raise .tomlDecodeError "Invalid statement (at line 1, column 1)"
  render _ := []
  renderFixed _ := []
  lower s := s
  upper s := s
  sha256 _ := []
  json_printable content v h := by
    obtain ⟨w, -, -, rfl⟩ := readPassword_ok h
    simp [SecretPlace.document, passwordPlace, Surroundings.fill, Parsed.printable, Parsed.printableMembers]
  floatText _ := "0.0"
  unicode := noTables
  json_raises content e h := by
    unfold readPassword at h
    split at h
    · cases h
    · obtain rfl := Except.error.inj h
      exact nofun
  json_blank content v h := by
    obtain ⟨w, hw, rfl, -⟩ := readPassword_ok h
    have hblank : ∀ w ∈ passwords, strip (passwordOutput w) ≠ [] := by decide
    exact hblank w hw
  json_cut content v h hsize := by
    obtain ⟨w, hw, rfl, -⟩ := readPassword_ok h
    have hfits : ∀ w ∈ passwords, ¬ Oversize (passwordOutput w) := by decide
    exact absurd hsize (hfits w hw)

lemma passwordTooling_reads {w : String} (hw : w ∈ passwords) :
    passwordTooling.jsonLoads (passwordOutput w) = .ok (passwordPlace.document (Str.ofString w)) := by
  have hfind : ∀ w ∈ passwords,
      (passwords.find? fun w' => decide (passwordOutput w' = passwordOutput w)) = some w := by decide
  change readPassword (passwordOutput w) = _
  rw [readPassword, hfind w hw]

end Example

end SecScanMonitor.Capabilities
