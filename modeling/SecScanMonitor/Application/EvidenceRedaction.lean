import SecScanMonitor.Application.EvidenceService
import SecScanMonitor.Foundations.Substitution

/-! What the redaction of evidence leaves of a private key. -/

namespace SecScanMonitor.Application

open Foundations Domain Sanitize Foundations.Regex

namespace EvidenceService

section Blocks

/-- What stands in a header before PRIVATE KEY: nothing, or words. -/
def IsLabel (label : Text) : Prop :=
  label = [] ∨ ∃ words, words ≠ [] ∧ (∀ c ∈ words, c.isUpper ∨ c = ' ') ∧ label = words ++ [' ']

/-- A text with a block for a private key in it. -/
structure KeyBlock where
  before : Text
  label : Text
  after : Text
  labelled : IsLabel label

def bodyText (lines : List Text) : Text := '\n' :: lines.flatMap (· ++ ['\n'])

def KeyBlock.header (block : KeyBlock) : Text :=
  "-----BEGIN ".toList ++ block.label ++ "PRIVATE KEY-----".toList

def KeyBlock.footer (block : KeyBlock) : Text :=
  "-----END ".toList ++ block.label ++ "PRIVATE KEY-----".toList

def KeyBlock.content (block : KeyBlock) (lines : List Text) : Text :=
  block.before ++ block.header ++ bodyText lines ++ block.footer ++ block.after

def Encoded (lines : List Text) : Prop := ∀ line ∈ lines, ∀ c ∈ line, c.isAlphanum ∨ c ∈ "+/=".toList

variable (u : UnicodeTables) (utf8 : Utf8)

/-- What is stored does not depend on the lines of the body. -/
def BodyHidden (request : IngestRequest) (block : KeyBlock) : Prop :=
  ∀ lines lines', Encoded lines → Encoded lines' →
    storedContent u utf8 { request with content := utf8.encode (block.content lines) } =
      storedContent u utf8 { request with content := utf8.encode (block.content lines') }

end Blocks

section Marks

/-- A body of lines of one digit. -/
def marks : ℕ → Text
  | 0 => ['\n']
  | n + 1 => '\n' :: '2' :: marks n

lemma bodyText_replicate (n : ℕ) : bodyText (List.replicate n ['2']) = marks n := by
  induction n with
  | zero => rfl
  | succ n ih =>
    rw [marks, ← ih]
    rfl

lemma length_marks (n : ℕ) : (marks n).length = 2 * n + 1 := by
  induction n with
  | zero => rfl
  | succ n ih =>
    rw [marks, List.length_cons, List.length_cons, ih]
    omega

def closers : List Char := ['-', ']', '>']

def openers : List Char := ['-', '[', '<']

/-- The marks stand between a character that closes something and one that opens something. -/
def Framed (n : ℕ) (t : Text) : Prop :=
  ∃ before after a b, t = before ++ marks n ++ b :: after ∧ before.getLast? = some a ∧
    a ∈ closers ∧ b ∈ openers

lemma Framed.le_length {n : ℕ} {t : Text} (h : Framed n t) : 2 * n + 1 ≤ t.length := by
  obtain ⟨before, after, a, b, rfl, -⟩ := h
  simp only [List.length_append, length_marks]
  omega

/-- The syntax of a pattern shows that it does not touch the marks. -/
def transparent (r : Regex) : Bool :=
  !nullable r && decide (2 ≤ least r) && (closers.all fun a => !joins [a] ['\n'] r) &&
    (!starts ['\n'] r || ('2' :: openers).all fun b => !joins ['\n'] [b] r) &&
    (!starts ['2'] r || !joins ['2'] ['\n'] r)

variable {r : Regex} {n : ℕ} {t new : Text}

lemma isChain_marks (hline : ∀ b ∈ '2' :: openers, Skips r '\n' b) (hdigit : Skips r '2' '\n')
    {b : Char} (hb : b ∈ openers) : (marks n ++ [b]).IsChain (Skips r) := by
  induction n with
  | zero =>
    exact List.isChain_cons_cons.mpr ⟨hline b (List.mem_cons_of_mem _ hb), .singleton _⟩
  | succ n ih =>
    have hnext : ∃ rest, marks n ++ [b] = '\n' :: rest := by
      cases n with
      | zero => exact ⟨_, rfl⟩
      | succ n => exact ⟨_, rfl⟩
    obtain ⟨rest, hrest⟩ := hnext
    rw [marks, List.cons_append, List.cons_append, List.isChain_cons_cons]
    refine ⟨hline '2' List.mem_cons_self, ?_⟩
    rw [hrest, List.isChain_cons_cons, ← hrest]
    exact ⟨hdigit, ih⟩

lemma Framed.subst (hr : transparent r = true) (hopen : ∃ z ∈ openers, new.head? = some z)
    (hclose : ∃ z ∈ closers, new.getLast? = some z) (h : Framed n t) :
    Framed n (r.subst new t) := by
  simp only [transparent, Bool.and_eq_true, Bool.or_eq_true, Bool.not_eq_true', decide_eq_true_eq,
    List.all_eq_true] at hr
  obtain ⟨⟨⟨⟨hnull, hleast⟩, hcloser⟩, hline⟩, hdigit⟩ := hr
  have hsolid := solid_of hnull
  obtain ⟨zo, hzo, hhead⟩ := hopen
  obtain ⟨zc, hzc, hlast⟩ := hclose
  have hnew : new ≠ [] := by
    rintro rfl
    cases hhead
  obtain ⟨before, after, a, b, rfl, hbefore, ha, hb⟩ := h
  have hchain : (marks n ++ [b]).IsChain (Skips r) := by
    refine isChain_marks ?_ hdigit hb
    intro c hc
    rcases hline with h | h
    · exact Or.inl h
    · exact Or.inr (h c hc)
  obtain ⟨rest, hrest⟩ : ∃ rest, marks n ++ b :: after = '\n' :: rest := by
    cases n with
    | zero => exact ⟨_, rfl⟩
    | succ n => exact ⟨_, rfl⟩
  obtain ⟨before', hbefore', z, hz, hza⟩ := substFrom_through (l := none) hsolid hnew
    (hcloser a ha) rest hbefore
  obtain ⟨z', hz', hzb⟩ := head?_substFrom (l := (marks n).getLast?.or (some a)) (b := b) hsolid hnew
    after
  obtain ⟨after', hafter'⟩ := List.head?_eq_some_iff.mp hz'
  refine ⟨before', after', z, z', ?_, hz, ?_, ?_⟩
  · rw [Regex.subst, List.append_assoc, hrest, hbefore', ← hrest, substFrom_part hsolid hleast hchain,
      hafter', List.append_assoc]
  · rcases hza with rfl | hza
    · exact ha
    · obtain rfl := Option.some.inj (hlast.symm.trans hza)
      exact hzc
  · rcases hzb with rfl | hzb
    · exact hb
    · obtain rfl := Option.some.inj (hhead.symm.trans hzb)
      exact hzo

end Marks

section Passes

variable {u : UnicodeTables} {n : ℕ} {t : Text}

set_option maxRecDepth 8000 in
lemma transparent_forbidden (u : UnicodeTables) :
    (forbiddenValuePatterns u).all transparent = true := rfl

lemma transparent_path : transparent evidencePath = true := rfl

lemma transparent_ip (u : UnicodeTables) : transparent (ip u) = true := rfl

set_option maxRecDepth 8000 in
lemma transparent_secret (u : UnicodeTables) :
    ((secretPatterns u).tail ++ redactionPatterns.tail).all transparent = true := rfl

def replacements : List Text := [sensitiveContent, localPath, redactedIp, redactedSecret]

lemma replacements_framed : ∀ new ∈ replacements, (∃ z ∈ openers, new.head? = some z) ∧
    ∃ z ∈ closers, new.getLast? = some z := by
  intro new hnew
  simp only [replacements, List.mem_cons, List.not_mem_nil, or_false] at hnew
  rcases hnew with rfl | rfl | rfl | rfl
  · exact ⟨⟨'[', by decide, rfl⟩, ']', by decide, rfl⟩
  · exact ⟨⟨'[', by decide, rfl⟩, ']', by decide, rfl⟩
  · exact ⟨⟨'[', by decide, rfl⟩, ']', by decide, rfl⟩
  · exact ⟨⟨'<', by decide, rfl⟩, '>', by decide, rfl⟩

lemma apart_header : ∀ new ∈ replacements, Apart privateKeyHeader new := by
  have hhead : ∀ new ∈ replacements,
      (new.head?.all fun x => !uses [x] privateKeyHeader) = true := by decide
  have hlast : ∀ new ∈ replacements,
      (new.getLast?.all fun x => !uses [x] privateKeyHeader) = true := by decide
  have houtside : ∀ new ∈ replacements, ¬ Occurs privateKeyHeader new := by decide
  intro new hnew
  obtain ⟨⟨z, -, hz⟩, -⟩ := replacements_framed new hnew
  refine ⟨?_, rfl, ?_, ?_, houtside new hnew⟩
  · rintro rfl
    cases hz
  · intro x hx
    simpa [hx] using hhead new hnew
  · intro x hx
    simpa [hx] using hlast new hnew

/-- No header is left before the patterns for whole blocks are tried. -/
structure Survives (n : ℕ) (t : Text) : Prop where
  framed : Framed n t
  headless : ¬ Occurs privateKeyHeader t

lemma solid_of_transparent {r : Regex} (hr : transparent r = true) : Solid r := by
  simp only [transparent, Bool.and_eq_true, Bool.not_eq_true'] at hr
  exact solid_of hr.1.1.1.1

lemma Survives.subst {r : Regex} {new : Text} (hr : transparent r = true)
    (hnew : new ∈ replacements) (h : Survives n t) : Survives n (r.subst new t) where
  framed := h.framed.subst hr (replacements_framed new hnew).1 (replacements_framed new hnew).2
  headless := not_occurs_subst (solid_of_transparent hr) (apart_header new hnew) h.headless

lemma Survives.block {new : Text} (h : Survives n t) : Survives n (privateKeyBlock.subst new t) := by
  have hsolid : Solid privateKeyBlock := solid_of rfl
  rw [subst_eq_self hsolid]
  · exact h
  · rintro ⟨a, w, b, rfl, hw⟩
    cases hw with
    | @seq _ _ _ _ x y hx _ =>
      exact h.headless ⟨a, x, y ++ b, by simp, hx.of_free rfl _ _⟩

lemma Survives.foldl {rs : List Regex} {new : Text} (hnew : new ∈ replacements)
    (hrs : rs.all transparent = true) (h : Survives n t) :
    Survives n (rs.foldl (fun t r => r.subst new t) t) := by
  induction rs generalizing t with
  | nil => exact h
  | cons r rs ih =>
    rw [List.all_cons, Bool.and_eq_true] at hrs
    exact ih hrs.2 (h.subst hrs.1 hnew)

lemma fst_pass {r : Regex} {new : Text} {note : String} {state : Text × List String}
    (hr : transparent r = true) : (pass r new note state).1 = r.subst new state.1 := by
  unfold Sanitize.pass
  split
  · rfl
  · rename_i hsearch
    rw [search_iff] at hsearch
    exact (subst_eq_self (solid_of_transparent hr) hsearch).symm

lemma fst_foldl_pass {rs : List Regex} {new : Text} {note : String} {state : Text × List String}
    (hrs : rs.all transparent = true) :
    (rs.foldl (fun state r => pass r new note state) state).1 =
      rs.foldl (fun t r => r.subst new t) state.1 := by
  induction rs generalizing state with
  | nil => rfl
  | cons r rs ih =>
    rw [List.all_cons, Bool.and_eq_true] at hrs
    rw [List.foldl_cons, ih hrs.2, fst_pass hrs.1, List.foldl_cons]

/-- The scrubber rewrites every header, and leaves the lines of the body. -/
lemma survives_scrubText (h : Framed n t) : Survives n (scrubText u t []).1 := by
  have hlist : forbiddenValuePatterns u = privateKeyHeader :: (forbiddenValuePatterns u).tail := rfl
  have hforbidden := transparent_forbidden u
  have hnew : sensitiveContent ∈ replacements := by simp [replacements]
  rw [scrubText, List.foldl_nil, scrubPasses, fst_pass (transparent_ip u), fst_pass transparent_path,
    fst_foldl_pass hforbidden]
  rw [hlist, List.all_cons, Bool.and_eq_true] at hforbidden
  have hfirst : Survives n (privateKeyHeader.subst sensitiveContent t) :=
    ⟨h.subst hforbidden.1 (replacements_framed _ hnew).1 (replacements_framed _ hnew).2,
      not_occurs_subst_self (solid_of_transparent hforbidden.1) (apart_header _ hnew) t⟩
  refine Survives.subst (transparent_ip u) (by simp [replacements]) ?_
  refine Survives.subst transparent_path (by simp [replacements]) ?_
  rw [hlist, List.foldl_cons]
  exact hfirst.foldl hnew hforbidden.2

lemma survives_scrubbed (h : Framed n t) : Survives n (scrubbed u t) := by
  have hsecrets : secretPatterns u = privateKeyBlock :: (secretPatterns u).tail := rfl
  have hredactions : redactionPatterns = privateKeyBlock :: redactionPatterns.tail := rfl
  have hall := transparent_secret u
  rw [List.all_append, Bool.and_eq_true] at hall
  have hnew : redactedSecret ∈ replacements := by simp [replacements]
  rw [scrubbed, redactSecretValues, List.foldl_append, hsecrets, hredactions, List.foldl_cons,
    List.foldl_cons]
  exact ((survives_scrubText h).block.foldl hnew hall.1).block.foldl hnew hall.2

end Passes

section Leak

variable (u : UnicodeTables) (utf8 : Utf8)

lemma framed_content (block : KeyBlock) (n : ℕ) :
    Framed n (block.content (List.replicate n ['2'])) := by
  obtain ⟨rest, hrest⟩ : ∃ rest, block.footer = '-' :: rest := ⟨_, rfl⟩
  refine ⟨block.before ++ block.header, rest ++ block.after, '-', '-', ?_, ?_, by decide, by decide⟩
  · rw [KeyBlock.content, bodyText_replicate, hrest]
    simp
  · have hlast : "PRIVATE KEY-----".toList.getLast? = some '-' := by decide
    unfold KeyBlock.header
    rw [List.getLast?_append, List.getLast?_append, hlast, Option.some_or, Option.some_or]

variable {u utf8} in
lemma storedContent_of_secret {request : IngestRequest} {t : Text}
    (h : textContainsSecret u t = true) :
    storedContent u utf8 { request with content := utf8.encode t } = utf8.encode (scrubbed u t) := by
  have hcontains : containsSecretLike u t request.evidenceId = true := by
    rw [containsSecretLike, h, Bool.or_true]
  rw [storedContent]
  simp only [utf8.decode_encode, hcontains, if_true]

lemma storedContent_length (request : IngestRequest) (block : KeyBlock) (n : ℕ) :
    2 * n + 1 ≤ (utf8.decode (storedContent u utf8
      { request with content := utf8.encode (block.content (List.replicate n ['2'])) })).length := by
  have hframed := framed_content block n
  rw [storedContent]
  simp only [utf8.decode_encode]
  split
  · rw [utf8.decode_encode]
    exact (survives_scrubbed hframed).framed.le_length
  · rw [utf8.decode_encode]
    exact hframed.le_length

/-- Whatever stands around a block, what is stored grows with its body. -/
theorem key_body_stored (request : IngestRequest) (block : KeyBlock) :
    ¬ BodyHidden u utf8 request block := by
  intro hhidden
  have hencoded : ∀ n, Encoded (List.replicate n ['2']) := by
    intro n line hline c hc
    obtain rfl := (List.eq_of_mem_replicate hline)
    obtain rfl := List.mem_singleton.mp hc
    exact Or.inl rfl
  obtain ⟨n, hn⟩ : ∃ n, n = (utf8.decode (storedContent u utf8
      { request with content := utf8.encode (block.content []) })).length := ⟨_, rfl⟩
  have hlength := storedContent_length u utf8 request block n
  rw [hhidden (List.replicate n ['2']) [] (hencoded n) (hencoded 0), ← hn] at hlength
  omega

end Leak

section Example

local instance (priority := 10000) decidableForallMemList {α : Type} (p : α → Prop) [DecidablePred p] (l : List α) :
    Decidable (∀ a ∈ l, p a) := List.decidableBAll p l

def asciiTables : UnicodeTables := ⟨fun _ => false, fun _ => false⟩

/-- A block with nothing around it. -/
def rsaBlock : KeyBlock where
  before := []
  label := "RSA ".toList
  after := []
  labelled := Or.inr ⟨['R', 'S', 'A'], by simp, by decide, rfl⟩

theorem rsa_body_stored : ¬ ∃ utf8 request, BodyHidden asciiTables utf8 request rsaBlock := by
  rintro ⟨utf8, request, hhidden⟩
  have hsecret : ∀ line ∈ ["abc".toList, "abd".toList],
      textContainsSecret asciiTables (rsaBlock.content [line]) = true ∧
        scrubbed asciiTables (rsaBlock.content [line]) =
          "[redacted-sensitive-content]\n".toList ++ line ++ "\n<REDACTED:secret>".toList := by
    decide +kernel
  obtain ⟨habc, hstored⟩ := hsecret _ List.mem_cons_self
  obtain ⟨habd, hstored'⟩ := hsecret _ (List.mem_cons_of_mem _ List.mem_cons_self)
  have hencoded : Encoded ["abc".toList] ∧ Encoded ["abd".toList] := by
    unfold Encoded
    decide
  have hequal := hhidden ["abc".toList] ["abd".toList] hencoded.1 hencoded.2
  rw [storedContent_of_secret habc, storedContent_of_secret habd, hstored, hstored'] at hequal
  have htext := congrArg utf8.decode hequal
  rw [utf8.decode_encode, utf8.decode_encode] at htext
  revert htext
  decide

end Example

end EvidenceService

end SecScanMonitor.Application
