import Mathlib.Data.List.Chain
import Mathlib.Data.List.Infix
import SecScanMonitor.Foundations.Replacement

/-! Texts of other parties on the operator's terminal: `safeDisplay`, and when it leaves no control sequence
(`secscan-experience-contracts/src/index.ts`). -/

namespace SecScanMonitor.Console

open Foundations Foundations.Regex

-- what holds of all units of a text is decided by going through the text, and not through all units
local instance (priority := 10000) decidableForallMemList {α : Type} (p : α → Prop) [DecidablePred p] (l : List α) :
    Decidable (∀ a ∈ l, p a) := List.decidableBAll p l

local instance (priority := 10000) decidableForallMemOption {α : Type} (p : α → Prop) [DecidablePred p] (o : Option α) :
    Decidable (∀ a ∈ o, p a) := Option.decidableForallMem o

/-- A code unit of a JavaScript string. -/
abbrev CodeUnit := UInt16

/-- A text of ASCII in code units. -/
def units (s : String) : List CodeUnit := s.toList.map fun c => c.toNat.toUInt16

section Patterns

def inRange (lo hi : Char) (c : CodeUnit) : Bool := lo.toNat ≤ c.toNat && c.toNat ≤ hi.toNat

def among (cs : String) (c : CodeUnit) : Bool := (cs.toList.map Char.toNat).contains c.toNat

def isLetterOrDigit (c : CodeUnit) : Bool := inRange 'A' 'Z' c || inRange 'a' 'z' c || inRange '0' '9' c

/-- `\w` -/
def isWord (c : CodeUnit) : Bool := isLetterOrDigit c || among "_" c

/-- `\s` -/
def isSpace (c : CodeUnit) : Bool :=
  c.toNat ∈ [0x20, 0xA0, 0x1680, 0x2028, 0x2029, 0x202F, 0x205F, 0x3000, 0xFEFF] ||
    0x9 ≤ c.toNat && c.toNat ≤ 0xD || 0x2000 ≤ c.toNat && c.toNat ≤ 0x200A

/-- Where case is ignored: without the flag `u` no character beyond ASCII is taken for one of ASCII. -/
def fold (c : CodeUnit) : CodeUnit := if inRange 'A' 'Z' c then c + 32 else c

/-- `\b` -/
def edge : Regex CodeUnit := look fun l n => l.any isWord != n.any isWord

/-- A text in small letters, where case is ignored. -/
def anyCase (s : String) : Regex CodeUnit := letters fold (units s)

def isEscape (c : CodeUnit) : Bool := c = 0x1B

/-- `[A-Za-z0-9._~+/=-]` -/
def isTokenUnit (c : CodeUnit) : Bool := isLetterOrDigit c || among "._~+/=-" c

/-- `[A-Za-z0-9_-]` -/
def isKeyUnit (c : CodeUnit) : Bool := isLetterOrDigit c || among "_-" c

/-- `[^\s,;]` -/
def isValueUnit (c : CodeUnit) : Bool := !(isSpace c || among ",;" c)

def controlSequence : Regex CodeUnit :=
  sequence [one isEscape, one (among "["), star true (one (inRange '0' '?')), star true (one (inRange ' ' '/')),
    one (inRange '@' '~')]

def bearerToken : Regex CodeUnit :=
  sequence [edge, anyCase "bearer", plus (one isSpace), plus (one isTokenUnit)]

def keyKind : Regex CodeUnit :=
  oneOf [anyCase "sk", anyCase "pk", anyCase "ghp", anyCase "github_pat",
    seq (anyCase "xox") (one fun c => among "baprs" (fold c))]

def secretKey : Regex CodeUnit :=
  sequence [edge, keyKind, one (among "-_"), plus (one isKeyUnit), edge]

def secretName : Regex CodeUnit :=
  oneOf [anyCase "token", sequence [anyCase "api", opt (one (among "_-")), anyCase "key"], anyCase "secret",
    anyCase "password", anyCase "passwd"]

def assigned : Regex CodeUnit :=
  sequence [star true (one isSpace), one (among ":="), star true (one isSpace), plus (one isValueUnit)]

def assignment : Regex CodeUnit := sequence [edge, secretName, assigned]

/-- `$1=<REDACTED>` -/
def redactedAssignment (p : Place CodeUnit) : List CodeUnit :=
  group edge secretName assigned p ++ units "=<REDACTED>"

/-- The first three replacements: control sequences, bearer tokens, keys. -/
def withoutTokens (value : List CodeUnit) : List CodeUnit :=
  replace secretKey (fun _ => units "<REDACTED>")
    (replace bearerToken (fun _ => units "Bearer <REDACTED>") (replace controlSequence (fun _ => []) value))

def safeDisplay (value : List CodeUnit) : List CodeUnit :=
  replace assignment redactedAssignment (withoutTokens value)

end Patterns

section Classes

variable {c : CodeUnit}

lemma among_iff {cs : String} : among cs c = true ↔ c.toNat ∈ cs.toList.map Char.toNat := by
  rw [among, List.contains_iff_mem]

lemma inRange_iff {lo hi : Char} : inRange lo hi c = true ↔ lo.toNat ≤ c.toNat ∧ c.toNat ≤ hi.toNat := by
  simp [inRange]

lemma isLetterOrDigit_iff : isLetterOrDigit c = true ↔ 65 ≤ c.toNat ∧ c.toNat ≤ 90 ∨
    97 ≤ c.toNat ∧ c.toNat ≤ 122 ∨ 48 ≤ c.toNat ∧ c.toNat ≤ 57 := by
  simp only [isLetterOrDigit, Bool.or_eq_true, inRange_iff, or_assoc]
  rfl

lemma isWord_iff : isWord c = true ↔ isLetterOrDigit c = true ∨ c.toNat = 95 := by
  rw [isWord, Bool.or_eq_true, among_iff]
  exact or_congr_right List.mem_singleton

lemma isSpace_iff : isSpace c = true ↔
    c.toNat ∈ [0x20, 0xA0, 0x1680, 0x2028, 0x2029, 0x202F, 0x205F, 0x3000, 0xFEFF] ∨
      9 ≤ c.toNat ∧ c.toNat ≤ 13 ∨ 0x2000 ≤ c.toNat ∧ c.toNat ≤ 0x200A := by
  simp only [isSpace, Bool.or_eq_true, Bool.and_eq_true, decide_eq_true_eq, or_assoc]

lemma not_isWord_of_isSpace (h : isSpace c = true) : isWord c = false := by
  rw [Bool.eq_false_iff, ne_eq, isWord_iff, isLetterOrDigit_iff]
  rw [isSpace_iff] at h
  simp only [List.mem_cons, List.not_mem_nil, or_false] at h
  omega

lemma isTokenUnit_of_isWord (h : isWord c = true) : isTokenUnit c = true := by
  rw [isTokenUnit, Bool.or_eq_true, among_iff]
  rcases isWord_iff.mp h with h | h
  · exact Or.inl h
  · rw [h]
    exact Or.inr (by decide)

lemma isKeyUnit_of_isWord (h : isWord c = true) : isKeyUnit c = true := by
  rw [isKeyUnit, Bool.or_eq_true, among_iff]
  rcases isWord_iff.mp h with h | h
  · exact Or.inl h
  · rw [h]
    exact Or.inr (by decide)

lemma isValueUnit_iff : isValueUnit c = true ↔ isSpace c = false ∧ c.toNat ≠ 44 ∧ c.toNat ≠ 59 := by
  rw [isValueUnit, Bool.not_eq_true', Bool.or_eq_false_iff]
  refine and_congr_right fun _ => ?_
  rw [Bool.eq_false_iff, ne_eq, among_iff]
  change ¬ c.toNat ∈ [44, 59] ↔ _
  simp

lemma isValueUnit_of_isWord (h : isWord c = true) : isValueUnit c = true := by
  refine isValueUnit_iff.mpr ⟨?_, ?_⟩
  · rw [Bool.eq_false_iff]
    intro hspace
    rw [not_isWord_of_isSpace hspace] at h
    cases h
  · rw [isWord_iff, isLetterOrDigit_iff] at h
    omega

lemma toNat_fold : (fold c).toNat = if 65 ≤ c.toNat ∧ c.toNat ≤ 90 then c.toNat + 32 else c.toNat := by
  have hrange : inRange 'A' 'Z' c = true ↔ 65 ≤ c.toNat ∧ c.toNat ≤ 90 := inRange_iff
  simp only [fold, hrange]
  split
  · rw [UInt16.toNat_add]
    change (c.toNat + 32) % 65536 = _
    omega
  · rfl

lemma isWord_fold : isWord (fold c) = isWord c := by
  rw [Bool.eq_iff_iff, isWord_iff, isWord_iff, isLetterOrDigit_iff, isLetterOrDigit_iff, toNat_fold]
  split <;> omega

end Classes

section Beginnings

variable {l n : Option CodeUnit} {t w : List CodeUnit} {r : Regex CodeUnit}

lemma reads_edge : Reads (seq edge r) l w n ↔
    (l.any isWord != (w.head?.or n).any isWord) = true ∧ Reads r l w n := by
  constructor
  · intro h
    obtain ⟨u, v, rfl, hu, hv⟩ := reads_seq.mp h
    obtain ⟨rfl, hedge⟩ := reads_look.mp hu
    exact ⟨hedge, hv⟩
  · rintro ⟨hedge, h⟩
    exact .seq (u := []) (.look hedge) h

lemma any_of_edge {x : CodeUnit} (hx : isWord x = true) :
    (l.any isWord != (some x).any isWord) = true ↔ l.any isWord = false := by
  simp [hx]

/-- A word that reads as letters where case is ignored begins with a letter. -/
lemma exists_head {u : List CodeUnit} {K : List CodeUnit} (hu : u.map fold = K)
    (hK : K.head?.any isWord = true) : ∃ x u', u = x :: u' ∧ isWord x = true := by
  cases u with
  | nil =>
    subst hu
    cases hK
  | cons x u =>
    subst hu
    refine ⟨x, u, rfl, ?_⟩
    rw [← isWord_fold]
    exact hK

def BearerLead (u : List CodeUnit) : Prop :=
  ∃ b s, u = b ++ s ∧ b.map fold = units "bearer" ∧ s ≠ [] ∧ ∀ x ∈ s, isSpace x = true

lemma begins_bearerToken : ends bearerToken ⟨l, t⟩ ≠ [] ↔
    l.any isWord = false ∧ Leads BearerLead (fun c => isTokenUnit c = true) t := by
  rw [ends_ne_nil]
  constructor
  · rintro ⟨w, rest, rfl, h⟩
    obtain ⟨hedge, h⟩ := reads_edge.mp h
    obtain ⟨b, _, rfl, hb, h⟩ := reads_seq.mp h
    obtain ⟨s, v, rfl, hs, hv⟩ := reads_seq.mp h
    have hb' := reads_letters.mp hb
    obtain ⟨hs', hspace⟩ := reads_plus_one.mp hs
    obtain ⟨hne, htoken⟩ := reads_plus_one.mp hv
    obtain ⟨x, b', rfl, hx⟩ := exists_head hb' (by decide)
    obtain ⟨c, v, rfl⟩ := List.exists_cons_of_ne_nil hne
    exact ⟨(any_of_edge hx).mp hedge, x :: b' ++ s, c, ⟨x :: b', s, rfl, hb', hs', hspace⟩,
      htoken c List.mem_cons_self, v ++ rest, by simp⟩
  · rintro ⟨hl, u, c, ⟨b, s, rfl, hb, hs, hspace⟩, hc, rest, rfl⟩
    refine ⟨b ++ (s ++ [c]), rest, by simp, reads_edge.mpr ⟨?_, ?_⟩⟩
    · obtain ⟨x, b, rfl, hx⟩ := exists_head hb (by decide)
      exact (any_of_edge hx).mpr hl
    · exact .seq (reads_letters.mpr hb) (.seq (reads_plus_one.mpr ⟨hs, hspace⟩)
        (reads_plus_one.mpr ⟨List.cons_ne_nil c [], by simpa using hc⟩))

def keyKinds : List (List CodeUnit) :=
  [units "sk", units "pk", units "ghp", units "github_pat", units "xoxb", units "xoxa", units "xoxp",
    units "xoxr", units "xoxs"]

lemma reads_letters_one {K : List CodeUnit} {p : CodeUnit → Bool} :
    Reads (seq (letters fold K) (one fun c => p (fold c))) l w n ↔
      ∃ y, p y = true ∧ w.map fold = K ++ [y] := by
  rw [reads_seq]
  constructor
  · rintro ⟨u, v, rfl, hu, hv⟩
    obtain ⟨c, rfl, hc⟩ := reads_one.mp hv
    exact ⟨fold c, hc, by rw [List.map_append, reads_letters.mp hu, List.map_singleton]⟩
  · rintro ⟨y, hy, h⟩
    obtain ⟨u, v, rfl, hu, hv⟩ := List.map_eq_append_iff.mp h
    obtain ⟨c, rfl, rfl⟩ := List.map_eq_singleton_iff.mp hv
    exact ⟨u, [c], rfl, reads_letters.mpr hu, .one hy⟩

lemma reads_keyKind : Reads keyKind l w n ↔ w.map fold ∈ keyKinds := by
  have hlast : ∀ y, among "baprs" y = true ↔ y = 98 ∨ y = 97 ∨ y = 112 ∨ y = 114 ∨ y = 115 := by
    intro y
    rw [among_iff]
    change y.toNat ∈ [98, 97, 112, 114, 115] ↔ _
    simp [← UInt16.toNat_inj]
  simp only [keyKind, reads_oneOf, anyCase, List.mem_cons, List.not_mem_nil, or_false, or_and_right, exists_or,
    exists_eq_left, reads_letters, reads_letters_one, hlast, keyKinds]
  rfl

def KeyLead (u : List CodeUnit) : Prop :=
  ∃ k d v, u = k ++ d :: v ∧ k.map fold ∈ keyKinds ∧ among "-_" d = true ∧
    ∀ x ∈ v, isKeyUnit x = true ∧ isWord x = false

/-- Before the boundary that closes a key there is a word character, or right after it. -/
lemma exists_word_of_edge {v rest : List CodeUnit} (hv : v ≠ []) (hkey : ∀ x ∈ v, isKeyUnit x = true)
    (hedge : ((v.getLast?.or l).any isWord != rest.head?.any isWord) = true) :
    ∃ a c rest', v ++ rest = a ++ c :: rest' ∧ (∀ x ∈ a, isKeyUnit x = true ∧ isWord x = false) ∧
      isWord c = true := by
  induction v with
  | nil => exact absurd rfl hv
  | cons x v ih =>
    obtain ⟨hx, hkey⟩ := List.forall_mem_cons.mp hkey
    cases hword : isWord x with
    | true => exact ⟨[], x, v ++ rest, rfl, by simp, hword⟩
    | false =>
      cases v with
      | nil =>
        cases rest with
        | nil => simp [hword] at hedge
        | cons c rest => exact ⟨[x], c, rest, rfl, by simp [hx, hword], by simpa [hword] using hedge⟩
      | cons y v =>
        obtain ⟨a, c, rest', heq, ha, hc⟩ := ih (List.cons_ne_nil y v) hkey hedge
        exact ⟨x :: a, c, rest', by rw [List.cons_append, heq, List.cons_append],
          List.forall_mem_cons.mpr ⟨⟨hx, hword⟩, ha⟩, hc⟩

/-- A run of word characters ends at a boundary. -/
lemma exists_run {c : CodeUnit} (hc : isWord c = true) (rest : List CodeUnit) :
    ∃ v rest', c :: rest = v ++ rest' ∧ v ≠ [] ∧ (∀ x ∈ v, isWord x = true) ∧
      ∀ l, ((v.getLast?.or l).any isWord != rest'.head?.any isWord) = true := by
  induction rest generalizing c with
  | nil => exact ⟨[c], [], rfl, List.cons_ne_nil c [], by simp [hc], by simp [hc]⟩
  | cons d rest ih =>
    cases hd : isWord d with
    | false => exact ⟨[c], d :: rest, rfl, List.cons_ne_nil c [], by simp [hc], by simp [hc, hd]⟩
    | true =>
      obtain ⟨v, rest', heq, hv, hword, hedge⟩ := ih hd
      refine ⟨c :: v, rest', by rw [heq, List.cons_append], List.cons_ne_nil c v,
        List.forall_mem_cons.mpr ⟨hc, hword⟩, fun l => ?_⟩
      rw [getLast?_cons_or]
      exact hedge (some c)

lemma begins_secretKey : ends secretKey ⟨l, t⟩ ≠ [] ↔
    l.any isWord = false ∧ Leads KeyLead (fun c => isWord c = true) t := by
  have hhead : ∀ {k : List CodeUnit}, k.map fold ∈ keyKinds → ∃ x k', k = x :: k' ∧ isWord x = true :=
    fun hk => exists_head rfl ((by decide : ∀ K ∈ keyKinds, K.head?.any isWord = true) _ hk)
  rw [ends_ne_nil]
  constructor
  · rintro ⟨w, rest, rfl, h⟩
    obtain ⟨hedge, h⟩ := reads_edge.mp h
    obtain ⟨k, _, rfl, hk, h⟩ := reads_seq.mp h
    obtain ⟨_, _, rfl, hone, h⟩ := reads_seq.mp h
    obtain ⟨d, rfl, hd⟩ := reads_one.mp hone
    obtain ⟨v, _, rfl, hv, hlast⟩ := reads_seq.mp h
    obtain ⟨rfl, hclose⟩ := reads_look.mp hlast
    obtain ⟨hne, hkey⟩ := reads_plus_one.mp hv
    rw [reads_keyKind] at hk
    obtain ⟨a, c, rest', heq, ha, hc⟩ := exists_word_of_edge hne hkey hclose
    obtain ⟨x, k, rfl, hx⟩ := hhead hk
    refine ⟨(any_of_edge hx).mp hedge, x :: k ++ d :: a, c, ⟨x :: k, d, a, rfl, hk, hd, ha⟩, hc, rest', ?_⟩
    simp [heq]
  · rintro ⟨hl, u, c, ⟨k, d, a, rfl, hk, hd, ha⟩, hc, rest, rfl⟩
    obtain ⟨v, rest', heq, hv, hword, hclose⟩ := exists_run hc rest
    refine ⟨k ++ ([d] ++ ((a ++ v) ++ [])), rest', by simp [heq], reads_edge.mpr ⟨?_, ?_⟩⟩
    · obtain ⟨x, k, rfl, hx⟩ := hhead hk
      exact (any_of_edge hx).mpr hl
    · refine .seq (reads_keyKind.mpr hk) (.seq (.one hd) (.seq (reads_plus_one.mpr ⟨by simp [hv], ?_⟩)
        (.look ?_)))
      · intro x hx
        rcases List.mem_append.mp hx with hx | hx
        · exact (ha x hx).1
        · exact isKeyUnit_of_isWord (hword x hx)
      · rw [getLast?_append_or]
        exact hclose _

def secretNames : List (List CodeUnit) :=
  [units "token", units "apikey", units "api-key", units "api_key", units "secret", units "password",
    units "passwd"]

lemma reads_apiKey : Reads (sequence [anyCase "api", opt (one (among "_-")), anyCase "key"]) l w n ↔
    w.map fold = units "apikey" ∨ w.map fold = units "api-key" ∨ w.map fold = units "api_key" := by
  have hjoin : ∀ c, among "_-" c = true ↔ fold c = 45 ∨ fold c = 95 := by
    intro c
    rw [among_iff]
    change c.toNat ∈ [95, 45] ↔ _
    simp only [List.mem_cons, List.not_mem_nil, or_false, ← UInt16.toNat_inj, toNat_fold]
    change _ ↔ (if _ then _ else _) = 45 ∨ (if _ then _ else _) = 95
    by_cases hcase : 65 ≤ c.toNat ∧ c.toNat ≤ 90
    · rw [if_pos hcase]
      omega
    · rw [if_neg hcase]
      omega
  constructor
  · intro h
    obtain ⟨a, _, rfl, ha, h⟩ := reads_seq.mp h
    obtain ⟨j, k, rfl, hj, hk⟩ := reads_seq.mp h
    rw [List.map_append, List.map_append, reads_letters.mp ha, reads_letters.mp hk]
    rcases reads_alt.mp hj with hj | hj
    · obtain ⟨c, rfl, hc⟩ := reads_one.mp hj
      rw [List.map_singleton]
      rcases (hjoin c).mp hc with hc | hc
      · exact Or.inr (Or.inl (by rw [hc]; rfl))
      · exact Or.inr (Or.inr (by rw [hc]; rfl))
    · obtain rfl := reads_empty.mp hj
      exact Or.inl rfl
  · intro h
    obtain ⟨j, hj, hw⟩ : ∃ j, (j = [] ∨ j = [45] ∨ j = [95]) ∧ w.map fold = units "api" ++ (j ++ units "key") := by
      rcases h with h | h | h
      · exact ⟨[], Or.inl rfl, h⟩
      · exact ⟨[45], Or.inr (Or.inl rfl), h⟩
      · exact ⟨[95], Or.inr (Or.inr rfl), h⟩
    obtain ⟨a, _, rfl, ha, hw⟩ := List.map_eq_append_iff.mp hw
    obtain ⟨i, k, rfl, hi, hk⟩ := List.map_eq_append_iff.mp hw
    refine .seq (reads_letters.mpr ha) (.seq (reads_alt.mpr ?_) (reads_letters.mpr hk))
    rcases hj with rfl | hj
    · exact Or.inr (reads_empty.mpr (List.map_eq_nil_iff.mp hi))
    · obtain ⟨c, rfl, hc⟩ : ∃ c, i = [c] ∧ (fold c = 45 ∨ fold c = 95) := by
        rcases hj with rfl | rfl
        · exact (List.map_eq_singleton_iff.mp hi).imp fun c hc => hc.imp id Or.inl
        · exact (List.map_eq_singleton_iff.mp hi).imp fun c hc => hc.imp id Or.inr
      exact Or.inl (.one ((hjoin c).mpr hc))

lemma reads_secretName : Reads secretName l w n ↔ w.map fold ∈ secretNames := by
  simp only [secretName, reads_oneOf, List.mem_cons, List.not_mem_nil, or_false, or_and_right, exists_or,
    exists_eq_left, reads_apiKey, secretNames, or_assoc]
  simp only [anyCase, reads_letters]

def NameLead (u : List CodeUnit) : Prop :=
  ∃ k s d s', u = k ++ (s ++ d :: s') ∧ k.map fold ∈ secretNames ∧ (∀ x ∈ s, isSpace x = true) ∧
    among ":=" d = true ∧ ∀ x ∈ s', isSpace x = true

lemma begins_assignment : ends assignment ⟨l, t⟩ ≠ [] ↔
    l.any isWord = false ∧ Leads NameLead (fun c => isValueUnit c = true) t := by
  have hhead : ∀ {k : List CodeUnit}, k.map fold ∈ secretNames → ∃ x k', k = x :: k' ∧ isWord x = true :=
    fun hk => exists_head rfl ((by decide : ∀ K ∈ secretNames, K.head?.any isWord = true) _ hk)
  rw [ends_ne_nil]
  constructor
  · rintro ⟨w, rest, rfl, h⟩
    obtain ⟨hedge, h⟩ := reads_edge.mp h
    obtain ⟨k, _, rfl, hk, h⟩ := reads_seq.mp h
    obtain ⟨s, _, rfl, hs, h⟩ := reads_seq.mp h
    obtain ⟨_, _, rfl, hone, h⟩ := reads_seq.mp h
    obtain ⟨d, rfl, hd⟩ := reads_one.mp hone
    obtain ⟨s', v, rfl, hs', hv⟩ := reads_seq.mp h
    obtain ⟨hne, hvalue⟩ := reads_plus_one.mp hv
    rw [reads_secretName] at hk
    rw [reads_star_one] at hs hs'
    obtain ⟨x, k, rfl, hx⟩ := hhead hk
    obtain ⟨c, v, rfl⟩ := List.exists_cons_of_ne_nil hne
    exact ⟨(any_of_edge hx).mp hedge, x :: k ++ (s ++ d :: s'), c, ⟨x :: k, s, d, s', rfl, hk, hs, hd, hs'⟩,
      hvalue c List.mem_cons_self, v ++ rest, by simp⟩
  · rintro ⟨hl, u, c, ⟨k, s, d, s', rfl, hk, hs, hd, hs'⟩, hc, rest, rfl⟩
    refine ⟨k ++ (s ++ ([d] ++ (s' ++ [c]))), rest, by simp, reads_edge.mpr ⟨?_, ?_⟩⟩
    · obtain ⟨x, k, rfl, hx⟩ := hhead hk
      exact (any_of_edge hx).mpr hl
    · exact .seq (reads_secretName.mpr hk) (.seq (reads_star_one.mpr hs) (.seq (.one hd)
        (.seq (reads_star_one.mpr hs') (reads_plus_one.mpr ⟨List.cons_ne_nil c [], by simpa using hc⟩))))

def SequenceLead (u : List CodeUnit) : Prop :=
  ∃ e b p i, u = e :: b :: (p ++ i) ∧ isEscape e = true ∧ among "[" b = true ∧
    (∀ x ∈ p, inRange '0' '?' x = true) ∧ ∀ x ∈ i, inRange ' ' '/' x = true

lemma begins_controlSequence : ends controlSequence ⟨l, t⟩ ≠ [] ↔
    Leads SequenceLead (fun c => inRange '@' '~' c = true) t := by
  rw [ends_ne_nil]
  constructor
  · rintro ⟨w, rest, rfl, h⟩
    obtain ⟨_, _, rfl, hescape, h⟩ := reads_seq.mp h
    obtain ⟨e, rfl, he⟩ := reads_one.mp hescape
    obtain ⟨_, _, rfl, hbracket, h⟩ := reads_seq.mp h
    obtain ⟨b, rfl, hb⟩ := reads_one.mp hbracket
    obtain ⟨p, _, rfl, hp, h⟩ := reads_seq.mp h
    obtain ⟨i, _, rfl, hi, hfinal⟩ := reads_seq.mp h
    obtain ⟨c, rfl, hc⟩ := reads_one.mp hfinal
    rw [reads_star_one] at hp hi
    exact ⟨e :: b :: (p ++ i), c, ⟨e, b, p, i, rfl, he, hb, hp, hi⟩, hc, rest, by simp⟩
  · rintro ⟨u, c, ⟨e, b, p, i, rfl, he, hb, hp, hi⟩, hc, rest, rfl⟩
    refine ⟨[e] ++ ([b] ++ (p ++ (i ++ [c]))), rest, by simp, ?_⟩
    exact .seq (.one he) (.seq (.one hb) (.seq (reads_star_one.mpr hp) (.seq (reads_star_one.mpr hi) (.one hc))))

end Beginnings

section Redactions

variable {H : CodeUnit → CodeUnit → Prop} {u : List CodeUnit} {a x y z : CodeUnit}

/-- How a redaction begins: after no word character, a text that begins with a word character gives way to one
that begins with its mark. -/
def Redacts (H : CodeUnit → CodeUnit → Prop) (l : Option CodeUnit) (z y : CodeUnit) : Prop :=
  l.any isWord = false ∧ isWord z = true ∧ H z y

/-- A name that is kept. -/
def Named (z y : CodeUnit) : Prop := y = z ∧ among "tasp" (fold y) = true

/-- The marks of the three redactions. -/
def Marked (z y : CodeUnit) : Prop := y = 66 ∨ y = 60 ∨ Named z y

lemma Redacts.marked {l : Option CodeUnit} (h : Redacts Named l z y) : Redacts Marked l z y :=
  ⟨h.1, h.2.1, Or.inr (Or.inr h.2.2)⟩

lemma not_redacts_of_isWord (ha : isWord a = true) : ¬ Redacts H (some a) z y := by
  rintro ⟨h, -⟩
  rw [Option.any_some, ha] at h
  cases h

lemma isLetterOrDigit_of_named (h : Named z y) : isLetterOrDigit y = true := by
  have hmem := among_iff.mp h.2
  change (fold y).toNat ∈ [116, 97, 115, 112] at hmem
  rw [toNat_fold] at hmem
  rw [isLetterOrDigit_iff]
  simp only [List.mem_cons, List.not_mem_nil, or_false] at hmem
  by_cases hcase : 65 ≤ y.toNat ∧ y.toNat ≤ 90
  · exact Or.inl hcase
  · rw [if_neg hcase] at hmem
    omega

/-- Nothing is marked with a character that is neither a letter or digit nor the opening bracket. -/
lemma not_marked (hy : isLetterOrDigit y = false) (hne : y.toNat ≠ 60) : ¬ Marked z y := by
  rintro (rfl | rfl | h)
  · cases hy
  · exact hne rfl
  · rw [isLetterOrDigit_of_named h] at hy
    cases hy

lemma isChain_append_of {R : CodeUnit → CodeUnit → Prop} {v : List CodeUnit} (hu : u.IsChain R)
    (hv : ∀ y ∈ v, ∀ a, R a y) : (u ++ v).IsChain R := by
  refine List.isChain_append.mpr ⟨hu, ?_, fun a _ y hy => hv y (List.mem_of_mem_head? hy) a⟩
  induction v with
  | nil => exact .nil
  | cons y v ih =>
    refine List.isChain_cons.mpr ⟨fun z hz => hv z (List.mem_cons_of_mem y (List.mem_of_mem_head? hz)) y, ?_⟩
    exact ih fun z hz => hv z (List.mem_cons_of_mem y hz)

/-- No redaction begins in a folded word whose neighbours allow none. -/
lemma isChain_of_map {K : List CodeUnit} (hu : u.map fold = K)
    (hK : K.IsChain fun a y => isWord a = true ∨ among "tasp" y = false) :
    u.IsChain fun a y => ∀ z, ¬ Redacts Named (some a) z y := by
  subst hu
  refine ((List.isChain_map fold).mp hK).imp fun a y hor z hredacts => ?_
  rcases hor with ha | hy
  · rw [isWord_fold] at ha
    exact not_redacts_of_isWord ha hredacts
  · rw [hredacts.2.2.2] at hy
    cases hy

lemma isChain_of_words (hu : ∀ a ∈ u, isWord a = true) :
    u.IsChain fun a y => ∀ z, ¬ Redacts H (some a) z y := by
  induction u with
  | nil => exact .nil
  | cons a u ih =>
    obtain ⟨ha, hu⟩ := List.forall_mem_cons.mp hu
    exact List.isChain_cons.mpr ⟨fun y _ z => not_redacts_of_isWord ha, ih hu⟩

lemma words_of_map {K : List CodeUnit} (hu : u.map fold = K) (hK : ∀ y ∈ K, isWord y = true) :
    ∀ a ∈ u, isWord a = true := by
  subst hu
  intro a ha
  rw [← isWord_fold]
  exact hK _ (List.mem_map_of_mem ha)

lemma not_isLetterOrDigit_of_isSpace (h : isSpace y = true) : isLetterOrDigit y = false ∧ y.toNat ≠ 60 := by
  constructor
  · have hword := not_isWord_of_isSpace h
    rw [isWord, Bool.or_eq_false_iff] at hword
    exact hword.1
  · rw [isSpace_iff] at h
    simp only [List.mem_cons, List.not_mem_nil, or_false] at h
    omega

lemma BearerLead.isChain (h : BearerLead u) : u.IsChain fun a y => ∀ z, ¬ Redacts Marked (some a) z y := by
  obtain ⟨b, s, rfl, hb, -, hs⟩ := h
  refine isChain_append_of (isChain_of_words (words_of_map hb (by decide))) fun y hy a z hredacts => ?_
  obtain ⟨hletter, hne⟩ := not_isLetterOrDigit_of_isSpace (hs y hy)
  exact not_marked hletter hne hredacts.2.2

lemma KeyLead.isChain (h : KeyLead u) : u.IsChain fun a y => ∀ z, ¬ Redacts Marked (some a) z y := by
  obtain ⟨k, d, v, rfl, hk, hd, hv⟩ := h
  have hwords := words_of_map rfl ((by decide : ∀ K ∈ keyKinds, ∀ y ∈ K, isWord y = true) _ hk)
  have hjoin : ∀ {y}, among "_-" y = true ∨ among "-_" y = true → isLetterOrDigit y = false ∧ y.toNat ≠ 60 := by
    intro y hy
    rw [among_iff, among_iff] at hy
    change y.toNat ∈ [95, 45] ∨ y.toNat ∈ [45, 95] at hy
    simp only [List.mem_cons, List.not_mem_nil, or_false] at hy
    rw [Bool.eq_false_iff, ne_eq, isLetterOrDigit_iff]
    omega
  refine isChain_append_of (isChain_of_words hwords) fun y hy a z hredacts => ?_
  obtain ⟨hletter, hne⟩ : isLetterOrDigit y = false ∧ y.toNat ≠ 60 := by
    rcases List.mem_cons.mp hy with rfl | hy
    · exact hjoin (Or.inr hd)
    · obtain ⟨hkey, hword⟩ := hv y hy
      rw [isWord, Bool.or_eq_false_iff] at hword
      rw [isKeyUnit, hword.1, Bool.false_or] at hkey
      exact hjoin (Or.inl hkey)
  exact not_marked hletter hne hredacts.2.2

lemma NameLead.isChain (h : NameLead u) : u.IsChain fun a y => ∀ z, ¬ Redacts Named (some a) z y := by
  obtain ⟨k, s, d, s', rfl, hk, hs, hd, hs'⟩ := h
  have hK := (by decide : ∀ K ∈ secretNames,
    K.IsChain fun a y => isWord a = true ∨ among "tasp" y = false) _ hk
  refine isChain_append_of (isChain_of_map rfl hK) fun y hy a z hredacts => ?_
  have hletter : isLetterOrDigit y = false := by
    rcases List.mem_append.mp hy with hy | hy
    · exact (not_isLetterOrDigit_of_isSpace (hs y hy)).1
    · rcases List.mem_cons.mp hy with rfl | hy
      · have hmem := among_iff.mp hd
        change y.toNat ∈ [58, 61] at hmem
        simp only [List.mem_cons, List.not_mem_nil, or_false] at hmem
        rw [Bool.eq_false_iff, ne_eq, isLetterOrDigit_iff]
        omega
      · exact (not_isLetterOrDigit_of_isSpace (hs' y hy)).1
  rw [isLetterOrDigit_of_named hredacts.2.2] at hletter
  cases hletter

lemma SequenceLead.isChain (h : SequenceLead u) :
    u.IsChain fun a y => ∀ z, ¬ Redacts Named (some a) z y := by
  obtain ⟨e, b, p, i, rfl, -, hb, hp, hi⟩ := h
  refine isChain_append_of (u := [e]) (.singleton e) fun y hy a z hredacts => ?_
  have hname : ¬ among "tasp" (fold y) = true := by
    rw [among_iff]
    change ¬ (fold y).toNat ∈ [116, 97, 115, 112]
    rw [toNat_fold]
    have hrange : y.toNat = 91 ∨ y.toNat ≤ 63 := by
      rcases List.mem_cons.mp hy with rfl | hy
      · exact Or.inl (List.mem_singleton.mp (among_iff.mp hb))
      · rcases List.mem_append.mp hy with hy | hy
        · exact Or.inr (inRange_iff.mp (hp y hy)).2
        · exact Or.inr (Nat.le_trans (inRange_iff.mp (hi y hy)).2 (by decide))
    rw [if_neg (by omega)]
    simp only [List.mem_cons, List.not_mem_nil, or_false]
    omega
  exact hname hredacts.2.2.2

end Redactions

section Stages

variable {l : Option CodeUnit} {t u : List CodeUnit} {p e : Place CodeUnit} {r : Regex CodeUnit}

lemma solid_bearerToken : Solid bearerToken := solid_of (by decide)

lemma solid_secretKey : Solid secretKey := solid_of (by decide)

lemma solid_assignment : Solid assignment := solid_of (by decide)

lemma solid_controlSequence : Solid controlSequence := solid_of (by decide)

lemma ends_ne_nil_of_head? (h : (ends r p).head? = some e) : ends r p ≠ [] := by
  intro hnil
  rw [hnil] at h
  cases h

lemma BearerLead.head (h : BearerLead u) : ∃ x u', u = x :: u' ∧ isWord x = true := by
  obtain ⟨b, s, rfl, hb, -⟩ := h
  obtain ⟨x, b', rfl, hx⟩ := exists_head hb (by decide)
  exact ⟨x, b' ++ s, rfl, hx⟩

lemma KeyLead.head (h : KeyLead u) : ∃ x u', u = x :: u' ∧ isWord x = true := by
  obtain ⟨k, d, v, rfl, hk, -⟩ := h
  obtain ⟨x, k', rfl, hx⟩ := exists_head rfl
    ((by decide : ∀ K ∈ keyKinds, K.head?.any isWord = true) _ hk)
  exact ⟨x, k' ++ d :: v, rfl, hx⟩

lemma NameLead.head (h : NameLead u) : ∃ x u', u = x :: u' ∧ isWord x = true := by
  obtain ⟨k, s, d, s', rfl, hk, -⟩ := h
  obtain ⟨x, k', rfl, hx⟩ := exists_head rfl
    ((by decide : ∀ K ∈ secretNames, K.head?.any isWord = true) _ hk)
  exact ⟨x, k' ++ (s ++ d :: s'), rfl, hx⟩

lemma swaps_bearerToken : Swaps bearerToken (fun _ => units "Bearer <REDACTED>") (Redacts Marked) := by
  intro p e h
  obtain ⟨hl, hlead⟩ := begins_bearerToken.mp (ends_ne_nil_of_head? h)
  obtain ⟨x, hx, hword⟩ := hlead.head fun u => BearerLead.head
  exact ⟨x, 66, hx, rfl, hl, hword, Or.inl rfl⟩

lemma swaps_secretKey : Swaps secretKey (fun _ => units "<REDACTED>") (Redacts Marked) := by
  intro p e h
  obtain ⟨hl, hlead⟩ := begins_secretKey.mp (ends_ne_nil_of_head? h)
  obtain ⟨x, hx, hword⟩ := hlead.head fun u => KeyLead.head
  exact ⟨x, 60, hx, rfl, hl, hword, Or.inr (Or.inl rfl)⟩

/-- `[^\s:=]`: what a name is made of, and what ends it. -/
def isNameUnit (c : CodeUnit) : Bool := !(isSpace c || among ":=" c)

lemma isNameUnit_of_map {k : List CodeUnit} (hk : k.map fold ∈ secretNames) :
    ∀ x ∈ k, isNameUnit x = true := by
  intro x hx
  have hunit : isWord (fold x) = true ∨ fold x = 45 :=
    (by decide : ∀ K ∈ secretNames, ∀ y ∈ K, isWord y = true ∨ y = 45) _ hk _ (List.mem_map_of_mem hx)
  have hx' : isWord x = true ∨ x.toNat = 45 := by
    refine hunit.imp (fun h => isWord_fold ▸ h) fun h => ?_
    have hnat : (fold x).toNat = 45 := by rw [h]; rfl
    rw [toNat_fold] at hnat
    by_cases hcase : 65 ≤ x.toNat ∧ x.toNat ≤ 90
    · rw [if_pos hcase] at hnat
      omega
    · rw [if_neg hcase] at hnat
      exact hnat
  rw [isWord_iff, isLetterOrDigit_iff] at hx'
  rw [isNameUnit, Bool.not_eq_true', Bool.or_eq_false_iff, Bool.eq_false_iff, Bool.eq_false_iff, ne_eq, ne_eq,
    isSpace_iff, among_iff]
  change _ ∧ ¬ x.toNat ∈ [58, 61]
  simp only [List.mem_cons, List.not_mem_nil, or_false]
  omega

/-- What a credential is replaced by: its name and the mark. -/
lemma redactedAssignment_spec (h : ends assignment p ≠ []) : ∃ k rest, p.ahead = k ++ rest ∧
    k.map fold ∈ secretNames ∧ (∃ y, rest.head? = some y ∧ isNameUnit y = false) ∧
    redactedAssignment p = k ++ units "=<REDACTED>" := by
  obtain ⟨u, k, rest, hp, hu, hk, ⟨l, hrest⟩, hgroup⟩ := @group_spec _ edge secretName assigned p h
  obtain ⟨rfl, -⟩ := reads_look.mp hu
  rw [reads_secretName] at hk
  refine ⟨k, rest, hp, hk, ?_, by rw [redactedAssignment, hgroup]⟩
  obtain ⟨w, rest, rfl, hw⟩ := ends_ne_nil.mp hrest
  obtain ⟨s, _, rfl, hs, hw⟩ := reads_seq.mp hw
  obtain ⟨_, v, rfl, hone, -⟩ := reads_seq.mp hw
  obtain ⟨d, rfl, hd⟩ := reads_one.mp hone
  rw [reads_star_one] at hs
  cases s with
  | nil => exact ⟨d, rfl, by rw [isNameUnit, hd, Bool.or_true, Bool.not_true]⟩
  | cons y s => exact ⟨y, rfl, by rw [isNameUnit, hs y List.mem_cons_self, Bool.true_or, Bool.not_true]⟩

lemma swaps_assignment : Swaps assignment redactedAssignment (Redacts Named) := by
  intro p e h
  have hends := ends_ne_nil_of_head? h
  obtain ⟨hl, -⟩ := begins_assignment.mp hends
  obtain ⟨k, rest, hp, hk, -, hnew⟩ := redactedAssignment_spec hends
  obtain ⟨x, k', rfl, hx⟩ := exists_head rfl
    ((by decide : ∀ K ∈ secretNames, K.head?.any isWord = true) _ hk)
  have hname : among "tasp" (fold x) = true :=
    (by decide : ∀ K ∈ secretNames, ∀ y, K.head? = some y → among "tasp" y = true) _ hk _ rfl
  exact ⟨x, x, by rw [hp]; rfl, by rw [hnew]; rfl, hl, hx, rfl, hname⟩

lemma Redacts.class_of {H : CodeUnit → CodeUnit → Prop} {C : CodeUnit → Bool}
    (hC : ∀ c, isWord c = true → C c = true) (l : Option CodeUnit) (c c' : CodeUnit) (h : Redacts H l c' c)
    (_ : C c = true) : C c' = true := hC c' h.2.1

end Stages

section Cleaned

variable {q r : Regex CodeUnit} {L : List CodeUnit → Prop} {C : CodeUnit → Bool} {p e : Place CodeUnit}
variable {new : Place CodeUnit → List CodeUnit} {t b rest : List CodeUnit} {x : CodeUnit}

/-- A redaction leaves no match of an expression that is not begun inside a mark and was not there before. -/
lemma not_occurs_replace (hq : ∀ l t, ends q ⟨l, t⟩ ≠ [] ↔
      l.any isWord = false ∧ Leads L (fun c => C c = true) t)
    (hhead : ∀ u, L u → ∃ x u', u = x :: u' ∧ isWord x = true)
    (hchain : ∀ u, L u → u.IsChain fun a y => ∀ z, ¬ Redacts Marked (some a) z y)
    (hC : ∀ c, isWord c = true → C c = true) (hr : Solid r) (hS : Swaps r new (Redacts Marked))
    (hnew : ∀ p, ends r p ≠ [] → ∀ b rest, b <:+ new p → b ≠ [] → ¬ Leads L (fun c => C c = true) (b ++ rest))
    (hnext : ∀ p e x, (ends r p).head? = some e → e.ahead.head? = some x → isWord x = true →
      e.last.any isWord = false)
    (hno : r = q ∨ ¬ Occurs q t) : ¬ Occurs q (replace r new t) := by
  intro hocc
  have hscan := scanned_scanFrom hr none t
  have hlead : ∀ x ys, Leads L (fun c => C c = true) (x :: ys) → isWord x = true := by
    intro x ys h
    obtain ⟨y, hy, hword⟩ := h.head hhead
    cases hy
    exact hword
  have hnil : ¬ Leads L (fun c => C c = true) [] := by
    intro h
    obtain ⟨y, hy, -⟩ := h.head hhead
    cases hy
  have hempty : ¬ L [] := by
    intro h
    obtain ⟨y, u, hu, -⟩ := hhead [] h
    cases hu
  obtain ⟨p, hp, hends⟩ := hscan.kept_of_occurs hq hnil hS
    (fun x xs ys h => h.leads hempty hchain (Redacts.class_of hC))
    (fun p e he a b rest _ hab hb _ => hnew p (ends_ne_nil_of_head? he) b rest ⟨a, hab.symm⟩ hb)
    (fun p e he _ x ys hx hB _ => hnext p e x he hx (hlead x ys hB))
    (fun _ _ _ _ h => h) hocc
  rcases hno with rfl | hno
  · exact hends (hscan.ends_of_kept hp)
  · exact hno (hscan.occursFrom_of_kept hp hends)

lemma head?_ends_bearerToken (h : (ends bearerToken p).head? = some e) (hx : e.ahead.head? = some x) :
    isTokenUnit x = false := by
  obtain ⟨_, -, h⟩ := head?_ends_seq h
  obtain ⟨_, -, h⟩ := head?_ends_seq h
  obtain ⟨_, -, h⟩ := head?_ends_seq h
  exact head?_ends_plus_one h x hx

lemma head?_ends_assignment (h : (ends assignment p).head? = some e) (hx : e.ahead.head? = some x) :
    isValueUnit x = false := by
  obtain ⟨_, -, h⟩ := head?_ends_seq h
  obtain ⟨_, -, h⟩ := head?_ends_seq h
  obtain ⟨_, -, h⟩ := head?_ends_seq h
  obtain ⟨_, -, h⟩ := head?_ends_seq h
  obtain ⟨_, -, h⟩ := head?_ends_seq h
  exact head?_ends_plus_one h x hx

lemma head?_ends_secretKey (h : (ends secretKey p).head? = some e) :
    (e.last.any isWord != e.ahead.head?.any isWord) = true := by
  obtain ⟨_, -, h⟩ := head?_ends_seq h
  obtain ⟨_, -, h⟩ := head?_ends_seq h
  obtain ⟨_, -, h⟩ := head?_ends_seq h
  obtain ⟨m, -, h⟩ := head?_ends_seq h
  change (ends edge m).head? = some e at h
  rw [edge, ends] at h
  split at h
  · rename_i hedge
    obtain rfl := Option.some.inj h
    exact hedge
  · cases h

lemma last_of_bearerToken (h : (ends bearerToken p).head? = some e) (hx : e.ahead.head? = some x)
    (hword : isWord x = true) : e.last.any isWord = false := by
  have htoken := isTokenUnit_of_isWord hword
  rw [head?_ends_bearerToken h hx] at htoken
  cases htoken

lemma last_of_assignment (h : (ends assignment p).head? = some e) (hx : e.ahead.head? = some x)
    (hword : isWord x = true) : e.last.any isWord = false := by
  have hvalue := isValueUnit_of_isWord hword
  rw [head?_ends_assignment h hx] at hvalue
  cases hvalue

lemma last_of_secretKey (h : (ends secretKey p).head? = some e) (hx : e.ahead.head? = some x)
    (hword : isWord x = true) : e.last.any isWord = false := by
  have hedge := head?_ends_secretKey h
  rw [hx] at hedge
  exact (any_of_edge hword).mp hedge

lemma fold_head_of_bearer (h : Leads BearerLead (fun c => C c = true) (b ++ rest)) (hb : b ≠ []) :
    ∃ x b', b = x :: b' ∧ fold x = 98 := by
  obtain ⟨x, hx, hfold⟩ := h.head (P := fun x => fold x = 98) (by
    rintro u ⟨b, s, rfl, hb, -⟩
    obtain ⟨x, b', rfl, hx, -⟩ := List.map_eq_cons_iff.mp hb
    exact ⟨x, b' ++ s, rfl, hx⟩)
  obtain ⟨y, b', rfl⟩ := List.exists_cons_of_ne_nil hb
  cases hx
  exact ⟨x, b', rfl, hfold⟩

/-- How the words of the key kinds begin. -/
def keyPairs : List (List CodeUnit) := [units "sk", units "pk", units "gh", units "gi", units "xo"]

lemma take_of_key (h : Leads KeyLead (fun c => C c = true) (b ++ rest)) :
    ∃ pair ∈ keyPairs, (b.map fold).take 2 <+: pair := by
  obtain ⟨u, c, ⟨k, d, v, rfl, hk, -⟩, -, rest', heq⟩ := h
  have hpair : (k.map fold).take 2 ∈ keyPairs ∧ 2 ≤ (k.map fold).length :=
    (by decide : ∀ K ∈ keyKinds, K.take 2 ∈ keyPairs ∧ 2 ≤ K.length) _ hk
  refine ⟨_, hpair.1, ?_⟩
  have htake : (k.map fold).take 2 = ((b ++ rest).map fold).take 2 := by
    rw [← heq]
    simp only [List.append_assoc, List.map_append]
    rw [List.take_append_of_le_length hpair.2]
  rw [htake, List.map_append, List.take_append]
  exact List.prefix_append _ _

lemma not_bearer_of_bearer (hb : b <:+ units "Bearer <REDACTED>") (hne : b ≠ []) :
    ¬ Leads BearerLead (fun c => isTokenUnit c = true) (b ++ rest) := by
  intro h
  obtain ⟨x, b', rfl, hx⟩ := fold_head_of_bearer h hne
  have hwhole : x :: b' = units "Bearer <REDACTED>" :=
    (by decide : ∀ b ∈ (units "Bearer <REDACTED>").tails, ∀ x, b.head? = some x → fold x = 98 →
      b = units "Bearer <REDACTED>") _ ((List.mem_tails _ _).mpr hb) x rfl hx
  rw [hwhole] at h
  obtain ⟨u, c, ⟨w, s, rfl, hw, hs, hspace⟩, hc, rest', heq⟩ := h
  have hlength : w.length = (units "Bearer").length := by
    rw [← List.length_map fold, hw]
    rfl
  have hsplit : w ++ (s ++ c :: rest') = units "Bearer" ++ (units " <REDACTED>" ++ rest) := by
    rw [show units "Bearer <REDACTED>" = units "Bearer" ++ units " <REDACTED>" from rfl] at heq
    simpa only [List.append_assoc, List.singleton_append] using heq
  obtain ⟨-, hs'⟩ := List.append_inj hsplit hlength
  cases s with
  | nil => exact hs rfl
  | cons y s =>
    obtain ⟨-, hs'⟩ := List.cons.inj hs'
    cases s with
    | nil =>
      obtain ⟨rfl, -⟩ := List.cons.inj hs'
      cases hc
    | cons z s =>
      obtain ⟨rfl, -⟩ := List.cons.inj hs'
      have := hspace _ (List.mem_cons_of_mem y List.mem_cons_self)
      cases this

lemma not_bearer_of (hb : ∀ y ∈ b, fold y ≠ 98) (hne : b ≠ []) :
    ¬ Leads BearerLead (fun c => isTokenUnit c = true) (b ++ rest) := by
  intro h
  obtain ⟨x, b', rfl, hx⟩ := fold_head_of_bearer h hne
  exact hb x List.mem_cons_self hx

lemma not_occurs_bearerToken (t : List CodeUnit) :
    ¬ Occurs bearerToken (replace bearerToken (fun _ => units "Bearer <REDACTED>") t) :=
  not_occurs_replace (fun _ _ => begins_bearerToken) (fun _ => BearerLead.head) (fun _ => BearerLead.isChain)
    (fun _ => isTokenUnit_of_isWord) solid_bearerToken swaps_bearerToken
    (fun _ _ _ _ => not_bearer_of_bearer) (fun _ _ _ => last_of_bearerToken) (Or.inl rfl)

lemma not_occurs_bearerToken_secretKey (h : ¬ Occurs bearerToken t) :
    ¬ Occurs bearerToken (replace secretKey (fun _ => units "<REDACTED>") t) := by
  refine not_occurs_replace (fun _ _ => begins_bearerToken) (fun _ => BearerLead.head)
    (fun _ => BearerLead.isChain) (fun _ => isTokenUnit_of_isWord) solid_secretKey swaps_secretKey ?_
    (fun _ _ _ => last_of_secretKey) (Or.inr h)
  intro p _ b rest hb
  exact not_bearer_of fun y hy =>
    (by decide : ∀ y ∈ units "<REDACTED>", fold y ≠ 98) y (hb.subset hy)

lemma not_occurs_bearerToken_assignment (h : ¬ Occurs bearerToken t) :
    ¬ Occurs bearerToken (replace assignment redactedAssignment t) := by
  refine not_occurs_replace (fun _ _ => begins_bearerToken) (fun _ => BearerLead.head)
    (fun _ => BearerLead.isChain) (fun _ => isTokenUnit_of_isWord) solid_assignment
    (swaps_assignment.mono fun _ _ _ => Redacts.marked) ?_ (fun _ _ _ => last_of_assignment) (Or.inr h)
  intro p hends b rest hb
  obtain ⟨k, _, -, hk, -, hnew⟩ := redactedAssignment_spec hends
  refine not_bearer_of fun y hy => ?_
  have hmem := hb.subset hy
  rw [hnew] at hmem
  rcases List.mem_append.mp hmem with hmem | hmem
  · exact (by decide : ∀ K ∈ secretNames, ∀ y ∈ K, y ≠ 98) _ hk _ (List.mem_map_of_mem hmem)
  · exact (by decide : ∀ y ∈ units "=<REDACTED>", fold y ≠ 98) y hmem

lemma not_key_of (hb : ∀ pair ∈ keyPairs, ¬ (b.map fold).take 2 <+: pair) :
    ¬ Leads KeyLead (fun c => isWord c = true) (b ++ rest) := by
  intro h
  obtain ⟨pair, hpair, hprefix⟩ := take_of_key h
  exact hb pair hpair hprefix

lemma not_occurs_secretKey (t : List CodeUnit) :
    ¬ Occurs secretKey (replace secretKey (fun _ => units "<REDACTED>") t) := by
  refine not_occurs_replace (fun _ _ => begins_secretKey) (fun _ => KeyLead.head) (fun _ => KeyLead.isChain)
    (fun _ h => h) solid_secretKey swaps_secretKey ?_ (fun _ _ _ => last_of_secretKey) (Or.inl rfl)
  intro p _ b rest hb hne
  exact not_key_of ((by decide : ∀ b ∈ (units "<REDACTED>").tails, b ≠ [] →
    ∀ pair ∈ keyPairs, ¬ (b.map fold).take 2 <+: pair) b ((List.mem_tails _ _).mpr hb) hne)

lemma not_occurs_secretKey_assignment (h : ¬ Occurs secretKey t) :
    ¬ Occurs secretKey (replace assignment redactedAssignment t) := by
  refine not_occurs_replace (fun _ _ => begins_secretKey) (fun _ => KeyLead.head) (fun _ => KeyLead.isChain)
    (fun _ h => h) solid_assignment (swaps_assignment.mono fun _ _ _ => Redacts.marked) ?_
    (fun _ _ _ => last_of_assignment) (Or.inr h)
  intro p hends b rest hb hne
  obtain ⟨k, _, -, hk, -, hnew⟩ := redactedAssignment_spec hends
  have hsuffix : b.map fold <:+ k.map fold ++ (units "=<REDACTED>").map fold := by
    rw [← List.map_append, ← hnew]
    exact hb.map fold
  refine not_key_of ((by decide : ∀ K ∈ secretNames, ∀ b ∈ (K ++ (units "=<REDACTED>").map fold).tails,
    b ≠ [] → ∀ pair ∈ keyPairs, ¬ b.take 2 <+: pair) _ hk _ ((List.mem_tails _ _).mpr hsuffix) ?_)
  simpa using hne

end Cleaned

section Again

variable {p e : Place CodeUnit} {l m : Option CodeUnit} {k o rest : List CodeUnit}

/-- A name ends where the first character stands that no name has. -/
lemma name_unique {k' rest' : List CodeUnit} (hk : k.map fold ∈ secretNames)
    (hk' : k'.map fold ∈ secretNames) (hrest : ∃ y, rest.head? = some y ∧ isNameUnit y = false)
    (hrest' : ∃ y, rest'.head? = some y ∧ isNameUnit y = false) (h : k ++ rest = k' ++ rest') :
    k = k' ∧ rest = rest' := by
  have htake : ∀ {k rest : List CodeUnit}, k.map fold ∈ secretNames →
      (∃ y, rest.head? = some y ∧ isNameUnit y = false) → (k ++ rest).takeWhile isNameUnit = k := by
    rintro k rest hk ⟨y, hy, hunit⟩
    obtain ⟨rest, rfl⟩ := List.head?_eq_some_iff.mp hy
    rw [List.takeWhile_append_of_pos (isNameUnit_of_map hk), List.takeWhile_cons, hunit]
    exact List.append_nil k
  have hkk : k = k' := by rw [← htake hk hrest, h, htake hk' hrest']
  subst hkk
  exact ⟨rfl, List.append_cancel_left h⟩

/-- What the assignment expression reads: a name, a separator and a value. -/
lemma reads_assignment {w : List CodeUnit} {n : Option CodeUnit} (h : Reads assignment l w n) :
    ∃ k s d s' v, w = k ++ (s ++ d :: (s' ++ v)) ∧ k.map fold ∈ secretNames ∧
      (∀ x ∈ s, isSpace x = true) ∧ among ":=" d = true ∧ (∀ x ∈ s', isSpace x = true) ∧
      ∀ x ∈ v, isValueUnit x = true := by
  obtain ⟨-, h⟩ := reads_edge.mp h
  obtain ⟨k, _, rfl, hk, h⟩ := reads_seq.mp h
  obtain ⟨s, _, rfl, hs, h⟩ := reads_seq.mp h
  obtain ⟨_, _, rfl, hone, h⟩ := reads_seq.mp h
  obtain ⟨d, rfl, hd⟩ := reads_one.mp hone
  obtain ⟨s', v, rfl, hs', hv⟩ := reads_seq.mp h
  exact ⟨k, s, d, s', v, rfl, reads_secretName.mp hk, reads_star_one.mp hs, hd, reads_star_one.mp hs',
    (reads_plus_one.mp hv).2⟩

/-- A redacted assignment is read as an assignment, no further. -/
lemma head?_ends_redacted (hk : k.map fold ∈ secretNames) (hm : m.any isWord = false)
    (ho : ∀ x, o.head? = some x → isValueUnit x = false) :
    (ends assignment ⟨m, k ++ units "=<REDACTED>" ++ o⟩).head? =
      some ⟨(k ++ units "=<REDACTED>").getLast?.or m, o⟩ := by
  have hlead : Leads NameLead (fun c => isValueUnit c = true) (k ++ units "=<REDACTED>" ++ o) :=
    ⟨k ++ ([] ++ 61 :: []), 60, ⟨k, [], 61, [], rfl, hk, by simp, by decide, by simp⟩, by decide,
      units "REDACTED>" ++ o, by simp [units]⟩
  have hends := begins_assignment.mpr ⟨hm, hlead⟩
  obtain ⟨e, he⟩ : ∃ e, (ends assignment ⟨m, k ++ units "=<REDACTED>" ++ o⟩).head? = some e :=
    ⟨_, List.head?_eq_some_head hends⟩
  have hnext := fun x => head?_ends_assignment (x := x) he
  obtain ⟨w, rest, heq, rfl, hw⟩ := ends_sound (List.mem_of_mem_head? he)
  obtain ⟨k', s, d, s', v, rfl, hk', hs, hd, hs', hv⟩ := reads_assignment hw
  rw [List.append_assoc, List.append_assoc] at heq
  have hsep : ∃ y, ((s ++ d :: (s' ++ v)) ++ rest).head? = some y ∧ isNameUnit y = false := by
    cases s with
    | nil => exact ⟨d, rfl, by rw [isNameUnit, hd, Bool.or_true, Bool.not_true]⟩
    | cons y s => exact ⟨y, rfl, by rw [isNameUnit, hs y List.mem_cons_self, Bool.true_or, Bool.not_true]⟩
  obtain ⟨rfl, hvalue⟩ := name_unique hk hk' ⟨61, rfl, by decide⟩ hsep heq
  obtain rfl : s = [] := by
    cases s with
    | nil => rfl
    | cons y s =>
      obtain ⟨rfl, -⟩ := List.cons.inj hvalue
      exact absurd (hs _ List.mem_cons_self) (by decide)
  obtain ⟨rfl, hafter⟩ := List.cons.inj hvalue
  obtain rfl : s' = [] := by
    cases s' with
    | nil => rfl
    | cons y s =>
      obtain ⟨rfl, -⟩ := List.cons.inj hafter
      exact absurd (hs' _ List.mem_cons_self) (by decide)
  have htake : ∀ {v rest : List CodeUnit}, (∀ x ∈ v, isValueUnit x = true) →
      (∀ x, rest.head? = some x → isValueUnit x = false) → (v ++ rest).takeWhile isValueUnit = v := by
    intro v rest hv hrest
    rw [List.takeWhile_append_of_pos hv]
    cases rest with
    | nil => exact List.append_nil v
    | cons x rest => rw [List.takeWhile_cons, hrest x rfl]; exact List.append_nil v
  have hmark : units "<REDACTED>" ++ o = v ++ rest := hafter
  obtain rfl : units "<REDACTED>" = v := by
    rw [← htake (v := units "<REDACTED>") (by decide) ho, hmark, htake hv hnext]
  obtain rfl := List.append_cancel_left hmark
  exact he

/-- After a redacted assignment nothing goes its own way. -/
lemma next_of_alongside (h : Alongside (Redacts Named) l rest o)
    (hrest : ∀ x, rest.head? = some x → isValueUnit x = false) :
    ∀ x, o.head? = some x → isValueUnit x = false := by
  intro x hx
  cases h with
  | nil => cases hx
  | same _ =>
    cases hx
    exact hrest _ rfl
  | @swap _ y z _ _ hS =>
    have hvalue := isValueUnit_of_isWord hS.2.1
    rw [hrest y rfl] at hvalue
    cases hvalue

lemma redactedAssignment_again (hk : k.map fold ∈ secretNames)
    (h : ends assignment ⟨m, k ++ units "=<REDACTED>" ++ o⟩ ≠ []) :
    redactedAssignment ⟨m, k ++ units "=<REDACTED>" ++ o⟩ = k ++ units "=<REDACTED>" := by
  obtain ⟨k', rest, heq, hk', hrest, hnew⟩ := redactedAssignment_spec h
  rw [List.append_assoc] at heq
  obtain ⟨rfl, -⟩ := name_unique hk hk' ⟨61, rfl, by decide⟩ hrest heq
  exact hnew

/-- Assignments are redacted once. -/
lemma replace_assignment_again (t : List CodeUnit) :
    replace assignment redactedAssignment (replace assignment redactedAssignment t) =
      replace assignment redactedAssignment t := by
  have hword : ∀ x ys, Leads NameLead (fun c => isValueUnit c = true) (x :: ys) → isWord x = true := by
    intro x ys h
    obtain ⟨y, hy, hword⟩ := h.head fun _ => NameLead.head
    cases hy
    exact hword
  have hempty : ¬ NameLead [] := by
    intro h
    obtain ⟨y, u, hu, -⟩ := h.head
    cases hu
  have hscan := scanned_scanFrom solid_assignment none t
  obtain ⟨ps', hscan', heq⟩ := hscan.rewrite_again (m := none) (fun _ _ => begins_assignment) swaps_assignment
    (fun x xs ys h => h.leads hempty (fun _ => NameLead.isChain) (Redacts.class_of fun _ => isValueUnit_of_isWord))
    (fun p e he x ys hx hB => by
      have hvalue := isValueUnit_of_isWord (hword x ys hB)
      rw [head?_ends_assignment he hx] at hvalue
      cases hvalue)
    (fun p e m o he hm halong => by
      obtain ⟨k, rest, -, hk, -, hnew⟩ := redactedAssignment_spec (ends_ne_nil_of_head? he)
      have ho := next_of_alongside halong fun x => head?_ends_assignment he
      have hends := head?_ends_redacted hk hm ho
      rw [hnew]
      exact ⟨hends, redactedAssignment_again hk (ends_ne_nil_of_head? hends)⟩)
    (fun _ _ _ _ => Iff.rfl)
  change rewrite redactedAssignment (scanFrom assignment 0 none (rewrite redactedAssignment
    (scanFrom assignment 0 none t))) = rewrite redactedAssignment (scanFrom assignment 0 none t)
  rw [← hscan'.eq, heq]

end Again

section Sequences

lemma SequenceLead.ne_nil : ¬ SequenceLead [] := by
  rintro ⟨e, b, p, i, h, -⟩
  cases h

lemma isEscape_head {t : List CodeUnit}
    (h : Leads SequenceLead (fun c => inRange '@' '~' c = true) t) :
    ∃ x, t.head? = some x ∧ isEscape x = true := by
  refine h.head ?_
  rintro u ⟨e, b, p, i, rfl, he, -⟩
  exact ⟨e, b :: (p ++ i), rfl, he⟩

/-- The control sequences that are left are those that begin outside every assignment. -/
lemma occurs_controlSequence_iff {t : List CodeUnit} :
    Occurs controlSequence (replace assignment redactedAssignment t) ↔
      ∃ p, Piece.kept p ∈ scan assignment t ∧ ends controlSequence p ≠ [] := by
  have hscan := scanned_scanFrom solid_assignment none t
  constructor
  · refine hscan.kept_of_occurs (A := fun _ => True) (fun l t => by rw [true_and]; exact begins_controlSequence)
      ?_ swaps_assignment ?_ ?_ (fun _ _ _ _ _ _ _ _ _ => trivial) (fun _ _ _ _ _ => trivial)
    · intro h
      obtain ⟨x, hx, -⟩ := isEscape_head h
      cases hx
    · intro x xs ys h
      exact h.leads SequenceLead.ne_nil (fun _ => SequenceLead.isChain) fun _ _ _ hS hc => hS.2.2.1 ▸ hc
    · intro p e he a b rest _ hab hb _ h
      obtain ⟨k, _, -, hk, -, hnew⟩ := redactedAssignment_spec (ends_ne_nil_of_head? he)
      obtain ⟨x, b, rfl⟩ := List.exists_cons_of_ne_nil hb
      obtain ⟨y, hy, hescape⟩ := isEscape_head h
      cases hy
      have hmem : x ∈ k ++ units "=<REDACTED>" := by
        rw [← hnew, hab]
        simp
      have hx : fold x = 0x1B := by
        rw [of_decide_eq_true hescape]
        rfl
      rcases List.mem_append.mp hmem with hmem | hmem
      · exact (by decide : ∀ K ∈ secretNames, ∀ y ∈ K, y ≠ 0x1B) _ hk _ (List.mem_map_of_mem hmem) hx
      · exact (by decide : ∀ y ∈ units "=<REDACTED>", fold y ≠ 0x1B) x hmem hx
  · rintro ⟨p, hp, hends⟩
    refine hscan.occurs_of_kept (fun l t => begins_controlSequence) swaps_assignment ?_ hp hends
    intro x xs ys h
    refine h.flip.leads SequenceLead.ne_nil ?_ ?_
    · intro u hu
      refine hu.isChain.imp fun a y hchain z hS => ?_
      obtain rfl := hS.2.2.1
      exact hchain _ hS
    · intro l c c' hS hc
      exact hS.2.2.1 ▸ hc

end Sequences

section Display

variable {value : List CodeUnit}

/-- Every control sequence of a text begins inside an assignment that is redacted. -/
def Covered (t : List CodeUnit) : Prop :=
  ∀ p, Piece.kept p ∈ scan assignment t → ends controlSequence p = []

/-- A display without control sequences is displayed as it is. -/
lemma safeDisplay_again (h : ¬ Occurs controlSequence (safeDisplay value)) :
    safeDisplay (safeDisplay value) = safeDisplay value := by
  have hbearer : ¬ Occurs bearerToken (safeDisplay value) :=
    not_occurs_bearerToken_assignment (not_occurs_bearerToken_secretKey (not_occurs_bearerToken _))
  have hkey : ¬ Occurs secretKey (safeDisplay value) :=
    not_occurs_secretKey_assignment (not_occurs_secretKey _)
  have htokens : withoutTokens (safeDisplay value) = safeDisplay value := by
    rw [withoutTokens, replace_eq_self solid_controlSequence h, replace_eq_self solid_bearerToken hbearer,
      replace_eq_self solid_secretKey hkey]
  calc safeDisplay (safeDisplay value)
      = replace assignment redactedAssignment (safeDisplay value) := by
        conv_lhs => rw [safeDisplay, htokens]
    _ = safeDisplay value := replace_assignment_again (withoutTokens value)

example : safeDisplay (0x1B :: units "[31mBearer abc.def.ghi token=secret-value" ++ 0x1B :: units "[0m") =
    units "Bearer <REDACTED> token=<REDACTED>" := by decide

end Display

end SecScanMonitor.Console
