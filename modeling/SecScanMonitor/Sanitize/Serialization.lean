import SecScanMonitor.Sanitize.Filters

/-! The JSON text of a payload, as `json.dumps` writes it with sorted keys and without blanks, and where in it
a forbidden value can be. -/

namespace SecScanMonitor.Sanitize

open Foundations Domain Foundations.Regex

section Dumps

/-- A piece of a JSON text: a string value in which nothing is escaped, or anything else. -/
inductive Piece where
  | plain (t : Text)
  | mark (t : Text)

def Piece.text : Piece → Text
  | .plain t => '"' :: t ++ ['"']
  | .mark t => t

def hex4 (n : ℕ) : Text :=
  [Nat.digitChar (n / 4096 % 16), Nat.digitChar (n / 256 % 16), Nat.digitChar (n / 16 % 16),
    Nat.digitChar (n % 16)]

/-- `\uXXXX`, twice for a character beyond the basic plane. -/
def unicodeEscape (c : Char) : Text :=
  if c.toNat < 0x10000 then '\\' :: 'u' :: hex4 c.toNat
  else
    let n := c.toNat - 0x10000
    '\\' :: 'u' :: hex4 (0xD800 + n / 1024 % 1024) ++ '\\' :: 'u' :: hex4 (0xDC00 + n % 1024)

variable (ensureAscii : Bool) (floatText : Rat → Text)

def escapeChar (c : Char) : Text :=
  if c = '"' then ['\\', '"']
  else if c = '\\' then ['\\', '\\']
  else if c = '\n' then ['\\', 'n']
  else if c = '\r' then ['\\', 'r']
  else if c = '\t' then ['\\', 't']
  else if c.toNat = 8 then ['\\', 'b']
  else if c.toNat = 12 then ['\\', 'f']
  else if c.toNat < 32 ∨ (ensureAscii ∧ 126 < c.toNat) then unicodeEscape c
  else [c]

def escape (t : Text) : Text := t.flatMap (escapeChar ensureAscii)

def quoted (t : Text) : Text := '"' :: escape ensureAscii t ++ ['"']

def stringPiece (t : Text) : Piece :=
  if escape ensureAscii t = t then .plain t else .mark (quoted ensureAscii t)

mutual

def pieces : Value → List Piece
  | .null => [.mark "null".toList]
  | .bool b => [.mark (if b then "true".toList else "false".toList)]
  | .int n => [.mark (toString n).toList]
  | .float q => [.mark (floatText q)]
  | .str s => [stringPiece ensureAscii s.toList]
  | .arr items => .mark ['['] :: itemPieces [] items ++ [.mark [']']]
  | .obj members => .mark ['\x7b'] :: memberPieces [] members ++ [.mark ['\x7d']]

def itemPieces : Text → List Value → List Piece
  | _, [] => []
  | lead, v :: vs => .mark lead :: pieces v ++ itemPieces [','] vs

def memberPieces : Text → List (String × Value) → List Piece
  | _, [] => []
  | lead, (k, v) :: ms =>
    .mark (lead ++ quoted ensureAscii k.toList ++ [':']) :: pieces v ++ memberPieces [','] ms

end

def textOf (ps : List Piece) : Text := ps.flatMap Piece.text

/-- `json.dumps(v, sort_keys=True, separators=(",", ":"))` -/
def dumps (v : Value) : Text := textOf (pieces ensureAscii floatText v.sorted)

end Dumps

section Scan

variable {u : UnicodeTables}

lemma membersContainSecret_insertMember (k : String) (v : Value) (ms : List (String × Value)) :
    membersContainSecret u (Value.insertMember k v ms) =
      (payloadContainsSecretLikeContent u v || membersContainSecret u ms) := by
  induction ms with
  | nil => rfl
  | cons m ms ih =>
    obtain ⟨l, w⟩ := m
    rw [Value.insertMember]
    split
    · rfl
    · rw [membersContainSecret, ih, membersContainSecret, Bool.or_left_comm]

mutual

lemma scan_sorted : (v : Value) →
    payloadContainsSecretLikeContent u v.sorted = payloadContainsSecretLikeContent u v
  | .null | .bool _ | .int _ | .float _ | .str _ => rfl
  | .arr items => items_sorted items
  | .obj members => members_sorted members

lemma items_sorted : (vs : List Value) →
    itemsContainSecret u (Value.sortedItems vs) = itemsContainSecret u vs
  | [] => rfl
  | v :: vs => by
    rw [Value.sortedItems, itemsContainSecret, itemsContainSecret, scan_sorted v, items_sorted vs]

lemma members_sorted : (ms : List (String × Value)) →
    membersContainSecret u (Value.sortedMembers ms) = membersContainSecret u ms
  | [] => rfl
  | (k, v) :: ms => by
    rw [Value.sortedMembers, membersContainSecret_insertMember, membersContainSecret, scan_sorted v,
      members_sorted ms]

end

variable {ensureAscii : Bool} {floatText : Rat → Text} {t : Text}

mutual

/-- The scan reads every string value that is written as it is. -/
lemma scan_of_plain (ht : textContainsSecret u t = true) : (v : Value) →
    .plain t ∈ pieces ensureAscii floatText v → payloadContainsSecretLikeContent u v = true
  | .null | .bool _ | .int _ | .float _ => fun h => by cases List.mem_singleton.mp h
  | .str s => fun h => by
    have hpiece := List.mem_singleton.mp h
    unfold stringPiece at hpiece
    split at hpiece
    · obtain rfl := Piece.plain.inj hpiece
      exact ht
    · cases hpiece
  | .arr items => fun h => by
    rcases List.mem_append.mp h with h | h
    · rcases List.mem_cons.mp h with h | h
      · cases h
      · exact scan_of_plain_items ht items [] h
    · cases List.mem_singleton.mp h
  | .obj members => fun h => by
    rcases List.mem_append.mp h with h | h
    · rcases List.mem_cons.mp h with h | h
      · cases h
      · exact scan_of_plain_members ht members [] h
    · cases List.mem_singleton.mp h

lemma scan_of_plain_items (ht : textContainsSecret u t = true) : (vs : List Value) → (lead : Text) →
    .plain t ∈ itemPieces ensureAscii floatText lead vs → itemsContainSecret u vs = true
  | [], _ => fun h => by cases h
  | v :: vs, lead => fun h => by
    rw [itemsContainSecret, Bool.or_eq_true]
    rcases List.mem_append.mp h with h | h
    · rcases List.mem_cons.mp h with h | h
      · cases h
      · exact Or.inl (scan_of_plain ht v h)
    · exact Or.inr (scan_of_plain_items ht vs _ h)

lemma scan_of_plain_members (ht : textContainsSecret u t = true) : (ms : List (String × Value)) →
    (lead : Text) → .plain t ∈ memberPieces ensureAscii floatText lead ms →
      membersContainSecret u ms = true
  | [], _ => fun h => by cases h
  | (k, v) :: ms, lead => fun h => by
    rw [membersContainSecret, Bool.or_eq_true]
    rcases List.mem_append.mp h with h | h
    · rcases List.mem_cons.mp h with h | h
      · cases h
      · exact Or.inl (scan_of_plain ht v h)
    · exact Or.inr (scan_of_plain_members ht ms _ h)

end

end Scan

section Confined

variable (u : UnicodeTables) (ensureAscii : Bool) (floatText : Rat → Text)

/-- No forbidden value is in a text. -/
def Clean (t : Text) : Prop := ∀ r ∈ forbiddenValuePatterns u, ¬ Occurs r t

/-- A part of the text of some pieces lies inside a string value that is written as it is. -/
def Inside (ps : List Piece) (before w after : Text) : Prop :=
  ∃ qs rs a b, ps = qs ++ .plain (a ++ w ++ b) :: rs ∧ before = textOf qs ++ '"' :: a ∧
    after = b ++ '"' :: textOf rs

/-- Every match in the serialized payload lies inside a string value that is written as it is. -/
def Confined (v : Value) : Prop :=
  ∀ r ∈ forbiddenValuePatterns u, ∀ before w after,
    dumps ensureAscii floatText v = before ++ w ++ after →
    Reads r before.getLast? w after.head? → Inside (pieces ensureAscii floatText v.sorted) before w after

variable {u ensureAscii floatText}

/-- What a string value has inside the text, it has by itself. -/
lemma Inside.reads {r : Regex} (hr : Unseen '"' r) {ps : List Piece} {before w after : Text}
    (h : Inside ps before w after) (hw : Reads r before.getLast? w after.head?) :
    ∃ t, .plain t ∈ ps ∧ Occurs r t := by
  obtain ⟨qs, rs, a, b, rfl, rfl, rfl⟩ := h
  refine ⟨a ++ w ++ b, List.mem_append_right _ List.mem_cons_self, a, w, b, rfl, hw.like hr ?_ ?_⟩
  · rw [List.getLast?_append, List.getLast?_cons]
    cases a.getLast? with
    | none => exact Or.inr ⟨rfl, rfl⟩
    | some x => exact Or.inl rfl
  · rw [List.head?_append]
    cases b.head? with
    | none => exact Or.inr ⟨rfl, rfl⟩
    | some x => exact Or.inl rfl

/-- The scan and the patterns agree on a payload exactly if no match touches anything but one value. -/
lemma clean_iff_confined {v : Value} (h : payloadContainsSecretLikeContent u v = false) :
    Clean u (dumps ensureAscii floatText v) ↔ Confined u ensureAscii floatText v := by
  constructor
  · intro hclean r hr before w after htext hw
    refine absurd ⟨before, w, after, htext, ?_⟩ (hclean r hr)
    rw [Option.or_none]
    exact hw
  · rintro hconfined r hr ⟨before, w, after, htext, hw⟩
    rw [Option.or_none] at hw
    obtain ⟨t, hmem, hoccurs⟩ :=
      (hconfined r hr before w after htext hw).reads (unseen_forbidden rfl hr) hw
    have hsecret : textContainsSecret u t = true :=
      List.any_eq_true.mpr ⟨r, hr, search_iff.mpr hoccurs⟩
    have hscan := scan_of_plain hsecret v.sorted hmem
    rw [scan_sorted, h] at hscan
    cases hscan

end Confined

end SecScanMonitor.Sanitize
