import SecScanMonitor.Domain.Parsed
import SecScanMonitor.Foundations.SortBy
import SecScanMonitor.Sanitize.Serialization

/-! What `json.dumps(v, ensure_ascii=False, sort_keys=True, separators=(",", ":"))` writes of a value that
`json.loads` has built, and where in the text a part of the value stands. -/

namespace SecScanMonitor.Sanitize

open Foundations Domain

section Writing

def escapePoint : CodePoint → Str
  | .scalar c => (escapeChar false c).map .scalar
  | .surrogate n => [.surrogate n]

def quotedStr (s : Str) : Str := .scalar '"' :: (s.flatMap escapePoint ++ [.scalar '"'])

def commas (texts : List Str) : Str := [.scalar ','].intercalate texts

def memberText (m : Str × Str) : Str := quotedStr m.1 ++ .scalar ':' :: m.2

variable (floatText : Double → String)

mutual

/-- No JSON is read as a date. -/
def jsonText : Parsed → Str
  | .none => Str.ofString "null"
  | .bool b => Str.ofString (if b then "true" else "false")
  | .int i => Str.ofString (toString i)
  | .float x => Str.ofString (floatText x)
  | .str s => quotedStr s
  | .temporal _ isoformat => quotedStr isoformat
  | .list items => .scalar '[' :: (commas (itemTexts items) ++ [.scalar ']'])
  | .dict members =>
    .scalar '\x7b' :: (commas ((sortBy Prod.fst (memberTexts members)).map memberText) ++ [.scalar '\x7d'])

def itemTexts : List Parsed → List Str
  | [] => []
  | v :: vs => jsonText v :: itemTexts vs

def memberTexts : List (Str × Parsed) → List (Str × Str)
  | [] => []
  | (k, v) :: ms => (k, jsonText v) :: memberTexts ms

end

end Writing

/-- A value with one place left open. -/
inductive Surroundings where
  | here
  | item (before : List Parsed) (inner : Surroundings) (after : List Parsed)
  | member (before : List (Str × Parsed)) (key : Str) (inner : Surroundings) (after : List (Str × Parsed))

namespace Surroundings

def fill : Surroundings → Parsed → Parsed
  | here, v => v
  | item before inner after, v => .list (before ++ inner.fill v :: after)
  | member before key inner after, v => .dict (before ++ (key, inner.fill v) :: after)

lemma fill_injective (s : Surroundings) : Function.Injective s.fill := by
  induction s with
  | here => exact fun _ _ h => h
  | item before inner after ih =>
    intro v w h
    exact ih (List.head_eq_of_cons_eq (List.append_cancel_left (Parsed.list.inj h)))
  | member before key inner after ih =>
    intro v w h
    exact ih (Prod.mk.inj (List.head_eq_of_cons_eq (List.append_cancel_left (Parsed.dict.inj h)))).2

end Surroundings

section Around

variable {floatText : Double → String}

lemma itemTexts_append (vs ws : List Parsed) :
    itemTexts floatText (vs ++ ws) = itemTexts floatText vs ++ itemTexts floatText ws := by
  induction vs with
  | nil => rfl
  | cons v vs ih => rw [List.cons_append, itemTexts, ih, itemTexts, List.cons_append]

lemma memberTexts_append (ms ns : List (Str × Parsed)) :
    memberTexts floatText (ms ++ ns) = memberTexts floatText ms ++ memberTexts floatText ns := by
  induction ms with
  | nil => rfl
  | cons m ms ih => rw [List.cons_append, memberTexts, ih, memberTexts, List.cons_append]

lemma commas_cons_cons (t u : Str) (ts : List Str) : commas (t :: u :: ts) = t ++ .scalar ',' :: commas (u :: ts) := by
  rw [commas, List.intercalate_cons_cons, List.append_assoc]
  rfl

lemma commas_around (before after : List Str) : ∃ l r, ∀ t, commas (before ++ t :: after) = l ++ t ++ r := by
  induction before with
  | nil =>
    cases after with
    | nil => exact ⟨[], [], fun t => by simp [commas]⟩
    | cons u after => exact ⟨[], .scalar ',' :: commas (u :: after), fun t => commas_cons_cons t u after⟩
  | cons u before ih =>
    obtain ⟨l, r, htext⟩ := ih
    refine ⟨u ++ .scalar ',' :: l, r, ?_⟩
    intro t
    cases before with
    | nil =>
      have hrest := htext t
      rw [List.nil_append] at hrest
      rw [List.cons_append, List.nil_append, commas_cons_cons, hrest]
      simp only [List.append_assoc, List.cons_append]
    | cons v before =>
      rw [List.cons_append, List.cons_append, commas_cons_cons, ← List.cons_append, htext t]
      simp only [List.append_assoc, List.cons_append]

variable (floatText) in
/-- The text of a value stands between two texts that do not depend on it. -/
theorem jsonText_around (s : Surroundings) : ∃ before after, ∀ v,
    jsonText floatText (s.fill v) = before ++ jsonText floatText v ++ after := by
  induction s with
  | here => exact ⟨[], [], fun v => (List.append_nil _).symm⟩
  | item before inner after ih =>
    obtain ⟨l, r, hinner⟩ := ih
    obtain ⟨l', r', hcommas⟩ := commas_around (itemTexts floatText before) (itemTexts floatText after)
    refine ⟨.scalar '[' :: (l' ++ l), r ++ r' ++ [.scalar ']'], ?_⟩
    intro v
    rw [Surroundings.fill, jsonText, itemTexts_append, itemTexts, hcommas, hinner]
    simp only [List.cons_append, List.append_assoc]
  | member before key inner after ih =>
    obtain ⟨l, r, hinner⟩ := ih
    obtain ⟨l₁, l₂, hsort⟩ := sortBy_around key (memberTexts floatText before) (memberTexts floatText after)
    obtain ⟨l', r', hcommas⟩ := commas_around (l₁.map memberText) (l₂.map memberText)
    refine ⟨.scalar '\x7b' :: (l' ++ (quotedStr key ++ .scalar ':' :: l)), r ++ r' ++ [.scalar '\x7d'], ?_⟩
    intro v
    rw [Surroundings.fill, jsonText, memberTexts_append, memberTexts, hsort, List.map_append, List.map_cons, hcommas,
      hinner, memberText]
    simp only [List.cons_append, List.append_assoc]

/-- The text of an object whose members are known in the order of their keys. -/
lemma jsonText_dict {members : List (Str × Parsed)} {l : List (Str × Str)}
    (hperm : (memberTexts floatText members).Perm l) (hkeys : (l.map Prod.fst).Pairwise (· < ·)) :
    jsonText floatText (.dict members) =
      .scalar '\x7b' :: (commas (l.map memberText) ++ [.scalar '\x7d']) := by
  have hnodup : ((memberTexts floatText members).map Prod.fst).Nodup :=
    (hperm.map Prod.fst).nodup_iff.mpr (hkeys.imp ne_of_lt)
  have hsorted : l.Pairwise fun a b => a.1 ≤ b.1 := (List.pairwise_map.mp hkeys).imp le_of_lt
  rw [jsonText, sortBy_eq_of_perm hnodup hperm, sortBy_of_sorted hsorted]

end Around

section Encoding

/-- A text that has UTF-8 bytes: no lone surrogate is in it. -/
def isEncodable (s : Str) : Bool := s.all CodePoint.isScalar

mutual

/-- Every key and every text of the value is encodable. -/
def encodable : Parsed → Bool
  | .str s => isEncodable s
  | .temporal _ isoformat => isEncodable isoformat
  | .list items => encodableItems items
  | .dict members => encodableMembers members
  | _ => true

def encodableItems : List Parsed → Bool
  | [] => true
  | v :: vs => encodable v && encodableItems vs

def encodableMembers : List (Str × Parsed) → Bool
  | [] => true
  | (k, v) :: ms => isEncodable k && encodable v && encodableMembers ms

end

variable {floatText : Double → String}

lemma isEncodable_map (t : List Char) : isEncodable (t.map .scalar) = true := by
  induction t with
  | nil => rfl
  | cons c t ih => exact ih

lemma isEncodable_ofString (s : String) : isEncodable (Str.ofString s) = true := isEncodable_map s.toList

lemma isEncodable_cons (c : CodePoint) (s : Str) : isEncodable (c :: s) = (c.isScalar && isEncodable s) := rfl

lemma isEncodable_append (s t : Str) : isEncodable (s ++ t) = (isEncodable s && isEncodable t) := List.all_append

lemma isEncodable_escapePoint (c : CodePoint) : isEncodable (escapePoint c) = c.isScalar := by
  cases c with
  | scalar c => exact isEncodable_map (escapeChar false c)
  | surrogate n => rfl

lemma isEncodable_quotedStr (s : Str) : isEncodable (quotedStr s) = isEncodable s := by
  have hescaped : isEncodable (s.flatMap escapePoint) = isEncodable s := by
    induction s with
    | nil => rfl
    | cons c s ih => rw [List.flatMap_cons, isEncodable_append, isEncodable_escapePoint, ih, isEncodable_cons]
  rw [quotedStr, isEncodable_cons, isEncodable_append, hescaped]
  exact Bool.and_true _

lemma isEncodable_commas (texts : List Str) : isEncodable (commas texts) = texts.all isEncodable := by
  induction texts with
  | nil => rfl
  | cons t texts ih =>
    cases texts with
    | nil => simp [commas]
    | cons u texts =>
      rw [commas_cons_cons, isEncodable_append, isEncodable_cons, ih, List.all_cons]
      rfl

lemma isEncodable_memberText (m : Str × Str) : isEncodable (memberText m) = (isEncodable m.1 && isEncodable m.2) := by
  rw [memberText, isEncodable_append, isEncodable_quotedStr, isEncodable_cons]
  rfl

mutual

/-- The text of a value has UTF-8 bytes exactly if all its keys and texts have. -/
theorem isEncodable_jsonText : ∀ v : Parsed, isEncodable (jsonText floatText v) = encodable v
  | .none => isEncodable_ofString _
  | .bool _ => isEncodable_ofString _
  | .int _ => isEncodable_ofString _
  | .float _ => isEncodable_ofString _
  | .str s => by
    rw [jsonText, encodable, isEncodable_quotedStr]
  | .temporal _ isoformat => by
    rw [jsonText, encodable, isEncodable_quotedStr]
  | .list items => by
    rw [jsonText, encodable, isEncodable_cons, isEncodable_append, isEncodable_commas,
      all_itemTexts items]
    exact Bool.and_true _
  | .dict members => by
    have hsorted : ((sortBy Prod.fst (memberTexts floatText members)).map memberText).all isEncodable =
        (memberTexts floatText members).all fun m => isEncodable m.1 && isEncodable m.2 := by
      rw [List.all_map, sortBy_perm.all_eq]
      exact List.all_congr rfl isEncodable_memberText
    rw [jsonText, encodable, isEncodable_cons, isEncodable_append, isEncodable_commas, hsorted,
      all_memberTexts members]
    exact Bool.and_true _

theorem all_itemTexts : ∀ items : List Parsed,
    (itemTexts floatText items).all isEncodable = encodableItems items
  | [] => rfl
  | v :: vs => by
    rw [itemTexts, List.all_cons, isEncodable_jsonText v, all_itemTexts vs, encodableItems]

theorem all_memberTexts : ∀ members : List (Str × Parsed),
    ((memberTexts floatText members).all fun m => isEncodable m.1 && isEncodable m.2) = encodableMembers members
  | [] => rfl
  | (k, v) :: ms => by
    rw [memberTexts, List.all_cons, isEncodable_jsonText v, all_memberTexts ms, encodableMembers]

end

lemma encode_isOk {s : Str} : (∃ bytes, encode s = .ok bytes) ↔ isEncodable s = true := by
  rw [encode, Str.encode?, isEncodable]
  cases s.all CodePoint.isScalar with
  | true => exact iff_of_true ⟨_, rfl⟩ rfl
  | false => exact iff_of_false nofun nofun

lemma encodableMembers_append (ms ns : List (Str × Parsed)) :
    encodableMembers (ms ++ ns) = (encodableMembers ms && encodableMembers ns) := by
  induction ms with
  | nil => rfl
  | cons m ms ih =>
    obtain ⟨k, v⟩ := m
    simp only [List.cons_append, encodableMembers, ih, Bool.and_assoc]

lemma encodableItems_eq (items : List Parsed) : encodableItems items = items.all encodable := by
  induction items with
  | nil => rfl
  | cons v vs ih => rw [encodableItems, ih, List.all_cons]

end Encoding

end SecScanMonitor.Sanitize
