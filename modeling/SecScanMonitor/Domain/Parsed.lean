import Mathlib.Data.Rat.Init
import SecScanMonitor.Domain.Common
import SecScanMonitor.Foundations.CodePoints

/-! What `json.loads` and `tomllib.loads` build from a text, and the language's functions that read it. -/

namespace SecScanMonitor.Domain

open Foundations

inductive Double where
  | finite (q : ℚ)
  | negativeZero
  | infinite (negative : Bool)
  | nan

inductive Parsed where
  | none
  | bool (b : Bool)
  | int (i : ℤ)
  | float (x : Double)
  | str (s : Str)
  | temporal (typeName : String) (isoformat : Str)
  | list (items : List Parsed)
  | dict (members : List (Str × Parsed))

namespace Parsed

def typeName : Parsed → String
  | none => "NoneType"
  | bool _ => "bool"
  | int _ => "int"
  | float _ => "float"
  | str _ => "str"
  | temporal name _ => name
  | list _ => "list"
  | dict _ => "dict"

mutual

/-- No integer has more digits than `str` writes. -/
def printable : Parsed → Bool
  | int i => decide (i.natAbs < 10 ^ 4300)
  | list items => printableItems items
  | dict members => printableMembers members
  | _ => true

def printableItems : List Parsed → Bool
  | [] => true
  | item :: items => item.printable && printableItems items

def printableMembers : List (Str × Parsed) → Bool
  | [] => true
  | (_, item) :: members => item.printable && printableMembers members

end

/-- `bool(v)` -/
def truthy : Parsed → Bool
  | none => false
  | bool b => b
  | int i => decide (i ≠ 0)
  | float (.finite q) => decide (q ≠ 0)
  | float .negativeZero => false
  | float _ => true
  | str s => !s.isEmpty
  | temporal _ _ => true
  | list items => !items.isEmpty
  | dict members => !members.isEmpty

/-- The members of a value with `isinstance(v, Mapping)`. -/
def members? : Parsed → Option (List (Str × Parsed))
  | dict members => some members
  | _ => Option.none

def isText (s : String) : Parsed → Bool
  | str t => decide (t = Str.ofString s)
  | _ => false

/-- The members of a mapping; nothing else has the attribute. -/
def asMapping (wanted : String) : Parsed → Except Raised (List (Str × Parsed))
  | dict members => .ok members
  | v => raise .attributeError s!"'{v.typeName}' object has no attribute '{wanted}'"

/-- What a `for` loop goes through. -/
def iterate : Parsed → Except Raised (List Parsed)
  | list items => .ok items
  | dict members => .ok (members.map fun m => str m.1)
  | str s => .ok (s.map fun c => str [c])
  | v => raise .typeError s!"'{v.typeName}' object is not iterable"

end Parsed

/-- `members.get(key, default)` -/
def getMember (members : List (Str × Parsed)) (key : String) (default : Parsed) : Parsed :=
  (members.lookup (Str.ofString key)).getD default

/-- The parsers, the digest and the Unicode tables of the interpreter. -/
structure Interpreter where
  jsonLoads : Str → Except Raised Parsed
  tomlLoads : Str → Except Raised (List (Str × Parsed))
  /-- The text of what is no text. -/
  render : Parsed → Str
  renderFixed : Double → Str
  lower : Str → Str
  upper : Str → Str
  sha256 : List UInt8 → Str
  /-- `json.loads` reads no integer that `str` does not write. -/
  json_printable : ∀ content v, jsonLoads content = .ok v → v.printable = true

namespace Interpreter

variable (py : Interpreter)

/-- `str(v)` -/
def text : Parsed → Except Raised Str
  | .str s => .ok s
  | v => do
    raiseIf (v.printable = false) .valueError
      "Exceeds the limit (4300 digits) for integer string conversion"
    return py.render v

end Interpreter

/-- Whitespace, to `str.strip` and to `\s` of a pattern. -/
def isBlankPoint : CodePoint → Bool
  | .scalar c => isSpace c
  | .surrogate _ => false

/-- `s.strip()` -/
def strip (s : Str) : Str := ((s.dropWhile isBlankPoint).reverse.dropWhile isBlankPoint).reverse

/-- `s.encode()` -/
def encode (s : Str) : Except Raised (List UInt8) :=
  orRaise s.encode? .unicodeEncodeError "'utf-8' codec can't encode character: surrogates not allowed"

/-- `try: r` with an `except kind` that gives no value -/
def excepting {α : Type} (kind : ExceptionKind) (r : Except Raised α) : Except Raised (Option α) :=
  match r with
  | .ok a => .ok (some a)
  | .error e => if e.kind = kind then .ok none else .error e

namespace Parsed

lemma asMapping_eq_ok {v : Parsed} {wanted : String} {members : List (Str × Parsed)} :
    v.asMapping wanted = .ok members ↔ v = .dict members := by
  cases v with
  | dict _ => exact ⟨fun h => congrArg dict (Except.ok.inj h), fun h => by cases h; rfl⟩
  | none | bool _ | int _ | float _ | str _ | temporal _ _ | list _ => exact ⟨nofun, nofun⟩

lemma asMapping_bind_isOk {β : Type} {v : Parsed} {wanted : String}
    {f : List (Str × Parsed) → Except Raised β} :
    (∃ b, (v.asMapping wanted >>= f) = .ok b) ↔ ∃ members, v = .dict members ∧ ∃ b, f members = .ok b := by
  simp only [bind_isOk, asMapping_eq_ok]

@[simp] lemma printable_str (s : Str) : (str s).printable = true := by
  rw [printable]
  all_goals nofun

lemma printable_none : none.printable = true := by
  rw [printable]
  all_goals
    intro _ h
    cases h

lemma printableMembers_iff {members : List (Str × Parsed)} :
    printableMembers members = true ↔ ∀ m ∈ members, m.2.printable = true := by
  induction members with
  | nil => exact ⟨nofun, fun _ => by rw [printableMembers]⟩
  | cons m members ih => rw [printableMembers, Bool.and_eq_true, ih, List.forall_mem_cons]

lemma printableItems_iff {items : List Parsed} :
    printableItems items = true ↔ ∀ item ∈ items, item.printable = true := by
  induction items with
  | nil => exact ⟨nofun, fun _ => by rw [printableItems]⟩
  | cons item items ih => rw [printableItems, Bool.and_eq_true, ih, List.forall_mem_cons]

/-- What a printable mapping holds is printable. -/
lemma printable_member {members : List (Str × Parsed)} (h : (dict members).printable = true)
    {m : Str × Parsed} (hm : m ∈ members) : m.2.printable = true := by
  rw [printable] at h
  exact printableMembers_iff.mp h m hm

lemma printable_item {items : List Parsed} (h : (list items).printable = true) {item : Parsed}
    (hitem : item ∈ items) : item.printable = true := by
  rw [printable] at h
  exact printableItems_iff.mp h item hitem

/-- What a loop over a printable value goes through is printable. -/
lemma printable_iterate {v : Parsed} (h : v.printable = true) {items : List Parsed}
    (hitems : v.iterate = .ok items) {item : Parsed} (hitem : item ∈ items) :
    item.printable = true := by
  cases v with
  | list _ =>
    obtain rfl := Except.ok.inj hitems
    exact printable_item h hitem
  | dict members =>
    obtain rfl := Except.ok.inj hitems
    obtain ⟨m, -, rfl⟩ := List.mem_map.mp hitem
    exact printable_str m.1
  | str s =>
    obtain rfl := Except.ok.inj hitems
    obtain ⟨c, -, rfl⟩ := List.mem_map.mp hitem
    exact printable_str [c]
  | none | bool _ | int _ | float _ | temporal _ _ => cases hitems

lemma printable_getMember {members : List (Str × Parsed)} {key : String} {default : Parsed}
    (h : (dict members).printable = true) (hdefault : default.printable = true) :
    (getMember members key default).printable = true := by
  rw [getMember]
  cases hv : members.lookup (Str.ofString key) with
  | none => exact hdefault
  | some v =>
    obtain ⟨before, after, rfl, -⟩ := List.lookup_eq_some_iff.mp hv
    exact printable_member h (List.mem_append_right before List.mem_cons_self)

end Parsed

lemma text_isOk {py : Interpreter} {v : Parsed} :
    (∃ s, py.text v = .ok s) ↔ v.printable = true := by
  cases v with
  | str s => exact ⟨fun _ => Parsed.printable_str s, fun _ => ⟨s, rfl⟩⟩
  | none | bool _ | int _ | float _ | temporal _ _ | list _ | dict _ =>
    rw [Interpreter.text]
    · simp only [raiseIf_bind_eq_ok, exists_and_left, Bool.not_eq_false]
      exact ⟨And.left, fun h => ⟨h, _, rfl⟩⟩
    · intro s hs
      cases hs

lemma excepting_bind_isOk {α β : Type} {kind : ExceptionKind} {x : Except Raised α}
    {f : Option α → Except Raised β} :
    (∃ b, (excepting kind x >>= f) = .ok b) ↔
      (∀ a, x = .ok a → ∃ b, f (some a) = .ok b) ∧
      ∀ e, x = .error e → e.kind = kind ∧ ∃ b, f none = .ok b := by
  cases x with
  | ok a =>
    constructor
    · exact fun h => ⟨fun a' ha' => by cases ha'; exact h, nofun⟩
    · exact fun h => h.1 a rfl
  | error e =>
    rw [excepting]
    by_cases hkind : e.kind = kind
    · rw [if_pos hkind]
      exact ⟨fun h => ⟨nofun, fun e' he' => by cases he'; exact ⟨hkind, h⟩⟩, fun h => (h.2 e rfl).2⟩
    · rw [if_neg hkind]
      exact ⟨nofun, fun h => absurd (h.2 e rfl).1 hkind⟩

end SecScanMonitor.Domain
