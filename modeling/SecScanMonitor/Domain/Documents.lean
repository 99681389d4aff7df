import SecScanMonitor.Domain.Errors
import SecScanMonitor.Foundations.Value

/-! How Python code reads a decoded JSON document, with the exceptions it meets on the way. -/

namespace SecScanMonitor.Domain.Documents

open Foundations

def typeName : Value → String
  | .null => "NoneType"
  | .bool _ => "bool"
  | .int _ => "int"
  | .float _ => "float"
  | .str _ => "str"
  | .arr _ => "list"
  | .obj _ => "dict"

/-- `v.get(key, default)` -/
def getKeyD (v : Value) (key : String) (default : Value) : Except Raised Value :=
  match v with
  | .obj members => .ok ((members.lookup key).getD default)
  | v => raise .attributeError ("'" ++ typeName v ++ "' object has no attribute 'get'")

def getKey (v : Value) (key : String) : Except Raised Value := getKeyD v key .null

def hashable : Value → Bool
  | .arr _ | .obj _ => false
  | _ => true

def unhashable {α : Type} (v : Value) : Except Raised α :=
  raise .typeError ("unhashable type: '" ++ typeName v ++ "'")

/-- Membership in a set of strings. -/
def inStrings (v : Value) (names : List String) : Except Raised Bool :=
  if hashable v then .ok (names.any fun n => v.pyEq (.str n)) else unhashable v

/-- The operator `in` over a document. -/
def inside (v container : Value) : Except Raised Bool :=
  match container, v with
  | .arr items, v => .ok (items.any v.pyEq)
  | .obj members, v =>
    if hashable v then .ok (members.any fun m => v.pyEq (.str m.1)) else unhashable v
  | .str s, .str t => .ok (decide (t.toList <:+: s.toList))
  | .str _, v => raise .typeError
      ("'in <string>' requires string as left operand, not " ++ typeName v)
  | c, _ => raise .typeError ("argument of type '" ++ typeName c ++ "' is not iterable")

/-- `set(v)`, as the list of its members. -/
def toSet : Value → Except Raised (List Value)
  | .arr items =>
    match items.find? (fun v => !hashable v) with
    | some v => unhashable v
    | none => .ok items
  | .obj members => .ok (members.map fun m => .str m.1)
  | .str s => .ok (s.toList.map fun c => .str (String.ofList [c]))
  | v => raise .typeError ("'" ++ typeName v ++ "' object is not iterable")

/-- The elements that iterating a document goes through. -/
def elements : Value → Option (List Value)
  | .arr items => some items
  | .obj members => some (members.map fun m => .str m.1)
  | .str s => some (s.toList.map fun c => .str (String.ofList [c]))
  | _ => none

/-- What the element at an index of an iterable contributes to `dict(...)`. -/
def entryOf (index : ℕ) (v : Value) : Except Raised (Value × Value) :=
  match elements v with
  | some [k, w] => if hashable k then .ok (k, w) else unhashable k
  | some items => raise .valueError ("dictionary update sequence element #" ++ toString index ++
      " has length " ++ toString items.length ++ "; 2 is required")
  | none => raise .typeError ("cannot convert dictionary update sequence element #" ++
      toString index ++ " to a sequence")

/-- `d[k] = w` for a dictionary of documents. -/
def setItem (k w : Value) : List (Value × Value) → List (Value × Value)
  | [] => [(k, w)]
  | m :: ms => if m.1.pyEq k then (m.1, w) :: ms else m :: setItem k w ms

def fromEntries : ℕ → List Value → List (Value × Value) → Except Raised (List (Value × Value))
  | _, [], dict => .ok dict
  | index, v :: vs, dict => do
    let (k, w) ← entryOf index v
    fromEntries (index + 1) vs (setItem k w dict)

/-- `dict(v)` -/
def toDict (v : Value) : Except Raised (List (Value × Value)) :=
  match v with
  | .obj members => .ok (members.map fun m => (.str m.1, m.2))
  | v =>
    match elements v with
    | some items => fromEntries 0 items []
    | none => raise .typeError ("'" ++ typeName v ++ "' object is not iterable")

/-- The members of a dictionary whose keys are all strings. -/
def stringKeys (dict : List (Value × Value)) : Option (List (String × Value)) :=
  dict.mapM fun m =>
    match m.1 with
    | .str k => some (k, m.2)
    | _ => none

lemma getKeyD_of_member {v w d : Value} {key : String} (h : v.member? key = some w) :
    getKeyD v key d = .ok w := by
  cases v with
  | obj members =>
    simp only [Value.member?] at h
    simp only [getKeyD, h, Option.getD_some]
  | _ => simp only [Value.member?, reduceCtorEq] at h

lemma getKey_of_member {v w : Value} {key : String} (h : v.member? key = some w) :
    getKey v key = .ok w :=
  getKeyD_of_member h

@[simp] lemma inStrings_str (s : String) (names : List String) :
    inStrings (.str s) names = .ok (decide (s ∈ names)) := by
  simp [inStrings, hashable, List.any_eq]

@[simp] lemma toSet_strings (names : List String) :
    toSet (.arr (names.map .str)) = .ok (names.map .str) := by
  have hnone : (names.map Value.str).find? (fun v => !hashable v) = none := by
    simp [List.find?_eq_none, hashable]
  rw [toSet, hnone]

end SecScanMonitor.Domain.Documents
