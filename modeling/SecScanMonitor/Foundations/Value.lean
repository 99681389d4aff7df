import Mathlib.Data.Rat.Defs
import Mathlib.Tactic.Common

/-! JSON documents, with the two notions of equality that their readers use. Integers and fractional
numbers are kept apart as a Python reader keeps them; an object lists each of its keys once. -/

namespace SecScanMonitor.Foundations

inductive Value where
  | null
  | bool (b : Bool)
  | int (n : Int)
  | float (q : Rat)
  | str (s : String)
  | arr (items : List Value)
  | obj (members : List (String × Value))
  deriving Repr, Inhabited

namespace Value

mutual

def decEq : (a b : Value) → Decidable (a = b)
  | .null, .null => isTrue rfl
  | .bool a, .bool b => decidable_of_iff (a = b) (by simp)
  | .int a, .int b => decidable_of_iff (a = b) (by simp)
  | .float a, .float b => decidable_of_iff (a = b) (by simp)
  | .str a, .str b => decidable_of_iff (a = b) (by simp)
  | .arr a, .arr b => @decidable_of_iff _ (a = b) (by simp) (decEqItems a b)
  | .obj a, .obj b => @decidable_of_iff _ (a = b) (by simp) (decEqMembers a b)
  | .null, .bool _ | .null, .int _ | .null, .float _ | .null, .str _ | .null, .arr _ | .null, .obj _
  | .bool _, .null | .bool _, .int _ | .bool _, .float _ | .bool _, .str _ | .bool _, .arr _
  | .bool _, .obj _ | .int _, .null | .int _, .bool _ | .int _, .float _ | .int _, .str _
  | .int _, .arr _ | .int _, .obj _ | .float _, .null | .float _, .bool _ | .float _, .int _
  | .float _, .str _ | .float _, .arr _ | .float _, .obj _ | .str _, .null | .str _, .bool _
  | .str _, .int _ | .str _, .float _ | .str _, .arr _ | .str _, .obj _ | .arr _, .null
  | .arr _, .bool _ | .arr _, .int _ | .arr _, .float _ | .arr _, .str _ | .arr _, .obj _
  | .obj _, .null | .obj _, .bool _ | .obj _, .int _ | .obj _, .float _ | .obj _, .str _
  | .obj _, .arr _ => isFalse (by simp)

def decEqItems : (a b : List Value) → Decidable (a = b)
  | [], [] => isTrue rfl
  | [], _ :: _ => isFalse (by simp)
  | _ :: _, [] => isFalse (by simp)
  | a :: as, b :: bs =>
    @decidable_of_iff _ (a = b ∧ as = bs) (by simp)
      (@instDecidableAnd _ _ (decEq a b) (decEqItems as bs))

def decEqMembers : (a b : List (String × Value)) → Decidable (a = b)
  | [], [] => isTrue rfl
  | [], _ :: _ => isFalse (by simp)
  | _ :: _, [] => isFalse (by simp)
  | (k, a) :: as, (l, b) :: bs =>
    @decidable_of_iff _ (k = l ∧ a = b ∧ as = bs) (by simp [and_assoc])
      (@instDecidableAnd _ _ inferInstance (@instDecidableAnd _ _ (decEq a b) (decEqMembers as bs)))

end

instance : DecidableEq Value := decEq

def member? (k : String) : Value → Option Value
  | .obj members => members.lookup k
  | _ => none

def item? (i : ℕ) : Value → Option Value
  | .arr items => items[i]?
  | _ => none

def insertMember (k : String) (v : Value) : List (String × Value) → List (String × Value)
  | [] => [(k, v)]
  | (l, w) :: ms => if k ≤ l then (k, v) :: (l, w) :: ms else (l, w) :: insertMember k v ms

mutual

/-- The representative of a document among those that compare equal to it: an integral number is an
integer, the members of an object stand in the order of their keys, and where truth values count as
numbers they are 0 and 1. -/
def normal (truthIsNumber : Bool) : Value → Value
  | .bool b => if truthIsNumber then .int (if b then 1 else 0) else .bool b
  | .float q => if q.den = 1 then .int q.num else .float q
  | .arr items => .arr (normalItems truthIsNumber items)
  | .obj members => .obj (normalMembers truthIsNumber members)
  | .null => .null
  | .int n => .int n
  | .str s => .str s

def normalItems (truthIsNumber : Bool) : List Value → List Value
  | [] => []
  | v :: vs => normal truthIsNumber v :: normalItems truthIsNumber vs

def normalMembers (truthIsNumber : Bool) : List (String × Value) → List (String × Value)
  | [] => []
  | (k, v) :: ms => insertMember k (normal truthIsNumber v) (normalMembers truthIsNumber ms)

end

mutual

/-- The document with the members of its objects in the order of their keys, as canonical text lists
them. -/
def sorted : Value → Value
  | .arr items => .arr (sortedItems items)
  | .obj members => .obj (sortedMembers members)
  | .null => .null
  | .bool b => .bool b
  | .int n => .int n
  | .float q => .float q
  | .str s => .str s

def sortedItems : List Value → List Value
  | [] => []
  | v :: vs => sorted v :: sortedItems vs

def sortedMembers : List (String × Value) → List (String × Value)
  | [] => []
  | (k, v) :: ms => insertMember k (sorted v) (sortedMembers ms)

end

lemma lookup_insertMember (k l : String) (v : Value) (ms : List (String × Value)) :
    (insertMember k v ms).lookup l = if l = k then some v else ms.lookup l := by
  induction ms with
  | nil =>
    by_cases hl : l = k
    · simp [insertMember, hl]
    · simp [insertMember, hl, List.lookup_cons, beq_false_of_ne hl]
  | cons m ms ih =>
    obtain ⟨n, w⟩ := m
    by_cases hk : k ≤ n
    · simp only [insertMember, if_pos hk, List.lookup_cons]
      by_cases hl : l = k
      · simp [hl]
      · simp [hl, beq_false_of_ne hl]
    · have hn : n ≠ k := by
        rintro rfl
        exact hk (String.le_refl n)
      simp only [insertMember, if_neg hk, List.lookup_cons, ih]
      by_cases hl : l = n
      · subst hl
        simp [hn]
      · simp [beq_false_of_ne hl]

lemma lookup_sortedMembers (l : String) (ms : List (String × Value)) :
    (sortedMembers ms).lookup l = (ms.lookup l).map sorted := by
  induction ms with
  | nil => rfl
  | cons m ms ih =>
    obtain ⟨k, v⟩ := m
    rw [sortedMembers, lookup_insertMember, ih, List.lookup_cons]
    by_cases hl : l = k
    · simp [hl]
    · simp [hl, beq_false_of_ne hl]

lemma sortedItems_eq_map (vs : List Value) : sortedItems vs = vs.map sorted := by
  induction vs with
  | nil => rfl
  | cons v vs ih => rw [sortedItems, ih, List.map_cons]

lemma eq_str_of_sorted {v : Value} {s : String} (h : v.sorted = (str s).sorted) : v = str s := by
  cases v with
  | str t => exact h
  | _ => simp only [sorted, reduceCtorEq] at h

lemma eq_arr_of_sorted {v : Value} {items : List Value} (h : v.sorted = (arr items).sorted) :
    ∃ vs, v = arr vs ∧ vs.map sorted = items.map sorted := by
  cases v with
  | arr vs =>
    refine ⟨vs, rfl, ?_⟩
    rw [← sortedItems_eq_map, ← sortedItems_eq_map]
    exact Value.arr.inj h
  | _ => simp only [sorted, reduceCtorEq] at h

lemma eq_obj_of_sorted {v : Value} {members : List (String × Value)}
    (h : v.sorted = (obj members).sorted) :
    ∃ ms, v = obj ms ∧ sortedMembers ms = sortedMembers members := by
  cases v with
  | obj ms => exact ⟨ms, rfl, Value.obj.inj h⟩
  | _ => simp only [sorted, reduceCtorEq] at h

/-- Objects whose members are equal up to the order within them. -/
lemma sortedMembers_eq_of_forall₂ {ms ns : List (String × Value)}
    (h : List.Forall₂ (fun m n => m.1 = n.1 ∧ m.2.sorted = n.2.sorted) ms ns) :
    sortedMembers ms = sortedMembers ns := by
  induction h with
  | nil => rfl
  | @cons m n ms ns hmn h ih => rw [sortedMembers, sortedMembers, hmn.1, hmn.2, ih]

lemma mem_keys_insertMember {k l : String} {v : Value} {ms : List (String × Value)} :
    l ∈ (insertMember k v ms).map Prod.fst ↔ l = k ∨ l ∈ ms.map Prod.fst := by
  induction ms with
  | nil => simp [insertMember]
  | cons m ms ih =>
    obtain ⟨n, w⟩ := m
    rw [insertMember]
    split
    · simp
    · simp only [List.map_cons, List.mem_cons, ih]
      constructor
      · rintro (rfl | rfl | h)
        · exact Or.inr (Or.inl rfl)
        · exact Or.inl rfl
        · exact Or.inr (Or.inr h)
      · rintro (rfl | rfl | h)
        · exact Or.inr (Or.inl rfl)
        · exact Or.inl rfl
        · exact Or.inr (Or.inr h)

lemma mem_keys_sortedMembers {l : String} {ms : List (String × Value)} :
    l ∈ (sortedMembers ms).map Prod.fst ↔ l ∈ ms.map Prod.fst := by
  induction ms with
  | nil => rfl
  | cons m ms ih =>
    obtain ⟨k, v⟩ := m
    rw [sortedMembers, mem_keys_insertMember, ih, List.map_cons, List.mem_cons]

lemma mem_insertMember {k : String} {v : Value} {ms : List (String × Value)} {m : String × Value} :
    m ∈ insertMember k v ms ↔ m = (k, v) ∨ m ∈ ms := by
  induction ms with
  | nil => simp [insertMember]
  | cons n ms ih =>
    obtain ⟨l, w⟩ := n
    rw [insertMember]
    split
    · exact List.mem_cons
    · rw [List.mem_cons, ih, List.mem_cons, or_left_comm]

lemma insertMember_inOrder {k : String} {v : Value} {ms : List (String × Value)}
    (h : ms.Pairwise fun m n => m.1 ≤ n.1) :
    (insertMember k v ms).Pairwise fun m n => m.1 ≤ n.1 := by
  induction ms with
  | nil => exact List.pairwise_singleton _ _
  | cons n ms ih =>
    obtain ⟨hn, hms⟩ := List.pairwise_cons.mp h
    rw [insertMember]
    split
    · rename_i hk
      refine List.pairwise_cons.mpr ⟨?_, h⟩
      intro m hm
      rcases List.mem_cons.mp hm with rfl | hm
      · exact hk
      · exact String.le_trans hk (hn m hm)
    · rename_i hk
      refine List.pairwise_cons.mpr ⟨?_, ih hms⟩
      intro m hm
      rcases mem_insertMember.mp hm with rfl | hm
      · exact (String.le_total _ _).resolve_left hk
      · exact hn m hm

lemma sortedMembers_inOrder (ms : List (String × Value)) :
    (sortedMembers ms).Pairwise fun m n => m.1 ≤ n.1 := by
  induction ms with
  | nil => exact List.Pairwise.nil
  | cons m ms ih => exact insertMember_inOrder ih

/-- Members in the order of their keys, each with its value in order, stay where they are. -/
lemma sortedMembers_of_inOrder {ms : List (String × Value)} (h : ms.Pairwise fun m n => m.1 ≤ n.1)
    (hvalues : ∀ m ∈ ms, m.2.sorted = m.2) : sortedMembers ms = ms := by
  induction ms with
  | nil => rfl
  | cons m ms ih =>
    obtain ⟨hm, hms⟩ := List.pairwise_cons.mp h
    rw [sortedMembers, hvalues m List.mem_cons_self,
      ih hms fun n hn => hvalues n (List.mem_cons_of_mem m hn)]
    cases ms with
    | nil => rfl
    | cons n ms => rw [insertMember, if_pos (hm n List.mem_cons_self)]

mutual

lemma sorted_sorted : (v : Value) → v.sorted.sorted = v.sorted
  | .arr items => congrArg arr (sortedItems_sorted items)
  | .obj members =>
    congrArg obj (sortedMembers_of_inOrder (sortedMembers_inOrder members) (sortedMembers_sorted members))
  | .null | .bool _ | .int _ | .float _ | .str _ => rfl

lemma sortedItems_sorted : (vs : List Value) → sortedItems (sortedItems vs) = sortedItems vs
  | [] => rfl
  | v :: vs => by rw [sortedItems, sortedItems, sorted_sorted v, sortedItems_sorted vs]

lemma sortedMembers_sorted : (ms : List (String × Value)) → ∀ m ∈ sortedMembers ms, m.2.sorted = m.2
  | [] => nofun
  | (k, v) :: ms => by
    intro m hm
    rcases mem_insertMember.mp hm with rfl | hm
    · exact sorted_sorted v
    · exact sortedMembers_sorted ms m hm

end

lemma lookup_of_nodup {ms : List (String × Value)} (h : (ms.map Prod.fst).Nodup)
    {m : String × Value} (hm : m ∈ ms) : ms.lookup m.1 = some m.2 := by
  induction ms with
  | nil => cases hm
  | cons n ms ih =>
    obtain ⟨hn, hms⟩ := List.nodup_cons.mp h
    rcases List.mem_cons.mp hm with rfl | hm
    · exact List.lookup_cons_self
    · have hne : m.1 ≠ n.1 := by
        intro heq
        apply hn
        rw [← heq]
        exact List.mem_map_of_mem hm
      change List.lookup m.1 ((n.1, n.2) :: ms) = some m.2
      rw [List.lookup_cons, beq_false_of_ne hne]
      exact ih hms hm

/-- Documents with the same keys that are equal up to the order of their members have equal members. -/
lemma values_of_sorted {ms ns : List (String × Value)} (h : (obj ms).sorted = (obj ns).sorted)
    (hkeys : ms.map Prod.fst = ns.map Prod.fst) (hnodup : (ms.map Prod.fst).Nodup) :
    ms.map (fun m => m.2.sorted) = ns.map (fun m => m.2.sorted) := by
  have hread : ∀ ls : List (String × Value), (ls.map Prod.fst).Nodup →
      ls.map (fun m => some m.2.sorted) =
        (ls.map Prod.fst).map (fun k => (sortedMembers ls).lookup k) := by
    intro ls hls
    rw [List.map_map, List.map_inj_left]
    intro m hm
    simp only [Function.comp_apply, lookup_sortedMembers, lookup_of_nodup hls hm, Option.map_some]
  have hsome := hread ms hnodup
  rw [hkeys, Value.obj.inj h, ← hread ns (hkeys ▸ hnodup)] at hsome
  have hboth : ∀ ls : List (String × Value),
      ls.map (fun m => some m.2.sorted) = (ls.map fun m => m.2.sorted).map some :=
    fun ls => (List.map_map).symm
  rw [hboth, hboth] at hsome
  exact (List.map_inj_right fun _ _ => Option.some.inj).mp hsome

def jsonEq (a b : Value) : Bool := decide (a.normal false = b.normal false)

def pyEq (a b : Value) : Bool := decide (a.normal true = b.normal true)

@[simp] lemma jsonEq_str (s t : String) : jsonEq (.str s) (.str t) = decide (s = t) := by
  simp [jsonEq, normal]

@[simp] lemma jsonEq_bool (a b : Bool) : jsonEq (.bool a) (.bool b) = decide (a = b) := by
  simp [jsonEq, normal]

@[simp] lemma jsonEq_int (m n : Int) : jsonEq (.int m) (.int n) = decide (m = n) := by
  simp [jsonEq, normal]

@[simp] lemma jsonEq_self (v : Value) : jsonEq v v = true := by
  simp [jsonEq]

lemma jsonEq_comm (v w : Value) : jsonEq v w = jsonEq w v := by
  simp [jsonEq, eq_comm]

@[simp] lemma pyEq_self (v : Value) : pyEq v v = true := by
  simp [pyEq]

@[simp] lemma pyEq_str (s t : String) : pyEq (.str s) (.str t) = decide (s = t) := by
  simp [pyEq, normal]

def truthy : Value → Bool
  | .null => false
  | .bool b => b
  | .int n => n ≠ 0
  | .float q => q ≠ 0
  | .str s => s ≠ ""
  | .arr items => !items.isEmpty
  | .obj members => !members.isEmpty

@[simp] lemma truthy_str (s : String) : (str s).truthy = !decide (s = "") := by
  simp [truthy]

@[simp] lemma truthy_bool (b : Bool) : (bool b).truthy = b := rfl

end Value

end SecScanMonitor.Foundations
