import SecScanMonitor.Foundations.Value
import Mathlib.Data.List.Forall2

/-! Documents that agree apart from some members: those members are dropped at every level, and what is left is
compared as a Python reader compares it. -/

namespace SecScanMonitor.Foundations.Value

mutual

/-- The document without the members of these keys, at every level. -/
def without (dropped : List String) : Value → Value
  | .arr items => .arr (itemsWithout dropped items)
  | .obj members => .obj (membersWithout dropped members)
  | .null => .null
  | .bool b => .bool b
  | .int n => .int n
  | .float q => .float q
  | .str s => .str s

def itemsWithout (dropped : List String) : List Value → List Value
  | [] => []
  | v :: vs => without dropped v :: itemsWithout dropped vs

def membersWithout (dropped : List String) : List (String × Value) → List (String × Value)
  | [] => []
  | (k, v) :: ms =>
    if k ∈ dropped then membersWithout dropped ms else (k, without dropped v) :: membersWithout dropped ms

end

def Agree (dropped : List String) (v w : Value) : Prop :=
  (v.without dropped).normal true = (w.without dropped).normal true

variable {dropped : List String}

lemma agree_iff_pyEq {v w : Value} :
    Agree dropped v w ↔ (v.without dropped).pyEq (w.without dropped) = true := by
  rw [Agree, pyEq, decide_eq_true_eq]

lemma normalItems_eq_map (b : Bool) (vs : List Value) : normalItems b vs = vs.map (normal b) := by
  induction vs with
  | nil => rfl
  | cons v vs ih => rw [normalItems, ih, List.map_cons]

lemma itemsWithout_eq_map (vs : List Value) : itemsWithout dropped vs = vs.map (without dropped) := by
  induction vs with
  | nil => rfl
  | cons v vs ih => rw [itemsWithout, ih, List.map_cons]

lemma lookup_normalMembers (b : Bool) (l : String) (ms : List (String × Value)) :
    (normalMembers b ms).lookup l = (ms.lookup l).map (normal b) := by
  induction ms with
  | nil => rfl
  | cons m ms ih =>
    obtain ⟨k, v⟩ := m
    rw [normalMembers, lookup_insertMember, ih, List.lookup_cons]
    by_cases hl : l = k
    · simp [hl]
    · simp [hl, beq_false_of_ne hl]

lemma lookup_membersWithout {l : String} (hl : l ∉ dropped) (ms : List (String × Value)) :
    (membersWithout dropped ms).lookup l = (ms.lookup l).map (without dropped) := by
  induction ms with
  | nil => rfl
  | cons m ms ih =>
    obtain ⟨k, v⟩ := m
    rw [membersWithout]
    split
    · rename_i hk
      have hne : l ≠ k := fun h => hl (h ▸ hk)
      rw [ih, List.lookup_cons, beq_false_of_ne hne]
    · rw [List.lookup_cons, List.lookup_cons, ih]
      by_cases hlk : l = k
      · simp [hlk]
      · simp [beq_false_of_ne hlk]

@[simp] lemma agree_str {s t : String} : Agree dropped (.str s) (.str t) ↔ s = t :=
  ⟨fun h => Value.str.inj h, fun h => congrArg Value.str h⟩

@[simp] lemma not_agree_null_str {s : String} : ¬ Agree dropped .null (.str s) := by
  intro h
  have heq : Value.null = .str s := h
  cases heq

@[simp] lemma not_agree_str_null {s : String} : ¬ Agree dropped (.str s) .null := by
  intro h
  have heq : Value.str s = .null := h
  cases heq

lemma agree_arr {vs ws : List Value} (h : Agree dropped (.arr vs) (.arr ws)) :
    List.Forall₂ (Agree dropped) vs ws := by
  simp only [Agree, without, normal, normalItems_eq_map, itemsWithout_eq_map, List.map_map,
    Value.arr.injEq] at h
  rw [← List.forall₂_eq_eq_eq, List.forall₂_map_left_iff, List.forall₂_map_right_iff] at h
  exact h

/-- Under a key that is kept, documents that agree have members that agree. -/
lemma agree_lookup {ms ns : List (String × Value)} (h : Agree dropped (.obj ms) (.obj ns)) {k : String}
    (hk : k ∉ dropped) : Option.Rel (Agree dropped) (ms.lookup k) (ns.lookup k) := by
  simp only [Agree, without, normal, Value.obj.injEq] at h
  have hlookup := congrArg (List.lookup k) h
  simp only [lookup_normalMembers, lookup_membersWithout hk] at hlookup
  cases hm : ms.lookup k with
  | none =>
    cases hn : ns.lookup k with
    | none => exact Option.Rel.none
    | some w =>
      rw [hm, hn] at hlookup
      cases hlookup
  | some v =>
    cases hn : ns.lookup k with
    | none =>
      rw [hm, hn] at hlookup
      cases hlookup
    | some w =>
      rw [hm, hn] at hlookup
      exact Option.Rel.some (Option.some.inj hlookup)

/-- Of documents that list the same keys once, the members agree in their order. -/
lemma agree_members {ms ns : List (String × Value)} (h : Agree dropped (.obj ms) (.obj ns))
    (hkeys : ms.map Prod.fst = ns.map Prod.fst) (hnodup : (ms.map Prod.fst).Nodup) :
    List.Forall₂ (fun m n => m.1 ∉ dropped → Agree dropped m.2 n.2) ms ns := by
  have hlength : ms.length = ns.length := by
    have hlen := congrArg List.length hkeys
    rwa [List.length_map, List.length_map] at hlen
  refine List.forall₂_iff_get.mpr ⟨hlength, fun i hi hj hk => ?_⟩
  have hkey : (ms.get ⟨i, hi⟩).1 = (ns.get ⟨i, hj⟩).1 := by
    have hget : (ms.map Prod.fst)[i]? = (ns.map Prod.fst)[i]? := by rw [hkeys]
    simpa [List.getElem?_eq_getElem hi, List.getElem?_eq_getElem hj] using hget
  have hms := lookup_of_nodup hnodup (List.get_mem ms ⟨i, hi⟩)
  have hns := lookup_of_nodup (hkeys ▸ hnodup) (List.get_mem ns ⟨i, hj⟩)
  have hrel := agree_lookup h hk
  rw [hms, hkey, hns] at hrel
  cases hrel with
  | some hagree => exact hagree

end SecScanMonitor.Foundations.Value
