import Mathlib.Data.List.Nodup

/-! Tables with a primary key. A table carries the uniqueness of its keys, so that a row is
determined by its key in every table that can be built. -/

namespace SecScanMonitor.Foundations

universe u v w

structure Table {κ : Type u} {ρ : Type v} (key : ρ → κ) where
  rows : List ρ
  nodup : (rows.map key).Nodup

namespace Table

variable {κ : Type u} {ρ : Type v} {key : ρ → κ}

def empty : Table key := ⟨[], List.nodup_nil⟩

instance : Inhabited (Table key) := ⟨empty⟩

instance : Membership ρ (Table key) := ⟨fun t r => r ∈ t.rows⟩

lemma mem_def {t : Table key} {r : ρ} : r ∈ t ↔ r ∈ t.rows := Iff.rfl

@[ext] lemma ext {s t : Table key} (h : s.rows = t.rows) : s = t := by
  cases s
  cases t
  simp only at h
  subst h
  rfl

instance [DecidableEq ρ] : DecidableEq (Table key) := fun s t =>
  decidable_of_iff (s.rows = t.rows) ⟨ext, fun h => h ▸ rfl⟩

lemma eq_of_key_eq {t : Table key} {r s : ρ} (hr : r ∈ t) (hs : s ∈ t) (h : key r = key s) :
    r = s :=
  List.inj_on_of_nodup_map t.nodup hr hs h

def select (t : Table key) (p : ρ → Bool) : List ρ := t.rows.filter p

@[simp] lemma mem_select {t : Table key} {p : ρ → Bool} {r : ρ} :
    r ∈ t.select p ↔ r ∈ t ∧ p r = true :=
  List.mem_filter

/-- The rows that are let through. -/
def restrict (t : Table key) (p : ρ → Bool) : Table key where
  rows := t.rows.filter p
  nodup := t.nodup.sublist (List.filter_sublist.map key)

@[simp] lemma mem_restrict {t : Table key} {p : ρ → Bool} {r : ρ} :
    r ∈ t.restrict p ↔ r ∈ t ∧ p r = true :=
  List.mem_filter

def update (t : Table key) (f : ρ → ρ) (hf : ∀ r, key (f r) = key r) : Table key where
  rows := t.rows.map f
  nodup := by
    rw [List.map_map, show key ∘ f = key from funext hf]
    exact t.nodup

@[simp] lemma mem_update {t : Table key} {f : ρ → ρ} (hf : ∀ r, key (f r) = key r) {r : ρ} :
    r ∈ t.update f hf ↔ ∃ s ∈ t, f s = r :=
  List.mem_map

/-- The table of one row. -/
def single (r : ρ) : Table key where
  rows := [r]
  nodup := List.nodup_singleton (key r)

/-- The table of what is kept of each row. -/
def map {ρ' : Type w} {key' : ρ' → κ} (t : Table key) (f : ρ → ρ') (hf : ∀ r, key' (f r) = key r) :
    Table key' where
  rows := t.rows.map f
  nodup := by
    rw [List.map_map, show key' ∘ f = key from funext hf]
    exact t.nodup

variable [DecidableEq κ]

def get? (t : Table key) (k : κ) : Option ρ := t.rows.find? (fun r => decide (key r = k))

lemma get?_eq_some_iff {t : Table key} {k : κ} {r : ρ} :
    t.get? k = some r ↔ r ∈ t ∧ key r = k := by
  constructor
  · intro h
    have hk := List.find?_some h
    exact ⟨List.mem_of_find?_eq_some h, by simpa using hk⟩
  · rintro ⟨hr, rfl⟩
    cases hs : t.get? (key r) with
    | none =>
      have hn := List.find?_eq_none.mp hs r hr
      simp at hn
    | some s =>
      have hk := List.find?_some hs
      rw [eq_of_key_eq (List.mem_of_find?_eq_some hs) hr (by simpa using hk)]

lemma get?_eq_none_iff {t : Table key} {k : κ} : t.get? k = none ↔ ∀ r ∈ t, key r ≠ k := by
  simp [get?, List.find?_eq_none, mem_def]

lemma get?_of_mem {t : Table key} {r : ρ} (hr : r ∈ t) : t.get? (key r) = some r :=
  get?_eq_some_iff.mpr ⟨hr, rfl⟩

@[simp] lemma get?_empty (k : κ) : (empty : Table key).get? k = none := rfl

/-- The rows of a key: the one that it determines, if there is one. -/
lemma select_key {t : Table key} {k : κ} : t.select (fun r => decide (key r = k)) = (t.get? k).toList := by
  obtain ⟨rows, hnodup⟩ := t
  simp only [select, get?]
  induction rows with
  | nil => rfl
  | cons r rows ih =>
    rw [List.map_cons, List.nodup_cons] at hnodup
    by_cases hk : key r = k
    · have hrest : rows.filter (fun s => decide (key s = k)) = [] := by
        refine List.filter_eq_nil_iff.mpr fun s hs => ?_
        simp only [decide_eq_true_eq]
        exact fun hs' => hnodup.1 (hk ▸ hs' ▸ List.mem_map_of_mem hs)
      simp [hk, hrest]
    · simp [hk, ih hnodup.2]

@[simp] lemma get?_update {t : Table key} {f : ρ → ρ} {hf : ∀ r, key (f r) = key r} {k : κ} :
    (t.update f hf).get? k = (t.get? k).map f := by
  simp only [get?, update, List.find?_map, Function.comp_def, hf]

lemma get?_restrict {t : Table key} {p : ρ → Bool} {k : κ} :
    (t.restrict p).get? k = (t.get? k).filter p := by
  cases h : t.get? k with
  | none =>
    refine get?_eq_none_iff.mpr fun r hr => ?_
    exact get?_eq_none_iff.mp h r (mem_restrict.mp hr).1
  | some r =>
    obtain ⟨hr, hk⟩ := get?_eq_some_iff.mp h
    by_cases hp : p r = true
    · rw [Option.filter_some, if_pos hp]
      exact get?_eq_some_iff.mpr ⟨mem_restrict.mpr ⟨hr, hp⟩, hk⟩
    · rw [Option.filter_some, if_neg hp]
      refine get?_eq_none_iff.mpr fun s hs hsk => hp ?_
      obtain ⟨hs, hps⟩ := mem_restrict.mp hs
      rw [← eq_of_key_eq hs hr (hsk.trans hk.symm)]
      exact hps

def modify (t : Table key) (k : κ) (f : ρ → ρ) (hf : ∀ r, key (f r) = key r) : Table key :=
  t.update (fun r => if key r = k then f r else r) (fun r => by split <;> simp [hf])

lemma mem_modify {t : Table key} {k : κ} {f : ρ → ρ} (hf : ∀ r, key (f r) = key r) {r : ρ} :
    r ∈ t.modify k f hf ↔ ∃ s ∈ t, (if key s = k then f s else s) = r :=
  mem_update _

lemma mem_modify_of_ne {t : Table key} {k : κ} {f : ρ → ρ} (hf : ∀ r, key (f r) = key r) {r : ρ}
    (hk : key r ≠ k) : r ∈ t.modify k f hf ↔ r ∈ t := by
  rw [mem_modify]
  constructor
  · rintro ⟨s, hs, rfl⟩
    by_cases hsk : key s = k
    · rw [if_pos hsk] at hk
      exact absurd ((hf s).trans hsk) hk
    · rw [if_neg hsk]
      exact hs
  · exact fun hr => ⟨r, hr, if_neg hk⟩

lemma modified_mem {t : Table key} {f : ρ → ρ} (hf : ∀ r, key (f r) = key r) {r : ρ}
    (hr : r ∈ t) : f r ∈ t.modify (key r) f hf := by
  refine (mem_modify hf).mpr ⟨r, hr, ?_⟩
  rw [if_pos rfl]

lemma kept_mem {t : Table key} {k : κ} {f : ρ → ρ} (hf : ∀ r, key (f r) = key r) {r : ρ}
    (hr : r ∈ t) (hk : key r ≠ k) : r ∈ t.modify k f hf := by
  refine (mem_modify hf).mpr ⟨r, hr, ?_⟩
  rw [if_neg hk]

lemma get?_modify_self {t : Table key} {k : κ} {f : ρ → ρ} {hf : ∀ r, key (f r) = key r} :
    (t.modify k f hf).get? k = (t.get? k).map f := by
  rw [modify, get?_update]
  cases h : t.get? k with
  | none => rfl
  | some r => simp [(get?_eq_some_iff.mp h).2]

lemma get?_modify_of_ne {t : Table key} {k l : κ} {f : ρ → ρ} {hf : ∀ r, key (f r) = key r}
    (h : l ≠ k) : (t.modify k f hf).get? l = t.get? l := by
  rw [modify, get?_update]
  cases hr : t.get? l with
  | none => rfl
  | some r => simp [(get?_eq_some_iff.mp hr).2, h]

/-- Add a row, refused when its key is taken or a row clashes with it under another constraint. -/
def insert? (t : Table key) (clash : ρ → Bool) (r : ρ) : Option (Table key) :=
  if h : (∀ s ∈ t.rows, key s ≠ key r) ∧ (∀ s ∈ t.rows, clash s = false) then
    some ⟨r :: t.rows, List.nodup_cons.mpr ⟨by simpa using h.1, t.nodup⟩⟩
  else none

lemma insert?_eq_some {t t' : Table key} {clash : ρ → Bool} {r : ρ}
    (h : t.insert? clash r = some t') :
    t'.rows = r :: t.rows ∧ t.get? (key r) = none ∧ ∀ s ∈ t, clash s = false := by
  simp only [insert?] at h
  split at h
  · rename_i hk
    obtain rfl := Option.some.inj h
    exact ⟨rfl, get?_eq_none_iff.mpr hk.1, hk.2⟩
  · cases h

lemma insert?_isSome {t : Table key} {clash : ρ → Bool} {r : ρ} (hk : t.get? (key r) = none)
    (hc : ∀ s ∈ t, clash s = false) : (t.insert? clash r).isSome := by
  rw [insert?, dif_pos ⟨get?_eq_none_iff.mp hk, hc⟩]
  rfl

lemma mem_insert {t t' : Table key} {clash : ρ → Bool} {r s : ρ}
    (h : t.insert? clash r = some t') : s ∈ t' ↔ s = r ∨ s ∈ t := by
  rw [mem_def, (insert?_eq_some h).1, List.mem_cons, mem_def]

lemma get?_insert_self {t t' : Table key} {clash : ρ → Bool} {r : ρ}
    (h : t.insert? clash r = some t') : t'.get? (key r) = some r :=
  get?_of_mem ((mem_insert h).mpr (Or.inl rfl))

lemma get?_insert_of_ne {t t' : Table key} {clash : ρ → Bool} {r : ρ} {k : κ}
    (h : t.insert? clash r = some t') (hk : k ≠ key r) : t'.get? k = t.get? k := by
  simp only [get?, (insert?_eq_some h).1, List.find?_cons, decide_eq_false hk.symm]

/-- Write a row over the row of its key, or add it. -/
def write (t : Table key) (r : ρ) : Table key where
  rows := r :: t.rows.filter fun s => decide (key s ≠ key r)
  nodup := by
    rw [List.map_cons, List.nodup_cons]
    refine ⟨fun hmem => ?_, t.nodup.sublist (List.filter_sublist.map key)⟩
    obtain ⟨s, hs, hkey⟩ := List.mem_map.mp hmem
    exact of_decide_eq_true (List.mem_filter.mp hs).2 hkey

lemma mem_write {t : Table key} {r s : ρ} : s ∈ t.write r ↔ s = r ∨ s ∈ t ∧ key s ≠ key r := by
  rw [mem_def, write, List.mem_cons, List.mem_filter, decide_eq_true_eq, mem_def]

def writeAll (t : Table key) (rs : List ρ) : Table key := rs.foldl write t

/-- A row of the table was there and no row has been written over it, or it was the last one written under its
key. -/
lemma mem_writeAll {t : Table key} {rs : List ρ} {s : ρ} :
    s ∈ t.writeAll rs ↔ (s ∈ t ∧ ∀ r ∈ rs, key r ≠ key s) ∨
      ∃ before after, rs = before ++ s :: after ∧ ∀ r ∈ after, key r ≠ key s := by
  induction rs generalizing t with
  | nil =>
    constructor
    · exact fun h => Or.inl ⟨h, nofun⟩
    · rintro (⟨h, -⟩ | ⟨before, after, hnil, -⟩)
      · exact h
      · cases before <;> cases hnil
  | cons r rs ih =>
    rw [writeAll, List.foldl_cons, ← writeAll, ih, mem_write]
    constructor
    · rintro (⟨rfl | ⟨hs, hne⟩, hlater⟩ | ⟨before, after, rfl, hlast⟩)
      · exact Or.inr ⟨[], rs, rfl, hlater⟩
      · exact Or.inl ⟨hs, List.forall_mem_cons.mpr ⟨hne.symm, hlater⟩⟩
      · exact Or.inr ⟨r :: before, after, rfl, hlast⟩
    · rintro (⟨hs, hnone⟩ | ⟨before, after, hsplit, hlast⟩)
      · obtain ⟨hne, hlater⟩ := List.forall_mem_cons.mp hnone
        exact Or.inl ⟨Or.inr ⟨hs, hne.symm⟩, hlater⟩
      · cases before with
        | nil =>
          obtain ⟨rfl, rfl⟩ := List.cons.inj hsplit
          exact Or.inl ⟨Or.inl rfl, hlast⟩
        | cons b before =>
          obtain ⟨rfl, rfl⟩ := List.cons.inj hsplit
          exact Or.inr ⟨before, after, rfl, hlast⟩

def Extends (t' t : Table key) : Prop := ∀ r ∈ t, r ∈ t'

omit [DecidableEq κ] in
lemma Extends.refl (t : Table key) : t.Extends t := fun _ h => h

omit [DecidableEq κ] in
lemma Extends.trans {t t' t'' : Table key} (h' : t''.Extends t') (h : t'.Extends t) :
    t''.Extends t := fun r hr => h' r (h r hr)

lemma Extends.get? {t t' : Table key} {k : κ} {r : ρ} (h : t'.Extends t)
    (hr : t.get? k = some r) : t'.get? k = some r := by
  obtain ⟨hm, rfl⟩ := get?_eq_some_iff.mp hr
  exact get?_of_mem (h r hm)

lemma extends_insert {t t' : Table key} {clash : ρ → Bool} {r : ρ}
    (h : t.insert? clash r = some t') : t'.Extends t :=
  fun _ hs => (mem_insert h).mpr (Or.inr hs)

end Table

end SecScanMonitor.Foundations
