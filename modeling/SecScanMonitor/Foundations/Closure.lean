import Mathlib.Data.List.Dedup
import Mathlib.Logic.Relation

/-! Rows that name others by key, and the loading of everything that some rows lead to: batch by batch, each batch
the rows that the one before it names and that are not loaded yet. -/

namespace SecScanMonitor.Foundations.Closure

universe u v

variable {κ : Type u} {ρ : Type v} [DecidableEq κ] (key : ρ → κ) (next : ρ → List κ) (rows : List ρ)

/-- The keys that a batch names beyond those of the loaded rows. -/
def pending (loaded batch : List ρ) : List κ :=
  ((batch.flatMap next).filter fun k => decide (k ∉ loaded.map key)).dedup

def fetch (keys : List κ) : List ρ := rows.filter fun r => decide (key r ∈ keys)

/-- The rows that are not loaded. -/
def missing (loaded : List ρ) : List ρ := rows.filter fun r => decide (key r ∉ loaded.map key)

variable {key next rows}

lemma mem_pending {loaded batch : List ρ} {k : κ} :
    k ∈ pending key next loaded batch ↔ (∃ r ∈ batch, k ∈ next r) ∧ k ∉ loaded.map key := by
  rw [pending, List.mem_dedup, List.mem_filter, List.mem_flatMap, decide_eq_true_eq]

lemma mem_fetch {keys : List κ} {r : ρ} : r ∈ fetch key rows keys ↔ r ∈ rows ∧ key r ∈ keys := by
  rw [fetch, List.mem_filter, decide_eq_true_eq]

/-- A batch that is found leaves fewer rows to load. -/
lemma missing_lt {loaded batch : List ρ} (hpending : pending key next loaded batch ≠ [])
    (hfound : ∀ k ∈ pending key next loaded batch,
      k ∈ (fetch key rows (pending key next loaded batch)).map key) :
    (missing key rows (loaded ++ fetch key rows (pending key next loaded batch))).length <
      (missing key rows loaded).length := by
  obtain ⟨k, hk⟩ := List.exists_mem_of_ne_nil _ hpending
  obtain ⟨r, hr, rfl⟩ := List.mem_map.mp (hfound k hk)
  have hsplit : missing key rows (loaded ++ fetch key rows (pending key next loaded batch)) =
      (missing key rows loaded).filter fun s =>
        decide (key s ∉ (fetch key rows (pending key next loaded batch)).map key) := by
    rw [missing, missing, List.filter_filter]
    apply List.filter_congr
    intro s _
    simp only [List.map_append, List.mem_append, not_or, Bool.decide_and, Bool.and_comm]
  rw [hsplit]
  apply List.length_filter_lt_length_iff_exists.mpr
  refine ⟨r, List.mem_filter.mpr ⟨(mem_fetch.mp hr).1, ?_⟩, ?_⟩
  · exact decide_eq_true (mem_pending.mp hk).2
  · simpa using hfound _ hk

variable (key next rows)

/-- Load batch after batch until none names a row that is not loaded; nothing, where one of them is absent. -/
def closeOver (loaded batch : List ρ) : Option (List ρ) :=
  if hpending : pending key next loaded batch = [] then some loaded
  else if hfound : ∀ k ∈ pending key next loaded batch,
      k ∈ (fetch key rows (pending key next loaded batch)).map key then
    have := missing_lt hpending hfound
    closeOver (loaded ++ fetch key rows (pending key next loaded batch))
      (fetch key rows (pending key next loaded batch))
  else none
termination_by (missing key rows loaded).length

/-- The row of one key names another. -/
def Names (k l : κ) : Prop := ∃ r ∈ rows, key r = k ∧ l ∈ next r

/-- Some of the rows lead to the key. -/
def Reaches (roots : List ρ) (k : κ) : Prop :=
  ∃ r ∈ roots, Relation.ReflTransGen (Names key next rows) (key r) k

variable {key next rows}

lemma Reaches.fetched {loaded batch : List ρ} (hrows : ∀ r ∈ loaded, r ∈ rows)
    (hbatch : ∀ r ∈ batch, r ∈ loaded) {k : κ}
    (hk : Reaches key next rows (loaded ++ fetch key rows (pending key next loaded batch)) k) :
    Reaches key next rows loaded k := by
  obtain ⟨r, hr, hpath⟩ := hk
  rcases List.mem_append.mp hr with hr | hr
  · exact ⟨r, hr, hpath⟩
  · obtain ⟨⟨s, hs, hnext⟩, -⟩ := mem_pending.mp (mem_fetch.mp hr).2
    have hstep : Names key next rows (key s) (key r) := ⟨s, hrows s (hbatch s hs), rfl, hnext⟩
    exact ⟨s, hbatch s hs, hpath.head hstep⟩

/-- All rows but those of the batch name loaded rows only. -/
def ClosedBut (key : ρ → κ) (next : ρ → List κ) (loaded batch : List ρ) : Prop :=
  ∀ r ∈ loaded, r ∈ batch ∨ ∀ k ∈ next r, k ∈ loaded.map key

lemma ClosedBut.fetched {loaded batch : List ρ} (h : ClosedBut key next loaded batch)
    (hfound : ∀ k ∈ pending key next loaded batch,
      k ∈ (fetch key rows (pending key next loaded batch)).map key) :
    ClosedBut key next (loaded ++ fetch key rows (pending key next loaded batch))
      (fetch key rows (pending key next loaded batch)) := by
  intro r hr
  rcases List.mem_append.mp hr with hr | hr
  · right
    intro k hk
    rw [List.map_append, List.mem_append]
    by_cases hloaded : k ∈ loaded.map key
    · exact Or.inl hloaded
    right
    rcases h r hr with hbatch | hclosed
    · exact hfound k (mem_pending.mpr ⟨⟨r, hbatch, hk⟩, hloaded⟩)
    · exact absurd (hclosed k hk) hloaded
  · exact Or.inl hr

/-- What is loaded contains the roots and what they lead to, and nothing else. -/
theorem closeOver_sound {loaded batch out : List ρ} (hrows : ∀ r ∈ loaded, r ∈ rows)
    (hbatch : ∀ r ∈ batch, r ∈ loaded) (hclosed : ClosedBut key next loaded batch)
    (h : closeOver key next rows loaded batch = some out) :
    (∀ r ∈ loaded, r ∈ out) ∧ (∀ r ∈ out, r ∈ rows ∧ Reaches key next rows loaded (key r)) ∧
      ∀ r ∈ out, ∀ k ∈ next r, k ∈ out.map key := by
  induction loaded, batch using closeOver.induct key next rows with
  | case1 loaded batch hpending =>
    rw [closeOver, dif_pos hpending] at h
    obtain rfl := Option.some.inj h
    refine ⟨fun r hr => hr, fun r hr => ⟨hrows r hr, r, hr, .refl⟩, fun r hr k hk => ?_⟩
    by_contra hmissing
    rcases hclosed r hr with hin | hnext
    · have hk : k ∈ pending key next loaded batch := mem_pending.mpr ⟨⟨r, hin, hk⟩, hmissing⟩
      rw [hpending] at hk
      cases hk
    · exact hmissing (hnext k hk)
  | case2 loaded batch hpending hfound _ ih =>
    rw [closeOver, dif_neg hpending, dif_pos hfound] at h
    have hrows' : ∀ r ∈ loaded ++ fetch key rows (pending key next loaded batch), r ∈ rows := by
      intro r hr
      rcases List.mem_append.mp hr with hr | hr
      · exact hrows r hr
      · exact (mem_fetch.mp hr).1
    obtain ⟨hkept, hout, hends⟩ := ih hrows' (fun r => List.mem_append_right loaded)
      (hclosed.fetched hfound) h
    refine ⟨fun r hr => hkept r (List.mem_append_left _ hr), fun r hr => ?_, hends⟩
    exact ⟨(hout r hr).1, (hout r hr).2.fetched hrows hbatch⟩
  | case3 loaded batch hpending hfound =>
    rw [closeOver, dif_neg hpending, dif_neg hfound] at h
    cases h

omit [DecidableEq κ] in
/-- Everything that the roots lead to is loaded. -/
lemma closed_reaches {roots out : List ρ} (hroots : ∀ r ∈ roots, r ∈ out)
    (hunique : ∀ r ∈ rows, ∀ s ∈ out, key r = key s → r = s)
    (hends : ∀ r ∈ out, ∀ k ∈ next r, k ∈ out.map key) {k : κ}
    (hk : Reaches key next rows roots k) : k ∈ out.map key := by
  obtain ⟨r, hr, hpath⟩ := hk
  induction hpath with
  | refl => exact List.mem_map_of_mem (hroots r hr)
  | tail _ hstep ih =>
    obtain ⟨s, hs, rfl, hnext⟩ := hstep
    obtain ⟨t, ht, hkey⟩ := List.mem_map.mp ih
    obtain rfl := hunique s hs t ht hkey.symm
    exact hends s ht _ hnext

/-- The loading comes to its end exactly where no key that the roots lead to is absent. -/
theorem closeOver_isSome {loaded batch : List ρ} (hrows : ∀ r ∈ loaded, r ∈ rows)
    (hbatch : ∀ r ∈ batch, r ∈ loaded)
    (hpresent : ∀ k, Reaches key next rows loaded k → k ∈ rows.map key) :
    ∃ out, closeOver key next rows loaded batch = some out := by
  induction loaded, batch using closeOver.induct key next rows with
  | case1 loaded batch hpending => exact ⟨loaded, by rw [closeOver, dif_pos hpending]⟩
  | case2 loaded batch hpending hfound _ ih =>
    rw [closeOver, dif_neg hpending, dif_pos hfound]
    refine ih ?_ (fun r => List.mem_append_right loaded) fun k hk =>
      hpresent k (hk.fetched hrows hbatch)
    intro r hr
    rcases List.mem_append.mp hr with hr | hr
    · exact hrows r hr
    · exact (mem_fetch.mp hr).1
  | case3 loaded batch hpending hfound =>
    refine absurd (fun k hk => ?_) hfound
    obtain ⟨⟨r, hr, hnext⟩, -⟩ := mem_pending.mp hk
    have hstep : Names key next rows (key r) k := ⟨r, hrows r (hbatch r hr), rfl, hnext⟩
    obtain ⟨s, hs, rfl⟩ := List.mem_map.mp (hpresent k ⟨r, hbatch r hr, .single hstep⟩)
    exact List.mem_map_of_mem (mem_fetch.mpr ⟨hs, hk⟩)

end SecScanMonitor.Foundations.Closure
