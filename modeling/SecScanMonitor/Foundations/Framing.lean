import SecScanMonitor.Foundations.Cuts
import SecScanMonitor.Foundations.Dict
import SecScanMonitor.Foundations.SortBy

/-! Listings of entries as one byte string, where a zero byte ends every path and every content. Contents may
hold zeros themselves, so a content can hold what looks like further entries. -/

namespace SecScanMonitor.Foundations

/-- The bytes of paths and contents. -/
structure Framing (Path Content : Type) where
  path : Path → List UInt8
  content : Content → List UInt8
  /-- Which paths a listing may hold, and which of them may follow a path. -/
  allowed : Path → Prop
  before : Path → Path → Prop
  zero_notMem : ∀ p, allowed p → (0 : UInt8) ∉ path p
  cut : ∀ c x y, content c = x ++ 0 :: y → (∃ d, content d = x) ∧ ∃ d, content d = y
  join : ∀ c p d, ∃ e, content e = content c ++ 0 :: (path p ++ 0 :: content d)

namespace Framing

variable {Path Content : Type} (f : Framing Path Content)

def frame (entries : List (Path × Content)) : List UInt8 :=
  entries.flatMap fun e => f.path e.1 ++ 0 :: (f.content e.2 ++ [0])

def Listed (entries : List (Path × Content)) : Prop :=
  (∀ e ∈ entries, f.allowed e.1) ∧ entries.Pairwise fun a b => f.before a.1 b.1

/-- The content holds an entry that may follow the path. -/
def Mimics (p : Path) (c : Content) : Prop :=
  ∃ x q y, f.content c = x ++ 0 :: (f.path q ++ 0 :: y) ∧ f.allowed q ∧ f.before p q

/-- No other listing has the bytes of this one. -/
def Unmistakable : List (Path × Content) → Prop
  | [] => True
  | [(p, c)] => (∀ q, f.allowed q → f.path q = f.path p → q = p) ∧
      (∀ d, f.content d = f.content c → d = c) ∧ ¬ f.Mimics p c
  | _ :: _ :: _ => False

variable {f}

@[simp] lemma frame_nil : f.frame [] = [] := rfl

@[simp] lemma frame_cons (e : Path × Content) (entries : List (Path × Content)) :
    f.frame (e :: entries) = f.path e.1 ++ 0 :: (f.content e.2 ++ 0 :: f.frame entries) := by
  simp [frame]

/-- The bytes of two entries and more are those of one entry. -/
lemma exists_merged (c : Content) (e : Path × Content) (entries : List (Path × Content)) :
    ∃ d, f.content d ++ [0] = f.content c ++ 0 :: f.frame (e :: entries) := by
  induction entries generalizing c e with
  | nil =>
    obtain ⟨d, hd⟩ := f.join c e.1 e.2
    exact ⟨d, by rw [hd, frame_cons, frame_nil]; simp⟩
  | cons e' entries ih =>
    obtain ⟨d, hd⟩ := f.join c e.1 e.2
    obtain ⟨d', hd'⟩ := ih d e'
    refine ⟨d', ?_⟩
    rw [hd', hd, frame_cons e]
    simp

/-- What ends with the bytes of an entry ends with a zero. -/
lemma frame_ends (e : Path × Content) (entries : List (Path × Content)) :
    ∃ y, f.frame (e :: entries) = f.path e.1 ++ 0 :: (y ++ [0]) := by
  induction entries generalizing e with
  | nil => exact ⟨f.content e.2, by simp⟩
  | cons e' entries ih =>
    obtain ⟨y, hy⟩ := ih e'
    exact ⟨f.content e.2 ++ 0 :: (f.path e'.1 ++ 0 :: y), by rw [frame_cons, hy]; simp⟩

lemma listed_singleton {p : Path} {c : Content} : f.Listed [(p, c)] ↔ f.allowed p :=
  ⟨fun h => h.1 _ List.mem_cons_self,
    fun h => ⟨List.forall_mem_singleton.mpr h, List.pairwise_singleton _ _⟩⟩

lemma listed_pair {p q : Path} {c d : Content} :
    f.Listed [(p, c), (q, d)] ↔ (f.allowed p ∧ f.allowed q) ∧ f.before p q := by
  rw [Listed, List.pairwise_pair, List.forall_mem_cons, List.forall_mem_singleton]

lemma unmistakable_single {p : Path} {c : Content} (hp : f.allowed p)
    (hpath : ∀ q, f.allowed q → f.path q = f.path p → q = p)
    (hcontent : ∀ d, f.content d = f.content c → d = c) (hmimics : ¬ f.Mimics p c)
    {entries : List (Path × Content)} (hlisted : f.Listed entries)
    (h : f.frame entries = f.frame [(p, c)]) : entries = [(p, c)] := by
  cases entries with
  | nil => simp at h
  | cons e rest =>
    obtain ⟨hallowed, hpairs⟩ := hlisted
    rw [List.forall_mem_cons] at hallowed
    rw [frame_cons, frame_cons] at h
    obtain ⟨hsame, h⟩ := first_cut (f.zero_notMem e.1 hallowed.1) (f.zero_notMem p hp) h
    have hfirst := hpath _ hallowed.1 hsame
    cases rest with
    | nil =>
      rw [frame_nil] at h
      have hc := List.append_cancel_right h
      have hentry : e = (p, c) := Prod.ext hfirst (hcontent _ hc)
      rw [hentry]
    | cons e' rest =>
      -- the second entry lies inside the content
      obtain ⟨y, hy⟩ := frame_ends e' rest
      rw [hy, frame_nil] at h
      refine absurd ⟨f.content e.2, e'.1, y, ?_, ?_, ?_⟩ hmimics
      · apply @List.append_cancel_right _ _ [0]
        rw [← h]
        simp
      · exact hallowed.2 e' List.mem_cons_self
      · rw [← hfirst]
        exact (List.pairwise_cons.mp hpairs).1 e' List.mem_cons_self

/-- Exactly the listings of at most one entry, with a content that holds no further one, are told apart by
their bytes from every other listing. -/
theorem unmistakable_iff {entries : List (Path × Content)} (hentries : ∀ e ∈ entries, f.allowed e.1) :
    (∀ other, f.Listed other → f.frame other = f.frame entries → other = entries) ↔
      f.Unmistakable entries := by
  match entries with
  | [] =>
    refine ⟨fun _ => trivial, fun _ other _ h => ?_⟩
    cases other with
    | nil => rfl
    | cons e other => simp at h
  | [(p, c)] =>
    have hp := hentries _ List.mem_cons_self
    constructor
    · intro h
      refine ⟨fun q hallowed hq => ?_, fun d hd => ?_, ?_⟩
      · have hsame := h [(q, c)] (listed_singleton.mpr hallowed)
          (by rw [frame_cons, frame_cons, hq])
        exact congrArg Prod.fst (List.cons.inj hsame).1
      · have hsame := h [(p, d)] (listed_singleton.mpr hp) (by rw [frame_cons, frame_cons, hd])
        exact congrArg Prod.snd (List.cons.inj hsame).1
      · rintro ⟨x, q, y, hc, hallowed, hbefore⟩
        obtain ⟨⟨d, rfl⟩, d', hd'⟩ := f.cut c x _ hc
        obtain ⟨-, e, rfl⟩ := f.cut d' _ y hd'
        have hsame := h [(p, d), (q, e)] (listed_pair.mpr ⟨⟨hp, hallowed⟩, hbefore⟩) ?_
        · exact absurd (congrArg List.length hsame) (by simp)
        · simp only [frame_cons, frame_nil, hc]
          simp
    · rintro ⟨hpath, hcontent, hmimics⟩ other hlisted h
      exact unmistakable_single hp hpath hcontent hmimics hlisted h
  | e :: e' :: rest =>
    refine ⟨fun h => ?_, False.elim⟩
    obtain ⟨d, hd⟩ := exists_merged e.2 e' rest
    have hsame := h [(e.1, d)] (listed_singleton.mpr (hentries e List.mem_cons_self)) ?_
    · exact absurd (congrArg List.length hsame) (by simp)
    · rw [frame_cons, frame_nil, hd, frame_cons e]

/-- Contents without zeros leave no doubt where an entry ends. -/
theorem frame_inj {entries other : List (Path × Content)}
    (hallowed : ∀ e ∈ entries ++ other, f.allowed e.1)
    (hzero : ∀ e ∈ entries ++ other, (0 : UInt8) ∉ f.content e.2)
    (hinj : ∀ e ∈ entries, ∀ e' ∈ other, f.path e.1 = f.path e'.1 → f.content e.2 = f.content e'.2 →
      e = e')
    (h : f.frame entries = f.frame other) : entries = other := by
  induction entries generalizing other with
  | nil =>
    cases other with
    | nil => rfl
    | cons e' other => simp at h
  | cons e entries ih =>
    cases other with
    | nil => simp at h
    | cons e' other =>
      rw [List.forall_mem_append, List.forall_mem_cons, List.forall_mem_cons] at hallowed hzero
      rw [frame_cons, frame_cons] at h
      obtain ⟨hp, h⟩ := first_cut (f.zero_notMem _ hallowed.1.1) (f.zero_notMem _ hallowed.2.1) h
      obtain ⟨hc, h⟩ := first_cut hzero.1.1 hzero.2.1 h
      rw [hinj e List.mem_cons_self e' List.mem_cons_self hp hc]
      congr 1
      refine ih ?_ ?_ (fun a ha b hb => hinj a (List.mem_cons_of_mem _ ha) b
        (List.mem_cons_of_mem _ hb)) h
      · exact List.forall_mem_append.mpr ⟨hallowed.1.2, hallowed.2.2⟩
      · exact List.forall_mem_append.mpr ⟨hzero.1.2, hzero.2.2⟩

end Framing

namespace Dict

variable {κ ν : Type} [LinearOrder κ]

/-- `sorted(d.items())`; the keys are distinct, so that no two values are compared. -/
def sortedItems (d : Dict κ ν) : List (κ × ν) := sortBy Prod.fst d.rows

@[simp] lemma mem_sortedItems {d : Dict κ ν} {e : κ × ν} : e ∈ d.sortedItems ↔ e ∈ d := mem_sortBy

lemma sortedItems_strict (d : Dict κ ν) : d.sortedItems.Pairwise fun a b => a.1 < b.1 := by
  have hkeys : (d.sortedItems.map Prod.fst).Nodup :=
    (sortBy_perm.map Prod.fst).nodup_iff.mpr d.nodup
  have hne : d.sortedItems.Pairwise fun a b => a.1 ≠ b.1 := List.pairwise_map.mp hkeys
  refine (sortBy_sorted.and hne).imp ?_
  rintro a b ⟨hle, hdistinct⟩
  exact lt_of_le_of_ne hle hdistinct

lemma sortedItems_eq_iff [DecidableEq κ] {d d' : Dict κ ν} :
    d.sortedItems = d'.sortedItems ↔ ∀ k, d.find? k = d'.find? k := by
  constructor
  · intro h k
    apply Option.ext
    intro v
    rw [find?_eq_some_iff, find?_eq_some_iff, ← mem_sortedItems, h, mem_sortedItems]
  · intro h
    have hrows : ∀ e : κ × ν, e ∈ d.rows ↔ e ∈ d'.rows := fun e => by
      rw [← Table.mem_def, ← Table.mem_def, ← find?_eq_some_iff, ← find?_eq_some_iff, h]
    have hperm := (List.perm_ext_iff_of_nodup (List.Nodup.of_map _ d.nodup)
      (List.Nodup.of_map _ d'.nodup)).mpr hrows
    exact sortBy_eq_of_perm d.nodup hperm

/-- Every list of entries that is strictly sorted is the listing of a dictionary. -/
lemma exists_sortedItems {entries : List (κ × ν)} (h : entries.Pairwise fun a b => a.1 < b.1) :
    ∃ d : Dict κ ν, d.sortedItems = entries := by
  refine ⟨⟨entries, List.pairwise_map.mpr (h.imp ne_of_lt)⟩, ?_⟩
  exact sortBy_of_sorted (h.imp le_of_lt)

end Dict

end SecScanMonitor.Foundations
