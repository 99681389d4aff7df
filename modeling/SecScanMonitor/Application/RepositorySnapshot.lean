import SecScanMonitor.Foundations.CodePoints
import SecScanMonitor.Foundations.Framing

/-! The snapshot of a repository (`RepositorySnapshot` of `application/security_services.py`) and the bytes whose
digest names it. -/

namespace SecScanMonitor.Application

open Foundations

/-- Inspection input: the text of every file, by path. -/
structure RepositorySnapshot where
  targetId : Str
  snapshotId : Str
  targetIdentity : Str
  files : Dict Str Str
  sourceIdentity : Str

namespace RepositorySnapshot

def digestInput (files : Dict Str Str) : List UInt8 :=
  Str.encodeReplace (files.sortedItems.flatMap fun e =>
    e.1 ++ CodePoint.nul :: (e.2 ++ [CodePoint.nul]))

/-- `from_files`; `sha256` is the digest in hexadecimal. -/
def fromFiles (sha256 : List UInt8 → Str) (targetId targetIdentity : Str) (files : Dict Str Str)
    (snapshotId : Option Str) (sourceIdentity : Str) : RepositorySnapshot where
  targetId
  snapshotId :=
    match snapshotId with
    | none | some [] => Str.ofString "SNAP-" ++ (sha256 (digestInput files)).take 20
    | some id => id
  targetIdentity
  files
  sourceIdentity

/-- Paths and contents are texts; no path holds a NUL. -/
def framing : Framing Str Str where
  path := Str.encodeReplace
  content := Str.encodeReplace
  allowed p := CodePoint.nul ∉ p
  before p q := p < q
  zero_notMem _ := Str.zero_notMem
  cut c x y h := by
    obtain ⟨t, u, -, ht, hu⟩ := Str.cut h
    exact ⟨⟨t, ht⟩, u, hu⟩
  join c p d := ⟨c ++ CodePoint.nul :: (p ++ CodePoint.nul :: d), by
    simp only [Str.encodeReplace_append, Str.encodeReplace_cons]
    rfl⟩

def NulFree (files : Dict Str Str) : Prop := ∀ e ∈ files, CodePoint.nul ∉ e.1

/-- No other files have the same hashed bytes. -/
def TamperEvident (files : Dict Str Str) : Prop :=
  ∀ other, NulFree other → digestInput other = digestInput files →
    ∀ path, other.find? path = files.find? path

/-- At most one file, whose path and content are written faithfully, and no part of the content between two NULs
sorts after the path. -/
structure Unmistakable (files : Dict Str Str) : Prop where
  single : files.rows.length ≤ 1
  faithful : ∀ e ∈ files, ∀ p ∈ e.1 ++ e.2, p.Faithful
  unmimicked : ∀ e ∈ files, ∀ x q y,
    e.2 = x ++ CodePoint.nul :: (q ++ CodePoint.nul :: y) → CodePoint.nul ∉ q → ¬ e.1 < q

/-- Files whose contents have no NUL, and which have no lone surrogates. -/
structure Plain (files : Dict Str Str) : Prop where
  nulFree : NulFree files
  scalars : ∀ e ∈ files, ∀ p ∈ e.1 ++ e.2, p.isScalar = true
  contents : ∀ e ∈ files, CodePoint.nul ∉ e.2

variable {files other : Dict Str Str}

lemma digestInput_eq (files : Dict Str Str) :
    digestInput files = framing.frame files.sortedItems := by
  rw [digestInput, Str.encodeReplace, List.flatMap_assoc, Framing.frame]
  congr 1
  funext e
  exact (Str.encodeReplace_append _ _).trans
    (congrArg (_ ++ 0 :: ·) (Str.encodeReplace_append _ [CodePoint.nul]))

lemma listed (h : NulFree files) : framing.Listed files.sortedItems :=
  ⟨fun e he => h e (Dict.mem_sortedItems.mp he), files.sortedItems_strict⟩

/-- What holds of the listings holds of the files. -/
lemma tamperEvident_iff_listings :
    TamperEvident files ↔ ∀ entries, framing.Listed entries →
      framing.frame entries = framing.frame files.sortedItems → entries = files.sortedItems := by
  constructor
  · rintro h entries ⟨hallowed, hsorted⟩ hframe
    obtain ⟨other, rfl⟩ := Dict.exists_sortedItems hsorted
    refine Dict.sortedItems_eq_iff.mpr (h other ?_ ?_)
    · exact fun e he => hallowed e (Dict.mem_sortedItems.mpr he)
    · rw [digestInput_eq, digestInput_eq, hframe]
  · intro h other hother hbytes
    rw [digestInput_eq, digestInput_eq] at hbytes
    exact Dict.sortedItems_eq_iff.mp (h _ (listed hother) hbytes)

lemma unique_path_iff {p : Str} (hp : CodePoint.nul ∉ p) :
    (∀ q, framing.allowed q → framing.path q = framing.path p → q = p) ↔ ∀ c ∈ p, c.Faithful := by
  constructor
  · intro h
    by_contra hunfaithful
    refine Str.swap_ne hunfaithful (h _ ?_ (Str.encodeReplace_map CodePoint.encodeReplace_swap p))
    exact fun hnul => hp ((Str.mem_map_swap_iff CodePoint.nul_faithful).mp hnul)
  · exact fun h q _ hq => Str.eq_of_faithful h hq

lemma unique_content_iff {c : Str} :
    (∀ d, framing.content d = framing.content c → d = c) ↔ ∀ p ∈ c, p.Faithful := by
  constructor
  · intro h
    by_contra hunfaithful
    exact Str.swap_ne hunfaithful (h _ (Str.encodeReplace_map CodePoint.encodeReplace_swap c))
  · exact fun h d hd => Str.eq_of_faithful h hd

/-- A faithful content holds no further entry in its bytes exactly where it holds none in its text. -/
lemma mimics_iff {p c : Str} (hc : ∀ q ∈ c, q.Faithful) :
    framing.Mimics p c ↔ ∃ x q y, c = x ++ CodePoint.nul :: (q ++ CodePoint.nul :: y) ∧
      CodePoint.nul ∉ q ∧ p < q := by
  constructor
  · rintro ⟨x, q, y, hbytes, hq, hlt⟩
    obtain ⟨t, u, rfl, -, hu⟩ := Str.cut hbytes
    obtain ⟨v, w, rfl, hv, -⟩ := Str.cut hu
    have hfaithful : ∀ r ∈ v, r.Faithful := fun r hr => hc r (by simp [hr])
    rw [Str.eq_of_faithful hfaithful hv.symm] at hq hlt
    exact ⟨t, v, w, rfl, hq, hlt⟩
  · rintro ⟨x, q, y, rfl, hq, hlt⟩
    refine ⟨Str.encodeReplace x, q, Str.encodeReplace y, ?_, hq, hlt⟩
    simp only [framing, Str.encodeReplace_append, Str.encodeReplace_cons]
    rfl

lemma unmistakable_iff (h : NulFree files) :
    framing.Unmistakable files.sortedItems ↔ Unmistakable files := by
  have hmem : ∀ e, e ∈ files ↔ e ∈ files.sortedItems := fun e => Dict.mem_sortedItems.symm
  have hlength : files.sortedItems.length = files.rows.length := List.length_insertionSort _ _
  match hentries : files.sortedItems with
  | [] =>
    rw [hentries] at hlength
    refine ⟨fun _ => ⟨?_, ?_, ?_⟩, fun _ => trivial⟩
    · rw [← hlength]
      exact Nat.zero_le 1
    · intro e he
      rw [hmem, hentries] at he
      cases he
    · intro e he
      rw [hmem, hentries] at he
      cases he
  | [(p, c)] =>
    rw [hentries] at hlength
    have hp : CodePoint.nul ∉ p := h (p, c) ((hmem _).mpr (by rw [hentries]; exact List.mem_cons_self))
    have hone : ∀ e ∈ files, e = (p, c) := fun e he => by
      rw [hmem, hentries] at he
      exact List.mem_singleton.mp he
    have hfile : (p, c) ∈ files := (hmem _).mpr (by rw [hentries]; exact List.mem_cons_self)
    constructor
    · rintro ⟨hpath, hcontent, hmimics⟩
      rw [unique_path_iff hp] at hpath
      rw [unique_content_iff] at hcontent
      refine ⟨hlength.symm.le, fun e he => ?_, fun e he x q y hc hq hlt => ?_⟩
      · rw [hone e he]
        exact List.forall_mem_append.mpr ⟨hpath, hcontent⟩
      · rw [hone e he] at hc hlt
        exact hmimics ((mimics_iff hcontent).mpr ⟨x, q, y, hc, hq, hlt⟩)
    · intro hfiles
      obtain ⟨hpath, hcontent⟩ := List.forall_mem_append.mp (hfiles.faithful _ hfile)
      refine ⟨(unique_path_iff hp).mpr hpath, unique_content_iff.mpr hcontent, fun hmimics => ?_⟩
      obtain ⟨x, q, y, hc, hq, hlt⟩ := (mimics_iff hcontent).mp hmimics
      exact hfiles.unmimicked _ hfile x q y hc hq hlt
  | e :: e' :: rest =>
    rw [hentries] at hlength
    refine ⟨False.elim, fun hfiles => ?_⟩
    have hsingle := hfiles.single
    rw [← hlength] at hsingle
    simp at hsingle

/-- The files that their hashed bytes tell apart from all others. -/
theorem tamperEvident_iff (h : NulFree files) : TamperEvident files ↔ Unmistakable files := by
  rw [tamperEvident_iff_listings, Framing.unmistakable_iff (listed h).1, unmistakable_iff h]

/-- Plain files are told apart from each other. -/
theorem Plain.digestInput_inj (h : Plain files) (h' : Plain other)
    (hbytes : digestInput files = digestInput other) (path : Str) :
    files.find? path = other.find? path := by
  rw [digestInput_eq, digestInput_eq] at hbytes
  refine Dict.sortedItems_eq_iff.mp (Framing.frame_inj ?_ ?_ ?_ hbytes) path
  · exact List.forall_mem_append.mpr ⟨(listed h.nulFree).1, (listed h'.nulFree).1⟩
  · refine List.forall_mem_append.mpr ⟨fun e he => ?_, fun e he => ?_⟩
    · exact Str.zero_notMem (h.contents e (Dict.mem_sortedItems.mp he))
    · exact Str.zero_notMem (h'.contents e (Dict.mem_sortedItems.mp he))
  · intro e he e' he' hpath hcontent
    obtain ⟨hp, hc⟩ := List.forall_mem_append.mp (h.scalars e (Dict.mem_sortedItems.mp he))
    obtain ⟨hp', hc'⟩ := List.forall_mem_append.mp (h'.scalars e' (Dict.mem_sortedItems.mp he'))
    exact Prod.ext (Str.encodeReplace_injOn hp hp' hpath) (Str.encodeReplace_injOn hc hc' hcontent)

end RepositorySnapshot

end SecScanMonitor.Application
