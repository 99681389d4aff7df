import Mathlib.Algebra.Order.BigOperators.Group.List
import SecScanMonitor.Application.RepositorySnapshot
import SecScanMonitor.Domain.Parsed

/-! The digests of file trees (`capabilities/scanner_adapters.py`): the snapshot that a scanner reads and the cache
that its manifest vouches for. -/

namespace SecScanMonitor.Capabilities

open Foundations Domain

def slash : CodePoint := .scalar '/'

def isPart (part : Str) : Bool :=
  !part.isEmpty && decide (part ≠ Str.ofString ".") && decide (part ≠ Str.ofString "..") &&
    decide (CodePoint.nul ∉ part) && decide (slash ∉ part)

/-- The path of a file below a directory. -/
structure RelPath where
  parts : List Str
  nonempty : parts ≠ []
  valid : parts.all isPart = true
  deriving DecidableEq

namespace RelPath

@[ext] lemma ext {p q : RelPath} (h : p.parts = q.parts) : p = q := by
  cases p
  cases q
  congr

instance : LinearOrder RelPath := LinearOrder.lift' parts fun _ _ => ext

def asPosix (p : RelPath) : Str := [slash].intercalate p.parts

def name (p : RelPath) : Str := p.parts.getLast p.nonempty

end RelPath

/-- The files below a directory; no file is a directory of another. -/
structure Tree where
  files : Dict RelPath (List UInt8)
  consistent : ∀ e ∈ files, ∀ e' ∈ files, e.1.parts <+: e'.1.parts → e.1 = e'.1

def manifestName : Str := Str.ofString "manifest.json"

/-- What is hashed of the files of a walk. -/
def hashed (files : List (RelPath × List UInt8)) : List UInt8 :=
  files.flatMap fun e => e.1.asPosix.encodeReplace ++ 0 :: (e.2 ++ [0])

def snapshotDigestInput (tree : Tree) : List UInt8 := hashed (sortBy Prod.fst tree.files.rows)

def cacheDigestInput (tree : Tree) : List UInt8 :=
  hashed (sortBy Prod.fst (tree.files.rows.filter fun e => decide (e.1.name ≠ manifestName)))

def rootManifest : RelPath where
  parts := [manifestName]
  nonempty := List.cons_ne_nil _ _
  valid := by decide

def isDigest (s : Str) : Bool :=
  decide (s.length = 64) && s.all fun c =>
    match c with
    | .scalar d => d.isDigit || (decide ('a' ≤ d) && decide (d ≤ 'f'))
    | .surrogate _ => false

/-- `_read_cache_manifest`; `readText` decodes the bytes of a file. -/
def readCacheManifest (py : Interpreter) (readText : List UInt8 → Except Raised Str) (tree : Tree) :
    Except Raised (Str × Str) := do
  let bytes ← orRaise (tree.files.find? rootManifest) .valueError
    "scanner cache requires a canonical manifest.json"
  let content ← readText bytes
  let read ← excepting .jsonDecodeError (py.jsonLoads content)
  let raw ← orRaise read .valueError "scanner cache manifest is unreadable"
  let members ← match raw with
    | .dict members => .ok members
    | _ => .ok []
  let expectedDigest ← py.text (getMember members "root_digest" (.str []))
  let provenance ← py.text (getMember members "provenance" (.str []))
  raiseIf (isDigest expectedDigest = false ∨ provenance = []) .valueError
    "scanner cache manifest lacks digest or provenance"
  raiseIf (py.sha256 (cacheDigestInput tree) ≠ expectedDigest) .valueError
    "scanner cache digest does not match its manifest"
  return (expectedDigest, provenance)

/-- The check sees nothing of a cache but its manifest and the digest of the hashed bytes. -/
lemma readCacheManifest_congr {py : Interpreter} {readText : List UInt8 → Except Raised Str}
    {tree other : Tree} (hmanifest : tree.files.find? rootManifest = other.files.find? rootManifest)
    (hbytes : cacheDigestInput tree = cacheDigestInput other) :
    readCacheManifest py readText tree = readCacheManifest py readText other := by
  rw [readCacheManifest, readCacheManifest, hmanifest, hbytes]

namespace RelPath

variable {p q : RelPath}

lemma isPart_map_swap (part : Str) : isPart (part.map CodePoint.swap) = isPart part := by
  have hdot : ∀ t : Str, (∀ c ∈ t, c.Faithful) →
      decide (part.map CodePoint.swap ≠ t) = decide (part ≠ t) := fun t ht =>
    decide_eq_decide.mpr (not_congr (Str.map_swap_eq_iff ht))
  have hmem : ∀ c : CodePoint, c.Faithful →
      decide (c ∉ part.map CodePoint.swap) = decide (c ∉ part) := fun c hc =>
    decide_eq_decide.mpr (not_congr (Str.mem_map_swap_iff hc))
  rw [isPart, isPart, hdot _ (by decide), hdot _ (by decide), hmem _ (by decide), hmem _ (by decide),
    List.isEmpty_map]

/-- The path with the same bytes that has a lone surrogate for every question mark, and the other way round. -/
def swap (p : RelPath) : RelPath where
  parts := p.parts.map (List.map CodePoint.swap)
  nonempty := fun h => p.nonempty (List.map_eq_nil_iff.mp h)
  valid := by
    rw [List.all_map]
    exact (List.all_congr rfl isPart_map_swap).trans p.valid

lemma slash_notMem {part : Str} (h : part ∈ p.parts) : slash ∉ part ∧ CodePoint.nul ∉ part := by
  have hpart := List.all_eq_true.mp p.valid part h
  simp only [isPart, Bool.and_eq_true, decide_eq_true_eq] at hpart
  exact ⟨hpart.2, hpart.1.2⟩

lemma asPosix_injective : Function.Injective asPosix := by
  intro p q h
  apply ext
  have hsplit : ∀ r : RelPath, r.asPosix.splitOn slash = r.parts := fun r =>
    List.splitOn_intercalate slash (fun part hpart => (slash_notMem hpart).1) r.nonempty
  rw [← hsplit p, h, hsplit q]

lemma map_intercalate {f : CodePoint → CodePoint} (c : CodePoint) (parts : List Str) :
    ([c].intercalate parts).map f = [f c].intercalate (parts.map (List.map f)) := by
  induction parts with
  | nil => rfl
  | cons part parts ih =>
    cases parts with
    | nil => simp
    | cons part' parts =>
      rw [List.intercalate_cons_cons, List.map_append, List.map_append, ih]
      simp

lemma asPosix_swap (p : RelPath) : p.swap.asPosix = p.asPosix.map CodePoint.swap :=
  (map_intercalate (f := CodePoint.swap) slash p.parts).symm

lemma mem_intercalate {c d : CodePoint} {parts : List Str} (h : d ∈ [c].intercalate parts) :
    d = c ∨ ∃ part ∈ parts, d ∈ part := by
  induction parts with
  | nil => cases h
  | cons part parts ih =>
    cases parts with
    | nil => exact Or.inr ⟨part, List.mem_cons_self, by simpa using h⟩
    | cons part' parts =>
      rw [List.intercalate_cons_cons, List.mem_append, List.mem_append, List.mem_singleton] at h
      rcases h with (h | h) | h
      · exact Or.inr ⟨part, List.mem_cons_self, h⟩
      · exact Or.inl h
      · rcases ih h with rfl | ⟨r, hr, hd⟩
        · exact Or.inl rfl
        · exact Or.inr ⟨r, List.mem_cons_of_mem _ hr, hd⟩

lemma nul_notMem (p : RelPath) : CodePoint.nul ∉ p.asPosix := by
  intro h
  rcases mem_intercalate h with hslash | ⟨part, hpart, hnul⟩
  · exact absurd hslash (by decide)
  · exact (slash_notMem hpart).2 hnul

/-- The paths that their bytes tell apart from all others. -/
lemma unique_iff : (∀ q : RelPath, q.asPosix.encodeReplace = p.asPosix.encodeReplace → q = p) ↔
    ∀ c ∈ p.asPosix, c.Faithful := by
  constructor
  · intro h
    by_contra hunfaithful
    apply Str.swap_ne hunfaithful
    rw [← asPosix_swap, h p.swap]
    rw [asPosix_swap, Str.encodeReplace_map CodePoint.encodeReplace_swap]
  · exact fun h q hq => asPosix_injective (Str.eq_of_faithful h hq)

end RelPath

/-- Contents are bytes as they are; two files may stand side by side where neither is a directory of the other. -/
def framing : Framing RelPath (List UInt8) where
  path p := p.asPosix.encodeReplace
  content := id
  allowed _ := True
  before p q := p < q ∧ ¬ p.parts <+: q.parts ∧ ¬ q.parts <+: p.parts
  zero_notMem p _ := Str.zero_notMem p.nul_notMem
  cut _ x y _ := ⟨⟨x, rfl⟩, y, rfl⟩
  join _ _ _ := ⟨_, rfl⟩

/-- No other tree has the same hashed bytes. -/
def SnapshotTamperEvident (tree : Tree) : Prop :=
  ∀ other, snapshotDigestInput other = snapshotDigestInput tree →
    ∀ path, other.files.find? path = tree.files.find? path

/-- No other tree has the same hashed bytes, its own manifest aside. -/
def CacheTamperEvident (tree : Tree) : Prop :=
  ∀ other, cacheDigestInput other = cacheDigestInput tree →
    ∀ path, path ≠ rootManifest → other.files.find? path = tree.files.find? path

namespace Tree

/-- At most one file, whose path is written faithfully, and no part of the content between two NULs is the path of
a file that could follow. -/
structure Unmistakable (tree : Tree) : Prop where
  single : tree.files.rows.length ≤ 1
  faithful : ∀ e ∈ tree.files, ∀ c ∈ e.1.asPosix, c.Faithful
  unmimicked : ∀ e ∈ tree.files, ∀ x q y,
    e.2 = x ++ 0 :: ((RelPath.asPosix q).encodeReplace ++ 0 :: y) → ¬ framing.before e.1 q

/-- Contents without NULs, and paths without lone surrogates. -/
structure Plain (tree : Tree) : Prop where
  scalars : ∀ e ∈ tree.files, ∀ c ∈ e.1.asPosix, c.isScalar = true
  contents : ∀ e ∈ tree.files, (0 : UInt8) ∉ e.2

/-- No manifest below the root's own. -/
def Bare (tree : Tree) : Prop := ∀ e ∈ tree.files, e.1.name = manifestName → e.1 = rootManifest

variable {tree other : Tree}

lemma listed (tree : Tree) : framing.Listed tree.files.sortedItems := by
  refine ⟨fun _ _ => trivial, ?_⟩
  refine List.Pairwise.imp_of_mem ?_ tree.files.sortedItems_strict
  intro e e' he he' hlt
  rw [Dict.mem_sortedItems] at he he'
  refine ⟨hlt, fun h => ?_, fun h => ?_⟩
  · exact absurd (tree.consistent e he e' he' h) hlt.ne
  · exact absurd (tree.consistent e' he' e he h) hlt.ne'

lemma exists_listed {entries : List (RelPath × List UInt8)} (h : framing.Listed entries) :
    ∃ tree : Tree, tree.files.sortedItems = entries := by
  obtain ⟨files, rfl⟩ := Dict.exists_sortedItems (h.2.imp And.left)
  refine ⟨⟨files, fun e he e' he' hprefix => ?_⟩, rfl⟩
  have hapart : ∀ a ∈ files.sortedItems, ∀ b ∈ files.sortedItems,
      a.1.parts <+: b.1.parts → a.1 = b.1 := by
    refine List.Pairwise.forall_of_forall_of_flip (fun _ _ _ => rfl) ?_ ?_
    · exact h.2.imp fun hbefore hprefix => absurd hprefix hbefore.2.1
    · exact h.2.imp fun hbefore hprefix => absurd hprefix hbefore.2.2
  exact hapart e (Dict.mem_sortedItems.mpr he) e' (Dict.mem_sortedItems.mpr he') hprefix

lemma snapshotTamperEvident_iff_listings :
    SnapshotTamperEvident tree ↔ ∀ entries, framing.Listed entries →
      framing.frame entries = framing.frame tree.files.sortedItems →
      entries = tree.files.sortedItems := by
  constructor
  · intro h entries hlisted hframe
    obtain ⟨other, rfl⟩ := exists_listed hlisted
    exact Dict.sortedItems_eq_iff.mpr (h other hframe)
  · exact fun h other hbytes => Dict.sortedItems_eq_iff.mp (h _ other.listed hbytes)

lemma unmistakable_iff : framing.Unmistakable tree.files.sortedItems ↔ tree.Unmistakable := by
  have hmem : ∀ e, e ∈ tree.files ↔ e ∈ tree.files.sortedItems :=
    fun e => Dict.mem_sortedItems.symm
  have hlength : tree.files.sortedItems.length = tree.files.rows.length :=
    List.length_insertionSort _ _
  match hentries : tree.files.sortedItems with
  | [] =>
    rw [hentries] at hlength hmem
    refine ⟨fun _ => ⟨hlength.symm.le.trans (Nat.zero_le 1), ?_, ?_⟩, fun _ => trivial⟩
    · exact fun e he => absurd ((hmem e).mp he) List.not_mem_nil
    · exact fun e he => absurd ((hmem e).mp he) List.not_mem_nil
  | [(p, c)] =>
    rw [hentries] at hlength hmem
    have hone : ∀ e ∈ tree.files, e = (p, c) := fun e he => List.mem_singleton.mp ((hmem e).mp he)
    have hfile : (p, c) ∈ tree.files := (hmem _).mpr List.mem_cons_self
    constructor
    · rintro ⟨hpath, -, hmimics⟩
      have hfaithful := RelPath.unique_iff.mp fun q => hpath q trivial
      refine ⟨hlength.symm.le, fun e he => ?_, fun e he x q y hc hbefore => ?_⟩
      · rw [hone e he]
        exact hfaithful
      · rw [hone e he] at hc hbefore
        exact hmimics ⟨x, q, y, hc, trivial, hbefore⟩
    · intro h
      have hpath := RelPath.unique_iff.mpr (h.faithful _ hfile)
      refine ⟨fun q _ => hpath q, fun d hd => hd, ?_⟩
      rintro ⟨x, q, y, hc, -, hbefore⟩
      exact h.unmimicked _ hfile x q y hc hbefore
  | e :: e' :: rest =>
    rw [hentries] at hlength
    refine ⟨False.elim, fun h => ?_⟩
    have hsingle := h.single
    rw [← hlength] at hsingle
    simp at hsingle

theorem snapshotTamperEvident_iff : SnapshotTamperEvident tree ↔ tree.Unmistakable := by
  rw [snapshotTamperEvident_iff_listings, Framing.unmistakable_iff tree.listed.1, unmistakable_iff]

/-- Contents and paths as they are in a walk of plain trees. -/
lemma Plain.frame_inj (h : tree.Plain) (h' : other.Plain) {keep : RelPath × List UInt8 → Bool}
    (hbytes : hashed (sortBy Prod.fst (tree.files.rows.filter keep)) =
      hashed (sortBy Prod.fst (other.files.rows.filter keep))) :
    sortBy Prod.fst (tree.files.rows.filter keep) = sortBy Prod.fst (other.files.rows.filter keep) := by
  have hmem : ∀ (t : Tree), ∀ e ∈ sortBy Prod.fst (t.files.rows.filter keep), e ∈ t.files :=
    fun t e he => (List.mem_filter.mp (mem_sortBy.mp he)).1
  refine Framing.frame_inj (f := framing) (fun _ _ => trivial) ?_ ?_ hbytes
  · refine List.forall_mem_append.mpr ⟨fun e he => ?_, fun e he => ?_⟩
    · exact h.contents e (hmem tree e he)
    · exact h'.contents e (hmem other e he)
  · intro e he e' he' hpath hcontent
    have hposix := Str.encodeReplace_injOn (h.scalars e (hmem tree e he))
      (h'.scalars e' (hmem other e' he')) hpath
    exact Prod.ext (RelPath.asPosix_injective hposix) hcontent

/-- Two plain trees are told apart. -/
theorem Plain.snapshot_inj (h : tree.Plain) (h' : other.Plain)
    (hbytes : snapshotDigestInput tree = snapshotDigestInput other) (path : RelPath) :
    tree.files.find? path = other.files.find? path := by
  have hall : ∀ t : Tree, t.files.rows = t.files.rows.filter fun _ => true :=
    fun t => (List.filter_eq_self.mpr fun _ _ => rfl).symm
  rw [snapshotDigestInput, snapshotDigestInput, hall tree, hall other] at hbytes
  have hsame := h.frame_inj h' hbytes
  rw [← hall tree, ← hall other] at hsame
  exact Dict.sortedItems_eq_iff.mp hsame path

/-- Two plain caches are told apart, where only their roots have a manifest. -/
theorem Plain.cache_inj (h : tree.Plain) (h' : other.Plain) (hbare : tree.Bare) (hbare' : other.Bare)
    (hbytes : cacheDigestInput tree = cacheDigestInput other) {path : RelPath}
    (hpath : path ≠ rootManifest) : tree.files.find? path = other.files.find? path := by
  have hsame := h.frame_inj h' hbytes
  have hread : ∀ t : Tree, t.Bare → ∀ v, t.files.find? path = some v ↔
      (path, v) ∈ sortBy Prod.fst (t.files.rows.filter fun e => decide (e.1.name ≠ manifestName)) := by
    intro t ht v
    rw [Dict.find?_eq_some_iff, mem_sortBy, List.mem_filter, Table.mem_def, decide_eq_true_eq]
    refine ⟨fun hv => ⟨hv, fun hname => hpath (ht _ hv hname)⟩, And.left⟩
  apply Option.ext
  intro v
  rw [hread tree hbare, hread other hbare', hsame]

/-- A name that no directory of the tree has. -/
lemma exists_fresh (tree : Tree) : ∃ part : Str, isPart part = true ∧
    ∀ e ∈ tree.files, ∀ rest, e.1.parts ≠ part :: rest := by
  let size := (tree.files.rows.map fun e => (e.1.parts.map List.length).sum).sum
  refine ⟨List.replicate (size + 1) (.scalar 'a'), ?_, ?_⟩
  · have hfirst : ∀ t : Str, t.head? ≠ some (.scalar 'a') →
        List.replicate (size + 1) (CodePoint.scalar 'a') ≠ t := by
      rintro t ht rfl
      exact ht rfl
    simp only [isPart, Bool.and_eq_true, decide_eq_true_eq]
    refine ⟨⟨⟨⟨rfl, hfirst _ (by decide)⟩, hfirst _ (by decide)⟩, ?_⟩, ?_⟩
    · exact fun h => absurd (List.eq_of_mem_replicate h) (by decide)
    · exact fun h => absurd (List.eq_of_mem_replicate h) (by decide)
  · intro e he rest hparts
    have hle : (e.1.parts.map List.length).sum ≤ size :=
      List.le_sum_of_mem (List.mem_map.mpr ⟨e, he, rfl⟩)
    rw [hparts, List.map_cons, List.sum_cons, List.length_replicate] at hle
    omega

/-- A manifest in a new directory leaves the hashed bytes of a cache as they are. -/
theorem not_cacheTamperEvident (tree : Tree) : ¬ CacheTamperEvident tree := by
  intro h
  obtain ⟨part, hpart, hfresh⟩ := tree.exists_fresh
  let path : RelPath :=
    { parts := [part, manifestName]
      nonempty := List.cons_ne_nil _ _
      valid := by
        rw [List.all_cons, hpart, Bool.true_and]
        decide }
  have hnone : tree.files.find? path = none :=
    Dict.find?_eq_none_iff.mpr fun e he hpath => hfresh e he [manifestName] (by rw [hpath])
  have hrows : ∀ e ∈ tree.files.set path [], e = (path, []) ∨ e ∈ tree.files := by
    intro e he
    rcases List.mem_cons.mp he with rfl | he
    · exact Or.inl rfl
    · exact Or.inr (List.mem_filter.mp he).1
  have hlone : ∀ e ∈ tree.files, ¬ e.1.parts <+: path.parts ∧ ¬ path.parts <+: e.1.parts := by
    refine fun e he => ⟨fun hprefix => ?_, fun hprefix => ?_⟩
    · obtain ⟨first, rest, hparts⟩ := List.exists_cons_of_ne_nil e.1.nonempty
      rw [hparts, List.cons_prefix_cons] at hprefix
      exact hfresh e he rest (by rw [hparts, hprefix.1])
    · obtain ⟨rest, hrest⟩ := hprefix
      exact hfresh e he _ hrest.symm
  let other : Tree :=
    { files := tree.files.set path []
      consistent := by
        intro e he e' he' hprefix
        rcases hrows e he with rfl | he
        · rcases hrows e' he' with rfl | he'
          · rfl
          · exact absurd hprefix (hlone e' he').2
        · rcases hrows e' he' with rfl | he'
          · exact absurd hprefix (hlone e he).1
          · exact tree.consistent e he e' he' hprefix }
  have hbytes : cacheDigestInput other = cacheDigestInput tree := by
    have hfilter : (tree.files.rows.filter fun e => decide (e.1 ≠ path)) = tree.files.rows :=
      List.filter_eq_self.mpr fun e he => decide_eq_true (Dict.find?_eq_none_iff.mp hnone e he)
    have hname : path.name = manifestName := rfl
    rw [cacheDigestInput, cacheDigestInput]
    congr 2
    change List.filter _ ((path, []) :: tree.files.rows.filter fun e => decide (e.1 ≠ path)) = _
    rw [hfilter, List.filter_cons_of_neg]
    simp [hname]
  have hsame := h other hbytes path (by
    intro hroot
    have hlength : [part, manifestName].length = [manifestName].length :=
      congrArg (List.length ∘ RelPath.parts) hroot
    exact absurd hlength (by simp))
  rw [hnone] at hsame
  exact absurd ((Dict.find?_set_self tree.files path []).symm.trans hsame) nofun

end Tree

open Application in
/-- What the hashed bytes tell apart: a snapshot of at most one unmistakable file from every other, plain snapshots
from each other, and no cache from every other. -/
theorem tamper_evidence (files files' : Dict Str Str) (tree tree' : Tree)
    (hfiles : RepositorySnapshot.NulFree files) :
    (RepositorySnapshot.TamperEvident files ↔ RepositorySnapshot.Unmistakable files) ∧
    (SnapshotTamperEvident tree ↔ tree.Unmistakable) ∧
    ¬ CacheTamperEvident tree ∧
    (RepositorySnapshot.Plain files → RepositorySnapshot.Plain files' →
      RepositorySnapshot.digestInput files = RepositorySnapshot.digestInput files' →
        ∀ path, files.find? path = files'.find? path) ∧
    (tree.Plain → tree'.Plain → snapshotDigestInput tree = snapshotDigestInput tree' →
      ∀ path, tree.files.find? path = tree'.files.find? path) ∧
    (tree.Plain → tree'.Plain → tree.Bare → tree'.Bare →
      cacheDigestInput tree = cacheDigestInput tree' →
        ∀ path, path ≠ rootManifest → tree.files.find? path = tree'.files.find? path) := by
  refine ⟨RepositorySnapshot.tamperEvident_iff hfiles, Tree.snapshotTamperEvident_iff,
    tree.not_cacheTamperEvident, fun h h' => h.digestInput_inj h', fun h h' => h.snapshot_inj h', ?_⟩
  exact fun h h' hbare hbare' hbytes path hpath => h.cache_inj h' hbare hbare' hbytes hpath

section Example

def oneFile (path content : String) : Dict Str Str :=
  ⟨[(Str.ofString path, Str.ofString content)], List.nodup_singleton _⟩

def readme : Dict Str Str := oneFile "README" "text"

open Application in
/-- A snapshot of one short file. -/
theorem readme_evident : RepositorySnapshot.TamperEvident readme := by
  have hfile : ∀ e ∈ readme, e = (Str.ofString "README", Str.ofString "text") :=
    fun e he => List.mem_singleton.mp he
  have hnul : CodePoint.nul ∉ Str.ofString "README" ∧ CodePoint.nul ∉ Str.ofString "text" := by
    decide
  refine (tamper_evidence readme Table.empty ⟨Table.empty, nofun⟩ ⟨Table.empty, nofun⟩ ?_).1.mpr ?_
  · intro e he
    rw [hfile e he]
    exact hnul.1
  · refine ⟨le_rfl, fun e he => ?_, fun e he x q y hcontent => ?_⟩
    · rw [hfile e he]
      decide
    · rw [hfile e he] at hcontent
      refine absurd ?_ hnul.2
      rw [show Str.ofString "text" = _ from hcontent]
      exact List.mem_append_right x List.mem_cons_self

/-- Two files. -/
def twoFiles : Dict Str Str :=
  ⟨[(Str.ofString "a", Str.ofString "x"), (Str.ofString "b", Str.ofString "y")], by decide⟩

open Application in
/-- The content of one file holds the second. -/
theorem file_mimicked : ¬ ∀ files files' : Dict Str Str, RepositorySnapshot.NulFree files →
    RepositorySnapshot.NulFree files' →
      RepositorySnapshot.digestInput files = RepositorySnapshot.digestInput files' →
        ∀ path, files.find? path = files'.find? path := by
  intro h
  have htwo : ∀ e ∈ twoFiles.rows, CodePoint.nul ∉ e.1 := by decide
  have hone : ∀ e ∈ (oneFile "a" "x\x00b\x00y").rows, CodePoint.nul ∉ e.1 := by decide
  have hsame := h twoFiles (oneFile "a" "x\x00b\x00y") htwo hone (by decide) (Str.ofString "b")
  exact absurd hsame (by decide)

end Example

end SecScanMonitor.Capabilities
