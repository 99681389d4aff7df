import SecScanMonitor.Evidence.LocalStore
import Mathlib.Logic.Function.Basic

/-! Any number of calls over one evidence store, in any interleaving, with failures at any request and restarts at any
time: what stands under an address, how long it stands there, and that the store is the one that ingestion puts into. -/

namespace SecScanMonitor.Evidence

open Foundations Application.EvidenceService Program

variable {ε : Type} (sha256 : Bytes → String)

section Ghost

/-- What a call has seen so far; `absent` and `present` are of the blob of its address. -/
structure Sight where
  call : StoreCall
  holds : Bool
  absent : Bool
  present : Bool
  written : Bool
  read : Option Bytes

def Sight.init (call : StoreCall) : Sight := ⟨call, false, false, false, false, none⟩

def Sight.address (g : Sight) : String :=
  match g.call with
  | .put content => sha256 content
  | .get address => address
  | .exists address => address

def sight : (q : FileOp) → FileAnswer ε q → Sight → Sight
  | .acquire, _, g => { g with holds := true }
  | .release, _, g => { g with holds := false }
  | .exists _, .ok true, g => { g with present := true }
  | .exists _, .ok false, g => { g with absent := true }
  | .write _ _, .ok _, g => { g with written := true }
  | .replace _ _, .ok _, g => { g with absent := false, present := true, written := false }
  | .replace _ _, .error .fileExists, g => { g with present := true }
  | .unlink _, .ok _, g => { g with written := false }
  | .readBytes _, .ok content, g => { g with read := some content }
  | _, _, g => g

/-- Only a put that holds the lock touches files, and only those of its own address; it moves its blob into a place that
it has seen empty. -/
def MayAsk (g : Sight) : FileOp → Prop
  | .acquire => g.holds = false ∧ g.absent = false ∧ g.written = false
  | .release => g.holds = true
  | .exists p => p = pathOf (g.address sha256)
  | .mkdir _ => g.holds = true
  | .create p => g.holds = true ∧ g.written = false ∧ p = tmpOf (g.address sha256)
  | .write p content => g.holds = true ∧ g.written = false ∧ g.call = .put content ∧ p = tmpOf (g.address sha256)
  | .replace source target => g.holds = true ∧ g.written = true ∧ g.absent = true ∧ (∃ content, g.call = .put content) ∧
      source = tmpOf (g.address sha256) ∧ target = pathOf (g.address sha256)
  | .unlink p => g.holds = true ∧ g.absent = true ∧ g.present = true ∧ p = tmpOf (g.address sha256)
  | .isFile p => p = pathOf (g.address sha256)
  | .readBytes p => p = pathOf (g.address sha256)

/-- How a call ends. -/
structure Served (g : Sight) (r : Except (StoreFailure ε) StoreReply) : Prop where
  released : g.holds = false
  put : ∀ content reply, g.call = .put content → r = .ok reply → reply = .address (sha256 content) ∧ g.present = true
  get : ∀ address reply, g.call = .get address → r = .ok reply → ∃ content, reply = .content content ∧
    g.read = some content

end Ghost

section Runs

variable {sha256} {g : Sight}

lemma store_meets {content : Bytes} (hcall : g.call = .put content) (hholds : g.holds = true)
    (hwritten : g.written = false) :
    (store (sha256 content) content : Files ε (Except ε Unit)).Meets sight (MayAsk sha256)
      (fun g' r => g'.call = g.call ∧ g'.holds = true ∧ (r = .ok () → g'.present = true)) g := by
  have haddress : sha256 content = g.address sha256 := by rw [Sight.address, hcall]
  refine meets_request_bind.mpr ⟨congrArg pathOf haddress, fun answer => ?_⟩
  rcases answer with e | b
  · refine ⟨rfl, hholds, fun h => ?_⟩
    cases h
  cases b with
  | true => exact ⟨rfl, hholds, fun _ => rfl⟩
  | false =>
    refine meets_request_bind.mpr ⟨hholds, fun answer => ?_⟩
    rcases answer with e | u
    · refine ⟨rfl, hholds, fun h => ?_⟩
      cases h
    refine meets_bind.mpr (meets_request_bind.mpr ⟨⟨hholds, hwritten, congrArg tmpOf haddress⟩, fun answer => ?_⟩)
    rcases answer with e | u
    · refine ⟨rfl, hholds, fun h => ?_⟩
      cases h
    refine meets_ask.mpr ⟨⟨hholds, hwritten, hcall, congrArg tmpOf haddress⟩, fun answer => ?_⟩
    rcases answer with e | u
    · refine ⟨rfl, hholds, fun h => ?_⟩
      cases h
    refine meets_request_bind.mpr ⟨⟨hholds, rfl, rfl, ⟨content, hcall⟩, congrArg tmpOf haddress,
      congrArg pathOf haddress⟩, fun answer => ?_⟩
    rcases answer with (_ | e) | u
    · refine meets_ask.mpr ⟨⟨hholds, rfl, rfl, congrArg tmpOf haddress⟩, fun answer => ?_⟩
      rcases answer with e | u <;> exact ⟨rfl, hholds, fun _ => rfl⟩
    · refine ⟨rfl, hholds, fun h => ?_⟩
      cases h
    · exact ⟨rfl, hholds, fun _ => rfl⟩

lemma put_meets (content : Bytes) :
    (LocalStore.put sha256 content : Files ε _).Meets sight (MayAsk sha256) (Served sha256)
      (Sight.init (.put content)) := by
  refine meets_request_bind.mpr ⟨⟨rfl, rfl, rfl⟩, fun _ => ?_⟩
  refine (store_meets (g := { Sight.init (.put content) with holds := true }) rfl rfl rfl).seq ?_
  rintro g' r ⟨hcall, hholds, hpresent⟩
  refine meets_request_bind.mpr ⟨hholds, fun _ => ?_⟩
  rcases r with e | u
  · refine ⟨rfl, fun _ _ _ h => ?_, fun _ _ _ h => ?_⟩
    all_goals cases h
  · refine ⟨rfl, fun content' reply h hr => ?_, fun address reply h => ?_⟩
    · have hsame : content' = content := StoreCall.put.inj (h.symm.trans hcall)
      obtain rfl := Except.ok.inj hr
      exact ⟨congrArg (StoreReply.address ∘ sha256) hsame.symm, hpresent rfl⟩
    · cases (h.symm.trans hcall)

lemma get_meets (address : String) :
    (LocalStore.get address : Files ε _).Meets sight (MayAsk sha256) (Served sha256)
      (Sight.init (.get address)) := by
  have hno : ∀ content, (StoreCall.get address) ≠ .put content := fun content h => by cases h
  refine meets_request_bind.mpr ⟨rfl, fun answer => ?_⟩
  rcases answer with e | b
  · refine ⟨rfl, fun _ _ _ h => ?_, fun _ _ _ h => ?_⟩
    all_goals cases h
  cases b with
  | false =>
    refine ⟨rfl, fun _ _ _ h => ?_, fun _ _ _ h => ?_⟩
    all_goals cases h
  | true =>
    refine meets_request_bind.mpr ⟨rfl, fun answer => ?_⟩
    rcases answer with e | content
    · refine ⟨rfl, fun _ _ _ h => ?_, fun _ _ _ h => ?_⟩
      all_goals cases h
    · refine ⟨rfl, fun _ _ h => absurd h (hno _), fun _ reply _ hr => ?_⟩
      exact ⟨content, (Except.ok.inj hr).symm, rfl⟩

lemma exists_meets (address : String) :
    (LocalStore.exists address : Files ε _).Meets sight (MayAsk sha256) (Served sha256)
      (Sight.init (.exists address)) := by
  refine meets_request_bind.mpr ⟨rfl, fun answer => ?_⟩
  rcases answer with e | b
  · refine ⟨rfl, fun _ _ _ h => ?_, fun _ _ _ h => ?_⟩
    all_goals cases h
  · refine ⟨rfl, fun _ _ h => ?_, fun _ _ h => ?_⟩
    all_goals cases h

lemma serve_meets (call : StoreCall) :
    (serve sha256 call : Files ε _).Meets sight (MayAsk sha256) (Served sha256) (Sight.init call) := by
  cases call with
  | put content => exact put_meets content
  | get address => exact get_meets address
  | «exists» address => exact exists_meets address

end Runs

section Interleavings

/-- The files below the root, and whether the lock of the process is held. -/
structure StoreState where
  files : StorePath → Option Bytes
  locked : Bool

def StoreState.update (s : StoreState) (p : StorePath) (v : Option Bytes) : StoreState :=
  { s with files := Function.update s.files p v }

def fileAnswers (s : StoreState) : (q : FileOp) → FileAnswer ε q → StoreState → Prop
  | .acquire, _, t => s.locked = false ∧ t = { s with locked := true }
  | .release, _, t => t = { s with locked := false }
  | .exists p, .ok b, t => b = (s.files p).isSome ∧ t = s
  | .create p, .ok _, t => t = s.update p (some [])
  | .write p content, .ok _, t => t = s.update p (some content)
  -- a write that fails may have written a part
  | .write p content, .error _, t => ∃ n, t = s.update p (some (content.take n))
  | .replace source target, .ok _, t =>
    ∃ content, s.files source = some content ∧ t = (s.update source none).update target (some content)
  | .replace _ target, .error .fileExists, t => s.files target ≠ none ∧ t = s
  | .unlink p, .ok _, t => t = s.update p none
  | .isFile p, .ok b, t => b = (s.files p).isSome ∧ t = s
  | .readBytes p, .ok content, t => s.files p = some content ∧ t = s
  | _, _, t => t = s

/-- As the digest of `hexdigest` is. -/
def Dotless (address : String) : Prop := '.' ∉ address.toList

/-- What others do leaves the files of the store alone. -/
structure Beside (s t : StoreState) : Prop where
  locked : t.locked = s.locked
  blobs : ∀ address, Dotless address → t.files (pathOf address) = s.files (pathOf address)
  temporaries : ∀ address, t.files (tmpOf address) = s.files (tmpOf address)

/-- The files, and the lock, which a process that dies does not hold any more. -/
def fileSystem (ε : Type) : Environment FileOp (FileAnswer ε) StoreState where
  answers := fileAnswers
  changes := Beside
  crashes s t := t = { s with locked := false }

/-- Every blob stands under its own address. -/
def Addressed (s : StoreState) : Prop :=
  ∀ address content, Dotless address → s.files (pathOf address) = some content → sha256 content = address

def holders (gs : List Sight) : ℕ := gs.countP fun g => g.holds

structure Kept (s : StoreState) (gs : List Sight) : Prop where
  addressed : Addressed sha256 s
  holder : holders gs = s.locked.toNat
  written : ∀ g ∈ gs, g.holds = true → g.written = true → ∀ content, g.call = .put content →
    s.files (tmpOf (g.address sha256)) = some content
  absent : ∀ g ∈ gs, Dotless (g.address sha256) → g.holds = true → g.absent = true →
    s.files (pathOf (g.address sha256)) = none
  present : ∀ g ∈ gs, Dotless (g.address sha256) → g.present = true → s.files (pathOf (g.address sha256)) ≠ none
  read : ∀ g ∈ gs, Dotless (g.address sha256) → ∀ content, g.read = some content → sha256 content = g.address sha256

/-- A call of the store. -/
def Serves (g : Sight) (program : Files ε (Except (StoreFailure ε) StoreReply)) : Prop :=
  ∃ call, g = Sight.init call ∧ program = serve sha256 call

variable {sha256} {s t : StoreState} {g g' : Sight} {gs : List Sight}

lemma pathOf_inj {a b : String} (h : pathOf a = pathOf b) : a = b :=
  (List.cons.inj (List.cons.inj (List.cons.inj h).2).2).1

lemma tmpOf_ne_pathOf {a b : String} (hb : Dotless b) : tmpOf a ≠ pathOf b := by
  intro h
  have hname : a ++ ".tmp" = b := (List.cons.inj (List.cons.inj (List.cons.inj h).2).2).1
  refine hb (hname ▸ ?_)
  rw [String.toList_append]
  exact List.mem_append_right _ List.mem_cons_self

@[simp] lemma update_locked (p : StorePath) (v : Option Bytes) : (s.update p v).locked = s.locked := rfl

lemma update_files_self (p : StorePath) (v : Option Bytes) : (s.update p v).files p = v := Function.update_self ..

lemma update_files_of_ne {p q : StorePath} (v : Option Bytes) (h : q ≠ p) : (s.update p v).files q = s.files q :=
  Function.update_of_ne h ..

/-- A temporary file is no blob. -/
lemma update_tmp_blob {a b : String} (v : Option Bytes) (hb : Dotless b) :
    (s.update (tmpOf a) v).files (pathOf b) = s.files (pathOf b) :=
  update_files_of_ne v (tmpOf_ne_pathOf hb).symm

lemma holders_cons : holders (g :: gs) = holders gs + g.holds.toNat := by
  rw [holders, List.countP_cons]
  cases g.holds <;> rfl

lemma Kept.perm {gs' : List Sight} (h : Kept sha256 s gs) (hperm : gs.Perm gs') : Kept sha256 s gs' where
  addressed := h.addressed
  holder := (hperm.countP_eq _).symm.trans h.holder
  written x hx := h.written x (hperm.symm.subset hx)
  absent x hx := h.absent x (hperm.symm.subset hx)
  present x hx := h.present x (hperm.symm.subset hx)
  read x hx := h.read x (hperm.symm.subset hx)

lemma Kept.start (h : Kept sha256 s gs) (call : StoreCall) : Kept sha256 s (Sight.init call :: gs) := by
  refine ⟨h.addressed, h.holder, fun x hx => ?_, fun x hx => ?_, fun x hx => ?_, fun x hx => ?_⟩
  all_goals rcases List.mem_cons.mp hx with rfl | hx
  · exact fun hholds => by cases hholds
  · exact h.written x hx
  · exact fun _ hholds => by cases hholds
  · exact h.absent x hx
  · exact fun _ hpresent => by cases hpresent
  · exact h.present x hx
  · exact fun _ content hread => by cases hread
  · exact h.read x hx

lemma Kept.beside (h : Kept sha256 s gs) (hb : Beside s t) : Kept sha256 t gs := by
  refine ⟨fun a content ha hfile => ?_, ?_, fun x hx hholds hwritten content hcall => ?_,
    fun x hx hd hholds habsent => ?_, fun x hx hd hpresent => ?_, h.read⟩
  · rw [hb.blobs a ha] at hfile
    exact h.addressed a content ha hfile
  · rw [hb.locked]
    exact h.holder
  · rw [hb.temporaries]
    exact h.written x hx hholds hwritten content hcall
  · rw [hb.blobs _ hd]
    exact h.absent x hx hd hholds habsent
  · rw [hb.blobs _ hd]
    exact h.present x hx hd hpresent

/-- After a crash nobody holds the lock any more. -/
lemma Kept.crash {ended : List Sight} (h : Kept sha256 s (gs ++ ended)) (hended : ∀ g ∈ ended, g.holds = false) :
    Kept sha256 { s with locked := false } ended := by
  refine ⟨h.addressed, ?_, fun x hx hholds => ?_, fun x hx _ hholds => ?_,
    fun x hx => h.present x (List.mem_append_right gs hx), fun x hx => h.read x (List.mem_append_right gs hx)⟩
  · refine List.countP_eq_zero.mpr fun x hx hholds => ?_
    exact absurd ((hended x hx).symm.trans hholds) Bool.false_ne_true
  · exact absurd ((hended x hx).symm.trans hholds) Bool.false_ne_true
  · exact absurd ((hended x hx).symm.trans hholds) Bool.false_ne_true

/-- While one call holds the lock, no other does. -/
lemma Kept.alone (h : Kept sha256 s (g :: gs)) (hg : g.holds = true) : ∀ x ∈ gs, x.holds = false := by
  intro x hx
  have hcount := h.holder
  rw [holders_cons, hg, Bool.toNat_true] at hcount
  have hle : s.locked.toNat ≤ 1 := Bool.toNat_le s.locked
  have hzero : holders gs = 0 := by omega
  exact Bool.eq_false_iff.mpr (List.countP_eq_zero.mp hzero x hx)

/-- A call that reads, or whose request fails without effect. -/
lemma Kept.look (h : Kept sha256 s (g :: gs)) (hcall : g'.call = g.call) (hholds : g'.holds = g.holds)
    (hwritten : g'.written = true → g.written = true)
    (habsent : g'.absent = true → g.absent = true ∨ s.files (pathOf (g.address sha256)) = none)
    (hpresent : g'.present = true → g.present = true ∨ s.files (pathOf (g.address sha256)) ≠ none)
    (hread : ∀ content, g'.read = some content →
      g.read = some content ∨ s.files (pathOf (g.address sha256)) = some content) :
    Kept sha256 s (g' :: gs) := by
  have haddress : g'.address sha256 = g.address sha256 := by rw [Sight.address, hcall, Sight.address]
  refine ⟨h.addressed, ?_, fun x hx => ?_, fun x hx => ?_, fun x hx => ?_, fun x hx => ?_⟩
  · rw [holders_cons, hholds, ← holders_cons]
    exact h.holder
  all_goals rcases List.mem_cons.mp hx with rfl | hx
  · rw [hholds, hcall, haddress]
    exact fun hh hw => h.written g List.mem_cons_self hh (hwritten hw)
  · exact h.written x (List.mem_cons_of_mem g hx)
  · rw [hholds, haddress]
    exact fun hd hh ha => (habsent ha).elim (h.absent g List.mem_cons_self hd hh) id
  · exact h.absent x (List.mem_cons_of_mem g hx)
  · rw [haddress]
    exact fun hd hp => (hpresent hp).elim (h.present g List.mem_cons_self hd) id
  · exact h.present x (List.mem_cons_of_mem g hx)
  · rw [haddress]
    exact fun hd content hr => (hread content hr).elim (h.read g List.mem_cons_self hd content)
      (h.addressed _ content hd)
  · exact h.read x (List.mem_cons_of_mem g hx)

/-- The call that holds the lock changes its temporary file. -/
lemma Kept.touch (h : Kept sha256 s (g :: gs)) (hg : g.holds = true) {v : Option Bytes} (hcall : g'.call = g.call)
    (hholds : g'.holds = true)
    (hwritten : g'.written = true → ∀ content, g.call = .put content → v = some content)
    (habsent : g'.absent = true → g.absent = true) (hpresent : g'.present = true → g.present = true)
    (hread : g'.read = g.read) : Kept sha256 (s.update (tmpOf (g.address sha256)) v) (g' :: gs) := by
  have haddress : g'.address sha256 = g.address sha256 := by rw [Sight.address, hcall, Sight.address]
  have halone := h.alone hg
  refine ⟨fun a content ha hfile => ?_, ?_, fun x hx => ?_, fun x hx hd => ?_, fun x hx hd => ?_, fun x hx => ?_⟩
  · rw [update_tmp_blob v ha] at hfile
    exact h.addressed a content ha hfile
  · rw [holders_cons, hholds, ← hg, ← holders_cons]
    exact h.holder
  all_goals rcases List.mem_cons.mp hx with rfl | hx
  · intro _ hw content hput
    rw [haddress, update_files_self]
    exact hwritten hw content (hcall.symm.trans hput)
  · exact fun hh => absurd ((halone x hx).symm.trans hh) Bool.false_ne_true
  · rw [update_tmp_blob v hd, haddress]
    exact fun _ ha => h.absent g List.mem_cons_self (haddress ▸ hd) hg (habsent ha)
  · exact fun hh => absurd ((halone x hx).symm.trans hh) Bool.false_ne_true
  · rw [update_tmp_blob v hd, haddress]
    exact fun hp => h.present g List.mem_cons_self (haddress ▸ hd) (hpresent hp)
  · rw [update_tmp_blob v hd]
    exact h.present x (List.mem_cons_of_mem g hx) hd
  · rw [haddress, hread]
    exact h.read g List.mem_cons_self
  · exact h.read x (List.mem_cons_of_mem g hx)

/-- The call that holds the lock moves what it has written into its place. -/
lemma Kept.place (h : Kept sha256 s (g :: gs)) (hg : g.holds = true) (hwritten : g.written = true)
    {content stored : Bytes} (hcall : g.call = .put content)
    (hstored : s.files (tmpOf (g.address sha256)) = some stored) :
    Kept sha256 ((s.update (tmpOf (g.address sha256)) none).update (pathOf (g.address sha256)) (some stored))
      ({ g with absent := false, present := true, written := false } :: gs) := by
  have haddress : g.address sha256 = sha256 content := by rw [Sight.address, hcall]
  have hsame : stored = content :=
    Option.some.inj (hstored.symm.trans (h.written g List.mem_cons_self hg hwritten content hcall))
  have halone := h.alone hg
  rw [haddress, hsame]
  have hother : ∀ {a}, Dotless a → a ≠ sha256 content →
      ((s.update (tmpOf (sha256 content)) none).update (pathOf (sha256 content)) (some content)).files (pathOf a) =
        s.files (pathOf a) := by
    intro a ha hne
    rw [update_files_of_ne _ fun heq => hne (pathOf_inj heq), update_tmp_blob none ha]
  refine ⟨fun a c ha hfile => ?_, ?_, fun x hx => ?_, fun x hx hd => ?_, fun x hx hd => ?_, fun x hx => ?_⟩
  · by_cases hne : a = sha256 content
    · rw [hne, update_files_self] at hfile
      rw [hne, Option.some.inj hfile]
    · rw [hother ha hne] at hfile
      exact h.addressed a c ha hfile
  · rw [holders_cons, ← holders_cons (g := g)]
    exact h.holder
  all_goals rcases List.mem_cons.mp hx with rfl | hx
  · exact fun _ hw => absurd hw Bool.false_ne_true
  · exact fun hh => absurd ((halone x hx).symm.trans hh) Bool.false_ne_true
  · exact fun _ ha => absurd ha Bool.false_ne_true
  · exact fun hh => absurd ((halone x hx).symm.trans hh) Bool.false_ne_true
  · intro _
    have hplace : Sight.address sha256 { g with absent := false, present := true, written := false } =
        sha256 content := haddress
    rw [hplace, update_files_self]
    exact Option.some_ne_none _
  · by_cases hne : x.address sha256 = sha256 content
    · rw [hne, update_files_self]
      exact fun _ => Option.some_ne_none _
    · rw [hother hd hne]
      exact h.present x (List.mem_cons_of_mem g hx) hd
  · exact h.read g List.mem_cons_self
  · exact h.read x (List.mem_cons_of_mem g hx)

lemma Kept.acquire (h : Kept sha256 s (g :: gs)) (hfree : s.locked = false) (habsent : g.absent = false)
    (hwritten : g.written = false) : Kept sha256 { s with locked := true } ({ g with holds := true } :: gs) := by
  have hnone := h.holder
  rw [hfree, Bool.toNat_false] at hnone
  have hrest : holders gs = 0 := by
    rw [holders_cons] at hnone
    omega
  refine ⟨h.addressed, ?_, fun x hx => ?_, fun x hx => ?_, fun x hx => ?_, fun x hx => ?_⟩
  · rw [holders_cons, hrest]
    rfl
  all_goals rcases List.mem_cons.mp hx with rfl | hx
  · exact fun _ hw => absurd (hwritten.symm.trans hw) Bool.false_ne_true
  · exact h.written x (List.mem_cons_of_mem g hx)
  · exact fun _ _ ha => absurd (habsent.symm.trans ha) Bool.false_ne_true
  · exact h.absent x (List.mem_cons_of_mem g hx)
  · exact h.present g List.mem_cons_self
  · exact h.present x (List.mem_cons_of_mem g hx)
  · exact h.read g List.mem_cons_self
  · exact h.read x (List.mem_cons_of_mem g hx)

lemma Kept.release (h : Kept sha256 s (g :: gs)) (hg : g.holds = true) :
    Kept sha256 { s with locked := false } ({ g with holds := false } :: gs) := by
  have hzero : holders gs = 0 :=
    List.countP_eq_zero.mpr fun x hx => Bool.eq_false_iff.mp (h.alone hg x hx)
  refine ⟨h.addressed, ?_, fun x hx => ?_, fun x hx => ?_, fun x hx => ?_, fun x hx => ?_⟩
  · rw [holders_cons, hzero]
    rfl
  all_goals rcases List.mem_cons.mp hx with rfl | hx
  · exact fun hh => absurd hh Bool.false_ne_true
  · exact h.written x (List.mem_cons_of_mem g hx)
  · exact fun _ hh => absurd hh Bool.false_ne_true
  · exact h.absent x (List.mem_cons_of_mem g hx)
  · exact h.present g List.mem_cons_self
  · exact h.present x (List.mem_cons_of_mem g hx)
  · exact h.read g List.mem_cons_self
  · exact h.read x (List.mem_cons_of_mem g hx)

lemma Kept.ask (h : Kept sha256 s (g :: gs)) {q : FileOp} {answer : FileAnswer ε q} (hmay : MayAsk sha256 g q)
    (hanswer : fileAnswers s q answer t) : Kept sha256 t (sight q answer g :: gs) := by
  cases q with
  | acquire =>
    obtain ⟨hfree, rfl⟩ := hanswer
    exact h.acquire hfree hmay.2.1 hmay.2.2
  | release =>
    obtain rfl := hanswer
    exact h.release hmay
  | «exists» p =>
    obtain rfl := hmay
    rcases answer with e | b
    · obtain rfl := hanswer
      exact h
    obtain ⟨hb, rfl⟩ := hanswer
    cases b with
    | true =>
      refine h.look rfl rfl id Or.inl (fun _ => Or.inr fun hnone => ?_) fun _ => Or.inl
      rw [hnone] at hb
      cases hb
    | false =>
      refine h.look rfl rfl id (fun _ => Or.inr ?_) Or.inl fun _ => Or.inl
      exact Option.not_isSome_iff_eq_none.mp (Bool.eq_false_iff.mp hb.symm)
  | mkdir p =>
    obtain rfl : t = s := by
      rcases answer with e | u <;> exact hanswer
    rcases answer with e | u <;> exact h
  | create p =>
    obtain ⟨hg, hwritten, rfl⟩ := hmay
    rcases answer with e | u
    · obtain rfl := hanswer
      exact h
    · obtain rfl := hanswer
      exact h.touch hg rfl hg (fun hw => absurd (hwritten.symm.trans hw) Bool.false_ne_true) id id rfl
  | write p content =>
    obtain ⟨hg, hwritten, hcall, rfl⟩ := hmay
    rcases answer with e | u
    · obtain ⟨n, rfl⟩ := hanswer
      exact h.touch hg rfl hg (fun hw => absurd (hwritten.symm.trans hw) Bool.false_ne_true) id id rfl
    · obtain rfl := hanswer
      refine h.touch hg rfl hg (fun _ c hc => ?_) id id rfl
      rw [StoreCall.put.inj (hcall.symm.trans hc)]
  | replace source target =>
    obtain ⟨hg, hwritten, -, ⟨content, hcall⟩, rfl, rfl⟩ := hmay
    rcases answer with (_ | e) | u
    · obtain ⟨hthere, rfl⟩ := hanswer
      exact h.look rfl rfl id Or.inl (fun _ => Or.inr hthere) fun _ => Or.inl
    · obtain rfl := hanswer
      exact h
    · obtain ⟨stored, hstored, rfl⟩ := hanswer
      exact h.place hg hwritten hcall hstored
  | unlink p =>
    obtain ⟨hg, -, -, rfl⟩ := hmay
    rcases answer with e | u
    · obtain rfl := hanswer
      exact h
    · obtain rfl := hanswer
      exact h.touch hg rfl hg (fun hw => absurd hw Bool.false_ne_true) id id rfl
  | isFile p =>
    rcases answer with e | b
    · obtain rfl := hanswer
      exact h
    · obtain ⟨-, rfl⟩ := hanswer
      exact h
  | readBytes p =>
    obtain rfl := hmay
    rcases answer with e | content
    · obtain rfl := hanswer
      exact h
    · obtain ⟨hread, rfl⟩ := hanswer
      exact h.look rfl rfl id Or.inl Or.inl fun c hc => Or.inr (hc ▸ hread)

variable (sha256) in
lemma kept_accounted : Accounted (fileSystem ε) sight (Serves sha256) (MayAsk sha256) (Served (ε := ε) sha256)
    (Kept sha256) where
  perm h hperm := h.perm hperm
  start h := by
    rintro ⟨call, rfl, -⟩
    exact h.start call
  ask h hmay hanswer := h.ask hmay hanswer
  change h hb := h.beside hb
  crash h hended hcrash := by
    obtain rfl := hcrash
    exact h.crash fun g hg => (hended g hg).elim fun _ hpost => hpost.released

/-- What a process finds when it starts. -/
structure Sound (sha256 : Bytes → String) (s : StoreState) : Prop where
  addressed : Addressed sha256 s
  free : s.locked = false

/-- Any number of calls under way over one root. -/
abbrev StorePool (ε : Type) :=
  Pool FileOp (FileAnswer ε) (Except (StoreFailure ε) StoreReply) Sight StoreState

variable (sha256) in
abbrev StoreStep (ε : Type) := PoolStep (fileSystem ε) sight (Serves (ε := ε) sha256)

lemma store_sane {p : StorePool ε} (hp : Reachable (Idle (Sound sha256)) (StoreStep sha256 ε) p) :
    Sane sight (MayAsk sha256) (Served sha256) (Kept sha256) p := by
  refine (sane_inductive ?_ (kept_accounted sha256) ?_).reachable hp
  · rintro g program ⟨call, rfl, rfl⟩
    exact serve_meets call
  · intro s hs
    refine ⟨hs.addressed, ?_, fun x hx => ?_, fun x hx => ?_, fun x hx => ?_, fun x hx => ?_⟩
    · rw [hs.free]
      rfl
    all_goals cases hx

/-- A content has been put into a place that was free, and nothing else has changed. -/
structure Placed (sha256 : Bytes → String) (content : Bytes) (s t : StoreState) : Prop where
  free : s.files (pathOf (sha256 content)) = none
  placed : t.files (pathOf (sha256 content)) = some content
  others : ∀ a, Dotless a → a ≠ sha256 content → t.files (pathOf a) = s.files (pathOf a)

def SameBlobs (s t : StoreState) : Prop := ∀ a, Dotless a → t.files (pathOf a) = s.files (pathOf a)

lemma SameBlobs.touch {a : String} {v : Option Bytes} : SameBlobs s (s.update (tmpOf a) v) :=
  fun _ hb => update_tmp_blob v hb

/-- What an answer does to the blobs. -/
lemma answer_blobs (hdigest : ∀ content, Dotless (sha256 content)) (h : Kept sha256 s (g :: gs)) {q : FileOp}
    {answer : FileAnswer ε q} (hmay : MayAsk sha256 g q) (hanswer : fileAnswers s q answer t) :
    SameBlobs s t ∨ ∃ content, g.call = .put content ∧ Placed sha256 content s t := by
  have hsame : t = s → SameBlobs s t := by
    rintro rfl a -
    rfl
  cases q with
  | acquire =>
    obtain ⟨-, rfl⟩ := hanswer
    exact Or.inl fun a _ => rfl
  | release =>
    obtain rfl := hanswer
    exact Or.inl fun a _ => rfl
  | «exists» p =>
    rcases answer with e | b
    · exact Or.inl (hsame hanswer)
    · exact Or.inl (hsame hanswer.2)
  | mkdir p =>
    rcases answer with e | u <;> exact Or.inl (hsame hanswer)
  | create p =>
    obtain ⟨-, -, rfl⟩ := hmay
    rcases answer with e | u
    · exact Or.inl (hsame hanswer)
    · obtain rfl := hanswer
      exact Or.inl SameBlobs.touch
  | write p content =>
    obtain ⟨-, -, -, rfl⟩ := hmay
    rcases answer with e | u
    · obtain ⟨n, rfl⟩ := hanswer
      exact Or.inl SameBlobs.touch
    · obtain rfl := hanswer
      exact Or.inl SameBlobs.touch
  | replace source target =>
    obtain ⟨hg, hwritten, habsent, ⟨content, hcall⟩, rfl, rfl⟩ := hmay
    have haddress : g.address sha256 = sha256 content := by rw [Sight.address, hcall]
    rcases answer with (_ | e) | u
    · exact Or.inl (hsame hanswer.2)
    · exact Or.inl (hsame hanswer)
    · obtain ⟨stored, hstored, rfl⟩ := hanswer
      obtain rfl : stored = content :=
        Option.some.inj (hstored.symm.trans (h.written g List.mem_cons_self hg hwritten content hcall))
      have hfree := h.absent g List.mem_cons_self (haddress.symm ▸ hdigest stored) hg habsent
      refine Or.inr ⟨stored, hcall, haddress ▸ hfree, ?_, fun a ha hne => ?_⟩
      · rw [haddress, update_files_self]
      · rw [haddress, update_files_of_ne _ fun heq => hne (pathOf_inj heq), update_tmp_blob none ha]
  | unlink p =>
    obtain ⟨-, -, -, rfl⟩ := hmay
    rcases answer with e | u
    · exact Or.inl (hsame hanswer)
    · obtain rfl := hanswer
      exact Or.inl SameBlobs.touch
  | isFile p =>
    rcases answer with e | b
    · exact Or.inl (hsame hanswer)
    · exact Or.inl (hsame hanswer.2)
  | readBytes p =>
    rcases answer with e | content
    · exact Or.inl (hsame hanswer)
    · exact Or.inl (hsame hanswer.2)

/-- What a step does to the blobs. -/
lemma step_blobs (hdigest : ∀ content, Dotless (sha256 content)) {p p' : StorePool ε}
    (hp : Reachable (Idle (Sound sha256)) (StoreStep sha256 ε) p) (hstep : StoreStep sha256 ε p p') :
    SameBlobs p.state p'.state ∨
      ∃ content, (∃ r ∈ p.running, r.1.call = .put content) ∧ Placed sha256 content p.state p'.state := by
  have hsane := store_sane hp
  cases hstep with
  | start _ => exact Or.inl fun a _ => rfl
  | @ask before after g q next answer s hsplit hanswer =>
    have hmem : (g, Program.ask q next) ∈ p.running := hsplit ▸ List.mem_append_right before List.mem_cons_self
    have haccount := hsane.account
    rw [Pool.ghosts, hsplit] at haccount
    simp only [List.map_append, List.map_cons, List.append_assoc, List.cons_append] at haccount
    rcases answer_blobs hdigest (haccount.perm List.perm_middle) (hsane.running _ hmem).1 hanswer with hsame | hput
    · exact Or.inl hsame
    · obtain ⟨content, hcall, hplaced⟩ := hput
      exact Or.inr ⟨content, ⟨_, hmem, hcall⟩, hplaced⟩
  | stop _ => exact Or.inl fun a _ => rfl
  | change hbeside => exact Or.inl hbeside.blobs
  | crash hcrash =>
    obtain rfl := hcrash
    exact Or.inl fun a _ => rfl

section Sample

def abcDigest : String := "ba7816bf8f01cfea414140de5dae2223b00361a396177a9cb410ff61f20015ad"

/-- The digest of `abc`, and of nothing else. -/
def sampleSha256 (content : Bytes) : String := if content = [97, 98, 99] then abcDigest else ""

lemma sampleSha256_dotless (content : Bytes) : Dotless (sampleSha256 content) := by
  rw [sampleSha256]
  split
  · exact (by decide : '.' ∉ abcDigest.toList)
  · exact List.not_mem_nil

/-- A file system on which everything succeeds. -/
def sampleFiles (s : StoreState) : (q : FileOp) → FileAnswer Unit q × StoreState
  | .acquire => ((), { s with locked := true })
  | .release => ((), { s with locked := false })
  | .exists p => (Except.ok (s.files p).isSome, s)
  | .mkdir _ => (Except.ok (), s)
  | .create p => (Except.ok (), s.update p (some []))
  | .write p content => (Except.ok (), s.update p (some content))
  | .replace source target => (Except.ok (), (s.update source none).update target (s.files source))
  | .unlink p => (Except.ok (), s.update p none)
  | .isFile p => (Except.ok (s.files p).isSome, s)
  | .readBytes p => (Except.ok ((s.files p).getD []), s)

def emptyRoot : StoreState := ⟨fun _ => none, false⟩

lemma emptyRoot_sound : Sound sampleSha256 emptyRoot := by
  refine ⟨fun address content _ h => ?_, rfl⟩
  cases h

/-- `put` of `abc` alone, after its first requests. -/
def sampleAfter (n : ℕ) : StoreState × Sight × Files Unit (Except (StoreFailure Unit) StoreReply) :=
  (LocalStore.put sampleSha256 [97, 98, 99]).advance sight sampleFiles n emptyRoot (Sight.init (.put [97, 98, 99]))

def idlePool : StorePool Unit := ⟨emptyRoot, [], []⟩

def samplePool : StorePool Unit := ⟨(sampleAfter 7).1, [], [((sampleAfter 7).2.1, .ok (.address abcDigest))]⟩

lemma idlePool_reachable : Reachable (Idle (Sound sampleSha256)) (StoreStep sampleSha256 Unit) idlePool :=
  Reachable.start ⟨emptyRoot_sound, rfl, rfl⟩

lemma samplePool_run : Run (StoreStep sampleSha256 Unit) idlePool samplePool := by
  have hanswered : (LocalStore.put sampleSha256 [97, 98, 99]).Answered (fileSystem Unit) sampleFiles 7 emptyRoot :=
    ⟨⟨rfl, rfl⟩, ⟨rfl, rfl⟩, rfl, rfl, rfl, ⟨[97, 98, 99], rfl, rfl⟩, rfl, trivial⟩
  have hplayed := (run_advance hanswered :
    Run (StoreStep sampleSha256 Unit) ⟨emptyRoot, [(Sight.init (.put [97, 98, 99]), _)], []⟩
      ⟨(sampleAfter 7).1, [(sampleAfter 7).2], []⟩)
  have hstart : StoreStep sampleSha256 Unit idlePool
      ⟨emptyRoot, [(Sight.init (.put [97, 98, 99]), LocalStore.put sampleSha256 [97, 98, 99])], []⟩ :=
    .start ⟨.put [97, 98, 99], rfl, rfl⟩
  have hstop : StoreStep sampleSha256 Unit ⟨(sampleAfter 7).1, [(sampleAfter 7).2], []⟩ samplePool :=
    @PoolStep.stop _ _ _ _ _ _ _ _ _ [] [] _ _ rfl
  exact (hplayed.head hstart).tail hstop

end Sample

/-- Every blob stands under its own address at any time, a put that has ended left one there, and a get gives only what
belongs to the address it was asked for. -/
theorem blobs_addressed (hdigest : ∀ content, Dotless (sha256 content)) {p : StorePool ε}
    (hp : Reachable (Idle (Sound sha256)) (StoreStep sha256 ε) p) :
    Addressed sha256 p.state ∧ ∀ r ∈ p.ended, ∀ reply, r.2 = .ok reply →
      (∀ content, r.1.call = .put content → reply = .address (sha256 content) ∧
        ∃ blob, p.state.files (pathOf (sha256 content)) = some blob ∧ sha256 blob = sha256 content) ∧
      ∀ address, Dotless address → r.1.call = .get address →
        ∃ content, reply = .content content ∧ sha256 content = address := by
  have hsane := store_sane hp
  refine ⟨hsane.account.addressed, fun r hr reply hreply => ⟨fun content hcall => ?_, fun address hdot hcall => ?_⟩⟩
  all_goals have hmem : r.1 ∈ p.ghosts := List.mem_append_right _ (List.mem_map_of_mem hr)
  · obtain ⟨rfl, hpresent⟩ := (hsane.ended r hr).put content reply hcall hreply
    have haddress : r.1.address sha256 = sha256 content := by rw [Sight.address, hcall]
    have hthere := hsane.account.present r.1 hmem (haddress ▸ hdigest content) hpresent
    obtain ⟨blob, hblob⟩ := Option.ne_none_iff_exists'.mp hthere
    rw [haddress] at hblob
    exact ⟨rfl, blob, hblob, hsane.account.addressed _ blob (hdigest content) hblob⟩
  · obtain ⟨content, rfl, hread⟩ := (hsane.ended r hr).get address reply hcall hreply
    have haddress : r.1.address sha256 = address := by rw [Sight.address, hcall]
    exact ⟨content, rfl, haddress ▸ hsane.account.read r.1 hmem (haddress.symm ▸ hdot) content hread⟩

theorem abc_addressed : ∃ blob, samplePool.state.files (pathOf (sampleSha256 [97, 98, 99])) = some blob ∧
    sampleSha256 blob = sampleSha256 [97, 98, 99] :=
  (((blobs_addressed sampleSha256_dotless (idlePool_reachable.run samplePool_run)).2 _ List.mem_cons_self _ rfl).1
    [97, 98, 99] rfl).2

/-- A blob that is there stays there as it is, whatever is put and whenever the process dies. -/
theorem blob_kept (hdigest : ∀ content, Dotless (sha256 content)) {p p' : StorePool ε}
    (hp : Reachable (Idle (Sound sha256)) (StoreStep sha256 ε) p) (hrun : Run (StoreStep sha256 ε) p p')
    {address : String} {content : Bytes} (hdot : Dotless address)
    (hthere : p.state.files (pathOf address) = some content) : p'.state.files (pathOf address) = some content := by
  induction hrun with
  | refl => exact hthere
  | tail hbefore hstep ih =>
    rcases step_blobs hdigest (hp.run hbefore) hstep with hsame | ⟨new, -, hplaced⟩
    · rw [hsame address hdot]
      exact ih
    · by_cases hne : address = sha256 new
      · rw [hne, hplaced.free] at ih
        cases ih
      · rw [hplaced.others address hdot hne]
        exact ih

theorem abc_kept : samplePool.state.files (pathOf abcDigest) = some [97, 98, 99] :=
  have hcrash : StoreStep sampleSha256 Unit samplePool _ := .crash rfl
  blob_kept sampleSha256_dotless (idlePool_reachable.run samplePool_run) (Relation.ReflTransGen.single hcrash)
    (by decide : '.' ∉ abcDigest.toList) rfl

/-- The store of ingestion has the blobs that stand under the addresses. -/
def Represents (blobs : Dict String Bytes) (s : StoreState) : Prop :=
  ∀ address, Dotless address → blobs.find? address = s.files (pathOf address)

lemma Represents.put {blobs : Dict String Bytes} {content : Bytes} (h : Represents blobs s)
    (hdigest : Dotless (sha256 content)) (hplaced : Placed sha256 content s t) :
    Represents (put sha256 content blobs).2 t := by
  have hfree : blobs.find? (sha256 content) = none := (h _ hdigest).trans hplaced.free
  intro a ha
  rw [Application.EvidenceService.put]
  simp only [hfree, Option.isSome_none, Bool.false_eq_true, if_false]
  rw [Dict.find?_set]
  split
  · rename_i heq
    rw [heq, hplaced.placed]
  · rename_i hne
    rw [hplaced.others a ha hne]
    exact h a ha

lemma find?_put_of_ne_none {blobs : Dict String Bytes} {a : String} (content : Bytes) (h : blobs.find? a ≠ none) :
    (put sha256 content blobs).2.find? a ≠ none := by
  rw [Application.EvidenceService.put]
  dsimp only
  split
  · exact h
  · rw [Dict.find?_set]
    split
    · exact Option.some_ne_none _
    · exact h

/-- What has been put is there. -/
lemma find?_puts {contents : List Bytes} {blobs : Dict String Bytes} {c : Bytes} (h : c ∈ contents) :
    (contents.foldl (fun d content => (put sha256 content d).2) blobs).find? (sha256 c) ≠ none := by
  induction contents using List.reverseRecOn with
  | nil => cases h
  | append_singleton contents new ih =>
    rw [List.foldl_append]
    rcases List.mem_append.mp h with h | h
    · exact find?_put_of_ne_none new (ih h)
    · obtain rfl := List.mem_singleton.mp h
      rw [List.foldl_cons, List.foldl_nil, Application.EvidenceService.put]
      dsimp only
      split
      · rename_i hthere
        exact Option.isSome_iff_ne_none.mp hthere
      · rw [Dict.find?_set, if_pos rfl]
        exact Option.some_ne_none _

/-- Every run of the store is a sequence of puts of ingestion, each of an address that was free. -/
theorem store_refines (hdigest : ∀ content, Dotless (sha256 content)) {p p' : StorePool ε}
    (hp : Reachable (Idle (Sound sha256)) (StoreStep sha256 ε) p) (hrun : Run (StoreStep sha256 ε) p p')
    {blobs : Dict String Bytes} (hblobs : Represents blobs p.state) :
    ∃ contents : List Bytes, (contents.map sha256).Nodup ∧
      Represents (contents.foldl (fun d content => (put sha256 content d).2) blobs) p'.state := by
  induction hrun with
  | refl => exact ⟨[], List.nodup_nil, hblobs⟩
  | tail hbefore hstep ih =>
    obtain ⟨contents, hnodup, hcontents⟩ := ih
    rcases step_blobs hdigest (hp.run hbefore) hstep with hsame | ⟨new, -, hplaced⟩
    · exact ⟨contents, hnodup, fun a ha => (hcontents a ha).trans (hsame a ha).symm⟩
    · refine ⟨contents ++ [new], ?_, ?_⟩
      · have hfree := (hcontents _ (hdigest new)).trans hplaced.free
        rw [List.map_append, List.nodup_append]
        refine ⟨hnodup, List.nodup_singleton _, fun a ha b hb hab => ?_⟩
        obtain rfl := List.mem_singleton.mp hb
        obtain ⟨c, hc, rfl⟩ := List.mem_map.mp ha
        exact find?_puts hc (hab ▸ hfree)
      · rw [List.foldl_append]
        exact hcontents.put (hdigest new) hplaced

theorem abc_refines : ∃ contents : List Bytes, (contents.map sampleSha256).Nodup ∧
    Represents (contents.foldl (fun d content => (put sampleSha256 content d).2) Table.empty) samplePool.state :=
  store_refines sampleSha256_dotless idlePool_reachable samplePool_run fun _ _ => rfl

end Interleavings

end SecScanMonitor.Evidence
