import SecScanMonitor.Evidence.Addressing

/-! The private blob store of hosted evidence (`evidence/__init__.py`): writes that do not overwrite, confirmed where
their answer is lost, and reads that are verified. -/

namespace SecScanMonitor.Evidence.PrivateBlobs

open Foundations Application.EvidenceService Program

section Store

/-- A request of the blob client; `put` does not overwrite. -/
inductive BlobOp where
  | put (path : String) (content : Bytes) (contentType : String)
  | get (path : String)

def BlobAnswer (ε : Type) : BlobOp → Type
  | .put _ _ _ => Except ε Unit
  | .get _ => Except ε Bytes

abbrev Blobs (ε : Type) := Program BlobOp (BlobAnswer ε)

inductive BlobCall where
  | put (content : Bytes) (contentType : String)
  | get (sha256 : String)

inductive BlobReply where
  | address (sha256 : String)
  | content (content : Bytes)

inductive BlobFailure where
  | valueError (message : String)
  | runtimeError (message : String)
  | keyError (message : String)
  deriving DecidableEq

variable {ε : Type} (sha256 : Bytes → String)

/-- `[0-9a-f]` -/
def isHexDigit (c : Char) : Bool := decide ('0' ≤ c ∧ c ≤ '9' ∨ 'a' ≤ c ∧ c ≤ 'f')

/-- `_DIGEST.fullmatch` -/
def isDigest (address : String) : Bool := decide (address.toList.length = 64) && address.toList.all isHexDigit

/-- `_path` -/
def blobPath (address : String) : Except BlobFailure String :=
  if isDigest address then .ok ("evidence/" ++ address)
  else .error (.valueError "evidence address must be a lowercase SHA-256 digest")

/-- After a write whose answer is an exception: is the canonical content there? -/
def confirm (address path : String) : Blobs ε (Except BlobFailure BlobReply) := do
  match ← Program.request (BlobOp.get path) with
  | .error (_ : ε) => return .error (.runtimeError "private evidence write failed")
  | .ok existing =>
    -- the error of a collision is raised within the same handler
    if sha256 existing = address then return .ok (.address address)
    else return .error (.runtimeError "private evidence write failed")

def putAt (address path : String) (content : Bytes) (contentType : String) :
    Blobs ε (Except BlobFailure BlobReply) := do
  let type := if contentType = "" then "application/octet-stream" else contentType
  match ← Program.request (BlobOp.put path content type) with
  | .ok () => return .ok (.address address)
  | .error (_ : ε) => confirm sha256 address path

def put (content : Bytes) (contentType : String) : Blobs ε (Except BlobFailure BlobReply) :=
  match blobPath (sha256 content) with
  | .error e => return .error e
  | .ok path => putAt sha256 (sha256 content) path content contentType

def get (address : String) : Blobs ε (Except BlobFailure BlobReply) :=
  match blobPath address with
  | .error e => return .error e
  | .ok path => do
    match ← Program.request (BlobOp.get path) with
    | .error (_ : ε) => return .error (.keyError "private evidence object unavailable")
    | .ok content =>
      if sha256 content = address then return .ok (.content content)
      else return .error (.runtimeError "private evidence digest verification failed")

def serve : BlobCall → Blobs ε (Except BlobFailure BlobReply)
  | .put content contentType => put sha256 content contentType
  | .get address => get sha256 address

end Store

section Ghost

variable {ε : Type} {sha256 : Bytes → String}

/-- What a call has seen of the blob of its address. -/
structure Look where
  call : BlobCall
  blob : Option Bytes

def Look.init (call : BlobCall) : Look := ⟨call, none⟩

def look : (q : BlobOp) → BlobAnswer ε q → Look → Look
  | .put _ content _, .ok _, g => { g with blob := some content }
  | .get _, .ok content, g => { g with blob := some content }
  | _, _, g => g

variable (sha256) in
def Look.address (g : Look) : String :=
  match g.call with
  | .put content _ => sha256 content
  | .get address => address

variable (sha256) in
/-- A call asks only about the blob of its own address, and puts only its own content there. -/
def MayAsk (g : Look) : BlobOp → Prop
  | .put path content _ => blobPath (g.address sha256) = .ok path ∧ ∃ type, g.call = .put content type
  | .get path => blobPath (g.address sha256) = .ok path

variable (sha256) in
/-- A call that succeeds has seen the blob of its address, which belongs there. -/
def Verified (g : Look) (r : Except BlobFailure BlobReply) : Prop :=
  ∀ reply, r = .ok reply → ∃ content, g.blob = some content ∧ sha256 content = g.address sha256 ∧
    (∃ path, blobPath (g.address sha256) = .ok path) ∧
    ((∃ c type, g.call = .put c type) → reply = .address (g.address sha256)) ∧
    ((∃ a, g.call = .get a) → reply = .content content)

lemma verified_error {g : Look} {e : BlobFailure} : Verified sha256 g (.error e) := by
  intro reply h
  cases h

lemma put_meets (content : Bytes) (contentType : String) : (put sha256 content contentType : Blobs ε _).Meets look
    (MayAsk sha256) (Verified sha256) (Look.init (.put content contentType)) := by
  unfold put
  cases hpath : blobPath (sha256 content) with
  | error e => exact verified_error
  | ok path =>
    have hverified : ∀ {blob : Bytes}, sha256 blob = sha256 content → Verified sha256
        ⟨.put content contentType, some blob⟩ (.ok (.address (sha256 content))) := by
      intro blob hblob reply h
      obtain rfl := Except.ok.inj h
      refine ⟨blob, rfl, hblob, ⟨path, hpath⟩, fun _ => rfl, fun hget => ?_⟩
      obtain ⟨a, ha⟩ := hget
      cases ha
    refine meets_request_bind.mpr ⟨⟨hpath, contentType, rfl⟩, fun answer => ?_⟩
    rcases answer with e | u
    · refine meets_request_bind.mpr ⟨hpath, fun answer => ?_⟩
      rcases answer with e | existing
      · exact verified_error
      · by_cases hsame : sha256 existing = sha256 content
        · simp only [hsame, if_true]
          exact hverified hsame
        · simp only [hsame, if_false]
          exact verified_error
    · exact hverified rfl

lemma get_meets (address : String) : (get sha256 address : Blobs ε _).Meets look (MayAsk sha256) (Verified sha256)
    (Look.init (.get address)) := by
  unfold get
  cases hpath : blobPath address with
  | error e => exact verified_error
  | ok path =>
    refine meets_request_bind.mpr ⟨hpath, fun answer => ?_⟩
    rcases answer with e | content
    · exact verified_error
    · by_cases hsame : sha256 content = address
      · simp only [hsame, if_true]
        intro reply h
        obtain rfl := Except.ok.inj h
        refine ⟨content, rfl, hsame, ⟨path, hpath⟩, fun hput => ?_, fun _ => rfl⟩
        obtain ⟨c, type, hc⟩ := hput
        cases hc
      · simp only [hsame, if_false]
        exact verified_error

lemma serve_meets (call : BlobCall) :
    (serve sha256 call : Blobs ε _).Meets look (MayAsk sha256) (Verified sha256) (Look.init call) := by
  cases call with
  | put content contentType => exact put_meets content contentType
  | get address => exact get_meets address

end Ghost

section Interleavings

/-- Blobs that are there stay as they are; what is missing may appear. -/
def Grown (s t : String → Option Bytes) : Prop := ∀ path content, s path = some content → t path = some content

/-- The service. A put whose answer is an exception may have been done. -/
def blobAnswers {ε : Type} (s : String → Option Bytes) : (q : BlobOp) → BlobAnswer ε q → (String → Option Bytes) → Prop
  | .put path content _, .ok _, t => s path = none ∧ t = Function.update s path (some content)
  | .put path content _, .error _, t => t = s ∨ s path = none ∧ t = Function.update s path (some content)
  | .get path, .ok content, t => s path = some content ∧ t = s
  | .get _, .error _, t => t = s

/-- Other clients put whatever they like where nothing is. -/
def blobService (ε : Type) : Environment BlobOp (BlobAnswer ε) (String → Option Bytes) where
  answers := blobAnswers
  changes := Grown
  crashes := Grown

variable {ε : Type} {sha256 : Bytes → String} {s t : String → Option Bytes} {g : Look} {gs : List Look}

lemma Grown.refl (s : String → Option Bytes) : Grown s s := fun _ _ h => h

lemma grown_update {path : String} {content : Bytes} (h : s path = none) :
    Grown s (Function.update s path (some content)) := by
  intro path' content' hthere
  have hne : path' ≠ path := fun heq => Option.some_ne_none _ (hthere.symm.trans (heq ▸ h))
  rw [Function.update_of_ne hne]
  exact hthere

lemma grown_answer {q : BlobOp} {answer : BlobAnswer ε q} (h : blobAnswers s q answer t) : Grown s t := by
  cases q with
  | put path content type =>
    rcases answer with e | u
    · rcases h with rfl | ⟨hfree, rfl⟩
      · exact Grown.refl _
      · exact grown_update hfree
    · obtain ⟨hfree, rfl⟩ := h
      exact grown_update hfree
  | get path =>
    rcases answer with e | content
    · obtain rfl := h
      exact Grown.refl _
    · obtain ⟨-, rfl⟩ := h
      exact Grown.refl _

variable (sha256) in
/-- What a call has seen under its address is there. -/
def Confirmed (s : String → Option Bytes) (gs : List Look) : Prop :=
  ∀ g ∈ gs, ∀ content path, g.blob = some content → blobPath (g.address sha256) = .ok path → s path = some content

lemma Confirmed.grown (h : Confirmed sha256 s gs) (hg : Grown s t) : Confirmed sha256 t gs :=
  fun x hx content path hblob hpath => hg _ _ (h x hx content path hblob hpath)

/-- A call of the store. -/
def Serves (sha256 : Bytes → String) (g : Look) (program : Blobs ε (Except BlobFailure BlobReply)) : Prop :=
  ∃ call, g = Look.init call ∧ program = serve sha256 call

variable (sha256) in
lemma confirmed_accounted : Accounted (blobService ε) look (Serves sha256) (MayAsk sha256) (Verified sha256)
    (Confirmed sha256) where
  perm h hperm x hx := h x (hperm.symm.subset hx)
  start h := by
    rintro ⟨call, rfl, -⟩ x hx
    rcases List.mem_cons.mp hx with rfl | hx
    · intro content path hblob
      cases hblob
    · exact h x hx
  ask {s gs g q answer t} h hmay hanswer := by
    have hrest : Confirmed sha256 t (g :: gs) := h.grown (grown_answer hanswer)
    intro x hx
    rcases List.mem_cons.mp hx with rfl | hx
    · cases q with
      | put path content type =>
        rcases answer with e | u
        · exact hrest g List.mem_cons_self
        · obtain ⟨-, rfl⟩ := hanswer
          intro content' path' hblob hpath
          obtain rfl := Option.some.inj hblob
          obtain rfl := Except.ok.inj (hmay.1.symm.trans hpath)
          exact Function.update_self ..
      | get path =>
        rcases answer with e | content
        · exact hrest g List.mem_cons_self
        · obtain ⟨hthere, rfl⟩ := hanswer
          intro content' path' hblob hpath
          obtain rfl := Option.some.inj hblob
          obtain rfl := Except.ok.inj (hmay.symm.trans hpath)
          exact hthere
    · exact hrest x (List.mem_cons_of_mem g hx)
  change h hgrown := h.grown hgrown
  crash {s gs ended t} h _ hgrown := fun x hx => h.grown hgrown x (List.mem_append_right gs hx)

abbrev BlobPool (ε : Type) := Pool BlobOp (BlobAnswer ε) (Except BlobFailure BlobReply) Look (String → Option Bytes)

abbrev BlobStep (sha256 : Bytes → String) (ε : Type) := PoolStep (blobService ε) look (Serves (ε := ε) sha256)

/-- A call that has ended with success has its blob in the store, under its address, with the digest that the address
says; a read gives this blob. -/
theorem blobs_confirmed {p : BlobPool ε} (hp : Reachable (Idle fun _ => True) (BlobStep sha256 ε) p) :
    ∀ r ∈ p.ended, ∀ reply, r.2 = .ok reply → ∃ path content, blobPath (r.1.address sha256) = .ok path ∧
      p.state path = some content ∧ sha256 content = r.1.address sha256 ∧
      ((∃ a, r.1.call = .get a) → reply = .content content) := by
  have hsane : Sane look (MayAsk sha256) (Verified sha256) (Confirmed sha256) p := by
    refine (sane_inductive ?_ (confirmed_accounted sha256) ?_).reachable hp
    · rintro g program ⟨call, rfl, rfl⟩
      exact serve_meets call
    · intro s _ x hx
      cases hx
  intro r hr reply hreply
  obtain ⟨content, hblob, hdigest, ⟨path, hpath⟩, -, hget⟩ := hsane.ended r hr reply hreply
  have hmem : r.1 ∈ p.ghosts := List.mem_append_right _ (List.mem_map_of_mem hr)
  exact ⟨path, content, hpath, hsane.account r.1 hmem content path hblob hpath, hdigest, hget⟩

/-- A service that does what it is asked, and loses the answer of every put. -/
def lossyService (s : String → Option Bytes) : (q : BlobOp) → BlobAnswer Unit q × (String → Option Bytes)
  | .put path content _ =>
    (Except.error (), if s path = none then Function.update s path (some content) else s)
  | .get path =>
    (match s path with
      | none => Except.error ()
      | some content => Except.ok content, s)

def samplePut : Blobs Unit (Except BlobFailure BlobReply) :=
  putAt sampleSha256 abcDigest ("evidence/" ++ abcDigest) [97, 98, 99] ""

def lossyAfter (n : ℕ) : (String → Option Bytes) × Look × Blobs Unit (Except BlobFailure BlobReply) :=
  samplePut.advance look lossyService n (fun _ => none) (Look.init (.put [97, 98, 99] ""))

lemma put_abc : put sampleSha256 [97, 98, 99] "" = samplePut := by
  have hdigest : isDigest abcDigest = true := by decide
  have habc : sampleSha256 [97, 98, 99] = abcDigest := rfl
  rw [put, habc, blobPath, if_pos hdigest]
  rfl

theorem abc_confirmed : ∃ path content, blobPath (sampleSha256 [97, 98, 99]) = .ok path ∧
    (lossyAfter 2).1 path = some content ∧ sampleSha256 content = sampleSha256 [97, 98, 99] := by
  have hanswered : samplePut.Answered (blobService Unit) lossyService 2 fun _ => none :=
    ⟨Or.inr ⟨rfl, rfl⟩, ⟨rfl, rfl⟩, trivial⟩
  have hplayed := (run_advance hanswered : Run (BlobStep sampleSha256 Unit)
    ⟨fun _ => none, [(Look.init (.put [97, 98, 99] ""), _)], []⟩ ⟨(lossyAfter 2).1, [(lossyAfter 2).2], []⟩)
  have hstart : BlobStep sampleSha256 Unit ⟨fun _ => none, [], []⟩
      ⟨fun _ => none, [(Look.init (.put [97, 98, 99] ""), samplePut)], []⟩ :=
    .start ⟨.put [97, 98, 99] "", rfl, put_abc.symm⟩
  have hstop : BlobStep sampleSha256 Unit ⟨(lossyAfter 2).1, [(lossyAfter 2).2], []⟩
      ⟨(lossyAfter 2).1, [], [((lossyAfter 2).2.1, .ok (.address abcDigest))]⟩ :=
    @PoolStep.stop _ _ _ _ _ _ _ _ _ [] [] _ _ rfl
  have hreached : Reachable (Idle fun _ => True) (BlobStep sampleSha256 Unit)
      ⟨(lossyAfter 2).1, [], [((lossyAfter 2).2.1, .ok (.address abcDigest))]⟩ :=
    ⟨⟨fun _ => none, [], []⟩, ⟨trivial, rfl, rfl⟩, (hplayed.head hstart).tail hstop⟩
  obtain ⟨path, content, hpath, hthere, hdigest, -⟩ := blobs_confirmed hreached _ List.mem_cons_self _ rfl
  exact ⟨path, content, hpath, hthere, hdigest⟩

end Interleavings

end SecScanMonitor.Evidence.PrivateBlobs
