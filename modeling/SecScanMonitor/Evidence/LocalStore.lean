import SecScanMonitor.Application.EvidenceService
import SecScanMonitor.Foundations.Programs

/-! The content-addressed evidence store on a file system (`evidence/__init__.py`): its calls as programs over the files
below its root and the lock of its process. -/

namespace SecScanMonitor.Evidence

open Foundations Application.EvidenceService

section Files

/-- The parts of a path below the root. -/
abbrev StorePath := List String

/-- `_path` -/
def pathOf (sha256 : String) : StorePath :=
  [String.ofList (sha256.toList.take 2), String.ofList ((sha256.toList.drop 2).take 2), sha256]

/-- `target.with_suffix(".tmp")`, of an address without a dot. -/
def tmpOf (sha256 : String) : StorePath :=
  [String.ofList (sha256.toList.take 2), String.ofList ((sha256.toList.drop 2).take 2), sha256 ++ ".tmp"]

/-- What `replace` raises. -/
inductive ReplaceFailure (ε : Type) where
  | fileExists
  | other (e : ε)

/-- A request of the file system, or of the lock. `write_bytes` opens its file, which empties it, and then writes. -/
inductive FileOp where
  | acquire
  | release
  | exists (p : StorePath)
  | mkdir (p : StorePath)
  | create (p : StorePath)
  | write (p : StorePath) (content : Bytes)
  | replace (source target : StorePath)
  | unlink (p : StorePath)
  | isFile (p : StorePath)
  | readBytes (p : StorePath)

def FileAnswer (ε : Type) : FileOp → Type
  | .acquire => Unit
  | .release => Unit
  | .exists _ => Except ε Bool
  | .mkdir _ => Except ε Unit
  | .create _ => Except ε Unit
  | .write _ _ => Except ε Unit
  | .replace _ _ => Except (ReplaceFailure ε) Unit
  | .unlink _ => Except ε Unit
  | .isFile _ => Except ε Bool
  | .readBytes _ => Except ε Bytes

abbrev Files (ε : Type) := Program FileOp (FileAnswer ε)

namespace Files

variable {ε : Type}

abbrev acquire : Files ε Unit := Program.request FileOp.acquire

abbrev release : Files ε Unit := Program.request FileOp.release

abbrev exists? (p : StorePath) : Files ε (Except ε Bool) := Program.request (FileOp.exists p)

abbrev mkdir (p : StorePath) : Files ε (Except ε Unit) := Program.request (FileOp.mkdir p)

abbrev create (p : StorePath) : Files ε (Except ε Unit) := Program.request (FileOp.create p)

abbrev write (p : StorePath) (content : Bytes) : Files ε (Except ε Unit) := Program.request (FileOp.write p content)

abbrev replace (source target : StorePath) : Files ε (Except (ReplaceFailure ε) Unit) :=
  Program.request (FileOp.replace source target)

abbrev unlink (p : StorePath) : Files ε (Except ε Unit) := Program.request (FileOp.unlink p)

abbrev isFile (p : StorePath) : Files ε (Except ε Bool) := Program.request (FileOp.isFile p)

abbrev readBytes (p : StorePath) : Files ε (Except ε Bytes) := Program.request (FileOp.readBytes p)

end Files

end Files

section Store

/-- A call of the store. -/
inductive StoreCall where
  | put (content : Bytes)
  | get (sha256 : String)
  | exists (sha256 : String)

inductive StoreReply where
  | address (sha256 : String)
  | content (content : Bytes)
  | found (b : Bool)

inductive StoreFailure (ε : Type) where
  | keyError (message : String)
  | raised (e : ε)

variable {ε : Type} (sha256 : Bytes → String)

/-- `write_bytes` -/
def writeBytes (p : StorePath) (content : Bytes) : Files ε (Except ε Unit) := do
  match ← Files.create p with
  | .error e => return .error e
  | .ok () => Files.write p content

/-- The blob is written beside its place and moved there. -/
def publish (address : String) (content : Bytes) : Files ε (Except ε Unit) := do
  match ← writeBytes (tmpOf address) content with
  | .error e => return .error e
  | .ok () =>
    match ← Files.replace (tmpOf address) (pathOf address) with
    | .ok () => return .ok ()
    | .error .fileExists => Files.unlink (tmpOf address)
    | .error (.other e) => return .error e

/-- What `put` does under the lock. -/
def store (address : String) (content : Bytes) : Files ε (Except ε Unit) := do
  match ← Files.exists? (pathOf address) with
  | .error e => return .error e
  | .ok true => return .ok ()
  | .ok false =>
    match ← Files.mkdir (pathOf address).dropLast with
    | .error e => return .error e
    | .ok () => publish address content

def LocalStore.put (content : Bytes) : Files ε (Except (StoreFailure ε) StoreReply) := do
  let address := sha256 content
  let () ← Files.acquire
  let stored ← store address content
  -- the lock is released on every path
  let () ← Files.release
  match stored with
  | .error e => return .error (.raised e)
  | .ok () => return .ok (.address address)

def LocalStore.get (address : String) : Files ε (Except (StoreFailure ε) StoreReply) := do
  match ← Files.isFile (pathOf address) with
  | .error e => return .error (.raised e)
  | .ok false => return .error (.keyError ("no blob at content address " ++ address))
  | .ok true =>
    match ← Files.readBytes (pathOf address) with
    | .error e => return .error (.raised e)
    | .ok content => return .ok (.content content)

def LocalStore.exists (address : String) : Files ε (Except (StoreFailure ε) StoreReply) := do
  match ← Files.isFile (pathOf address) with
  | .error e => return .error (.raised e)
  | .ok b => return .ok (.found b)

def serve : StoreCall → Files ε (Except (StoreFailure ε) StoreReply)
  | .put content => LocalStore.put sha256 content
  | .get address => LocalStore.get address
  | .exists address => LocalStore.exists address

end Store

end SecScanMonitor.Evidence
