import Signon.Session.Stored
import Signon.Storage.Disk

/-!
Where a session is kept between runs: in memory for the life of the client, or in a file of a
file tree as indented JSON. A missing file holds no session; a file that does not decode is
reported as corrupt, naming its path; a file that cannot be reached fails as the file tree
reports it.
-/

namespace Signon

/-- A place to keep a session. -/
inductive Vault where
  | memory (slot : Option StoredCredentials)
  /-- A file at a path, absolute or from the working directory of the tree. -/
  | file (path : String) (disk : Disk)
  deriving DecidableEq

namespace Vault

def failure (e : IoError) : Failure := .storage e.message

def fileBytes (c : StoredCredentials) : List UInt8 := Text.Utf8.ofString (Json.pretty 0 c.toJson)

/-- The absolute path a file is written under before it is renamed onto `p`. -/
def sparePath (p : List String) : List String :=
  match p.getLast? with
  | some last => p.dropLast ++ [last ++ ".tmp"]
  | none => ["credentials.tmp"]

/-- The kept session, if any. -/
def load : Vault → Except Failure (Option StoredCredentials)
  | .memory slot => .ok slot
  | .file path d =>
    match d.read (d.resolve path) with
    | .error .notFound => .ok none
    | .error e => .error (failure e)
    | .ok data =>
      match StoredCredentials.ofBytes data with
      | .ok c => .ok (some c)
      | .error e => .error (.storage ("Credential file " ++ path ++ " is corrupt: " ++ e.message))

/-- The steps of saving to a file: make the parent directories, write the spare file, rename it
onto the file. The tree is kept as far as the steps went. -/
def saveTo (d : Disk) (p : List String) (bytes : List UInt8) : Except IoError Unit × Disk :=
  match d.createDirAll p.dropLast with
  | .error e => (.error e, d)
  | .ok d =>
    let spare := sparePath p
    let d := (d.removeFile spare).toOption.getD d
    match d.write spare bytes with
    | .error e => (.error e, d)
    | .ok d =>
      match d.rename spare p with
      | .error e => (.error e, d)
      | .ok d => (.ok (), d)

/-- Keeps a session, replacing what was kept. -/
def save (v : Vault) (c : StoredCredentials) : Except Failure Unit × Vault :=
  match v with
  | .memory _ => (.ok (), .memory (some c))
  | .file path d =>
    let (r, d) := saveTo d (d.resolve path) (fileBytes c)
    (r.mapError failure, .file path d)

/-- Forgets the kept session; a file that is already missing is fine. -/
def clear (v : Vault) : Except Failure Unit × Vault :=
  match v with
  | .memory _ => (.ok (), .memory none)
  | .file path d =>
    match d.removeFile (d.resolve path) with
    | .ok d => (.ok (), .file path d)
    | .error .notFound => (.ok (), .file path d)
    | .error e => (.error (failure e), .file path d)

def isFile : Vault → Bool
  | .memory _ => false
  | .file .. => true

def node? : Vault → Option Node
  | .memory _ => none
  | .file path d => d.node? (d.resolve path)

/-- Whether a file stands at the path of a file vault. -/
def holdsFile (v : Vault) : Bool :=
  match v.node? with
  | some (.file _) => true
  | _ => false

/-- Replaces whatever stands at the path of a file vault, and everything under it. -/
def place (n : Option Node) : Vault → Vault
  | .memory slot => .memory slot
  | .file path d =>
    let p := d.resolve path
    .file path (match n with
      | some n => (d.drop p).put p n
      | none => d.drop p)

end Vault

end Signon
