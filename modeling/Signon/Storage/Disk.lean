import Signon.Text.Split

/-!
A small file tree, as much of one as keeping a session file needs: files and directories under
absolute paths, a working directory that relative paths start from, and the calls that read,
write, rename and remove files and make directories.
-/

namespace Signon

/-- Why a call on the file tree failed. -/
inductive IoError where
  | notFound
  | exists
  | notDirectory
  | isDirectory
  deriving DecidableEq, Repr

/-- How a failure of the file tree reads. -/
def IoError.message : IoError → String
  | .notFound => "No such file or directory (os error 2)"
  | .exists => "File exists (os error 17)"
  | .notDirectory => "Not a directory (os error 20)"
  | .isDirectory => "Is a directory (os error 21)"

/-- What stands at a path. -/
inductive Node where
  | file (data : List UInt8)
  | directory
  deriving DecidableEq

/-- A file tree: every node under its absolute path. The root always exists. -/
structure Disk where
  /-- The directory relative paths start from. -/
  cwd : List String
  nodes : List (List String × Node)
  deriving DecidableEq

namespace Disk

def names (path : String) : List String :=
  (Text.pieces '/' path.toList).map String.ofList |>.filter fun n => !n.isEmpty && n != "."

def resolve (d : Disk) (path : String) : List String :=
  if path.startsWith "/" then names path else d.cwd ++ names path

def node? (d : Disk) (p : List String) : Option Node :=
  if p.isEmpty then some .directory else (d.nodes.find? (·.1 == p)).map (·.2)

/-- Why a path cannot be reached: the first node on the way that is missing or a file. -/
def blocked? (d : Disk) (p : List String) : Option IoError :=
  ((List.range p.length).map fun k => p.take k).findSome? fun q =>
    match d.node? q with
    | some .directory => none
    | some (.file _) => some .notDirectory
    | none => some .notFound

def put (d : Disk) (p : List String) (n : Node) : Disk :=
  { d with nodes := (d.nodes.filter (·.1 != p)) ++ [(p, n)] }

def drop (d : Disk) (p : List String) : Disk :=
  { d with nodes := d.nodes.filter fun e => !p.isPrefixOf e.1 }

/-- Reads a file. -/
def read (d : Disk) (p : List String) : Except IoError (List UInt8) :=
  match d.node? p with
  | some (.file data) => .ok data
  | some .directory => .error .isDirectory
  | none => .error ((d.blocked? p).getD .notFound)

/-- Creates or truncates a file and writes it. -/
def write (d : Disk) (p : List String) (data : List UInt8) : Except IoError Disk :=
  match d.node? p with
  | some .directory => .error .isDirectory
  | some (.file _) => .ok (d.put p (.file data))
  | none =>
    match d.blocked? p with
    | some e => .error e
    | none => .ok (d.put p (.file data))

/-- Removes a file. -/
def removeFile (d : Disk) (p : List String) : Except IoError Disk :=
  match d.node? p with
  | some (.file _) => .ok (d.drop p)
  | some .directory => .error .isDirectory
  | none => .error ((d.blocked? p).getD .notFound)

/-- Moves a file onto a path, replacing a file there. -/
def rename (d : Disk) (src dst : List String) : Except IoError Disk :=
  match d.node? src with
  | some (.file data) =>
    match d.node? dst with
    | some .directory => .error .isDirectory
    | some (.file _) => .ok ((d.drop src).put dst (.file data))
    | none =>
      match d.blocked? dst with
      | some e => .error e
      | none => .ok ((d.drop src).put dst (.file data))
  | some .directory => .error .isDirectory
  | none => .error ((d.blocked? src).getD .notFound)

/-- Makes a directory and every missing one above it. A file on the way fails the call: the path
itself exists, or one above it is not a directory. -/
def createDirAll (d : Disk) (p : List String) : Except IoError Disk :=
  ((List.range p.length).map fun k => p.take (k + 1)).foldlM (fun d q =>
    match d.node? q with
    | some .directory => .ok d
    | some (.file _) => .error (if q.length = p.length then .exists else .notDirectory)
    | none => .ok (d.put q .directory)) d

/-- The files of the tree under a directory, by their paths below it. -/
def filesUnder (d : Disk) (p : List String) : List (List String × List UInt8) :=
  d.nodes.filterMap fun (q, n) =>
    match n with
    | .file data => if p.isPrefixOf q then some (q.drop p.length, data) else none
    | .directory => none

end Disk

end Signon
