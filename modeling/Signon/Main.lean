import Signon.Cli.Run

namespace Signon.Cli

def knownVariables : List String :=
  ["HOME", "NO_COLOR", "RUST_LOG", "AUTH_API_BASE", "AUTH_SESSION_MODE", "AUTH_COOKIE_NAME",
    "AUTH_TIMEOUT_SECS", "AUTH_STORAGE_PATH", "AUTHCTL_EMAIL", "AUTHCTL_PASSWORD"]

def offline : Http.Transport Unit := ⟨fun req jar _ => (.error (.connect req.url.render), jar, ())⟩

def pathText (p : List String) : String := "/" ++ "/".intercalate p

def withParents (d : Disk) (p : List String) : Disk :=
  (d.createDirAll p.dropLast).toOption.getD d

/-- Adds what stands at a path of the real tree: a file with its contents, or a directory. -/
def loadPath (d : Disk) (p : List String) : IO Disk := do
  match ← (IO.FS.readBinFile (pathText p)).toBaseIO with
  | .ok data => pure ((withParents d p).put p (.file data.toList))
  | .error (.noFileOrDirectory ..) => pure d
  | .error _ => pure ((withParents d p).put p .directory)

/-- Reads standard input to its end. -/
partial def readAll (s : IO.FS.Stream) (acc : ByteArray) : IO ByteArray := do
  let chunk ← s.read 65536
  if chunk.isEmpty then pure acc else readAll s (acc ++ chunk)

def leadingNumber (s : String) : Nat :=
  (s.toList.takeWhile Char.isDigit).foldl (fun n c => 10 * n + (c.toNat - '0'.toNat)) 0

/-- The time, in whole seconds since the epoch: boot time plus uptime. -/
def now : IO Time.Instant := do
  let stat ← (IO.FS.readFile "/proc/stat").toBaseIO
  let up ← (IO.FS.readFile "/proc/uptime").toBaseIO
  match stat, up with
  | .ok stat, .ok up =>
    let boot := ((stat.splitOn "\n").find? (·.startsWith "btime ")).map fun l =>
      leadingNumber (String.ofList (l.toList.drop 6))
    pure ⟨Int.ofNat (boot.getD 0 + leadingNumber up), 0⟩
  | _, _ => pure ⟨0, 0⟩

/-- Makes the real tree match the run at a path it may have changed. -/
def settlePath (before after : Disk) (p : List String) : IO Unit := do
  match before.node? p, after.node? p with
  | old, some (.file data) =>
    if old != some (.file data) then
      discard (IO.FS.createDirAll (pathText p.dropLast)).toBaseIO
      discard (IO.FS.writeBinFile (pathText p) (ByteArray.mk data.toArray)).toBaseIO
  | some (.file _), none => discard (IO.FS.removeFile (pathText p)).toBaseIO
  | _, _ => pure ()

end Signon.Cli

open Signon Signon.Cli in
/-- Runs `authctl` with the process's arguments, variables, input and files. -/
def main (args : List String) : IO UInt32 := do
  let cwd := Disk.names (← IO.currentDir).toString
  let env ← knownVariables.filterMapM fun name => do
    return (← IO.getEnv name).map fun v => (name, v)
  let base : Disk := ⟨cwd, []⟩
  let base := (base.createDirAll cwd).toOption.getD base
  let base ← ((List.range (cwd.length + 1)).map fun k => cwd.take k ++ [".env"]).foldlM loadPath base
  let credentialPaths := match credentialFile? (environment base env) args with
    | some f =>
      let p := base.resolve f
      [p, Vault.sparePath p]
    | none => []
  let disk ← credentialPaths.foldlM loadPath base
  let stdin ← readAll (← IO.getStdin) ByteArray.empty
  let o := run ⟨args, env, stdin.toList, disk, ← now, offline, ()⟩
  IO.print o.stdout
  IO.eprint o.stderr
  for p in credentialPaths do
    settlePath disk o.disk p
  return o.code.toUInt32
