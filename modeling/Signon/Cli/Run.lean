import Signon.Cli.Parse
import Signon.Cli.Commands
import Signon.Cli.EnvFile
import Signon.Cli.LogFilter
import Signon.Store.Basic
import Signon.Gateway.Http
import Signon.Guard

/-!
A run of `authctl`: the words of the command line, the environment, standard input, a file tree
and a network in; an exit code, standard output, standard error and the file tree out.
-/

namespace Signon.Cli

/-- Everything a run reads. -/
structure Invocation (ν : Type) where
  args : List String
  env : Env
  stdin : List UInt8
  disk : Disk
  /-- The time a saved session is stamped with. -/
  clock : Time.Instant
  transport : Http.Transport ν
  net : ν

/-- What a run leaves. -/
structure Outcome (ν : Type) where
  code : Nat
  stdout : String
  stderr : String
  disk : Disk
  net : ν

/-- The commands of the program. -/
inductive Verb where
  | login
  | register
  | verifyEmail
  | resendVerification
  | logout
  | refresh
  | whoami
  | status
  | forgotPassword
  | resetPassword
  | changePassword
  | guard
  deriving DecidableEq, Repr

/-- What a command does with the kept session before it runs. -/
inductive Restore where
  /-- Loads it; an unreadable file ends the run. -/
  | required
  /-- Loads it; an unreadable file is only noted, as the command replaces or discards it. -/
  | lenient
  /-- Leaves it. -/
  | skip
  deriving DecidableEq, Repr

namespace Verb

/-- The command of a subcommand name. -/
def ofName? : String → Option Verb
  | "login" => some .login
  | "register" => some .register
  | "verify-email" => some .verifyEmail
  | "resend-verification" => some .resendVerification
  | "logout" => some .logout
  | "refresh" => some .refresh
  | "whoami" => some .whoami
  | "status" => some .status
  | "forgot-password" => some .forgotPassword
  | "reset-password" => some .resetPassword
  | "change-password" => some .changePassword
  | "guard" => some .guard
  | _ => none

/-- What the command does with the kept session. -/
def restore : Verb → Restore
  | .status | .whoami | .refresh | .changePassword | .guard => .required
  | .logout | .login | .register | .verifyEmail => .lenient
  | _ => .skip

end Verb

/-- Why a run failed: a failure of the client, or another error with its message. -/
inductive Fault where
  | client (f : Failure)
  | other (message : String)

/-- The state of a run: the client's world, the output so far, the unread input, the filter on
diagnostic records and how many records were already judged. -/
structure Terminal (ν : Type) where
  world : World (Link ν)
  out : String := ""
  err : String := ""
  input : List UInt8
  filter : LogFilter
  judged : Nat := 0

/-- A step of a run. -/
abbrev Cmd (ν : Type) (α : Type) := ExceptT Fault (StateM (Terminal ν)) α

variable {ν : Type}

/-- Judges the records noted since the last time: one the filter shows while a prompt waits on
its line ends that line. -/
def judge : Cmd ν Unit :=
  modify fun t =>
    let fresh := t.world.journal.drop t.judged
    let t := { t with judged := t.world.journal.length }
    if fresh.any t.filter.admits && !t.err.isEmpty && !t.err.endsWith "\n" then
      { t with err := t.err ++ "\n" }
    else t

/-- Runs an operation of the client. -/
def perform {α : Type} (op : Op (Link ν) α) : Cmd ν α := do
  let t ← get
  let (r, w) := op.run t.world
  set { t with world := w }
  judge
  match r with
  | .ok a => pure a
  | .error f => throw (.client f)

def say (s : String) : Cmd ν Unit := modify fun t => { t with out := t.out ++ s ++ "\n" }

/-- The bytes of a line, with its line break, and what follows. -/
def splitLine : List UInt8 → List UInt8 × List UInt8
  | [] => ([], [])
  | b :: bs =>
    if b == 10 then ([b], bs)
    else
      let (line, rest) := splitLine bs
      (b :: line, rest)

def dropBreaks (cs : List Char) : List Char :=
  (cs.reverse.dropWhile fun c => c == '\n' || c == '\r').reverse

/-- Asks for a value on standard error and reads one line of standard input. -/
def ask (prompt : String) : Cmd ν String := do
  let t ← get
  let (line, rest) := splitLine t.input
  set { t with err := t.err ++ prompt ++ ": ", input := rest }
  match Text.Utf8.decode? line with
  | some cs => pure (String.ofList (dropBreaks cs))
  | none => throw (.other "failed to read from stdin: stream did not contain valid UTF-8")

/-- The value of an option, or what the user types when asked. -/
def secret (given : List Match) (id prompt : String) : Cmd ν String :=
  match valueOf? given id with
  | some v => pure v
  | none => ask prompt

/-- A new password and its repetition: the repetition defaults to the password when the password
is given, and both are asked for when it is not. -/
def newPassword (given : List Match) : Cmd ν (String × String) :=
  match valueOf? given "password" with
  | some p => pure (p, (valueOf? given "confirm-password").getD p)
  | none => do
    let p ← secret given "password" "New password"
    let c ← secret given "confirm-password" "Confirm password"
    pure (p, c)

/-- A profile as printed. -/
def userJson (u : User) : Json :=
  .obj [("email", .str u.email.text), ("emailVerified", .bool u.emailVerified),
    ("id", Json.ofInt u.id.value), ("roles", .arr (u.roles.toList.map fun r => .str r.code)),
    ("twoFactorAuthEnabled", .bool u.twoFactorEnabled), ("username", .str u.username.text)]

/-- A session as printed. -/
def sessionJson (s : Session) : Json :=
  .obj [("accessExpiresAt", Json.ofOption (s.accessExpiresAt.map Time.Instant.renderWithOffset)),
    ("authenticated", .bool s.isAuthenticated),
    ("mode", Json.ofOption (s.credentials.map fun
      | .bearer .. => "bearer"
      | .cookie .. => "cookie")),
    ("role", Json.ofOption (s.primaryRole.map Role.code)),
    ("user", match s.user with
      | some u => userJson u
      | none => .null)]

/-- What the route guard decides for a path, as printed. -/
def guardLine (path : String) (s : Session) : String :=
  match GuardConfig.check {} path s with
  | .allow => "allow " ++ path
  | .redirect target reason => "redirect " ++ path ++ " -> " ++ target ++ " (" ++ reason.text ++ ")"

/-- Loads the kept session as the command requires. -/
def restoreFor : Restore → Cmd ν Unit
  | .required => do
    let _ ← perform (Store.restore : Op (Link ν) Bool)
  | .lenient => do
    match ← perform (Op.attempt Store.restore : Op (Link ν) (Except Failure Bool)) with
    | .ok _ => pure ()
    | .error (.storage _) =>
      perform (Op.note .warn "authctl::commands" "Stored session is unreadable and will be replaced")
    | .error f => throw (.client f)
  | .skip => pure ()

/-- Runs a command against the gateway. -/
def command (g : Gateway (Link ν)) (verb : Verb) (given : List Match) : Cmd ν Unit := do
  let opt (id : String) : String := (valueOf? given id).getD ""
  match verb with
  | .login =>
    let password ← secret given "password" "Password"
    let r ← perform (Store.login g (opt "email") password)
    say (r.message.getD "Logged in")
    say (Json.pretty 0 (sessionJson r.session))
  | .register =>
    let (password, confirmation) ← newPassword given
    let r ← perform (Store.register g (opt "email") (opt "username") password confirmation)
    say (r.message.getD "Registered, check your email for the verification code")
    if let some s := r.session then say (Json.pretty 0 (sessionJson s))
  | .verifyEmail =>
    let r ← perform (Store.verifyEmail g (opt "email") (opt "code"))
    say (r.message.getD "Email verified")
    if let some s := r.session then say (Json.pretty 0 (sessionJson s))
  | .resendVerification =>
    let m ← perform (Store.resendVerification g (opt "email"))
    say (m.getD "Verification code sent")
  | .logout =>
    perform (Store.logout g)
    say "Logged out"
  | .refresh =>
    let s ← perform (Store.refresh g)
    say (Json.pretty 0 (sessionJson s))
  | .whoami =>
    let u ← perform (Store.fetchUser g)
    say (Json.pretty 0 (userJson u))
  | .status =>
    let st ← perform (Op.state : Op (Link ν) SessionState)
    say (Json.pretty 0 (sessionJson st.session))
  | .forgotPassword =>
    let m ← perform (Store.forgotPassword g (opt "email"))
    say (m.getD "Password reset email sent")
  | .resetPassword =>
    let (password, confirmation) ← newPassword given
    let m ← perform (Store.resetPassword g (opt "email") (opt "token") password confirmation)
    say (m.getD "Password reset")
  | .changePassword =>
    let current ← secret given "current-password" "Current password"
    let (password, confirmation) ← newPassword given
    let m ← perform (Store.changePassword g current password confirmation)
    say (m.getD "Password changed")
  | .guard =>
    let st ← perform (Op.state : Op (Link ν) SessionState)
    say (guardLine (opt "path") st.session)

/-- Appends a relative path to a directory path. -/
def joinPath (dir rel : String) : String :=
  if rel.startsWith "/" || dir.isEmpty then rel
  else if dir.endsWith "/" then dir ++ rel
  else dir ++ "/" ++ rel

/-- The settings of a run: the `AUTH_*` variables, then the options; and the credential file. -/
def settings (env : Env) (given : List Match) : Except Failure (Config × String) := do
  let c ← Config.ofLookup env.get?
  let c := match valueOf? given "api-base" with
    | some b => { c with apiBaseUrl := b }
    | none => c
  let c ← match valueOf? given "session-mode" with
    | some m => do pure { c with sessionMode := ← SessionMode.parse m }
    | none => pure c
  let c := match valueOf? given "cookie-name" with
    | some n => { c with sessionCookieName := n }
    | none => c
  let c := match valueOf? given "storage" with
    | some p => { c with storagePath := some p }
    | none => c
  let home := (env.get? "HOME").getD "."
  pure (c, c.storagePath.getD (joinPath home ".authctl/session.json"))

/-- The text of a failure on standard error. -/
def Fault.text : Fault → String
  | .client f =>
    let r := f.report
    "error: " ++ r.message ++ "\n" ++ (match r.action with
      | some a => "hint: " ++ a ++ "\n"
      | none => "")
  | .other m => "error: " ++ m ++ "\n"

/-- Reports a failure: the client's failures leave their record first. -/
def report (fault : Fault) : Cmd ν Unit := do
  match fault with
  | .client f => perform (Op.noteFailure f)
  | .other _ => pure ()
  modify fun t => { t with err := t.err ++ fault.text }

/-- The `.env` file a run reads: in the working directory or the nearest directory above. -/
def envFile? (d : Disk) : Option (List UInt8) :=
  ((List.range (d.cwd.length + 1)).reverse.map fun k => d.cwd.take k ++ [".env"]).findSome? fun p =>
    match d.node? p with
    | some (.file data) => some data
    | _ => none

/-- The filter on diagnostic records: `RUST_LOG` when it reads, else one by verbosity. -/
def logFilter (env : Env) (verbosity : Nat) : LogFilter :=
  match (env.get? "RUST_LOG").bind LogFilter.read? with
  | some f => f
  | none => LogFilter.ofVerbosity verbosity

/-- Runs a matched command line. -/
def execute (inv : Invocation ν) (env : Env) (m : Matches) : Outcome ν :=
  let filter := logFilter env (countOf m.root "verbosity")
  let ready := do
    let (c, path) ← settings env m.root
    let s ← HttpSettings.ofConfig c
    pure (c, s, path)
  match ready, Verb.ofName? m.command.name with
  | .error f, _ =>
    ⟨1, "", (Fault.client f).text, inv.disk, inv.net⟩
  | .ok (c, s, path), some verb =>
    let world : World (Link ν) :=
      { state := .anonymous, vault := .file path inv.disk, clock := inv.clock,
        gateway := Link.start c.sessionMode inv.net,
        journal := [⟨.debug, "authctl::commands", "Configuration loaded"⟩,
          ⟨.debug, "auth::infra::http", "HTTP auth gateway ready"⟩] }
    let body : Cmd ν Unit := do
      restoreFor verb.restore
      command (HttpGateway.gateway s inv.transport) verb m.sub
    let whole : Cmd ν Nat := tryCatch (do body; pure 0) fun e => do report e; pure 1
    let (r, t) := (ExceptT.run whole).run { world, input := inv.stdin, filter, judged := 2 }
    let disk := match t.world.vault with
      | .file _ d => d
      | .memory _ => inv.disk
    ⟨(match r with
      | .ok code => code
      | .error _ => 1), t.out, t.err, disk, t.world.gateway.net⟩
  | .ok _, none => ⟨0, "", "", inv.disk, inv.net⟩

/-- The environment of a run: the given one and what `.env` adds to it. -/
def environment (d : Disk) (env : Env) : Env :=
  match envFile? d with
  | some bytes => EnvFile.apply bytes env
  | none => env

/-- The credential file a command line uses, when it gets as far as using one. -/
def credentialFile? (env : Env) (words : List String) : Option String :=
  match authctl.read env words with
  | .ok m => (settings env m.root).toOption.map (·.2)
  | .error _ => none

/-- Runs the program. -/
def run (inv : Invocation ν) : Outcome ν :=
  let env := environment inv.disk inv.env
  match authctl.read env inv.args with
  | .error (.help text) => ⟨0, text, "", inv.disk, inv.net⟩
  | .error (.version text) => ⟨0, text, "", inv.disk, inv.net⟩
  | .error (.usage text) => ⟨2, "", text, inv.disk, inv.net⟩
  | .ok m => execute inv env m

end Signon.Cli
