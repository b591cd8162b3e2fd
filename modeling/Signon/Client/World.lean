import Signon.Session.State
import Signon.Storage.Vault
import Signon.Client.Journal

/-!
A client at work: the shared session state, the vault that keeps the session between runs, the
time a saved session is stamped with, and the state of the gateway the client talks through.
An operation runs against this world and answers or fails; what it changed before a failure
stays changed.
-/

namespace Signon

/-- Everything an operation of the client reads and changes. -/
structure World (γ : Type) where
  state : SessionState
  vault : Vault
  /-- The time a saved session is stamped with. -/
  clock : Time.Instant
  /-- The gateway's own state. -/
  gateway : γ
  /-- The diagnostic records so far, oldest first. -/
  journal : List Record := []

/-- An operation of the client: it answers or fails, and changes the world either way. -/
abbrev Op (γ : Type) (α : Type) := ExceptT Failure (StateM (World γ)) α

namespace Op

variable {γ : Type}

def run {α : Type} (op : Op γ α) (w : World γ) : Except Failure α × World γ :=
  StateT.run (ExceptT.run op) w

def lift {α : Type} (r : Except Failure α) : Op γ α := ExceptT.mk (pure r)

def state : Op γ SessionState := do
  return (← get).state

def modifyState (f : SessionState → SessionState) : Op γ Unit :=
  modify fun w => { w with state := f w.state }

def gateway : Op γ γ := do
  return (← get).gateway

def setGateway (g : γ) : Op γ Unit :=
  modify fun w => { w with gateway := g }

def note (level : Level) (target message : String) : Op γ Unit :=
  modify fun w => { w with journal := w.journal ++ [⟨level, target, message⟩] }

def noteFailure (f : Failure) : Op γ Unit :=
  modify fun w => { w with journal := w.journal ++ [f.record] }

def load : Op γ (Option StoredCredentials) := do
  lift (← get).vault.load

/-- Keeps a session in the vault; the vault keeps what a failed save did. -/
def save (c : StoredCredentials) : Op γ Unit := do
  let (r, v) := (← get).vault.save c
  modify fun w => { w with vault := v }
  lift r
  if v.isFile then note .debug "auth::infra::storage" "Credentials saved"

/-- Empties the vault. -/
def clearVault : Op γ Unit := do
  let before := (← get).vault
  let (r, v) := before.clear
  modify fun w => { w with vault := v }
  lift r
  if before.holdsFile then note .debug "auth::infra::storage" "Credentials removed"

/-- Writes a session to the vault, or empties the vault for a signed-out session. -/
def persist (s : Session) : Op γ Unit := do
  match StoredCredentials.ofSession s (← get).clock with
  | some c => save c
  | none => clearVault

def commit (s : Session) : Op γ Unit := do
  persist s
  modifyState (·.replace s)

def attempt {α : Type} (op : Op γ α) : Op γ (Except Failure α) :=
  ExceptT.mk (do return .ok (← ExceptT.run op))

/-- Runs an operation whose failure only deserves a note. -/
def tolerate (op : Op γ Unit) : Op γ Unit := do
  match ← attempt op with
  | .error f => noteFailure f
  | .ok () => pure ()

section Run

variable {α β : Type}

@[simp] theorem run_pure (a : α) (w : World γ) : (pure a : Op γ α).run w = (.ok a, w) := rfl

/-- The run of a bind: the continuation runs on what the first operation left, unless it
failed. -/
theorem run_bind (x : Op γ α) (f : α → Op γ β) (w : World γ) :
    (x >>= f).run w =
      match x.run w with
      | (.ok a, w') => (f a).run w'
      | (.error e, w') => (.error e, w') := by
  simp only [run, ExceptT.run_bind, StateT.run_bind]
  rcases (ExceptT.run x).run w with ⟨_ | a, w'⟩ <;> rfl

@[simp] theorem run_map (f : α → β) (x : Op γ α) (w : World γ) :
    (f <$> x).run w =
      match x.run w with
      | (.ok a, w') => (.ok (f a), w')
      | (.error e, w') => (.error e, w') := by
  rw [map_eq_pure_bind, run_bind]
  rfl

@[simp] theorem run_throw (e : Failure) (w : World γ) :
    (throw e : Op γ α).run w = (.error e, w) := rfl

@[simp] theorem run_lift (r : Except Failure α) (w : World γ) : (lift r).run w = (r, w) := rfl

@[simp] theorem run_get (w : World γ) : (get : Op γ (World γ)).run w = (.ok w, w) := rfl

@[simp] theorem run_modify (f : World γ → World γ) (w : World γ) :
    (modify f : Op γ Unit).run w = (.ok (), f w) := rfl

@[simp] theorem run_state (w : World γ) : state.run w = (.ok w.state, w) := rfl

@[simp] theorem run_modifyState (f : SessionState → SessionState) (w : World γ) :
    (modifyState f).run w = (.ok (), { w with state := f w.state }) := rfl

@[simp] theorem run_gateway (w : World γ) : gateway.run w = (.ok w.gateway, w) := rfl

@[simp] theorem run_setGateway (g : γ) (w : World γ) :
    (setGateway g).run w = (.ok (), { w with gateway := g }) := rfl

@[simp] theorem run_note (level : Level) (target message : String) (w : World γ) :
    (note level target message).run w =
      (.ok (), { w with journal := w.journal ++ [⟨level, target, message⟩] }) := rfl

@[simp] theorem run_noteFailure (f : Failure) (w : World γ) :
    (noteFailure f).run w = (.ok (), { w with journal := w.journal ++ [f.record] }) := rfl

@[simp] theorem run_attempt (x : Op γ α) (w : World γ) :
    (attempt x).run w = (.ok (x.run w).1, (x.run w).2) := rfl

end Run

end Op

end Signon
