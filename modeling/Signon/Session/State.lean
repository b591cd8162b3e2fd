import Signon.Session.Basic

namespace Signon

/-- The shared session. -/
structure SessionState where
  session : Session
  /-- How many times the credentials were written. -/
  generation : Nat
  /-- How many changes watchers were told of. -/
  version : Nat
  deriving DecidableEq

namespace SessionState

def start (s : Session) : SessionState := ⟨s, 0, 0⟩

def anonymous : SessionState := start Session.anonymous

def credentials (st : SessionState) : Option Credentials := st.session.credentials

def credentialsWithGeneration (st : SessionState) : Option Credentials × Nat :=
  (st.credentials, st.generation)

def isAuthenticated (st : SessionState) : Bool := st.session.isAuthenticated

def replace (st : SessionState) (s : Session) : SessionState :=
  ⟨s, st.generation + 1, st.version + 1⟩

def establish (st : SessionState) (c : Credentials) (user : Option User) : SessionState :=
  st.replace (.signedIn c user)

def replaceCredentials (st : SessionState) (c : Credentials) (user : Option User) : SessionState :=
  ⟨⟨some c, user.orElse fun _ => st.session.user⟩, st.generation + 1, st.version + 1⟩

def setUser (st : SessionState) (u : User) : SessionState :=
  ⟨{ st.session with user := some u }, st.generation, st.version + 1⟩

def clear (st : SessionState) : SessionState := st.replace Session.anonymous

def debug (st : SessionState) : String :=
  "SessionState \x7b authenticated: " ++ toString st.isAuthenticated ++ ", generation: " ++
    toString st.generation ++ " \x7d"

@[simp] theorem replace_session (st : SessionState) (s : Session) : (st.replace s).session = s :=
  rfl

@[simp] theorem replace_generation (st : SessionState) (s : Session) :
    (st.replace s).generation = st.generation + 1 := rfl

@[simp] theorem establish_credentials (st : SessionState) (c : Credentials) (u : Option User) :
    (st.establish c u).credentials = some c := rfl

@[simp] theorem establish_generation (st : SessionState) (c : Credentials) (u : Option User) :
    (st.establish c u).generation = st.generation + 1 := rfl

@[simp] theorem replaceCredentials_credentials (st : SessionState) (c : Credentials)
    (u : Option User) : (st.replaceCredentials c u).credentials = some c := rfl

@[simp] theorem replaceCredentials_user (st : SessionState) (c : Credentials) (u : Option User) :
    (st.replaceCredentials c u).session.user = u.orElse fun _ => st.session.user := rfl

@[simp] theorem replaceCredentials_generation (st : SessionState) (c : Credentials)
    (u : Option User) : (st.replaceCredentials c u).generation = st.generation + 1 := rfl

@[simp] theorem setUser_credentials (st : SessionState) (u : User) :
    (st.setUser u).credentials = st.credentials := rfl

@[simp] theorem setUser_generation (st : SessionState) (u : User) :
    (st.setUser u).generation = st.generation := rfl

@[simp] theorem clear_session (st : SessionState) : st.clear.session = Session.anonymous := rfl

@[simp] theorem clear_generation (st : SessionState) :
    st.clear.generation = st.generation + 1 := rfl

@[simp] theorem clear_credentials (st : SessionState) : st.clear.credentials = none := rfl

end SessionState

end Signon
