import Signon.Session.State

/-!
The generation of the shared session over a run of writes: it counts the writes that touched
the credentials, so two reads at one generation see the same credentials.
-/

namespace Signon.SessionState

/-- One atomic update of the shared session. -/
inductive Write where
  | establish (c : Credentials) (user : Option User)
  | replaceCredentials (c : Credentials) (user : Option User)
  | setUser (u : User)
  | clear
  /-- The replacement a commit publishes once the vault kept the session. -/
  | commit (s : Session)

namespace Write

/-- The state after one update. -/
def apply (st : SessionState) : Write → SessionState
  | .establish c u => st.establish c u
  | .replaceCredentials c u => st.replaceCredentials c u
  | .setUser u => st.setUser u
  | .clear => st.clear
  | .commit s => st.replace s

/-- Whether an update writes the credentials: every one but setting the user. -/
def writesCredentials : Write → Bool
  | .setUser _ => false
  | _ => true

theorem generation_apply (st : SessionState) (w : Write) :
    (apply st w).generation = st.generation + if w.writesCredentials then 1 else 0 := by
  cases w <;> rfl

theorem credentials_apply {st : SessionState} {w : Write} (h : w.writesCredentials = false) :
    (apply st w).credentials = st.credentials := by
  cases w with
  | setUser u => rfl
  | _ => simp [writesCredentials] at h

end Write

def perform (st : SessionState) (ws : List Write) : SessionState :=
  ws.foldl Write.apply st

@[simp] theorem perform_nil (st : SessionState) : st.perform [] = st := rfl

@[simp] theorem perform_cons (st : SessionState) (w : Write) (ws : List Write) :
    st.perform (w :: ws) = (Write.apply st w).perform ws := rfl

theorem perform_append (st : SessionState) (ws vs : List Write) :
    st.perform (ws ++ vs) = (st.perform ws).perform vs :=
  List.foldl_append

theorem generation_perform (st : SessionState) (ws : List Write) :
    (st.perform ws).generation = st.generation + ws.countP Write.writesCredentials := by
  induction ws generalizing st with
  | nil => rfl
  | cons w ws ih =>
    rw [perform_cons, ih, Write.generation_apply, List.countP_cons]
    omega

theorem credentials_perform {st : SessionState} {ws : List Write}
    (h : ∀ w ∈ ws, w.writesCredentials = false) : (st.perform ws).credentials = st.credentials := by
  induction ws generalizing st with
  | nil => rfl
  | cons w ws ih =>
    rw [perform_cons, ih fun v hv => h v (List.mem_cons_of_mem w hv)]
    exact Write.credentials_apply (h w List.mem_cons_self)

theorem credentials_of_generation_eq {st : SessionState} {ws vs : List Write}
    (hsame : ((st.perform ws).perform vs).generation = (st.perform ws).generation) :
    ((st.perform ws).perform vs).credentials = (st.perform ws).credentials := by
  have hnone : vs.countP Write.writesCredentials = 0 := by
    rw [generation_perform] at hsame
    omega
  apply credentials_perform
  intro w hw
  simpa using List.countP_eq_zero.mp hnone w hw

/-- Over every run of updates from a fresh state the generation counts the writes of the
credentials; setting the user moves neither credentials nor generation; and any two reads of the
pair during a run that report one generation report one set of credentials. -/
theorem generation_counts_credential_writes :
    (∀ (s : Session) (ws : List Write),
      ((start s).perform ws).generation = ws.countP Write.writesCredentials) ∧
    (∀ (st : SessionState) (u : User),
      (st.setUser u).credentials = st.credentials ∧ (st.setUser u).generation = st.generation) ∧
    (∀ (st : SessionState) (ws : List Write) (i j : Nat),
      (st.perform (ws.take i)).credentialsWithGeneration.2 =
        (st.perform (ws.take j)).credentialsWithGeneration.2 →
      (st.perform (ws.take i)).credentialsWithGeneration.1 =
        (st.perform (ws.take j)).credentialsWithGeneration.1) := by
  refine ⟨fun s ws => by simp [generation_perform, start], fun st u => ⟨rfl, rfl⟩, ?_⟩
  intro st ws i j hsame
  simp only [credentialsWithGeneration] at hsame ⊢
  have hsplit (k l : Nat) (hkl : k ≤ l) :
      ws.take l = ws.take k ++ (ws.drop k).take (l - k) := by
    rw [← List.take_add, Nat.add_sub_cancel' hkl]
  rcases Nat.le_total i j with hij | hji
  · rw [hsplit i j hij, perform_append] at hsame ⊢
    exact (credentials_of_generation_eq hsame.symm).symm
  · rw [hsplit j i hji, perform_append] at hsame ⊢
    exact credentials_of_generation_eq hsame

end Signon.SessionState
