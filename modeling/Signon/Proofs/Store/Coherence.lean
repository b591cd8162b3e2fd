import Signon.Proofs.Gateway.Keeping

/-!
Every operation of the store keeps the shared session coherent with the vault, whatever the
server answers, as long as the vault keeps what it is given.
-/

namespace Signon

open Op

variable {γ : Type} {V : Vault → Prop}

/-- A call that may start a session: it keeps a coherent state coherent, and the credentials it
grants restore as themselves. -/
def Grants (V : Vault → Prop) (x : Op γ Grant) : Prop :=
  Spec (Coherent V) x (fun g st v => Coherent V st v ∧ ∀ c, g.credentials = some c → c.Restorable)
    (Coherent V)

/-- What the store needs of a gateway to keep the state coherent: every call keeps a coherent
state coherent, the calls that may start a session grant restorable credentials, and loading the
profile leaves credentials held. -/
structure Gateway.KeepsCoherence (V : Vault → Prop) (g : Gateway γ) : Prop where
  login : ∀ e p, Grants V (g.login e p)
  register : ∀ r, Grants V (g.register r)
  verifyEmail : ∀ e c, Grants V (g.verifyEmail e c)
  resendVerification : ∀ e, Keeps (Coherent V) (g.resendVerification e)
  forgotPassword : ∀ e, Keeps (Coherent V) (g.forgotPassword e)
  resetPassword : ∀ r, Keeps (Coherent V) (g.resetPassword r)
  logout : ∀ c, Keeps (Coherent V) (g.logout c)
  refresh : Keeps (Coherent V) g.refresh
  changePassword : ∀ c p, Keeps (Coherent V) (g.changePassword c p)
  fetchUser : Spec (Steady V True) g.fetchUser (fun _ => Steady V True) (Coherent V)

/-- Publishing what a coherent vault restores to keeps the state coherent. -/
theorem coherent_establish {st₀ : SessionState} {v : Vault} {stored : StoredCredentials}
    {s : Session} {c : Credentials} (hv : V v) (hloaded : v.load = .ok (some stored))
    (hrestored : stored.toSession = .ok s) (hheld : s.credentials = some c) :
    Coherent V (st₀.establish c s.user) v :=
  ⟨hv, .inr ⟨stored, s, hloaded, hrestored, hheld, rfl⟩, fun _ => rfl⟩

namespace Store

theorem restore_keeps : Keeps (Coherent V) (restore : Op γ Bool) := by
  unfold restore
  refine Spec.bind load_spec fun r => ?_
  rcases r with _ | stored
  · exact Spec.note_pure fun _ _ h => h.1
  · refine Spec.bind (Spec.lift_eq fun _ _ h => h.1) fun s => ?_
    split
    · exact Spec.pure fun _ _ h => h.1.1
    · rename_i c held
      refine Spec.bind Spec.modifyState_image fun _ => Spec.note_pure fun st v h => ?_
      obtain ⟨st₀, ⟨⟨hcoh, hloaded⟩, hrestored⟩, rfl⟩ := h
      exact coherent_establish hcoh.vault hloaded hrestored held

theorem adopt_keeps (hV : Vault.Keeping V) {grant : Grant}
    (hgranted : ∀ c, grant.credentials = some c → c.Restorable) :
    Keeps (Coherent V) (adopt grant : Op γ Enrolment) := by
  unfold adopt
  split
  · rename_i c held
    refine Spec.bind (commit_keeps hV (fun _ h => by cases h; exact hgranted c held) fun _ => rfl)
      fun _ => ?_
    exact Spec.pure fun _ _ => id
  · exact Spec.pure fun _ _ => id

variable (g : Gateway γ)

theorem login_keeps (hV : Vault.Keeping V) (hg : g.KeepsCoherence V) (email password : String) :
    Keeps (Coherent V) (login g email password) := by
  unfold login
  refine Spec.bind Spec.lift_keeps fun e => ?_
  refine Spec.bind Spec.lift_keeps fun p => ?_
  refine Spec.bind (hg.login e p) fun grant => ?_
  refine Spec.assume (fun s v h => h.2) fun hgranted => ?_
  refine (?_ : Spec (Coherent V) _ (fun _ => Coherent V) (Coherent V)).mono (fun s v h => h.1)
    (fun _ _ _ => id) (fun _ _ => id)
  split
  · exact Spec.throw fun _ _ => id
  · rename_i c held
    refine Spec.bind (commit_keeps hV (fun _ h => by cases h; exact hgranted c held) fun _ => rfl)
      fun _ => ?_
    exact Spec.note_pure fun _ _ => id

theorem register_keeps (hV : Vault.Keeping V) (hg : g.KeepsCoherence V)
    (email username password confirmation : String) :
    Keeps (Coherent V) (register g email username password confirmation) := by
  unfold register
  refine Spec.bind Spec.lift_keeps fun e => ?_
  refine Spec.bind Spec.lift_keeps fun u => ?_
  refine Spec.bind Spec.lift_keeps fun p => ?_
  refine Spec.bind (hg.register ⟨e, u, p⟩) fun grant => ?_
  refine Spec.assume (fun s v h => h.2) fun hgranted => ?_
  refine Spec.bind ((adopt_keeps hV hgranted).mono (fun s v h => h.1) (fun _ _ _ => id)
    (fun _ _ => id)) fun r => ?_
  exact Spec.note_pure fun _ _ => id

theorem verifyEmail_keeps (hV : Vault.Keeping V) (hg : g.KeepsCoherence V) (email code : String) :
    Keeps (Coherent V) (verifyEmail g email code) := by
  unfold verifyEmail
  refine Spec.bind Spec.lift_keeps fun e => ?_
  refine Spec.bind Spec.lift_keeps fun c => ?_
  refine Spec.bind (hg.verifyEmail e c) fun grant => ?_
  refine Spec.assume (fun s v h => h.2) fun hgranted => ?_
  refine Spec.bind ((adopt_keeps hV hgranted).mono (fun s v h => h.1) (fun _ _ _ => id)
    (fun _ _ => id)) fun r => ?_
  exact Spec.note_pure fun _ _ => id

theorem resendVerification_keeps (hg : g.KeepsCoherence V) (email : String) :
    Keeps (Coherent V) (resendVerification g email) := by
  unfold resendVerification
  refine Spec.bind Spec.lift_keeps fun e => ?_
  refine Spec.bind (hg.resendVerification e) fun m => ?_
  exact Spec.note_pure fun _ _ => id

theorem forgotPassword_keeps (hg : g.KeepsCoherence V) (email : String) :
    Keeps (Coherent V) (forgotPassword g email) := by
  unfold forgotPassword
  refine Spec.bind Spec.lift_keeps fun e => ?_
  refine Spec.bind (hg.forgotPassword e) fun m => ?_
  exact Spec.note_pure fun _ _ => id

theorem resetPassword_keeps (hg : g.KeepsCoherence V)
    (email token newPassword confirmation : String) :
    Keeps (Coherent V) (resetPassword g email token newPassword confirmation) := by
  unfold resetPassword
  refine Spec.bind Spec.lift_keeps fun e => ?_
  refine Spec.bind Spec.lift_keeps fun t => ?_
  refine Spec.bind Spec.lift_keeps fun p => ?_
  refine Spec.bind (hg.resetPassword ⟨e, t, p⟩) fun m => ?_
  exact Spec.note_pure fun _ _ => id

theorem changePassword_keeps (hg : g.KeepsCoherence V)
    (current newPassword confirmation : String) :
    Keeps (Coherent V) (changePassword g current newPassword confirmation) := by
  unfold changePassword
  refine Spec.state_bind fun st => ?_
  dsimp only
  split
  · refine Spec.bind Spec.lift_keeps fun c => ?_
    refine Spec.bind Spec.lift_keeps fun p => ?_
    refine Spec.bind (hg.changePassword c p) fun m => ?_
    exact Spec.note_pure fun _ _ => id
  · rw [throw_bind]
    exact Spec.throw fun _ _ => id

theorem refresh_keeps (hg : g.KeepsCoherence V) : Keeps (Coherent V) (refresh g) := by
  unfold refresh
  refine Spec.state_bind fun st => ?_
  split
  · exact Spec.throw fun _ _ => id
  · dsimp only
    split
    · rw [throw_bind]
      exact Spec.throw fun _ _ => id
    · exact hg.refresh

theorem fetchUser_keeps (hV : Vault.Keeping V) (hg : g.KeepsCoherence V) :
    Keeps (Coherent V) (fetchUser g) := by
  unfold fetchUser
  refine Spec.bind Spec.state fun st => ?_
  dsimp only
  split
  · rw [throw_bind]
    exact Spec.throw fun _ _ h => h.1
  · rename_i hsigned
    have hauthenticated : st.isAuthenticated = true := by simpa using hsigned
    refine (?_ : Spec (Steady V True) _ (fun _ => Coherent V) (Coherent V)).mono
      (fun s v h => ⟨h.1, fun _ => h.2 ▸ hauthenticated⟩) (fun _ _ _ => id) (fun _ _ => id)
    refine Spec.bind hg.fetchUser fun u => ?_
    refine Spec.bind Spec.modifyState_image fun _ => Spec.exists_elim fun st₀ => ?_
    refine Spec.bind Spec.state fun x => ?_
    refine Spec.assume (fun s v h => h.2.trans h.1.2) fun hx => ?_
    subst hx
    refine Spec.assume (fun s v h c (held : (st₀.setUser u).session.credentials = some c) =>
      h.1.1.coherent.restorable held) fun hs => ?_
    refine Spec.assume (fun s v h => h.1.1.held trivial) fun hsignedIn => ?_
    refine Spec.bind ((persist_spec hV hs).mono (fun s v h => ⟨h.2.symm, h.1.1.coherent.vault⟩)
      (fun _ _ _ => id) (fun _ _ => False.elim)) fun _ => ?_
    refine Spec.note_pure fun s v h => ?_
    obtain ⟨rfl, hv, hkept⟩ := h
    exact ⟨hv, hkept, fun _ => hsignedIn⟩

theorem logout_keeps (hV : Vault.Keeping V) (hg : g.KeepsCoherence V) :
    Keeps (Coherent V) (logout g) := by
  unfold logout
  refine Spec.state_bind fun st => ?_
  extract_lets forget
  have hforgotten :
      ∀ remote, Spec (Coherent V) (forget remote) (fun _ => Coherent V) (Coherent V) := by
    intro remote
    refine Spec.bind Spec.modifyState_image fun _ => Spec.exists_elim fun st₀ => ?_
    refine Spec.bind (Spec.attempt ((clearVault_spec hV).mono (fun s v h => ⟨h.2, h.1.vault⟩)
      (fun _ _ _ => id) (fun _ _ => id))) fun kept => ?_
    rcases kept with e | ⟨⟩
    · exact Spec.assume (fun _ _ h => (h : False)) False.elim
    · have hcleared : ∀ s v, (s = st₀.clear ∧ V v ∧ v.load = .ok none) → Coherent V s v := by
        rintro s v ⟨rfl, hv, hempty⟩
        exact coherent_clear hv hempty
      rcases remote with e | ⟨⟩
      · exact Spec.bind Spec.note fun _ => Spec.throw hcleared
      · exact Spec.bind Spec.note fun _ => Spec.lift hcleared
  split
  · exact Spec.bind ((Spec.attempt (hg.logout _)).mono (fun _ _ => id)
      (fun r s v h => by cases r <;> exact h) (fun _ _ => id)) hforgotten
  · exact Spec.bind Spec.note fun _ => Spec.bind (Spec.pure fun _ _ => id) hforgotten

/-- An operation of the store, as its user asks for it. -/
inductive Request where
  | restore
  | login (email password : String)
  | register (email username password confirmation : String)
  | verifyEmail (email code : String)
  | resendVerification (email : String)
  | forgotPassword (email : String)
  | resetPassword (email token newPassword confirmation : String)
  | changePassword (current newPassword confirmation : String)
  | fetchUser
  | refresh
  | logout

/-- The store's operation for a request, its answer set aside. -/
def Request.perform : Request → Op γ Unit
  | .restore => discard Store.restore
  | .login e p => discard (Store.login g e p)
  | .register e u p c => discard (Store.register g e u p c)
  | .verifyEmail e c => discard (Store.verifyEmail g e c)
  | .resendVerification e => discard (Store.resendVerification g e)
  | .forgotPassword e => discard (Store.forgotPassword g e)
  | .resetPassword e t p c => discard (Store.resetPassword g e t p c)
  | .changePassword c p n => discard (Store.changePassword g c p n)
  | .fetchUser => discard (Store.fetchUser g)
  | .refresh => discard (Store.refresh g)
  | .logout => Store.logout g

def serve (reqs : List Request) (w : World γ) : World γ :=
  reqs.foldl (fun w r => ((r.perform g).run w).2) w

theorem discard_keeps {α : Type} {x : Op γ α} (hx : Keeps (Coherent V) x) :
    Keeps (Coherent V) (discard x) :=
  Spec.bind hx fun _ => Spec.pure fun _ _ => id

theorem perform_keeps (hV : Vault.Keeping V) (hg : g.KeepsCoherence V) (r : Request) :
    Keeps (Coherent V) (r.perform g) := by
  cases r with
  | restore => exact discard_keeps restore_keeps
  | login e p => exact discard_keeps (login_keeps g hV hg e p)
  | register e u p c => exact discard_keeps (register_keeps g hV hg e u p c)
  | verifyEmail e c => exact discard_keeps (verifyEmail_keeps g hV hg e c)
  | resendVerification e => exact discard_keeps (resendVerification_keeps g hg e)
  | forgotPassword e => exact discard_keeps (forgotPassword_keeps g hg e)
  | resetPassword e t p c => exact discard_keeps (resetPassword_keeps g hg e t p c)
  | changePassword c p n => exact discard_keeps (changePassword_keeps g hg c p n)
  | fetchUser => exact discard_keeps (fetchUser_keeps g hV hg)
  | refresh => exact discard_keeps (refresh_keeps g hg)
  | logout => exact logout_keeps g hV hg

theorem serve_coherent (hV : Vault.Keeping V) (hg : g.KeepsCoherence V) (reqs : List Request)
    (w : World γ) (hw : Coherent V w.state w.vault) :
    Coherent V (serve g reqs w).state (serve g reqs w).vault := by
  induction reqs generalizing w with
  | nil => exact hw
  | cons r rest ih =>
    exact ih _ ((perform_keeps g hV hg r).of_run hw rfl)

end Store

theorem HttpGateway.gateway_keepsCoherence {ν : Type} (cfg : HttpSettings) (t : Http.Transport ν)
    (hV : Vault.Keeping V) : (HttpGateway.gateway cfg t).KeepsCoherence V where
  login _ _ := HttpGateway.grantCall_spec
  register _ := HttpGateway.grantCall_spec
  verifyEmail _ _ := HttpGateway.grantCall_spec
  resendVerification _ := Spec.framed HttpGateway.messageCall_frames fun _ _ => id
  forgotPassword _ := Spec.framed HttpGateway.messageCall_frames fun _ _ => id
  resetPassword _ := Spec.framed HttpGateway.messageCall_frames fun _ _ => id
  logout _ := Spec.framed HttpGateway.logout_frames fun _ _ => id
  refresh := (HttpGateway.refreshLocked_spec hV).mono (fun _ _ => id) (fun _ _ _ h => h.coherent)
    (fun _ _ => id)
  changePassword _ _ := (HttpGateway.authorizedRead_spec hV).mono (fun _ _ h => ⟨h, False.elim⟩)
    (fun _ _ _ h => h.coherent) (fun _ _ => id)
  fetchUser := HttpGateway.authorizedRead_spec hV

/-- Over the HTTP gateway, whatever the server answers, and beside a vault that keeps what it is
given, every operation of the store keeps the session coherent with the vault, whether it answers
or fails: the vault restores to the credentials and the user held, or holds nothing while no
credentials are held, and a user is known only with credentials. So does every run of operations,
each on the world the one before left. -/
theorem store_keeps_session_coherent {ν : Type} (cfg : HttpSettings) (t : Http.Transport ν)
    (hV : Vault.Keeping V) :
    (∀ r : Store.Request, Keeps (Coherent V) (r.perform (HttpGateway.gateway cfg t))) ∧
    ∀ reqs w, Coherent V w.state w.vault →
      Coherent V (Store.serve (HttpGateway.gateway cfg t) reqs w).state
        (Store.serve (HttpGateway.gateway cfg t) reqs w).vault :=
  have hg := HttpGateway.gateway_keepsCoherence cfg t hV
  ⟨Store.perform_keeps _ hV hg, fun reqs w hw => Store.serve_coherent _ hV hg reqs w hw⟩

/-- Signing in, loading the profile and signing out from the signed-out state beside an empty
vault in memory ends coherent. -/
theorem store_keeps_memory_vault_coherent :
    let cfg : HttpSettings :=
      ⟨⟨"https", "", "", none, none, .segments [], none, none⟩, {}, .bearer, "session"⟩
    let t : Http.Transport Unit := ⟨fun _ jar n => (.error (.connect ""), jar, n)⟩
    let w : World (Link Unit) := ⟨SessionState.anonymous, .memory none, ⟨0, 0⟩, ⟨none, ()⟩, []⟩
    let reqs := [.restore, .login "ada@example.com" "secret", .fetchUser, .logout]
    Vault.Keeping (fun v => ∃ slot, v = .memory slot) ∧
      Coherent (fun v => ∃ slot, v = .memory slot) w.state w.vault ∧
      Coherent (fun v => ∃ slot, v = .memory slot)
        (Store.serve (HttpGateway.gateway cfg t) reqs w).state
        (Store.serve (HttpGateway.gateway cfg t) reqs w).vault := by
  intro cfg t w reqs
  have hstart : Coherent (fun v => ∃ slot, v = .memory slot) w.state w.vault :=
    ⟨⟨none, rfl⟩, .inl ⟨rfl, rfl⟩, fun h => by cases h⟩
  exact ⟨Vault.keeping_memory, hstart,
    (store_keeps_session_coherent cfg t Vault.keeping_memory).2 reqs w hstart⟩

end Signon
