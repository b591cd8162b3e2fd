import Signon.Proofs.Store.Coherence
import Signon.Proofs.Gateway.Writes
import Signon.Proofs.Storage.Save
import Signon.Gateway.Replay

/-!
What a failed operation of the store leaves behind. An operation without an authorized call
leaves the session and the vault as they were; one with an authorized call changes them only by
the gateway's own writes, and loading the profile keeps the user it set before a refused save.
-/

namespace Signon

open Op

variable {γ : Type}

/-- The session is `st₀` and the vault loads `l₀`: what they were before an operation. -/
def Untouched (st₀ : SessionState) (l₀ : Except Failure (Option StoredCredentials))
    (st : SessionState) (v : Vault) : Prop :=
  st = st₀ ∧ v.load = l₀

theorem persist_of_error {s : Session} {w w' : World γ} {f : Failure}
    (h : (persist s).run w = (.error f, w')) :
    w'.state = w.state ∧ w'.vault.load = w.vault.load := by
  rcases hc : StoredCredentials.ofSession s w.clock with _ | c
  · have hrun : (persist s).run w = (clearVault : Op γ Unit).run w := by
      simp only [persist, run_bind, run_get, hc]
    rw [hrun] at h
    obtain ⟨hr, hs, hv, -, -⟩ := clearVault_eq h
    rw [hv, Vault.clear_of_error hr.symm]
    exact ⟨hs, rfl⟩
  · have hrun : (persist s).run w = (save c : Op γ Unit).run w := by
      simp only [persist, run_bind, run_get, hc]
    rw [hrun] at h
    obtain ⟨hr, hs, hv, -, -⟩ := save_eq h
    rw [hv, Vault.load_save_of_error hr.symm]
    exact ⟨hs, rfl⟩

namespace Op

variable {st₀ : SessionState} {l₀ : Except Failure (Option StoredCredentials)}

theorem persist_untouched {s : Session} :
    Spec (Untouched st₀ l₀) (persist s : Op γ Unit) (fun _ _ _ => True) (Untouched st₀ l₀) := by
  refine ⟨fun w hw => ?_⟩
  rcases h : (persist s : Op γ Unit).run w with ⟨_ | u, w'⟩
  · obtain ⟨hs, hv⟩ := persist_of_error h
    exact ⟨hs.trans hw.1, hv.trans hw.2⟩
  · trivial

theorem run_bind_error {x : Op γ α} {f : α → Op γ β} {w w' : World γ} {e : Failure}
    (h : (x >>= f).run w = (.error e, w')) :
    x.run w = (.error e, w') ∨ ∃ a w₁, x.run w = (.ok a, w₁) ∧ (f a).run w₁ = (.error e, w') := by
  rw [run_bind] at h
  rcases hx : x.run w with ⟨_ | a, w₁⟩ <;> rw [hx] at h
  · cases h
    exact .inl rfl
  · exact .inr ⟨a, w₁, rfl, h⟩

theorem lift_bind_error {r : Except Failure α} {f : α → Op γ β} {w w' : World γ} {e : Failure}
    (h : (lift r >>= f).run w = (.error e, w')) : w' = w ∨ ∃ a, (f a).run w = (.error e, w') := by
  rcases run_bind_error h with h | ⟨a, w₁, hx, h⟩
  · rw [run_lift] at h
    cases r <;> cases h
    exact .inl rfl
  · rw [run_lift] at hx
    cases r <;> cases hx
    exact .inr ⟨a, h⟩

theorem commit_untouched {s : Session} :
    Spec (Untouched st₀ l₀) (commit s : Op γ Unit) (fun _ _ _ => True) (Untouched st₀ l₀) :=
  Spec.bind persist_untouched fun _ => ⟨fun _ _ => trivial⟩

end Op

/-- A gateway whose calls that need no session leave the session and the vault alone. -/
structure Gateway.PublicFrames (g : Gateway γ) : Prop where
  login : ∀ e p, Frames (g.login e p)
  register : ∀ r, Frames (g.register r)
  verifyEmail : ∀ e c, Frames (g.verifyEmail e c)
  resendVerification : ∀ e, Frames (g.resendVerification e)
  forgotPassword : ∀ e, Frames (g.forgotPassword e)
  resetPassword : ∀ r, Frames (g.resetPassword r)

namespace Store

variable {st₀ : SessionState} {l₀ : Except Failure (Option StoredCredentials)}

theorem restore_untouched :
    Spec (Untouched st₀ l₀) (restore : Op γ Bool) (fun _ _ _ => True) (Untouched st₀ l₀) := by
  unfold restore
  refine Spec.bind load_spec fun r => ?_
  rcases r with _ | stored
  · exact Spec.note_pure fun _ _ _ => trivial
  · refine Spec.bind (Spec.lift_eq fun _ _ h => h.1) fun s => ?_
    split
    · exact Spec.pure fun _ _ _ => trivial
    · exact Spec.bind Spec.modifyState_image fun _ => Spec.note_pure fun _ _ _ => trivial

theorem adopt_untouched {grant : Grant} :
    Spec (Untouched st₀ l₀) (adopt grant : Op γ Enrolment) (fun _ _ _ => True)
      (Untouched st₀ l₀) := by
  unfold adopt
  split
  · exact Spec.bind Op.commit_untouched fun _ => Spec.pure fun _ _ _ => trivial
  · exact Spec.pure fun _ _ _ => trivial

variable (g : Gateway γ)

theorem login_untouched (hg : g.PublicFrames) (email password : String) :
    Spec (Untouched st₀ l₀) (login g email password) (fun _ _ _ => True) (Untouched st₀ l₀) := by
  unfold login
  refine Spec.bind Spec.lift_keeps fun e => ?_
  refine Spec.bind Spec.lift_keeps fun p => ?_
  refine Spec.bind (Spec.framed (hg.login e p) fun _ _ => id) fun grant => ?_
  split
  · exact Spec.throw fun _ _ => id
  · exact Spec.bind Op.commit_untouched fun _ => Spec.note_pure fun _ _ _ => trivial

theorem register_untouched (hg : g.PublicFrames) (email username password confirmation : String) :
    Spec (Untouched st₀ l₀) (register g email username password confirmation) (fun _ _ _ => True)
      (Untouched st₀ l₀) := by
  unfold register
  refine Spec.bind Spec.lift_keeps fun e => ?_
  refine Spec.bind Spec.lift_keeps fun u => ?_
  refine Spec.bind Spec.lift_keeps fun p => ?_
  refine Spec.bind (Spec.framed (hg.register ⟨e, u, p⟩) fun _ _ => id) fun grant => ?_
  exact Spec.bind adopt_untouched fun _ => Spec.note_pure fun _ _ _ => trivial

theorem verifyEmail_untouched (hg : g.PublicFrames) (email code : String) :
    Spec (Untouched st₀ l₀) (verifyEmail g email code) (fun _ _ _ => True) (Untouched st₀ l₀) := by
  unfold verifyEmail
  refine Spec.bind Spec.lift_keeps fun e => ?_
  refine Spec.bind Spec.lift_keeps fun c => ?_
  refine Spec.bind (Spec.framed (hg.verifyEmail e c) fun _ _ => id) fun grant => ?_
  exact Spec.bind adopt_untouched fun _ => Spec.note_pure fun _ _ _ => trivial

theorem resendVerification_untouched (hg : g.PublicFrames) (email : String) :
    Spec (Untouched st₀ l₀) (resendVerification g email) (fun _ _ _ => True)
      (Untouched st₀ l₀) := by
  unfold resendVerification
  refine Spec.bind Spec.lift_keeps fun e => ?_
  refine Spec.bind (Spec.framed (hg.resendVerification e) fun _ _ => id) fun m => ?_
  exact Spec.note_pure fun _ _ _ => trivial

theorem forgotPassword_untouched (hg : g.PublicFrames) (email : String) :
    Spec (Untouched st₀ l₀) (forgotPassword g email) (fun _ _ _ => True) (Untouched st₀ l₀) := by
  unfold forgotPassword
  refine Spec.bind Spec.lift_keeps fun e => ?_
  refine Spec.bind (Spec.framed (hg.forgotPassword e) fun _ _ => id) fun m => ?_
  exact Spec.note_pure fun _ _ _ => trivial

theorem resetPassword_untouched (hg : g.PublicFrames)
    (email token newPassword confirmation : String) :
    Spec (Untouched st₀ l₀) (resetPassword g email token newPassword confirmation)
      (fun _ _ _ => True) (Untouched st₀ l₀) := by
  unfold resetPassword
  refine Spec.bind Spec.lift_keeps fun e => ?_
  refine Spec.bind Spec.lift_keeps fun t => ?_
  refine Spec.bind Spec.lift_keeps fun p => ?_
  refine Spec.bind (Spec.framed (hg.resetPassword ⟨e, t, p⟩) fun _ _ => id) fun m => ?_
  exact Spec.note_pure fun _ _ _ => trivial

theorem refresh_run_of_error {w w' : World γ} {f : Failure}
    (h : (refresh g).run w = (.error f, w')) :
    w' = w ∨ g.refresh.run w = (.error f, w') := by
  unfold refresh at h
  rw [run_state_bind] at h
  split at h
  · cases h
    exact .inl rfl
  · dsimp only at h
    split at h
    · rw [throw_bind, run_throw] at h
      cases h
      exact .inl rfl
    · exact .inr h

/-- A failed password change changed nothing, or is the gateway's own failure, with what the
gateway left. -/
theorem changePassword_run_of_error {current newPassword confirmation : String}
    {w w' : World γ} {f : Failure}
    (h : (changePassword g current newPassword confirmation).run w = (.error f, w')) :
    w' = w ∨ ∃ c p, (g.changePassword c p).run w = (.error f, w') := by
  unfold changePassword at h
  rw [run_state_bind] at h
  dsimp only at h
  split at h
  · simp only [checkedPassword] at h
    rcases lift_bind_error h with rfl | ⟨c, h⟩
    · exact .inl rfl
    rcases lift_bind_error h with rfl | ⟨p, h⟩
    · exact .inl rfl
    rcases run_bind_error h with h | ⟨m, w₁, -, h⟩
    · exact .inr ⟨c, p, h⟩
    · simp at h
  · rw [throw_bind, run_throw] at h
    cases h
    exact .inl rfl

/-- A failed profile load changed nothing, or is the gateway's own failure with what the gateway
left, or came after the gateway answered with a user and the session, the user set on it, could
not be kept: then the session holds that user, and the vault loads what it did after the call. -/
theorem fetchUser_run_of_error {w w' : World γ} {f : Failure}
    (h : (fetchUser g).run w = (.error f, w')) :
    w' = w ∨ g.fetchUser.run w = (.error f, w') ∨
      ∃ u w₁, g.fetchUser.run w = (.ok u, w₁) ∧ w'.state = w₁.state.setUser u ∧
        w'.vault.load = w₁.vault.load := by
  unfold fetchUser at h
  rw [run_state_bind] at h
  dsimp only at h
  split at h
  · rw [throw_bind, run_throw] at h
    cases h
    exact .inl rfl
  · rcases run_bind_error h with h | ⟨u, w₁, hg, h⟩
    · exact .inr (.inl h)
    rw [run_bind, run_modifyState] at h
    dsimp only at h
    rw [run_state_bind] at h
    rcases run_bind_error h with h | ⟨-, w₂, -, h⟩
    · obtain ⟨hs, hv⟩ := persist_of_error h
      exact .inr (.inr ⟨u, w₁, hg, hs, hv⟩)
    · simp at h

/-- Whether a request makes no authorized call: all but changing the password, loading the
profile, refreshing and signing out. -/
def Request.isPublic : Request → Bool
  | .changePassword .. | .fetchUser | .refresh | .logout => false
  | _ => true

theorem discard_untouched {α : Type} {x : Op γ α}
    (hx : Spec (Untouched st₀ l₀) x (fun _ _ _ => True) (Untouched st₀ l₀)) :
    Spec (Untouched st₀ l₀) (discard x) (fun _ _ _ => True) (Untouched st₀ l₀) :=
  Spec.bind hx fun _ => Spec.pure fun _ _ _ => trivial

theorem perform_untouched (hg : g.PublicFrames) (r : Request) (hr : r.isPublic = true) :
    Spec (Untouched st₀ l₀) (r.perform g) (fun _ _ _ => True) (Untouched st₀ l₀) := by
  cases r with
  | restore => exact discard_untouched restore_untouched
  | login e p => exact discard_untouched (login_untouched g hg e p)
  | register e u p c => exact discard_untouched (register_untouched g hg e u p c)
  | verifyEmail e c => exact discard_untouched (verifyEmail_untouched g hg e c)
  | resendVerification e => exact discard_untouched (resendVerification_untouched g hg e)
  | forgotPassword e => exact discard_untouched (forgotPassword_untouched g hg e)
  | resetPassword e t p c => exact discard_untouched (resetPassword_untouched g hg e t p c)
  | changePassword | fetchUser | refresh | logout => cases hr

end Store

theorem HttpGateway.gateway_publicFrames {ν : Type} (cfg : HttpSettings) (t : Http.Transport ν) :
    (HttpGateway.gateway cfg t).PublicFrames where
  login _ _ := HttpGateway.grantCall_frames
  register _ := HttpGateway.grantCall_frames
  verifyEmail _ _ := HttpGateway.grantCall_frames
  resendVerification _ := HttpGateway.messageCall_frames
  forgotPassword _ := HttpGateway.messageCall_frames
  resetPassword _ := HttpGateway.messageCall_frames

/-- What a failed operation of the store leaves behind, over the HTTP gateway. An operation that
makes no authorized call leaves the session and what the vault loads as they were. Refreshing,
changing the password and loading the profile change them only by the gateway's own writes: a
refresh, an expiry or a rotated cookie. Loading the profile adds one thing after a refused save:
the session keeps the user the gateway sent although the vault never took it. -/
theorem failed_operations_leave_session {ν : Type} (cfg : HttpSettings) (t : Http.Transport ν) :
    (∀ (r : Store.Request) (w w' : World (Link ν)) (f : Failure), r.isPublic = true →
      (r.perform (HttpGateway.gateway cfg t)).run w = (.error f, w') →
        w'.state = w.state ∧ w'.vault.load = w.vault.load) ∧
    (∀ (w w' : World (Link ν)) (f : Failure),
      (Store.refresh (HttpGateway.gateway cfg t)).run w = (.error f, w') →
        (w' = w ∨ (HttpGateway.gateway cfg t).refresh.run w = (.error f, w')) ∧
          Relation.ReflTransGen (HttpGateway.Write cfg) (w.state, w.vault) (w'.state, w'.vault)) ∧
    (∀ (current newPassword confirmation : String) (w w' : World (Link ν)) (f : Failure),
      (Store.changePassword (HttpGateway.gateway cfg t) current newPassword confirmation).run w =
          (.error f, w') →
        (w' = w ∨ ∃ c p, ((HttpGateway.gateway cfg t).changePassword c p).run w = (.error f, w')) ∧
          Relation.ReflTransGen (HttpGateway.Write cfg) (w.state, w.vault) (w'.state, w'.vault)) ∧
    (∀ (w w' : World (Link ν)) (f : Failure),
      (Store.fetchUser (HttpGateway.gateway cfg t)).run w = (.error f, w') →
        w' = w ∨
          ((HttpGateway.gateway cfg t).fetchUser.run w = (.error f, w') ∧
            Relation.ReflTransGen (HttpGateway.Write cfg) (w.state, w.vault) (w'.state, w'.vault)) ∨
          ∃ u w₁, (HttpGateway.gateway cfg t).fetchUser.run w = (.ok u, w₁) ∧
            Relation.ReflTransGen (HttpGateway.Write cfg) (w.state, w.vault) (w₁.state, w₁.vault) ∧
            w'.state = w₁.state.setUser u ∧ w'.vault.load = w₁.vault.load) := by
  obtain ⟨hrefresh, hchange, hfetch⟩ := HttpGateway.gateway_reached cfg t
  refine ⟨fun r w w' f hr h => ?_, fun w w' f h => ?_, fun _ _ _ w w' f h => ?_,
    fun w w' f h => ?_⟩
  · exact (Store.perform_untouched _ (HttpGateway.gateway_publicFrames cfg t) r hr).of_error
      ⟨rfl, rfl⟩ h
  · rcases Store.refresh_run_of_error _ h with rfl | hg
    · exact ⟨.inl rfl, .refl⟩
    · exact ⟨.inr hg, HttpGateway.trail_of_run hrefresh hg⟩
  · rcases Store.changePassword_run_of_error _ h with rfl | ⟨c, p, hg⟩
    · exact ⟨.inl rfl, .refl⟩
    · exact ⟨.inr ⟨c, p, hg⟩, HttpGateway.trail_of_run (fun start => hchange start c p) hg⟩
  · rcases Store.fetchUser_run_of_error _ h with rfl | hg | ⟨u, w₁, hg, hs, hv⟩
    · exact .inl rfl
    · exact .inr (.inl ⟨hg, HttpGateway.trail_of_run hfetch hg⟩)
    · exact .inr (.inr ⟨u, w₁, hg, HttpGateway.trail_of_run hfetch hg, hs, hv⟩)

/-- Loading the profile when the vault refuses to keep the session fails, yet the session now
names the user the server sent, not the one it held. -/
theorem fetchUser_refused_save_replaces_user :
    let held : User := ⟨⟨1⟩, ⟨"user"⟩, ⟨"user@example.com"⟩, ⟨true, false⟩, true, false⟩
    let sent : User := ⟨⟨7⟩, ⟨"jdoe"⟩, ⟨"jdoe@example.com"⟩, ⟨false, true⟩, false, false⟩
    let refused : Failure := .notAuthenticated
    let reply : Reply := ⟨.error refused, .error refused, .error refused, .error refused, .ok sent⟩
    let w : World Replay :=
      ⟨SessionState.start (.signedIn (.bearer ⟨"access-1"⟩ (some ⟨"refresh-1"⟩)) (some held)),
        .file "session.json" ⟨[], [(["session.json"], .directory)]⟩, ⟨0, 0⟩,
        ⟨[reply], refused, []⟩, []⟩
    w.state.session.user = some held ∧
      ((Store.fetchUser Replay.gateway).run w).1 =
        .error (.storage "Is a directory (os error 21)") ∧
      ((Store.fetchUser Replay.gateway).run w).2.state.session.user = some sent := by
  intro held sent refused reply w
  refine ⟨rfl, ?_, ?_⟩
  · decide +kernel
  · decide +kernel

end Signon
