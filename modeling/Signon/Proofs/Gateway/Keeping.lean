import Signon.Proofs.Gateway.Refresh
import Signon.Proofs.Store.Agreement

/-!
What the HTTP gateway does to the shared session and the vault, whatever the server answers:
each step keeps a coherent state coherent.
-/

namespace Signon.HttpGateway

open Op

variable {ν : Type} {cfg : HttpSettings} {t : Http.Transport ν} {V : Vault → Prop}

section Frames

theorem prepare_frames {m : Http.Method} {path : String} {body : Option Json} :
    Frames (prepare cfg m path body : Op (Link ν) Http.Request) :=
  Frames.of_quiet fun _ _ _ h => (prepare_eq h).2.quiet

theorem authorization_frames {c : Option Credentials} :
    Frames (authorization cfg c : Op (Link ν) (Option Http.HeaderValue)) :=
  Frames.of_quiet fun _ _ _ h => (authorization_eq h).2

theorem refreshAuthorization_frames {c : Credentials} :
    Frames (refreshAuthorization cfg c : Op (Link ν) (Option Http.HeaderValue)) :=
  Frames.of_quiet fun _ _ _ h => (refreshAuthorization_eq h).2

theorem expireCookie_frames : Frames (expireCookie cfg : Op (Link ν) Unit) :=
  Frames.of_quiet fun _ _ _ h => (expireCookie_eq h).2

theorem dispatch_frames {req : Http.Request} {a : Option Http.HeaderValue} :
    Frames (dispatch t req a) := by
  intro w
  obtain ⟨-, hs, hv, -⟩ := dispatch_eq (rfl : (dispatch t req a).run w = _)
  exact ⟨hs, hv⟩

theorem checkStatus_frames {resp : Http.Response} : Frames (checkStatus resp : Op (Link ν) _) :=
  Frames.of_quiet fun _ _ _ h => (checkStatus_eq h).2.quiet

theorem Frames.attempt {γ α : Type} {x : Op γ α} (hx : Frames x) : Frames (Op.attempt x) := by
  intro w
  rw [run_attempt]
  exact hx w

theorem sendPublic_frames {path : String} {body : Json} : Frames (sendPublic cfg t path body) :=
  prepare_frames.bind fun _ => dispatch_frames.bind fun _ => checkStatus_frames

theorem grantCall_frames {path : String} {body : Json} : Frames (grantCall cfg t path body) :=
  sendPublic_frames.bind fun _ => Frames.lift.bind fun _ => Frames.pure

theorem messageCall_frames {path : String} {body : Json} : Frames (messageCall cfg t path body) :=
  sendPublic_frames.bind fun _ => Frames.lift.bind fun _ => Frames.pure

theorem logout_frames {c : Credentials} : Frames (logout cfg t c) :=
  prepare_frames.bind fun _ => authorization_frames.bind fun _ =>
    (Frames.attempt
      (dispatch_frames.bind fun _ => checkStatus_frames.bind fun _ => Frames.pure)).bind
        fun _ => expireCookie_frames.bind fun _ => Frames.lift

end Frames

theorem grantCall_spec {path : String} {body : Json} {P : SessionState → Vault → Prop} :
    Spec P (grantCall cfg t path body)
      (fun g st v => P st v ∧ ∀ c, g.credentials = some c → c.Restorable) P := by
  unfold grantCall
  refine Spec.bind (Spec.framed sendPublic_frames fun _ _ => id) fun resp => ?_
  refine Spec.bind Spec.lift_keeps fun body => ?_
  exact Spec.pure fun _ _ h => ⟨h, fun _ hc => grantFrom_restorable hc⟩

theorem expireSession_spec (hV : Vault.Keeping V) {P F : SessionState → Vault → Prop}
    (hP : ∀ s v, P s v → V v) :
    Spec P (expireSession cfg : Op (Link ν) Failure) (fun _ => Coherent V) F := by
  refine ⟨fun w hw => ?_⟩
  rcases h : (expireSession cfg : Op (Link ν) Failure).run w with ⟨r, w'⟩
  obtain ⟨rfl, hs, hv, -, -⟩ := expireSession_eq h
  obtain ⟨-, hv', hempty⟩ := hV.clear _ (hP _ _ hw)
  show Coherent V w'.state w'.vault
  rw [hs, hv]
  exact coherent_clear hv' hempty

theorem trackCookieRotation_spec (hV : Vault.Keeping V) {A : Prop} {r : Http.Response}
    {F : SessionState → Vault → Prop} :
    Spec (Steady V A) (trackCookieRotation cfg r : Op (Link ν) Unit) (fun _ => Steady V A) F := by
  unfold trackCookieRotation
  split
  · split
    · exact Spec.pure fun _ _ => id
    · rename_i k _
      refine Spec.bind Spec.state fun st => ?_
      split
      · split
        · refine Spec.bind Spec.note fun _ => ?_
          refine Spec.bind Spec.modifyState_read fun _ => Spec.bind Spec.state fun x => ?_
          refine Spec.assume (fun s v h => h.2.trans h.1.2) fun hx => ?_
          subst hx
          refine (tolerate_persist_spec hV).mono (fun s v h => ⟨h.2.symm, ?_⟩)
            (fun _ s v h => ⟨h.2, fun _ => by rw [h.1]; rfl⟩) (fun _ _ => id)
          rw [← h.2]
          exact keepable_replaceCredentials h.1.1.coherent.vault (.cookie _ _) none
        · exact Spec.pure fun _ _ h => h.1
      · exact Spec.pure fun _ _ h => h.1
  · exact Spec.pure fun _ _ => id

theorem accept_spec (hV : Vault.Keeping V) {A : Prop} {r : Http.Response} :
    Spec (Steady V A) (accept cfg r : Op (Link ν) Http.Response) (fun _ => Steady V A)
      (Coherent V) := by
  unfold accept
  refine Spec.bind (Spec.framed checkStatus_frames fun _ _ h => h.coherent) fun r => ?_
  refine Spec.bind (trackCookieRotation_spec hV) fun _ => ?_
  exact Spec.pure fun _ _ => id

theorem refreshGrant_restorable {current c : Credentials} {resp : Http.Response}
    {u : Option User} (hc : current.Restorable) (h : refreshGrant cfg current resp = .ok (c, u)) :
    c.Restorable := by
  obtain ⟨body, -, -, ⟨fresh, hfresh, rfl⟩ | ⟨-, -, rfl⟩⟩ := refreshGrant_eq_ok.mp h
  · exact hc.mergeRefreshed (grantFrom_restorable hfresh)
  · exact hc

theorem requestRefresh_granted {current : Credentials} {P : SessionState → Vault → Prop} :
    Spec P (requestRefresh cfg t current)
      (fun r st v => P st v ∧ ∃ resp, refreshGrant cfg current resp = .ok r) P := by
  unfold requestRefresh
  refine Spec.bind (Spec.framed refreshAuthorization_frames fun _ _ => id) fun auth => ?_
  refine Spec.bind (Spec.framed prepare_frames fun _ _ => id) fun req => ?_
  refine Spec.bind (Spec.framed dispatch_frames fun _ _ => id) fun resp => ?_
  refine Spec.bind (Spec.framed checkStatus_frames fun _ _ => id) fun resp => ?_
  exact (Spec.lift_eq fun _ _ => id).mono (fun _ _ => id) (fun _ _ _ h => ⟨h.1, resp, h.2⟩)
    (fun _ _ => id)

theorem requestRefresh_spec {current : Credentials} (hc : current.Restorable)
    {P : SessionState → Vault → Prop} :
    Spec P (requestRefresh cfg t current) (fun r st v => P st v ∧ r.1.Restorable) P :=
  requestRefresh_granted.mono (fun _ _ => id)
    (fun _ _ _ ⟨h, _, hg⟩ => ⟨h, refreshGrant_restorable hc hg⟩) (fun _ _ => id)

theorem refreshLocked_spec (hV : Vault.Keeping V) :
    Spec (Coherent V) (refreshLocked cfg t) (fun _ => Steady V True) (Coherent V) := by
  unfold refreshLocked
  refine Spec.bind Spec.state fun st => ?_
  split
  · exact Spec.throw fun _ _ h => h.1
  · rename_i current held
    refine Spec.assume (fun s v h => h.1.restorable (h.2 ▸ held)) fun hc => ?_
    refine Spec.bind (Spec.attempt (requestRefresh_spec hc)) fun r => ?_
    rcases r with f | ⟨c, u⟩
    · refine Spec.bind (expireSession_spec hV fun s v h => h.1.vault) fun f => ?_
      exact Spec.throw fun _ _ => id
    · refine Spec.assume (fun s v h => h.2) fun hc' => ?_
      refine (Spec.bind Spec.modifyState_read fun _ => Spec.bind Spec.state fun x => ?_).mono
        (fun s v h => h.1) (fun _ _ _ => id) (fun _ _ => id)
      refine Spec.assume (fun s v h => h.2.trans h.1.2) fun hx => ?_
      subst hx
      refine Spec.bind ((tolerate_persist_spec hV).mono (fun s v h => ⟨h.2.symm, ?_⟩)
        (fun _ _ _ => id) (fun _ _ => id)) fun _ => ?_
      · rw [← h.2]
        exact keepable_replaceCredentials h.1.1.vault hc' u
      exact Spec.note_pure fun s v h => ⟨h.2, fun _ => by rw [h.1]; rfl⟩

theorem refreshAfter_spec (hV : Vault.Keeping V) {seen : Nat} :
    Spec (Coherent V) (refreshAfter cfg t seen) (fun _ => Steady V True) (Coherent V) := by
  unfold refreshAfter
  refine Spec.bind Spec.state fun st => ?_
  split
  · split
    · rename_i c held
      refine Spec.note_pure fun s v h => ⟨h.1, fun _ => ?_⟩
      rw [← h.2, held]
      rfl
    · exact Spec.throw fun _ _ h => h.1
  · refine Spec.bind ((refreshLocked_spec hV).mono (fun s v h => h.1) (fun _ _ _ => id)
      (fun _ _ => id)) fun s => ?_
    split
    · exact Spec.pure fun _ _ => id
    · exact Spec.throw fun _ _ h => h.coherent

theorem sendAuthorized_spec (hV : Vault.Keeping V) {A : Prop} {req : Http.Request} :
    Spec (Steady V A) (sendAuthorized cfg t req) (fun _ => Steady V A) (Coherent V) := by
  unfold sendAuthorized
  refine Spec.state_bind fun st => ?_
  refine Spec.bind (Spec.framed authorization_frames fun _ _ h => h.coherent) fun auth => ?_
  refine Spec.bind (Spec.framed dispatch_frames fun _ _ h => h.coherent) fun resp => ?_
  split
  · exact accept_spec hV
  · refine Spec.bind Spec.note fun _ => ?_
    refine Spec.bind ((refreshAfter_spec hV).mono (fun s v h => h.coherent) (fun _ _ _ => id)
      (fun _ _ => id)) fun fresh => ?_
    refine (?_ : Spec (Steady V True) _ (fun _ => Steady V True) (Coherent V)).mono (fun _ _ => id)
      (fun _ s v h => ⟨h.coherent, fun _ => h.held trivial⟩) (fun _ _ => id)
    refine Spec.bind Spec.note fun _ => ?_
    refine Spec.bind (Spec.framed authorization_frames fun _ _ h => h.coherent) fun auth => ?_
    refine Spec.bind (Spec.framed dispatch_frames fun _ _ h => h.coherent) fun resp => ?_
    exact accept_spec hV

/-- An authorized call that reads its answer keeps a steady state steady; when it fails the state
is still coherent. -/
theorem authorizedRead_spec (hV : Vault.Keeping V) {A : Prop} {m : Http.Method} {path : String}
    {body : Option Json} {α β : Type} {read : Http.Response → Except Failure α} {k : α → β} :
    Spec (Steady V A)
      (prepare cfg m path body >>= fun req => sendAuthorized cfg t req >>= fun resp =>
        Op.lift (read resp) >>= fun a => pure (k a))
      (fun _ => Steady V A) (Coherent V) := by
  refine Spec.bind (Spec.framed prepare_frames fun _ _ h => h.coherent) fun req => ?_
  refine Spec.bind (sendAuthorized_spec hV) fun resp => ?_
  refine Spec.bind (Spec.framed Frames.lift fun _ _ h => h.coherent) fun a => ?_
  exact Spec.pure fun _ _ => id

end Signon.HttpGateway
