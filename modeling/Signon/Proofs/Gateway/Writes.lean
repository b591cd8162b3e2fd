import Mathlib.Logic.Relation
import Signon.Proofs.Gateway.Keeping

/-!
The writes the HTTP gateway makes of its own to the session and the vault: a refresh publishes
what its answer grants, a failed refresh signs the session out, a rotated cookie replaces the
held one. An authorized call changes the session and the vault only by such writes.
-/

namespace Signon.HttpGateway

open Op

/-- One write of the gateway's own. The vault keeps each published session as far as it can. -/
inductive Write (cfg : HttpSettings) : SessionState × Vault → SessionState × Vault → Prop
  | refreshed {st : SessionState} {v : Vault} {current c : Credentials} {u : Option User}
      {resp : Http.Response} {now : Time.Instant} (hc : st.credentials = some current)
      (hg : refreshGrant cfg current resp = .ok (c, u)) :
      Write cfg (st, v)
        (st.replaceCredentials c u, v.persisted (st.replaceCredentials c u).session now)
  | expired {st : SessionState} {v : Vault} {current : Credentials}
      (hc : st.credentials = some current) : Write cfg (st, v) (st.clear, v.clear.2)
  | rotated {st : SessionState} {v : Vault} {resp : Http.Response} {k : Http.SetCookie}
      {now : Time.Instant} (hr : Rotates cfg resp st k) :
      Write cfg (st, v)
        (st.replaceCredentials (.cookie k.name k.value) none,
          v.persisted (st.replaceCredentials (.cookie k.name k.value) none).session now)

/-- The session and the vault are reached from `start` by writes of the gateway. -/
def Reached (cfg : HttpSettings) (start : SessionState × Vault) (st : SessionState) (v : Vault) :
    Prop :=
  Relation.ReflTransGen (Write cfg) start (st, v)

variable {ν : Type} {cfg : HttpSettings} {t : Http.Transport ν} {start : SessionState × Vault}

theorem tolerate_persist_persisted {γ : Type} {s : Session} {P F : SessionState → Vault → Prop} :
    Spec P (tolerate (persist s) : Op γ Unit)
      (fun _ st v => ∃ v₀ now, P st v₀ ∧ v = v₀.persisted s now) F := by
  refine ⟨fun w hw => ?_⟩
  rcases h : (tolerate (persist s) : Op γ Unit).run w with ⟨r, w'⟩
  obtain ⟨rfl, halike⟩ := tolerate_eq h
  obtain ⟨hs, hv, -, -⟩ := persist_run s w
  exact ⟨w.vault, w.clock, (halike.state.trans hs).symm ▸ hw, halike.vault.trans hv⟩

theorem expireSession_reached {current : Credentials} :
    Spec (fun st v => Reached cfg start st v ∧ st.credentials = some current)
      (expireSession cfg : Op (Link ν) Failure) (fun _ => Reached cfg start) (Reached cfg start) := by
  refine ⟨fun w ⟨hr, hc⟩ => ?_⟩
  rcases h : (expireSession cfg : Op (Link ν) Failure).run w with ⟨r, w'⟩
  obtain ⟨rfl, hs, hv, -, -⟩ := expireSession_eq h
  show Reached cfg start w'.state w'.vault
  rw [hs, hv]
  exact Relation.ReflTransGen.tail hr (.expired hc)

theorem trackCookieRotation_reached {r : Http.Response} {F : SessionState → Vault → Prop} :
    Spec (Reached cfg start) (trackCookieRotation cfg r : Op (Link ν) Unit)
      (fun _ => Reached cfg start) F := by
  refine ⟨fun w hw => ?_⟩
  rcases h : (trackCookieRotation cfg r : Op (Link ν) Unit).run w with ⟨r', w'⟩
  by_cases hrot : ∃ k, Rotates cfg r w.state k
  · obtain ⟨k, hk⟩ := hrot
    obtain ⟨rfl, hs, hv, -, -⟩ := trackCookieRotation_of_rotates hk h
    show Reached cfg start w'.state w'.vault
    rw [hv, hs]
    exact Relation.ReflTransGen.tail hw (.rotated hk)
  · obtain ⟨rfl, halike⟩ := trackCookieRotation_of_steady (not_exists.mp hrot) h
    show Reached cfg start w'.state w'.vault
    rw [halike.state, halike.vault]
    exact hw

theorem accept_reached {r : Http.Response} :
    Keeps (Reached cfg start) (accept cfg r : Op (Link ν) Http.Response) := by
  unfold accept
  refine Spec.bind (Spec.framed checkStatus_frames fun _ _ => id) fun r => ?_
  refine Spec.bind trackCookieRotation_reached fun _ => ?_
  exact Spec.pure fun _ _ => id

theorem refreshLocked_reached : Keeps (Reached cfg start) (refreshLocked cfg t) := by
  unfold refreshLocked
  refine Spec.bind Spec.state fun st => ?_
  split
  · exact Spec.throw fun _ _ h => h.1
  · rename_i current hc
    refine Spec.bind (Spec.attempt requestRefresh_granted) fun r => ?_
    rcases r with f | ⟨c, u⟩
    · refine Spec.bind ?_ fun f => Spec.throw fun _ _ => id
      exact expireSession_reached.mono
        (fun s v (h : Reached cfg start s v ∧ st = s) => ⟨h.1, h.2 ▸ hc⟩) (fun _ _ _ => id)
        (fun _ _ => id)
    · refine Spec.bind Spec.modifyState_image fun _ => ?_
      refine Spec.bind Spec.state fun x => ?_
      refine Spec.bind tolerate_persist_persisted fun _ => ?_
      refine Spec.note_pure fun s v h => ?_
      obtain ⟨v₀, now, ⟨⟨s₀, ⟨⟨hr, rfl⟩, resp, hg⟩, rfl⟩, rfl⟩, rfl⟩ := h
      exact Relation.ReflTransGen.tail hr (.refreshed hc hg)

theorem refreshAfter_reached {seen : Nat} : Keeps (Reached cfg start) (refreshAfter cfg t seen) := by
  unfold refreshAfter
  refine Spec.state_bind fun st => ?_
  split
  · split
    · exact Spec.note_pure fun _ _ => id
    · exact Spec.throw fun _ _ => id
  · refine Spec.bind refreshLocked_reached fun s => ?_
    split
    · exact Spec.pure fun _ _ => id
    · exact Spec.throw fun _ _ => id

theorem sendAuthorized_reached {req : Http.Request} :
    Keeps (Reached cfg start) (sendAuthorized cfg t req) := by
  unfold sendAuthorized
  refine Spec.state_bind fun st => ?_
  refine Spec.bind (Spec.framed authorization_frames fun _ _ => id) fun auth => ?_
  refine Spec.bind (Spec.framed dispatch_frames fun _ _ => id) fun resp => ?_
  split
  · exact accept_reached
  · refine Spec.bind Spec.note fun _ => ?_
    refine Spec.bind refreshAfter_reached fun fresh => ?_
    refine Spec.bind Spec.note fun _ => ?_
    refine Spec.bind (Spec.framed authorization_frames fun _ _ => id) fun auth => ?_
    refine Spec.bind (Spec.framed dispatch_frames fun _ _ => id) fun resp => ?_
    exact accept_reached

theorem authorizedRead_reached {m : Http.Method} {path : String} {body : Option Json} {α β : Type}
    {read : Http.Response → Except Failure α} {k : α → β} :
    Keeps (Reached cfg start)
      (prepare cfg m path body >>= fun req => sendAuthorized cfg t req >>= fun resp =>
        Op.lift (read resp) >>= fun a => pure (k a)) := by
  refine Spec.bind (Spec.framed prepare_frames fun _ _ => id) fun req => ?_
  refine Spec.bind sendAuthorized_reached fun resp => ?_
  refine Spec.bind Spec.lift_keeps fun a => ?_
  exact Spec.pure fun _ _ => id

theorem trail_of_run {α : Type} {x : Op (Link ν) α} (hx : ∀ start, Keeps (Reached cfg start) x)
    {w w' : World (Link ν)} {r : Except Failure α} (h : x.run w = (r, w')) :
    Relation.ReflTransGen (Write cfg) (w.state, w.vault) (w'.state, w'.vault) :=
  (hx (w.state, w.vault)).of_run Relation.ReflTransGen.refl h

/-- The gateway's refresh, password change and profile load change the session and the vault
only by writes of its own, whether they answer or fail. -/
theorem gateway_reached (cfg : HttpSettings) (t : Http.Transport ν) :
    (∀ start, Keeps (Reached cfg start) (gateway cfg t).refresh) ∧
      (∀ start c p, Keeps (Reached cfg start) ((gateway cfg t).changePassword c p)) ∧
      ∀ start, Keeps (Reached cfg start) (gateway cfg t).fetchUser :=
  ⟨fun _ => refreshLocked_reached, fun _ _ _ => authorizedRead_reached,
    fun _ => authorizedRead_reached⟩

end Signon.HttpGateway
