import Signon.Proofs.Client.Spec
import Signon.Proofs.Session.Restore
import Signon.Store.Basic

/-!
When the shared session and the vault agree, and what keeping a session does to them.
-/

namespace Signon

/-- The session and the vault agree: nothing is kept and no credentials are held, or the kept
session restores to a session with the credentials and the user held. -/
def Session.KeptIn (s : Session) (v : Vault) : Prop :=
  (v.load = .ok none ∧ s.credentials = none) ∨
    ∃ st s', v.load = .ok (some st) ∧ st.toSession = .ok s' ∧
      s'.credentials = s.credentials ∧ s'.user = s.user

/-- The shared session is coherent with a vault among `V`: the two agree, and a user is known only
with credentials. -/
structure Coherent (V : Vault → Prop) (st : SessionState) (v : Vault) : Prop where
  vault : V v
  kept : st.session.KeptIn v
  user : st.session.user.isSome = true → st.session.credentials.isSome = true

/-- A coherent state that holds credentials whenever `signed` holds. -/
structure Steady (V : Vault → Prop) (signed : Prop) (st : SessionState) (v : Vault) : Prop where
  coherent : Coherent V st v
  held : signed → st.credentials.isSome = true

/-- Vaults that keep what they are given, as a token storage promises: saving and clearing
succeed and stay among them, a saved session loads back with its credentials and its user, and a
cleared vault loads nothing. -/
structure Vault.Keeping (V : Vault → Prop) : Prop where
  save : ∀ v c, V v → (v.save c).1 = .ok () ∧ V (v.save c).2 ∧
    ∃ c', (v.save c).2.load = .ok (some c') ∧ c'.token = c.token ∧ c'.user = c.user
  clear : ∀ v, V v → v.clear.1 = .ok () ∧ V v.clear.2 ∧ v.clear.2.load = .ok none

theorem Vault.keeping_memory : Vault.Keeping fun v => ∃ slot, v = .memory slot := by
  constructor
  · rintro v c ⟨slot, rfl⟩
    exact ⟨rfl, ⟨_, rfl⟩, c, rfl, rfl, rfl⟩
  · rintro v ⟨slot, rfl⟩
    exact ⟨rfl, ⟨_, rfl⟩, rfl⟩

namespace StoredCredentials

theorem toSession_congr {c c' : StoredCredentials} (ht : c'.token = c.token)
    (hu : c'.user = c.user) : c'.toSession = c.toSession := by
  obtain ⟨t, u, now⟩ := c
  obtain ⟨t', u', now'⟩ := c'
  simp only at ht hu
  subst ht hu
  rfl

end StoredCredentials

variable {V : Vault → Prop}

theorem Coherent.restorable {st : SessionState} {v : Vault} {c : Credentials}
    (h : Coherent V st v) (hheld : st.session.credentials = some c) : c.Restorable := by
  rcases h.kept with ⟨-, hnone⟩ | ⟨kept, s', -, hs', hc, -⟩
  · rw [hheld] at hnone
    cases hnone
  · obtain ⟨c', hc', hrestorable⟩ := StoredCredentials.toSession_restorable hs'
    rw [hc, hheld] at hc'
    cases hc'
    exact hrestorable

/-- A state fit to be kept in a vault among `V`: its credentials restore as themselves, and it
knows a user only with credentials. -/
structure Keepable (V : Vault → Prop) (st : SessionState) (v : Vault) : Prop where
  vault : V v
  restorable : ∀ c, st.session.credentials = some c → c.Restorable
  user : st.session.user.isSome = true → st.session.credentials.isSome = true

theorem coherent_clear {st : SessionState} {v : Vault} (hv : V v) (hempty : v.load = .ok none) :
    Coherent V st.clear v :=
  ⟨hv, .inl ⟨hempty, rfl⟩, fun h => by cases h⟩

theorem keepable_replaceCredentials {st : SessionState} {v : Vault} {c : Credentials} (hv : V v)
    (hc : c.Restorable) (u : Option User) : Keepable V (st.replaceCredentials c u) v :=
  ⟨hv, fun _ held => by cases held; exact hc, fun _ => rfl⟩

/-- Keeping a session whose credentials are restorable into a keeping vault succeeds and leaves a
vault that agrees with the session. -/
theorem Session.keptIn_save {s : Session} {c : Credentials} {v : Vault} (hV : Vault.Keeping V)
    (hv : V v) (hheld : s.credentials = some c) (hc : c.Restorable) (now : Time.Instant) :
    (v.save ⟨StoredToken.ofCredentials c, s.user, now⟩).1 = .ok () ∧
      V (v.save ⟨StoredToken.ofCredentials c, s.user, now⟩).2 ∧
      s.KeptIn (v.save ⟨StoredToken.ofCredentials c, s.user, now⟩).2 := by
  obtain ⟨hsaved, hv', c', hload, htoken, huser⟩ := hV.save v _ hv
  refine ⟨hsaved, hv', .inr ⟨c', .signedIn c s.user, hload, ?_, hheld.symm, rfl⟩⟩
  rw [StoredCredentials.toSession_congr htoken huser]
  exact StoredCredentials.toSession_of_restorable hc s.user now

end Signon

namespace Signon.Op

variable {γ : Type} {V : Vault → Prop}

theorem load_spec {P : SessionState → Vault → Prop} :
    Spec P (load : Op γ (Option StoredCredentials)) (fun r st v => P st v ∧ v.load = .ok r) P := by
  refine ⟨fun w hw => ?_⟩
  have hrun : (load : Op γ (Option StoredCredentials)).run w = (w.vault.load, w) := by
    simp only [load, run_bind, run_get, run_lift]
  rw [hrun]
  cases hl : w.vault.load with
  | error e => exact hw
  | ok r => exact ⟨hw, hl⟩

theorem clearVault_spec (hV : Vault.Keeping V) {st₀ : SessionState} :
    Spec (fun st v => st = st₀ ∧ V v) (clearVault : Op γ Unit)
      (fun _ st v => st = st₀ ∧ V v ∧ v.load = .ok none) (fun _ _ => False) := by
  refine ⟨?_⟩
  rintro w ⟨hst, hv⟩
  obtain ⟨hcleared, hv', hempty⟩ := hV.clear _ hv
  rcases hr : (clearVault : Op γ Unit).run w with ⟨r, w'⟩
  obtain ⟨hr', hs', hvault, -, -⟩ := clearVault_eq hr
  rw [hr', hcleared]
  exact ⟨hs'.trans hst, hvault ▸ hv', hvault ▸ hempty⟩

/-- Persisting a session whose credentials are restorable into a keeping vault succeeds, leaves
the state alone, and leaves a vault that agrees with the session. -/
theorem persist_spec (hV : Vault.Keeping V) {s : Session} {st₀ : SessionState}
    (hs : ∀ c, s.credentials = some c → c.Restorable) :
    Spec (fun st v => st = st₀ ∧ V v) (persist s : Op γ Unit)
      (fun _ st v => st = st₀ ∧ V v ∧ s.KeptIn v) (fun _ _ => False) := by
  refine ⟨?_⟩
  rintro w ⟨hst, hv⟩
  rcases held : s.credentials with _ | c
  · obtain ⟨hcleared, hv', hempty⟩ := hV.clear _ hv
    rcases hr : (clearVault : Op γ Unit).run w with ⟨r, w'⟩
    obtain ⟨hr', hs', hvault, -, -⟩ := clearVault_eq hr
    have hrun : (persist s : Op γ Unit).run w = (r, w') := by
      simp only [persist, run_bind, run_get, StoredCredentials.ofSession, held, Option.map_none, hr]
    rw [hrun, hr', hcleared]
    exact ⟨hs'.trans hst, hvault ▸ hv', .inl ⟨hvault ▸ hempty, held⟩⟩
  · obtain ⟨hsaved, hv', hkept⟩ := Session.keptIn_save hV hv held (hs c held) w.clock
    rcases hr : (save ⟨StoredToken.ofCredentials c, s.user, w.clock⟩ : Op γ Unit).run w with ⟨r, w'⟩
    obtain ⟨hr', hs', hvault, -, -⟩ := save_eq hr
    have hrun : (persist s : Op γ Unit).run w = (r, w') := by
      simp only [persist, run_bind, run_get, StoredCredentials.ofSession, held, Option.map_some, hr]
    rw [hrun, hr', hsaved]
    exact ⟨hs'.trans hst, hvault ▸ hv', hvault ▸ hkept⟩

/-- Keeping the current session of a state fit to be hkept leaves the state alone and makes it
coherent; as a tolerated step it never fails. -/
theorem tolerate_persist_spec (hV : Vault.Keeping V) {st₀ : SessionState}
    {F : SessionState → Vault → Prop} :
    Spec (fun st v => st = st₀ ∧ Keepable V st v) (tolerate (persist st₀.session) : Op γ Unit)
      (fun _ st v => st = st₀ ∧ Coherent V st v) F := by
  refine ⟨?_⟩
  rintro w ⟨rfl, hk⟩
  have hkept : Spec (fun st v => st = w.state ∧ V v) (persist w.state.session : Op γ Unit)
      (fun _ st v => st = w.state ∧ Coherent V st v) (fun st v => st = w.state ∧ Coherent V st v) :=
    (persist_spec hV hk.restorable).mono (fun _ _ h => h)
      (fun _ _ _ ⟨hsame, hv, hkept⟩ => ⟨hsame, by subst hsame; exact ⟨hv, hkept, hk.user⟩⟩)
      (fun _ _ h => h.elim)
  exact (Spec.tolerate hkept).holds w ⟨rfl, hk.vault⟩

/-- Committing a session whose credentials are restorable and that knows a user only with
credentials keeps the state coherent. -/
theorem commit_keeps (hV : Vault.Keeping V) {s : Session}
    (hs : ∀ c, s.credentials = some c → c.Restorable)
    (hu : s.user.isSome = true → s.credentials.isSome = true) :
    Keeps (Coherent V) (commit s : Op γ Unit) := by
  refine ⟨fun w hw => ?_⟩
  have hkept : Spec (fun st v => st = w.state ∧ V v) (commit s : Op γ Unit) (fun _ => Coherent V)
      (Coherent V) :=
    Spec.bind ((persist_spec hV hs).mono (fun _ _ h => h) (fun _ _ _ h => h) (fun _ _ h => h.elim))
      fun _ => Spec.modifyState.mono (fun _ _ h => ⟨h.2.1, h.2.2, hu⟩) (fun _ _ _ h => h)
        (fun _ _ h => h)
  exact hkept.holds w ⟨rfl, hw.vault⟩

end Signon.Op
