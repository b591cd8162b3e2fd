import Signon.Proofs.Gateway.Effects

/-!
What an operation of the client does to the shared session and the vault, stated as a
specification with a precondition, a postcondition on an answer and one on a failure.
-/

namespace Signon.Op

variable {γ α β : Type}

/-- `Spec P x Q E`: from a state and vault satisfying `P`, `x` answers `a` with ones satisfying
`Q a`, or fails with ones satisfying `E`. A structure rather than a definition, so that elaborating
a rule never unfolds it and runs the operation inside. -/
structure Spec (P : SessionState → Vault → Prop) (x : Op γ α) (Q : α → SessionState → Vault → Prop)
    (E : SessionState → Vault → Prop) : Prop where
  holds : ∀ w, P w.state w.vault →
    match x.run w with
    | (.ok a, w') => Q a w'.state w'.vault
    | (.error _, w') => E w'.state w'.vault

def Keeps (I : SessionState → Vault → Prop) (x : Op γ α) : Prop := Spec I x (fun _ => I) I

def Frames (x : Op γ α) : Prop := ∀ w, (x.run w).2.state = w.state ∧ (x.run w).2.vault = w.vault

namespace Spec

variable {P P' : SessionState → Vault → Prop} {Q Q' : α → SessionState → Vault → Prop}
  {R : β → SessionState → Vault → Prop} {E E' : SessionState → Vault → Prop}

theorem mono {x : Op γ α} (h : Spec P x Q E) (hP : ∀ s v, P' s v → P s v)
    (hQ : ∀ a s v, Q a s v → Q' a s v) (hE : ∀ s v, E s v → E' s v) : Spec P' x Q' E' := by
  refine ⟨fun w hw => ?_⟩
  have := h.holds w (hP _ _ hw)
  rcases hx : x.run w with ⟨_ | a, w'⟩ <;> rw [hx] at this
  · exact hE _ _ this
  · exact hQ _ _ _ this

theorem bind {x : Op γ α} {f : α → Op γ β} (hx : Spec P x Q E) (hf : ∀ a, Spec (Q a) (f a) R E) :
    Spec P (x >>= f) R E := by
  refine ⟨fun w hw => ?_⟩
  have hfirst := hx.holds w hw
  rw [run_bind]
  rcases hr : x.run w with ⟨_ | a, w'⟩ <;> rw [hr] at hfirst
  · exact hfirst
  · exact (hf a).holds w' hfirst

theorem pure {a : α} (h : ∀ s v, P s v → Q a s v) : Spec P (Pure.pure a : Op γ α) Q E :=
  ⟨fun _ hw => h _ _ hw⟩

theorem throw {e : Failure} (h : ∀ s v, P s v → E s v) :
    Spec P (MonadExcept.throw e : Op γ α) Q E :=
  ⟨fun _ hw => h _ _ hw⟩

theorem lift {r : Except Failure α}
    (h : ∀ s v, P s v → match r with
      | .ok a => Q a s v
      | .error _ => E s v) : Spec P (Op.lift r : Op γ α) Q E := by
  refine ⟨fun w hw => ?_⟩
  have hknown := h _ _ hw
  rw [run_lift]
  cases r <;> exact hknown

theorem framed {x : Op γ α} (hx : Frames x) (hE : ∀ s v, P s v → E s v) :
    Spec P x (fun _ => P) E := by
  refine ⟨fun w hw => ?_⟩
  obtain ⟨hs, hv⟩ := hx w
  rcases hr : x.run w with ⟨_ | a, w'⟩ <;> simp only [hr] at hs hv
  · exact hE _ _ (by simpa only [hs, hv] using hw)
  · simpa only [hs, hv] using hw

theorem note {level : Level} {target message : String} :
    Spec P (Op.note level target message : Op γ Unit) (fun _ => P) E :=
  ⟨fun _ hw => hw⟩

theorem note_pure {level : Level} {target message : String} {a : α} (h : ∀ s v, P s v → Q a s v) :
    Spec P (Op.note level target message >>= fun _ => Pure.pure a : Op γ α) Q E :=
  bind note fun _ => pure h

theorem state : Spec P (Op.state : Op γ SessionState) (fun st s v => P s v ∧ st = s) E :=
  ⟨fun _ hw => ⟨hw, rfl⟩⟩

theorem state_bind {f : SessionState → Op γ α} (h : ∀ st, Spec P (f st) Q E) :
    Spec P (Op.state >>= f) Q E :=
  bind state fun st => (h st).mono (fun _ _ h => h.1) (fun _ _ _ => id) (fun _ _ => id)

theorem modifyState {f : SessionState → SessionState} :
    Spec (fun s v => P (f s) v) (Op.modifyState f : Op γ Unit) (fun _ => P) E :=
  ⟨fun _ hw => hw⟩

theorem modifyState_read {f : SessionState → SessionState} {st : SessionState} :
    Spec (fun s v => P s v ∧ st = s) (Op.modifyState f : Op γ Unit)
      (fun _ s v => P st v ∧ s = f st) E :=
  ⟨fun _ ⟨hw, h⟩ => by subst h; exact ⟨hw, rfl⟩⟩

theorem modifyState_image {f : SessionState → SessionState} :
    Spec P (Op.modifyState f : Op γ Unit) (fun _ s v => ∃ s₀, P s₀ v ∧ s = f s₀) E :=
  ⟨fun w hw => ⟨w.state, hw, rfl⟩⟩

theorem lift_eq {r : Except Failure α} (hE : ∀ s v, P s v → E s v) :
    Spec P (Op.lift r : Op γ α) (fun a s v => P s v ∧ r = .ok a) E :=
  lift fun s v h => by cases r <;> first | exact hE s v h | exact ⟨h, rfl⟩

theorem lift_keeps {r : Except Failure α} : Spec P (Op.lift r : Op γ α) (fun _ => P) P :=
  lift fun _ _ h => by cases r <;> exact h

theorem exists_elim {δ : Type} {x : Op γ α} {P' : δ → SessionState → Vault → Prop}
    (h : ∀ d, Spec (P' d) x Q E) : Spec (fun s v => ∃ d, P' d s v) x Q E :=
  ⟨fun w ⟨d, hd⟩ => (h d).holds w hd⟩

theorem assume {x : Op γ α} {φ : Prop} (hφ : ∀ s v, P s v → φ) (h : φ → Spec P x Q E) :
    Spec P x Q E :=
  ⟨fun w hw => (h (hφ _ _ hw)).holds w hw⟩

theorem attempt {x : Op γ α} {F : SessionState → Vault → Prop} (hx : Spec P x Q E) :
    Spec P (attempt x) (fun r s v => match r with
      | .ok a => Q a s v
      | .error _ => E s v) F := by
  refine ⟨fun w hw => ?_⟩
  have := hx.holds w hw
  rw [run_attempt]
  rcases hr : x.run w with ⟨_ | a, w'⟩ <;> rw [hr] at this <;> exact this

theorem tolerate {x : Op γ Unit} {I F : SessionState → Vault → Prop}
    (hx : Spec P x (fun _ => I) I) : Spec P (tolerate x) (fun _ => I) F := by
  refine ⟨fun w hw => ?_⟩
  rcases ht : (Op.tolerate x).run w with ⟨r, w'⟩
  obtain ⟨rfl, halike⟩ := tolerate_eq ht
  have := hx.holds w hw
  rcases hr : x.run w with ⟨_ | u, w₁⟩ <;> rw [hr] at this halike <;>
    simpa [halike.state, halike.vault] using this

theorem of_error {x : Op γ α} (hx : Spec P x Q E) {w w' : World γ} {f : Failure}
    (hw : P w.state w.vault) (h : x.run w = (.error f, w')) : E w'.state w'.vault := by
  have hkept := hx.holds w hw
  rwa [h] at hkept

end Spec

theorem Keeps.of_run {I : SessionState → Vault → Prop} {x : Op γ α} (hx : Keeps I x)
    {w w' : World γ} {r : Except Failure α} (hw : I w.state w.vault) (h : x.run w = (r, w')) :
    I w'.state w'.vault := by
  have hkept := hx.holds w hw
  rw [h] at hkept
  rcases r with _ | a <;> exact hkept

namespace Frames

theorem bind {x : Op γ α} {f : α → Op γ β} (hx : Frames x) (hf : ∀ a, Frames (f a)) :
    Frames (x >>= f) := by
  intro w
  rw [run_bind]
  rcases hr : x.run w with ⟨_ | a, w'⟩
  · simpa [hr] using hx w
  · obtain ⟨hs, hv⟩ := hx w
    obtain ⟨hs', hv'⟩ := hf a w'
    rw [hr] at hs hv
    exact ⟨hs'.trans hs, hv'.trans hv⟩

theorem pure {a : α} : Frames (Pure.pure a : Op γ α) := fun _ => ⟨rfl, rfl⟩

theorem lift {r : Except Failure α} : Frames (Op.lift r : Op γ α) := fun _ => ⟨rfl, rfl⟩

theorem note {level : Level} {target message : String} :
    Frames (Op.note level target message : Op γ Unit) := fun _ => ⟨rfl, rfl⟩

theorem noteFailure {f : Failure} : Frames (Op.noteFailure f : Op γ Unit) := fun _ => ⟨rfl, rfl⟩

theorem of_quiet {ν : Type} {x : Op (Link ν) α}
    (hx : ∀ w w' r, x.run w = (r, w') → World.Quiet w w') : Frames x := by
  intro w
  have q := hx w _ _ rfl
  exact ⟨q.state, q.vault⟩

end Frames

end Signon.Op
