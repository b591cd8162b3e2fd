import Signon.Proofs.Gateway.Effects
import Mathlib.Data.List.DropRight

/-!
Restoring a kept session gives back the session that was kept, for credentials as the server
issues them.
-/

namespace Signon

namespace Text

theorem toList_trim (s : String) :
    (trim s).toList = (s.toList.dropWhile isBlank).rdropWhile isBlank := by
  simp only [trim, String.toList_ofList, dropTrailingBlanks, dropBlanks]
  rfl

theorem dropWhile_rdropWhile_dropWhile (l : List Char) :
    ((l.dropWhile isBlank).rdropWhile isBlank).dropWhile isBlank =
      (l.dropWhile isBlank).rdropWhile isBlank := by
  have hstart := List.head?_dropWhile_not isBlank l
  generalize l.dropWhile isBlank = m at hstart
  cases m with
  | nil => rfl
  | cons c rest =>
    simp only [List.head?_cons] at hstart
    rcases List.prefix_cons_iff.mp (List.rdropWhile_prefix isBlank (c :: rest)) with h | ⟨t, h, -⟩
    · rw [h]
      rfl
    · rw [h, List.dropWhile_cons_of_neg (by simp [hstart])]

theorem trim_trim (s : String) : trim (trim s) = trim s := by
  apply String.ext
  rw [toList_trim, toList_trim, dropWhile_rdropWhile_dropWhile, List.rdropWhile_idempotent]

theorem trim_eq_empty_iff {s : String} : trim s = "" ↔ isBlankText s = true := by
  rw [← String.toList_eq_nil_iff, toList_trim, List.rdropWhile_eq_nil_iff, isBlankText,
    List.all_eq_true]
  have hstart := List.head?_dropWhile_not isBlank s.toList
  constructor
  · intro hblanks
    have hempty : s.toList.dropWhile isBlank = [] := by
      cases hm : s.toList.dropWhile isBlank with
      | nil => rfl
      | cons c rest =>
        rw [hm] at hblanks hstart
        simp [hblanks c (by simp)] at hstart
    exact List.dropWhile_eq_nil_iff.mp hempty
  · intro hblanks c hc
    exact hblanks c ((List.dropWhile_suffix isBlank).subset hc)

end Text

theorem issuedText_trim {s : String} (what : String) (h : Text.isBlankText s = false) :
    issuedText (Text.trim s) what = .ok (Text.trim s) := by
  have hfull : (Text.trim s).isEmpty = false := by
    rw [String.isEmpty_eq_false_iff, Ne, Text.trim_eq_empty_iff, h]
    decide
  simp only [issuedText, Text.trim_trim, hfull, Bool.false_eq_true, if_false]

theorem issuedText_text {raw t what : String} (h : issuedText raw what = .ok t) :
    issuedText t what = .ok t := by
  have hread : t = Text.trim raw ∧ (Text.trim raw).isEmpty = false := by
    unfold issuedText at h
    by_cases hempty : (Text.trim raw).isEmpty <;> simp_all
  obtain ⟨rfl, hfull⟩ := hread
  simp [issuedText, Text.trim_trim, hfull]

/-- Credentials whose tokens read back as themselves, as the tokens a server issues do. -/
inductive Credentials.Restorable : Credentials → Prop
  | bearer {a : AccessToken} {r : Option RefreshToken} :
      AccessToken.make a.text = .ok a → (∀ t ∈ r, RefreshToken.make t.text = .ok t) →
      Restorable (.bearer a r)
  | cookie (name value : String) : Restorable (.cookie name value)

namespace Credentials

theorem restorable_bearer_trim {s : String} {r : Option RefreshToken}
    (h : Text.isBlankText s = false) (hr : ∀ t ∈ r, RefreshToken.make t.text = .ok t) :
    Restorable (.bearer ⟨Text.trim s⟩ r) := by
  refine .bearer ?_ hr
  simp [AccessToken.make, issuedText_trim _ h, Except.map_ok]

theorem Restorable.mergeRefreshed {current fresh : Credentials} (hc : current.Restorable)
    (hf : fresh.Restorable) : (current.mergeRefreshed fresh).Restorable := by
  cases hc with
  | cookie n v => exact hf
  | bearer _ hkept =>
    cases hf with
    | cookie n v => exact .cookie n v
    | @bearer a r ha hr =>
      cases r with
      | none => exact .bearer ha hkept
      | some t => exact .bearer ha hr

end Credentials

namespace AuthBody

theorem usable_eq_some {t : Option String} {s : String} (h : usable t = some s) :
    ∃ raw, s = Text.trim raw ∧ Text.isBlankText raw = false := by
  obtain ⟨raw, -, hs⟩ := Option.bind_eq_some_iff.mp h
  by_cases hblank : Text.isBlankText raw
  · simp [hblank] at hs
  · simp only [hblank, Bool.false_eq_true, if_false, Option.some.injEq] at hs
    exact ⟨raw, hs.symm, by simpa using hblank⟩

theorem bearerCredentials_restorable {b : AuthBody} {c : Credentials}
    (h : b.bearerCredentials = some c) : c.Restorable := by
  obtain ⟨a, ha, rfl⟩ := Option.map_eq_some_iff.mp h
  obtain ⟨raw, rfl, hblank⟩ := usable_eq_some ha
  refine Credentials.restorable_bearer_trim hblank fun t ht => ?_
  obtain ⟨s, hs, rfl⟩ := Option.map_eq_some_iff.mp ht
  obtain ⟨raw', rfl, hblank'⟩ := usable_eq_some hs
  simp [RefreshToken.make, issuedText_trim _ hblank', Except.map_ok]

end AuthBody

theorem HttpGateway.grantFrom_restorable {cfg : HttpSettings} {r : Http.Response} {body : AuthBody}
    {c : Credentials} (h : (HttpGateway.grantFrom cfg r body).credentials = some c) :
    c.Restorable := by
  simp only [HttpGateway.grantFrom] at h
  split at h
  · cases hc : (HttpGateway.setCookie cfg r) with
    | none => simpa [hc] using AuthBody.bearerCredentials_restorable (by simpa [hc] using h)
    | some k =>
      simp only [hc, Option.map_some, Option.orElse_some, Option.some.injEq] at h
      subst h
      exact .cookie _ _
  · exact AuthBody.bearerCredentials_restorable (by simpa using h)

namespace StoredCredentials

/-- Restorable credentials, kept with a user, restore to the session they were kept from. -/
theorem toSession_of_restorable {c : Credentials} (hc : c.Restorable) (user : Option User)
    (now : Time.Instant) :
    (⟨StoredToken.ofCredentials c, user, now⟩ : StoredCredentials).toSession =
      .ok (.signedIn c user) := by
  cases hc with
  | cookie n v => rfl
  | @bearer a r ha hr =>
    cases r with
    | none => simp [toSession, StoredToken.ofCredentials, ha, bind, Except.bind, pure, Except.pure,
      Except.mapError_ok]
    | some t =>
      have ht := hr t rfl
      simp [toSession, StoredToken.ofCredentials, ha, ht, bind, Except.bind, pure, Except.pure,
        Except.mapError_ok, Except.map_ok]

theorem toSession_restorable {st : StoredCredentials} {s : Session} (h : st.toSession = .ok s) :
    ∃ c, s.credentials = some c ∧ c.Restorable := by
  unfold toSession at h
  split at h
  · rename_i a r _
    cases ha : AccessToken.make a with
    | error e => simp [ha, bind, Except.bind] at h
    | ok access =>
      have haccess_back : AccessToken.make access.text = .ok access := by
        obtain ⟨t, ht, rfl⟩ : ∃ t, issuedText a "access token" = .ok t ∧ access = ⟨t⟩ := by
          simp only [AccessToken.make] at ha
          cases hi : issuedText a "access token" <;> simp_all [Except.map]
        simp [AccessToken.make, issuedText_text ht]
      cases r with
      | none =>
        simp only [ha, bind, Except.bind, Except.mapError_ok, pure, Except.pure,
          Except.ok.injEq] at h
        subst h
        exact ⟨_, rfl, .bearer haccess_back (by simp)⟩
      | some t =>
        cases hr : RefreshToken.make t with
        | error e => simp [ha, hr, bind, Except.bind, Except.map] at h
        | ok refresh =>
          simp only [ha, hr, bind, Except.bind, Except.mapError_ok, Except.map, pure, Except.pure,
            Except.ok.injEq] at h
          subst h
          refine ⟨_, rfl, .bearer haccess_back fun t' ht' => ?_⟩
          obtain rfl := Option.some.inj ht'
          obtain ⟨u, hu, rfl⟩ : ∃ u, issuedText t "refresh token" = .ok u ∧ refresh = ⟨u⟩ := by
            simp only [RefreshToken.make] at hr
            cases hi : issuedText t "refresh token" <;> simp_all [Except.map]
          simp [RefreshToken.make, issuedText_text hu]
  · cases h
    exact ⟨_, rfl, .cookie _ _⟩

end StoredCredentials

end Signon
