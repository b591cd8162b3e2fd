import Mathlib
import Signon.Proofs.Json.Stream
import Signon.Proofs.Session.Restore
import Signon.Storage.Vault

/-!
Saving a session and reading it back: the file written for a stored session decodes to it.
-/

namespace Signon

open Json

section Roles

variable {κ : Type}

theorem Role.caseIndex?_code (r : Role) : caseIndex? (Role.all.map Role.code) r.code = some r.rank := by
  cases r <;> rfl

theorem Role.ofDatum?_rank (r : Role) : Role.ofDatum? (κ := κ) (.case r.rank) = some r := by
  cases r <;> rfl

/-- Roles written as their codes fit the shape of a list of roles, one round per role. -/
theorem Role.itemsFit_codes : ∀ rs : List Role,
    ItemsFit (κ := κ) (.cases (Role.all.map Role.code)) (rs.map fun r => .str r.code)
      (rs.map fun r => .case r.rank) (rs.length + 1)
  | [] => .nil _
  | r :: rs => by
    have h := ItemsFit.cons (Fits.case r.caseIndex?_code) (Role.itemsFit_codes rs)
    have hcost : max 1 (rs.length + 1) + 1 = (r :: rs).length + 1 := by simp
    rw [List.map_cons, List.map_cons, ← hcost]
    exact h

theorem Role.items?_ranks (rs : List Role) :
    (Datum.list (κ := κ) (rs.map fun r => .case r.rank)).items? Role.ofDatum? = some rs := by
  induction rs with
  | nil => rfl
  | cons r rs ih =>
    simp only [Datum.items?] at ih
    simp [Datum.items?, Role.ofDatum?_rank, ih]

theorem RoleSet.ofList_toList (s : RoleSet) : RoleSet.ofList s.toList = s := by
  obtain ⟨employee, admin⟩ := s
  cases employee <;> cases admin <;> rfl

theorem RoleSet.length_toList (s : RoleSet) : s.toList.length ≤ 2 :=
  List.length_filter_le _ _

end Roles

section Fitting

variable {κ : Type}

theorem Fits.ofInt {v : Int} (hlo : -(2 ^ 63 : Int) ≤ v) (hi : v < 2 ^ 63) :
    Fits (κ := κ) .int64 (Json.ofInt v) (.int v) 1 := by
  unfold Json.ofInt
  split
  · have h := Fits.nat (κ := κ) (n := v.toNat) (by rw [pow_63]; omega)
    rwa [Int.toNat_of_nonneg (by omega)] at h
  · exact .neg (by rw [pow_63]; push_cast; omega) (by omega)

theorem User.toJson_fits (u : User) (hlo : -(2 ^ 63 : Int) ≤ u.id.value) (hi : u.id.value < 2 ^ 63) :
    ∃ d n, Fits (κ := κ) User.shape u.toJson d n ∧ n ≤ 9 ∧ User.ofDatum d = some u := by
  obtain ⟨⟨v⟩, ⟨name⟩, ⟨email⟩, roles, verified, twoFactor⟩ := u
  have hfew := roles.length_toList
  refine ⟨_, _, .record (.given (Fits.ofInt hlo hi) (.given (.text name) (.given (.text email)
    (.given (.list (Role.itemsFit_codes roles.toList)) (.given (.bool verified)
      (.given (.bool twoFactor) .nil)))))) ⟨by simp, by simp⟩, by omega, ?_⟩
  simp [User.ofDatum, Datum.int?, Datum.text?, Datum.bool?, Role.items?_ranks, RoleSet.ofList_toList]

theorem StoredToken.toJson_fits (t : StoredToken) :
    ∃ d n, Fits (κ := κ) StoredToken.shape t.toJson d n ∧ n ≤ 7 ∧ StoredToken.ofDatum d = some t := by
  unfold StoredToken.shape StoredToken.toJson
  cases t with
  | bearer access refresh =>
    cases refresh with
    | none =>
      exact ⟨_, _, .tagged (i := 0) (m := ⟨"bearer", "Bearer"⟩) rfl rfl (by simp)
        (.record (.given (.text access) (.absent rfl .nil)) ⟨by simp, by simp⟩), by omega, rfl⟩
    | some refresh =>
      exact ⟨_, _, .tagged (i := 0) (m := ⟨"bearer", "Bearer"⟩) rfl rfl (by simp)
        (.record (.given (.text access) (.given (.some (.text refresh) nofun) .nil)) ⟨by simp, by simp⟩),
        by omega, rfl⟩
  | cookie name value =>
    exact ⟨_, _, .tagged (i := 1) (m := ⟨"cookie", "Cookie"⟩) rfl rfl (by simp)
      (.record (.given (.text name) (.given (.text value) .nil)) ⟨by simp, by simp⟩), by omega, rfl⟩

/-- A stored session whose user has an identifier in 64 signed bits, and whose time reads back
from its text, fits the shape of a stored session and reads back as itself. -/
theorem StoredCredentials.toJson_fits (st : StoredCredentials)
    (hu : ∀ u ∈ st.user, -(2 ^ 63 : Int) ≤ u.id.value ∧ u.id.value < 2 ^ 63)
    (hnow : Time.parseInstant st.savedAt.render = .ok st.savedAt) :
    ∃ d n, Fits StoredCredentials.shape st.toJson d n ∧ n ≤ 64 ∧
      StoredCredentials.ofDatum d = some st := by
  obtain ⟨token, user, now⟩ := st
  obtain ⟨td, tn, htoken_fits, htoken_cost, htoken_read⟩ := token.toJson_fits (κ := Time.Instant)
  have htime : Fits (.checked StoredCredentials.timeExpected
      fun s => (Time.parseInstant s).mapError Time.ParseError.message) (.str now.render) (.leaf now) 1 :=
    .checked (by simp [hnow, Except.mapError])
  unfold StoredCredentials.shape StoredCredentials.toJson
  cases user with
  | none =>
    exact ⟨_, _, .record (.given htoken_fits (.absent rfl (.given htime .nil))) ⟨by simp, by simp⟩,
      by omega, by simp [StoredCredentials.ofDatum, htoken_read, Datum.optional?, Datum.leaf?]⟩
  | some u =>
    obtain ⟨ud, un, huser_fits, huser_cost, huser_read⟩ :=
      u.toJson_fits (κ := Time.Instant) (hu u rfl).1 (hu u rfl).2
    exact ⟨_, _, .record (.given htoken_fits (.given (.some huser_fits (by simp [User.toJson]))
      (.given htime .nil))) ⟨by simp, by simp⟩, by omega,
      by simp [StoredCredentials.ofDatum, htoken_read, huser_read, Datum.optional?, Datum.leaf?]⟩

/-- The file written for such a stored session reads back as that stored session. -/
theorem StoredCredentials.ofBytes_fileBytes (st : StoredCredentials)
    (hu : ∀ u ∈ st.user, -(2 ^ 63 : Int) ≤ u.id.value ∧ u.id.value < 2 ^ 63)
    (hnow : Time.parseInstant st.savedAt.render = .ok st.savedAt) :
    StoredCredentials.ofBytes (Vault.fileBytes st) = .ok st := by
  obtain ⟨d, n, hfits, hcost, hread⟩ := st.toJson_fits hu hnow
  exact decodeBytesAs_pretty hfits hcost hread

end Fitting

section Restoring

theorem issuedText_eq (raw what : String) :
    issuedText raw what = if Text.isBlankText raw = true then
      .error (Report.badGateway ("Server returned an empty " ++ what)) else .ok (Text.trim raw) := by
  have hempty : (Text.trim raw).isEmpty = Text.isBlankText raw := by
    rw [Bool.eq_iff_iff, String.isEmpty_iff, Text.trim_eq_empty_iff]
  simp only [issuedText, hempty]

namespace StoredToken

/-- Whether a token that restoring checks is blank: the access token, or the refresh token when
there is one. -/
def hasBlankToken : StoredToken → Bool
  | .bearer a r => Text.isBlankText a || r.any Text.isBlankText
  | .cookie _ _ => false

/-- The credentials that stored ones restore to, their tokens trimmed. -/
def trimmed : StoredToken → Credentials
  | .bearer a r => .bearer ⟨Text.trim a⟩ (r.map fun t => ⟨Text.trim t⟩)
  | .cookie n v => .cookie n v

end StoredToken

namespace StoredCredentials

theorem toSession_of_hasBlankToken {st : StoredCredentials} (h : st.token.hasBlankToken = true) :
    ∃ what, st.toSession = .error (corrupt (Report.badGateway ("Server returned an empty " ++ what))) := by
  obtain ⟨token, user, now⟩ := st
  cases token with
  | cookie n v => simp [StoredToken.hasBlankToken] at h
  | bearer a r =>
    cases ha : Text.isBlankText a
    · obtain ⟨t, rfl, ht⟩ : ∃ t, r = some t ∧ Text.isBlankText t = true := by
        cases r <;> simp_all [StoredToken.hasBlankToken]
      exact ⟨"refresh token", by simp [toSession, AccessToken.make, RefreshToken.make, issuedText_eq,
        ha, ht, bind, Except.bind, Except.map, Except.mapError]⟩
    · exact ⟨"access token", by simp [toSession, AccessToken.make, issuedText_eq, ha, bind,
        Except.bind, Except.map, Except.mapError]⟩

theorem toSession_of_not_hasBlankToken {st : StoredCredentials} (h : st.token.hasBlankToken = false) :
    st.toSession = .ok (.signedIn st.token.trimmed st.user) := by
  obtain ⟨token, user, now⟩ := st
  cases token with
  | cookie n v => rfl
  | bearer a r =>
    simp only [StoredToken.hasBlankToken, Bool.or_eq_false_iff] at h
    cases r with
    | none => simp [toSession, StoredToken.trimmed, AccessToken.make, issuedText_eq, h.1, bind,
        Except.bind, Except.map, Except.mapError, pure, Except.pure]
    | some t =>
      have ht : Text.isBlankText t = false := by simpa using h.2
      simp [toSession, StoredToken.trimmed, AccessToken.make, RefreshToken.make, issuedText_eq, h.1,
        ht, bind, Except.bind, Except.map, Except.mapError, pure, Except.pure]

/-- A signed-in session with restorable credentials, and a user with an identifier in 64 signed
bits, saved at a time that reads back from its text, is written to its file, read back from it and
restored to itself. -/
theorem ofSession_restores {c : Credentials} (hc : c.Restorable) (user : Option User)
    (hu : ∀ u ∈ user, -(2 ^ 63 : Int) ≤ u.id.value ∧ u.id.value < 2 ^ 63) {now : Time.Instant}
    (hnow : Time.parseInstant now.render = .ok now) :
    ∃ st, ofSession (.signedIn c user) now = some st ∧ ofBytes (Vault.fileBytes st) = .ok st ∧
      st.toSession = .ok (.signedIn c user) :=
  ⟨⟨StoredToken.ofCredentials c, user, now⟩, rfl, ofBytes_fileBytes _ hu hnow,
    toSession_of_restorable hc user now⟩

/-- Saving a session and loading it back. A signed-in session with credentials as the server
issues them is stored, written, read back and restored to itself; restoring any stored session
fails, as a storage failure, exactly when one of its tokens is blank, and otherwise keeps the
tokens trimmed; a signed-out session is not stored. -/
theorem saved_session_round_trip :
    (∀ (c : Credentials) (user : Option User) (now : Time.Instant), c.Restorable →
      (∀ u ∈ user, -(2 ^ 63 : Int) ≤ u.id.value ∧ u.id.value < 2 ^ 63) →
      Time.parseInstant now.render = .ok now →
      ∃ st, ofSession (.signedIn c user) now = some st ∧ ofBytes (Vault.fileBytes st) = .ok st ∧
        st.toSession = .ok (.signedIn c user)) ∧
    (∀ st : StoredCredentials,
      ((∃ e, st.toSession = .error e) ↔ st.token.hasBlankToken = true) ∧
      (∀ e, st.toSession = .error e → ∃ m, e = .storage m) ∧
      (st.token.hasBlankToken = false → st.toSession = .ok (.signedIn st.token.trimmed st.user))) ∧
    (∀ now, ofSession .anonymous now = none) := by
  refine ⟨fun c user now hc hu hnow => ofSession_restores hc user hu hnow, fun st => ?_, fun _ => rfl⟩
  cases hblank : st.token.hasBlankToken
  · have hrestored := toSession_of_not_hasBlankToken hblank
    simp [hrestored]
  · obtain ⟨what, hfailed⟩ := toSession_of_hasBlankToken hblank
    refine ⟨⟨fun _ => rfl, fun _ => ⟨_, hfailed⟩⟩, fun e he => ?_, nofun⟩
    rw [hfailed] at he
    exact ⟨_, (Except.error.inj he).symm⟩

theorem admin_session_round_trip :
    ∃ st, ofSession (.signedIn (.bearer ⟨"access-1"⟩ (some ⟨"refresh-1"⟩))
        (some ⟨⟨7⟩, ⟨"jdoe"⟩, ⟨"jdoe@example.com"⟩, ⟨true, true⟩, true, false⟩)) ⟨1704067200, 0⟩ =
        some st ∧
      ofBytes (Vault.fileBytes st) = .ok st ∧
      st.toSession = .ok (.signedIn (.bearer ⟨"access-1"⟩ (some ⟨"refresh-1"⟩))
        (some ⟨⟨7⟩, ⟨"jdoe"⟩, ⟨"jdoe@example.com"⟩, ⟨true, true⟩, true, false⟩)) :=
  saved_session_round_trip.1 _ _ _ (.bearer rfl (by rintro t ⟨⟩; rfl)) (by simp) (by decide)

end StoredCredentials

end Restoring

end Signon
