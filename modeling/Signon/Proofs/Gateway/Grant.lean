import Signon.Proofs.Session.Stored
import Signon.Proofs.Text.Utf8

/-!
Which credentials a server's answer grants, and when an authorized call follows a cookie the
server rotated.
-/

namespace Signon

namespace Http

theorem toNat_lt_of_isVisibleByte {b : UInt8} (h : isVisibleByte b = true) : b.toNat < 0x80 := by
  simp only [isVisibleByte, Bool.or_eq_true, Bool.and_eq_true, decide_eq_true_eq,
    beq_iff_eq] at h
  rcases h with ⟨-, hbelow⟩ | rfl
  · have := UInt8.lt_iff_toNat_lt.mp hbelow
    simp only [UInt8.toNat_ofNat] at this
    omega
  · decide

theorem HeaderValue.text?_eq (v : HeaderValue) :
    v.text? = if v.bytes.all isVisibleByte then
      some (String.ofList (v.bytes.map fun b => Char.ofNat b.toNat)) else none := by
  rw [HeaderValue.text?]
  split
  · rename_i hvisible
    exact Text.Utf8.toString?_ascii fun b hb =>
      toNat_lt_of_isVisibleByte (List.all_eq_true.mp hvisible b hb)
  · rfl

/-- A header value sets a cookie of a name: its bytes are all hvisible ASCII, the text they spell
parses as that cookie, and the cookie has the name. -/
def HeaderValue.SetsCookie (name : String) (v : HeaderValue) (c : SetCookie) : Prop :=
  v.bytes.all isVisibleByte = true ∧
    SetCookie.parse (String.ofList (v.bytes.map fun b => Char.ofNat b.toNat)) = some c ∧
    c.name = name

theorem HeaderValue.setsCookie_iff {name : String} {v : HeaderValue} {c : SetCookie} :
    v.SetsCookie name c ↔ v.text?.bind SetCookie.parse = some c ∧ c.name = name := by
  rw [SetsCookie, text?_eq]
  split <;> simp_all

/-- The search for a cookie runs back from the last value and keeps the first one that sets a
cookie of the name. -/
theorem findSetCookie_eq (values : List HeaderValue) (name : String) :
    findSetCookie values name =
      (values.reverse.find? fun v => (v.text?.bind SetCookie.parse).any (·.name = name)).bind
        fun v => v.text?.bind SetCookie.parse := by
  rw [findSetCookie, List.filterMap_filterMap, ← List.filterMap_reverse, List.find?_filterMap]

theorem HeaderValue.counts_iff {name : String} {v : HeaderValue} :
    (v.text?.bind SetCookie.parse).any (·.name = name) = true ↔ ∃ c, v.SetsCookie name c := by
  simp [setsCookie_iff, Option.any_eq_true]

/-- The cookie found is the one the last value that sets a cookie of the name sets. -/
theorem findSetCookie_eq_some_iff {values : List HeaderValue} {name : String} {c : SetCookie} :
    findSetCookie values name = some c ↔
      ∃ pre v post, values = pre ++ v :: post ∧ v.SetsCookie name c ∧
        ∀ w ∈ post, ∀ d, ¬ w.SetsCookie name d := by
  rw [findSetCookie_eq, Option.bind_eq_some_iff]
  constructor
  · rintro ⟨v, hfound, hparsed⟩
    obtain ⟨hnamed, later, earlier, hsplit, hskipped⟩ := List.find?_eq_some_iff_append.mp hfound
    obtain ⟨d, hsets⟩ := HeaderValue.counts_iff.mp hnamed
    obtain rfl : d = c := Option.some.inj ((HeaderValue.setsCookie_iff.mp hsets).1.symm.trans hparsed)
    refine ⟨earlier.reverse, v, later.reverse, ?_, hsets, fun w hw d' hsets' => ?_⟩
    · rw [← List.reverse_reverse values, hsplit]
      simp
    · have hpassed := hskipped w (List.mem_reverse.mp hw)
      simp [HeaderValue.counts_iff.mpr ⟨d', hsets'⟩] at hpassed
  · rintro ⟨pre, v, post, rfl, hsets, hafter⟩
    refine ⟨v, List.find?_eq_some_iff_append.mpr ⟨HeaderValue.counts_iff.mpr ⟨c, hsets⟩,
      post.reverse, pre.reverse, by simp, fun w hw => ?_⟩,
      (HeaderValue.setsCookie_iff.mp hsets).1⟩
    rw [Bool.not_eq_true', Bool.eq_false_iff]
    exact fun hcounts => (HeaderValue.counts_iff.mp hcounts).elim (hafter w (List.mem_reverse.mp hw))

/-- The last value of the name hcounts even when it removes the cookie. -/
example : (findSetCookie [⟨Text.Utf8.ofString "sid=a1; Path=/"⟩, ⟨Text.Utf8.ofString "other=x"⟩,
    ⟨Text.Utf8.ofString "sid=; Max-Age=0"⟩] "sid").map SetCookie.isRemoval = some true := by
  decide +kernel

theorem findSetCookie_eq_none_iff {values : List HeaderValue} {name : String} :
    findSetCookie values name = none ↔ ∀ v ∈ values, ∀ c, ¬ v.SetsCookie name c := by
  rw [findSetCookie_eq]
  cases hfound : values.reverse.find? fun v => (v.text?.bind SetCookie.parse).any (·.name = name)
    with
  | none =>
    simp only [Option.bind_none, true_iff]
    intro v hv c hsets
    have hpassed := List.find?_eq_none.mp hfound v (List.mem_reverse.mpr hv)
    exact hpassed (HeaderValue.counts_iff.mpr ⟨c, hsets⟩)
  | some v =>
    obtain ⟨hnamed, -⟩ := List.find?_eq_some_iff_append.mp hfound
    obtain ⟨c, hsets⟩ := HeaderValue.counts_iff.mp hnamed
    simp only [Option.bind_some, (HeaderValue.setsCookie_iff.mp hsets).1, reduceCtorEq, false_iff,
      not_forall, not_not]
    exact ⟨v, List.mem_reverse.mp (List.mem_of_find?_eq_some hfound), c, hsets⟩

theorem SetCookie.isRemoval_eq_false_iff {c : SetCookie} :
    c.isRemoval = false ↔ c.value ≠ "" ∧ ∀ a, c.maxAge = some a → 0 < a := by
  cases h : c.maxAge <;> simp [SetCookie.isRemoval, h]

end Http

namespace AuthBody

theorem usable_eq_none_iff {t : Option String} :
    usable t = none ↔ ∀ s, t = some s → Text.isBlankText s = true := by
  cases t with
  | none => simp [usable]
  | some s => by_cases hblank : Text.isBlankText s <;> simp [usable, hblank]

theorem usable_of_full {t : Option String} {s : String} (ht : t = some s)
    (hfull : Text.isBlankText s = false) : usable t = some (Text.trim s) := by
  simp [usable, ht, hfull]

theorem bearerCredentials_eq_none_iff {b : AuthBody} :
    b.bearerCredentials = none ↔ ∀ a, b.accessToken = some a → Text.isBlankText a = true := by
  rw [bearerCredentials, Option.map_eq_none_iff, usable_eq_none_iff]

/-- With an access token that is not blank, an answer carries that token trimmed, which the token's
own reading accepts, and its refresh token: none when absent or blank, else trimmed, which the
token's reading accepts too. -/
theorem bearerCredentials_of_access {b : AuthBody} {a : String} (ha : b.accessToken = some a)
    (hfull : Text.isBlankText a = false) :
    ∃ r, b.bearerCredentials = some (.bearer ⟨Text.trim a⟩ r) ∧
      AccessToken.make a = .ok ⟨Text.trim a⟩ ∧
      (r = none ↔ ∀ t, b.refreshToken = some t → Text.isBlankText t = true) ∧
      ∀ t, b.refreshToken = some t → Text.isBlankText t = false →
        r = some ⟨Text.trim t⟩ ∧ RefreshToken.make t = .ok ⟨Text.trim t⟩ := by
  refine ⟨(usable b.refreshToken).map RefreshToken.mk, ?_, ?_, ?_, fun t ht hkept => ⟨?_, ?_⟩⟩
  · simp [bearerCredentials, usable_of_full ha hfull]
  · simp [AccessToken.make, issuedText_eq, hfull]
  · rw [Option.map_eq_none_iff, usable_eq_none_iff]
  · simp [usable_of_full ht hkept]
  · simp [RefreshToken.make, issuedText_eq, hkept]

end AuthBody

namespace HttpGateway

theorem setCookie_eq_some_iff {cfg : HttpSettings} {r : Http.Response} {c : Http.SetCookie} :
    setCookie cfg r = some c ↔
      Http.findSetCookie (r.values "set-cookie") cfg.cookieName = some c ∧ c.isRemoval = false := by
  rw [setCookie]
  cases Http.findSetCookie (r.values "set-cookie") cfg.cookieName with
  | none => simp
  | some d =>
    simp only [Option.bind_some, Option.some.injEq]
    constructor
    · intro h
      split at h
      · cases h
      · rename_i hkept
        cases h
        exact ⟨rfl, by simpa using hkept⟩
    · rintro ⟨rfl, hkept⟩
      simp [hkept]

/-- In cookie mode an answer that sets the session cookie grants that cookie. -/
theorem grantFrom_credentials_of_setCookie {cfg : HttpSettings} {r : Http.Response}
    {body : AuthBody} {c : Http.SetCookie} (hm : cfg.mode = .cookie)
    (hc : setCookie cfg r = some c) :
    (grantFrom cfg r body).credentials = some (.cookie c.name c.value) := by
  simp [grantFrom, hm, hc]

theorem grantFrom_credentials_of_no_cookie {cfg : HttpSettings} {r : Http.Response}
    {body : AuthBody} (h : cfg.mode = .cookie → setCookie cfg r = none) :
    (grantFrom cfg r body).credentials = body.bearerCredentials := by
  by_cases hm : cfg.mode = .cookie
  · simp [grantFrom, hm, h hm]
  · simp [grantFrom, hm]

variable {ν : Type} {w w' : World (Link ν)} {cfg : HttpSettings} {resp : Http.Response}

theorem ensureSuccess_of_success (hs : Http.isSuccess resp.status = true) :
    ensureSuccess resp = .ok resp := by
  simp [ensureSuccess, hs]

/-- Accepting a successful answer runs the rotation on the world as it found it. -/
theorem accept_run_of_success (hs : Http.isSuccess resp.status = true) (w : World (Link ν)) :
    (accept cfg resp).run w =
      (((trackCookieRotation cfg resp).run w).1.map fun _ => resp,
        ((trackCookieRotation cfg resp).run w).2) := by
  simp only [accept, checkStatus, ensureSuccess_of_success hs, Op.run_bind, Op.run_pure]
  rcases (trackCookieRotation cfg resp).run w with ⟨_ | _, w'⟩ <;> rfl

/-- The successful answer to an authorized call that rotates the session cookie replaces the held
cookie, as a new generation, and the vault keeps the new session as far as it can. -/
theorem accept_of_rotates {c : Http.SetCookie} {r : Except Failure Http.Response}
    (hs : Http.isSuccess resp.status = true) (hrotates : Rotates cfg resp w.state c)
    (h : (accept cfg resp).run w = (r, w')) :
    r = .ok resp ∧ w'.state = w.state.replaceCredentials (.cookie c.name c.value) none ∧
      w'.vault = w.vault.persisted w'.state.session w.clock := by
  rw [accept_run_of_success hs] at h
  rcases ht : (trackCookieRotation cfg resp).run w with ⟨rt, wt⟩
  obtain ⟨rfl, hst, hv, -, -⟩ := trackCookieRotation_of_rotates hrotates ht
  rw [ht] at h
  cases h
  exact ⟨rfl, hst, hv⟩

theorem accept_of_steady {r : Except Failure Http.Response} (hs : Http.isSuccess resp.status = true)
    (hsteady : ∀ c, ¬ Rotates cfg resp w.state c) (h : (accept cfg resp).run w = (r, w')) :
    r = .ok resp ∧ World.Alike w w' := by
  rw [accept_run_of_success hs] at h
  rcases ht : (trackCookieRotation cfg resp).run w with ⟨rt, wt⟩
  obtain ⟨rfl, halike⟩ := trackCookieRotation_of_steady hsteady ht
  rw [ht] at h
  cases h
  exact ⟨rfl, halike⟩

/-- The credentials a server's answer grants, and the cookie an authorized call follows. The
session cookie a response sets is the cookie of the last `Set-Cookie` value that is visible ASCII,
parses, and names the session cookie, provided that cookie keeps a value and a positive lifetime.
In cookie mode a grant is that cookie; otherwise, and always in bearer mode, it is the bearer
tokens of the body: none exactly when the access token is absent or blank, else the access token
trimmed and the refresh token trimmed when it is not blank, each as its token's own reading accepts
it. The successful answer to an authorized call replaces the held cookie, as one new generation
and in the vault, when it rotates it, and otherwise leaves the session and the vault as they
were. -/
theorem granted_credentials (cfg : HttpSettings) (resp : Http.Response) (body : AuthBody) :
    (∀ c, setCookie cfg resp = some c ↔
      (∃ pre v post, resp.values "set-cookie" = pre ++ v :: post ∧
        v.SetsCookie cfg.cookieName c ∧ ∀ u ∈ post, ∀ d, ¬ u.SetsCookie cfg.cookieName d) ∧
      c.value ≠ "" ∧ ∀ a, c.maxAge = some a → 0 < a) ∧
    (∀ c, cfg.mode = .cookie → setCookie cfg resp = some c →
      (grantFrom cfg resp body).credentials = some (.cookie c.name c.value)) ∧
    ((cfg.mode = .cookie → setCookie cfg resp = none) →
      (grantFrom cfg resp body).credentials = body.bearerCredentials) ∧
    (body.bearerCredentials = none ↔ ∀ a, body.accessToken = some a → Text.isBlankText a = true) ∧
    (∀ a, body.accessToken = some a → Text.isBlankText a = false →
      ∃ r, body.bearerCredentials = some (.bearer ⟨Text.trim a⟩ r) ∧
        AccessToken.make a = .ok ⟨Text.trim a⟩ ∧
        (r = none ↔ ∀ t, body.refreshToken = some t → Text.isBlankText t = true) ∧
        ∀ t, body.refreshToken = some t → Text.isBlankText t = false →
          r = some ⟨Text.trim t⟩ ∧ RefreshToken.make t = .ok ⟨Text.trim t⟩) ∧
    ∀ (before after : World (Link ν)) r, Http.isSuccess resp.status = true →
      (accept cfg resp).run before = (r, after) → r = .ok resp ∧
        (∀ c, Rotates cfg resp before.state c →
          after.state = before.state.replaceCredentials (.cookie c.name c.value) none ∧
          after.state.generation = before.state.generation + 1 ∧
          after.vault = before.vault.persisted after.state.session before.clock) ∧
        ((∀ c, ¬ Rotates cfg resp before.state c) →
          after.state = before.state ∧ after.vault = before.vault) := by
  refine ⟨fun c => ?_, fun c hm hc => grantFrom_credentials_of_setCookie hm hc,
    grantFrom_credentials_of_no_cookie, AuthBody.bearerCredentials_eq_none_iff,
    fun a ha hfull => AuthBody.bearerCredentials_of_access ha hfull,
    fun before after r hs h => ⟨?_, fun c hrotates => ?_, fun hsteady => ?_⟩⟩
  · rw [setCookie_eq_some_iff, Http.findSetCookie_eq_some_iff,
      Http.SetCookie.isRemoval_eq_false_iff]
  · exact (accept_eq h).1.trans (ensureSuccess_of_success hs)
  · obtain ⟨-, hreplaced, hkept⟩ := accept_of_rotates hs hrotates h
    exact ⟨hreplaced, by rw [hreplaced]; rfl, hkept⟩
  · obtain ⟨-, halike⟩ := accept_of_steady hs hsteady h
    exact ⟨halike.state, halike.vault⟩

end HttpGateway

end Signon
