import Mathlib
import Signon.Proofs.Encoding.Base64Url
import Signon.Proofs.Session.Stored
import Signon.Proofs.Http.CookieHeader
import Signon.Token.Claims

/-!
What an access token says about itself: its claims read back, and its expiry is an instant
exactly when the claimed time lies on the calendar.
-/

namespace Signon

open Json

namespace Text

theorem dropBlanks_of_trim_eq {s : String} (h : trim s = s) :
    s.toList.dropWhile isBlank = s.toList := by
  have hkept := toList_trim s
  rw [h] at hkept
  have hlonger : s.toList.length ≤ (s.toList.dropWhile isBlank).length := by
    conv_lhs => rw [hkept]
    exact (List.rdropWhile_prefix isBlank _).length_le
  exact (List.dropWhile_suffix isBlank).eq_of_length_le hlonger

theorem rdropBlanks_of_trim_eq {s : String} (h : trim s = s) :
    s.toList.rdropWhile isBlank = s.toList := by
  have hkept := toList_trim s
  rw [h, dropBlanks_of_trim_eq h] at hkept
  exact hkept.symm

theorem trim_append {a b : String} (mid : String) (ha : a ≠ "") (hb : b ≠ "") (hta : trim a = a)
    (htb : trim b = b) : trim (a ++ mid ++ b) = a ++ mid ++ b := by
  have hfront := dropBlanks_of_trim_eq hta
  have hback : b.toList.reverse.dropWhile isBlank = b.toList.reverse := by
    have := congrArg List.reverse (rdropBlanks_of_trim_eq htb)
    rwa [List.rdropWhile, List.reverse_reverse] at this
  have ha_full : (a.toList.dropWhile isBlank).isEmpty = false := by
    rw [hfront]
    simpa using ha
  have hb_full : (b.toList.reverse.dropWhile isBlank).isEmpty = false := by
    rw [hback]
    simpa using hb
  have hends : ∀ pre : List Char, (pre ++ b.toList).rdropWhile isBlank = pre ++ b.toList := by
    intro pre
    rw [List.rdropWhile, List.reverse_append, List.dropWhile_append, hb_full,
      if_neg Bool.false_ne_true, hback, List.reverse_append, List.reverse_reverse,
      List.reverse_reverse]
  apply String.ext
  rw [toList_trim, String.toList_append, String.toList_append, List.append_assoc,
    List.dropWhile_append, ha_full, if_neg Bool.false_ne_true, hfront, ← List.append_assoc, hends]

end Text

namespace Claims

/-- The payload object of some claims: `sub`, `exp` and `iat` in that order, `null` where absent. -/
def toJson (c : Claims) : Json :=
  .obj [("sub", Json.ofOption c.subject), ("exp", (c.expiry.map Json.ofInt).getD .null),
    ("iat", (c.issuedAt.map Json.ofInt).getD .null)]

def token (c : Claims) (header signature : String) : String :=
  header ++ "." ++ Base64Url.encode (Text.Utf8.ofString (pretty 0 c.toJson)) ++ "." ++ signature

theorem fits_optionText (o : Option String) :
    ∃ d n, Fits (κ := Unit) (.option .text) (Json.ofOption o) d n ∧ n ≤ 2 ∧
      d.optional? Datum.text? = some o := by
  cases o with
  | none => exact ⟨_, _, .none _, by omega, rfl⟩
  | some s => exact ⟨_, _, .some (.text s) (by simp [Json.ofOption]), by omega, rfl⟩

theorem fits_optionInt {o : Option Int} (h : ∀ v ∈ o, -(2 ^ 63 : Int) ≤ v ∧ v < 2 ^ 63) :
    ∃ d n, Fits (κ := Unit) (.option .int64) ((o.map Json.ofInt).getD .null) d n ∧ n ≤ 2 ∧
      d.optional? Datum.int? = some o := by
  cases o with
  | none => exact ⟨_, _, .none _, by omega, rfl⟩
  | some v =>
    have hnumber : Json.ofInt v ≠ .null := by
      unfold Json.ofInt
      split <;> simp
    exact ⟨_, _, .some (Fits.ofInt (h v rfl).1 (h v rfl).2) hnumber, by omega, rfl⟩

section Written

variable {c : Claims} (he : ∀ v ∈ c.expiry, -(2 ^ 63 : Int) ≤ v ∧ v < 2 ^ 63)
  (hi : ∀ v ∈ c.issuedAt, -(2 ^ 63 : Int) ≤ v ∧ v < 2 ^ 63)
include he hi

theorem toJson_fits : ∃ d n, Fits shape c.toJson d n ∧ n ≤ 64 ∧ ofDatum d = some c := by
  obtain ⟨ds, ns, hsub_fits, hsub_cost, hsub_read⟩ := fits_optionText c.subject
  obtain ⟨de, ne, hexp_fits, hexp_cost, hexp_read⟩ := fits_optionInt he
  obtain ⟨di, ni, hiat_fits, hiat_cost, hiat_read⟩ := fits_optionInt hi
  refine ⟨_, _, .record (.given hsub_fits (.given hexp_fits (.given hiat_fits .nil)))
    ⟨by decide, by simp⟩, by omega, ?_⟩
  simp [ofDatum, hsub_read, hexp_read, hiat_read]

theorem ofPayload_toJson : ofPayload (Text.Utf8.ofString (pretty 0 c.toJson)) = some c := by
  obtain ⟨d, n, hfits, hcost, hread⟩ := toJson_fits he hi
  simp [ofPayload, decodeBytes_pretty hfits hcost, hread]

end Written

end Claims

namespace Time.Instant

theorem minSeconds_eq : minSeconds = -8334601228800 := by decide

theorem maxSeconds_eq : maxSeconds = 8210266876799 := by decide

theorem ofSeconds?_eq_some_iff {s : Int} {t : Instant} :
    ofSeconds? s = some t ↔ -8334601228800 ≤ s ∧ s ≤ 8210266876799 ∧ t = ⟨s, 0⟩ := by
  unfold ofSeconds?
  rw [minSeconds_eq, maxSeconds_eq]
  split_ifs with h
  · simp only [Option.some.injEq]
    exact ⟨fun e => ⟨h.1, h.2, e.symm⟩, fun ⟨_, _, e⟩ => e.symm⟩
  · simp only [false_iff, not_and]
    exact fun hlo hi => absurd ⟨hlo, hi⟩ h

end Time.Instant

namespace AccessToken

theorem claims_eq_some_iff {t : AccessToken} {c : Claims} :
    t.claims = some c ↔ ∃ h p g bytes, Text.pieces '.' t.text.toList = [h, p, g] ∧
      Base64Url.decode (String.ofList p) = .ok bytes ∧ Claims.ofPayload bytes = some c := by
  unfold claims
  constructor
  · intro hc
    split at hc
    · next h p g hp =>
      split at hc
      · next bytes hb => exact ⟨h, p, g, bytes, hp, hb, hc⟩
      · cases hc
    · cases hc
  · rintro ⟨h, p, g, bytes, hp, hb, hc⟩
    simp only [hp, hb]
    exact hc

theorem claims_eq_none_iff {t : AccessToken} :
    t.claims = none ↔ ∀ h p g, Text.pieces '.' t.text.toList = [h, p, g] →
      ∀ bytes, Base64Url.decode (String.ofList p) = .ok bytes → Claims.ofPayload bytes = none := by
  rw [Option.eq_none_iff_forall_ne_some]
  constructor
  · intro hnone h p g hp bytes hb
    rw [Option.eq_none_iff_forall_ne_some]
    exact fun c hc => hnone c (claims_eq_some_iff.mpr ⟨h, p, g, bytes, hp, hb, hc⟩)
  · intro hnone c hc
    obtain ⟨h, p, g, bytes, hp, hb, hc⟩ := claims_eq_some_iff.mp hc
    simp [hnone h p g hp bytes hb] at hc

theorem expiresAt_eq_some_iff {t : AccessToken} {T : Time.Instant} :
    t.expiresAt = some T ↔ ∃ c, t.claims = some c ∧ c.expiry = some T.seconds ∧
      -8334601228800 ≤ T.seconds ∧ T.seconds ≤ 8210266876799 ∧ T.nanos = 0 := by
  unfold expiresAt Claims.expiresAt
  constructor
  · intro h
    obtain ⟨c, hc, he⟩ := Option.bind_eq_some_iff.mp h
    obtain ⟨e, hce, ho⟩ := Option.bind_eq_some_iff.mp he
    obtain ⟨hlo, hi, rfl⟩ := Time.Instant.ofSeconds?_eq_some_iff.mp ho
    exact ⟨c, hc, hce, hlo, hi, rfl⟩
  · rintro ⟨c, hc, hce, hlo, hi, hn⟩
    rw [hc, Option.bind_some, hce, Option.bind_some, Time.Instant.ofSeconds?_eq_some_iff]
    exact ⟨hlo, hi, by rw [← hn]⟩

theorem isExpiredAt_mono {t : AccessToken} {now later : Int} (hle : now ≤ later)
    (h : t.isExpiredAt now = true) : t.isExpiredAt later = true := by
  unfold isExpiredAt at h ⊢
  split at h
  · simp only [decide_eq_true_eq] at h ⊢
    omega
  · cases h

theorem isExpiredAt_of_expiresAt_eq_none {t : AccessToken} (h : t.expiresAt = none) (now : Int) :
    t.isExpiredAt now = false := by
  simp [isExpiredAt, h]

section Written

variable {c : Claims} {header signature : String}

/-- Dotted parts between a header and a signature that are not empty and have no blank at their
outer ends are accepted as a token as they are. -/
theorem make_dotted (middle : String) (hh : header ≠ "") (hs : signature ≠ "")
    (hth : Text.trim header = header) (hts : Text.trim signature = signature) :
    make (header ++ "." ++ middle ++ "." ++ signature) =
      .ok ⟨header ++ "." ++ middle ++ "." ++ signature⟩ := by
  have hkept : Text.trim (header ++ "." ++ middle ++ "." ++ signature) =
      header ++ "." ++ middle ++ "." ++ signature := by
    simpa only [String.append_assoc] using Text.trim_append ("." ++ middle ++ ".") hh hs hth hts
  have hfull : (header ++ "." ++ middle ++ "." ++ signature).isEmpty = false := by
    simp [hh]
  simp only [make, issuedText, hkept, hfull, Bool.false_eq_true, if_false, Except.map_ok]

/-- The dotted parts of a token of claims are its header, its payload and its signature. -/
theorem pieces_token (hdh : '.' ∉ header.toList) (hds : '.' ∉ signature.toList) :
    Text.pieces '.' (c.token header signature).toList =
      [header.toList, (Base64Url.encode (Text.Utf8.ofString (pretty 0 c.toJson))).toList,
        signature.toList] := by
  have hparts : Text.pieces '.' (header.toList ++
      [(Base64Url.encode (Text.Utf8.ofString (pretty 0 c.toJson))).toList, signature.toList].flatMap
        ('.' :: ·)) =
      [header.toList, (Base64Url.encode (Text.Utf8.ofString (pretty 0 c.toJson))).toList,
        signature.toList] :=
    Text.pieces_append_flatMap hdh (by simp [Base64Url.dot_not_mem_encode, hds])
  simpa [Claims.token] using hparts

variable (he : ∀ v ∈ c.expiry, -(2 ^ 63 : Int) ≤ v ∧ v < 2 ^ 63)
  (hi : ∀ v ∈ c.issuedAt, -(2 ^ 63 : Int) ≤ v ∧ v < 2 ^ 63)
include he hi

/-- A token of claims whose times fit in 64 signed bits, between a header and a signature that are
not empty, hold no dot and have no blank at their outer ends, is accepted as it is and reads back
as those claims. -/
theorem claims_token (hh : header ≠ "") (hs : signature ≠ "") (hdh : '.' ∉ header.toList)
    (hds : '.' ∉ signature.toList) (hth : Text.trim header = header)
    (hts : Text.trim signature = signature) :
    make (c.token header signature) = .ok ⟨c.token header signature⟩ ∧
      claims ⟨c.token header signature⟩ = some c := by
  refine ⟨make_dotted _ hh hs hth hts, ?_⟩
  rw [claims_eq_some_iff]
  refine ⟨_, _, _, _, pieces_token hdh hds, ?_, Claims.ofPayload_toJson he hi⟩
  rw [String.ofList_toList]
  exact Base64Url.decode_eq_ok_iff.mpr ⟨0, by simp⟩

end Written

/-- Claims expiring at the last second of year 262143, a year past the calendar: a token of them
reads back as them, yet it has no instant of expiry. -/
theorem expiry_past_calendar_unread :
    make (Claims.token ⟨none, some 8210298412799, none⟩ "a" "b") =
        .ok ⟨Claims.token ⟨none, some 8210298412799, none⟩ "a" "b"⟩ ∧
      claims ⟨Claims.token ⟨none, some 8210298412799, none⟩ "a" "b"⟩ =
        some ⟨none, some 8210298412799, none⟩ ∧
      expiresAt ⟨Claims.token ⟨none, some 8210298412799, none⟩ "a" "b"⟩ = none := by
  obtain ⟨hmade, hread⟩ := claims_token (c := ⟨none, some 8210298412799, none⟩) (by simp) (by simp)
    (show "a" ≠ "" by decide) (show "b" ≠ "" by decide) (by decide) (by decide) (by decide)
    (by decide)
  refine ⟨hmade, hread, ?_⟩
  simp [expiresAt, hread, Claims.expiresAt, Time.Instant.ofSeconds?, Time.Instant.maxSeconds_eq]

/-- What a token says about itself. A token of any claims whose times fit in 64 signed bits,
between a header and a signature that are not empty, hold no dot and have no blank at their outer
ends, reads back as those claims. A token has no claims exactly when it is not three dotted parts
whose middle one reads as a payload of claims. It expires at an instant exactly when its claims
give an expiry on the calendar, at that many seconds; once expired it stays expired, and without
an expiry on the calendar it never expires. -/
theorem claims_and_expiry :
    (∀ (c : Claims) (header signature : String),
      (∀ v ∈ c.expiry, -(2 ^ 63 : Int) ≤ v ∧ v < 2 ^ 63) →
      (∀ v ∈ c.issuedAt, -(2 ^ 63 : Int) ≤ v ∧ v < 2 ^ 63) →
      header ≠ "" → signature ≠ "" → '.' ∉ header.toList → '.' ∉ signature.toList →
      Text.trim header = header → Text.trim signature = signature →
      ∃ t, make (c.token header signature) = .ok t ∧ t.claims = some c) ∧
    (∀ t : AccessToken, t.claims = none ↔ ∀ h p g, Text.pieces '.' t.text.toList = [h, p, g] →
      ∀ bytes, Base64Url.decode (String.ofList p) = .ok bytes → Claims.ofPayload bytes = none) ∧
    (∀ (t : AccessToken) (T : Time.Instant), t.expiresAt = some T ↔
      ∃ c, t.claims = some c ∧ c.expiry = some T.seconds ∧
        -8334601228800 ≤ T.seconds ∧ T.seconds ≤ 8210266876799 ∧ T.nanos = 0) ∧
    (∀ (t : AccessToken) (now later : Int), now ≤ later → t.isExpiredAt now = true →
      t.isExpiredAt later = true) ∧
    (∀ t : AccessToken, t.expiresAt = none → ∀ now, t.isExpiredAt now = false) :=
  ⟨fun _ _ _ he hi hh hs hdh hds hth hts => ⟨_, claims_token he hi hh hs hdh hds hth hts⟩,
    fun _ => claims_eq_none_iff, fun _ _ => expiresAt_eq_some_iff,
    fun _ _ _ hle h => isExpiredAt_mono hle h, fun _ h now => isExpiredAt_of_expiresAt_eq_none h now⟩

theorem signed_token_claims :
    ∃ t, make (Claims.token ⟨some "alice@example.com", some 1700000000, none⟩ "e30" "c2ln") =
        .ok t ∧ t.claims = some ⟨some "alice@example.com", some 1700000000, none⟩ :=
  claims_and_expiry.1 _ "e30" "c2ln" (by simp) (by simp) (by decide) (by decide) (by decide)
    (by decide) (by decide) (by decide)

end AccessToken

end Signon
