import Mathlib
import Signon.Account.UserId
import Signon.Proofs.Numeric.Decimal
import Signon.Proofs.Text.Lowercase

/-!
Reading 64-bit integers, outcome by outcome: an optional sign, then decimal digits whose value is
checked against `2^63 - 1`, or `2^63` after a minus.
-/

namespace Signon.Numeric

/-- The sign written in front of a number's digits. -/
inductive Sign where
  | none
  | plus
  | minus
  deriving DecidableEq, Repr

namespace Sign

/-- How the sign is written. -/
def text : Sign → List Char
  | .none => []
  | .plus => ['+']
  | .minus => ['-']

/-- Whether the digits count upwards from zero. -/
def positive : Sign → Bool
  | .minus => false
  | _ => true

/-- The integer a magnitude with the sign stands for. -/
def apply : Sign → Nat → Int
  | .minus, n => -(n : Int)
  | _, n => n

/-- The largest magnitude of a 64-bit integer with the sign. -/
def bound : Sign → Nat
  | .minus => 2 ^ 63
  | _ => 2 ^ 63 - 1

/-- The failure of a magnitude past the bound. -/
def overflow : Sign → IntError
  | .minus => .tooSmall
  | _ => .tooLarge

/-- The sign at the front of a text, and what follows it. -/
def split : List Char → Sign × List Char
  | '+' :: body => (.plus, body)
  | '-' :: body => (.minus, body)
  | body => (.none, body)

@[simp] theorem apply_zero (s : Sign) : s.apply 0 = 0 := by
  cases s <;> rfl

theorem split_text (t : List Char) : (split t).1.text ++ (split t).2 = t := by
  unfold split
  split <;> rfl

theorem split_text_append (s : Sign) {ds : List Char} (h : ∀ c ∈ ds.head?, c.isDigit = true) :
    split (s.text ++ ds) = (s, ds) := by
  cases s with
  | plus => rfl
  | minus => rfl
  | none =>
    cases ds with
    | nil => rfl
    | cons c rest =>
      have hdigit := h c rfl
      have hplus : c ≠ '+' := by rintro rfl; exact absurd hdigit (by decide)
      have hminus : c ≠ '-' := by rintro rfl; exact absurd hdigit (by decide)
      simp [split, text, hplus, hminus]

theorem apply_fits_iff (s : Sign) (n : Nat) :
    (-2 ^ 63 ≤ s.apply n ∧ s.apply n < 2 ^ 63) ↔ n ≤ s.bound := by
  cases s <;> simp only [apply, bound] <;> omega

end Sign

/-- A text that is a sign and one or more decimal digits, and the integer it writes. -/
inductive Decimal : List Char → Int → Prop
  | mk (sign : Sign) {ds : List Char} : ds ≠ [] → (∀ c ∈ ds, c.isDigit = true) →
      Decimal (sign.text ++ ds) (sign.apply (Nat.ofDigitChars 10 ds 0))

/-- A text whose digits after the sign, before any other character, are worth more than the
64-bit bound of the sign; the failure names the side. -/
inductive Overflows : List Char → IntError → Prop
  | mk (sign : Sign) {ds : List Char} (rest : List Char) : (∀ c ∈ ds, c.isDigit = true) →
      sign.bound < Nat.ofDigitChars 10 ds 0 → Overflows (sign.text ++ ds ++ rest) sign.overflow

/-- Why a text is not a 64-bit integer: it is empty, its digits overflow, or else it is not a
sign and digits. -/
inductive Refusal : List Char → IntError → Prop
  | empty : Refusal [] .empty
  | overflow {t : List Char} {e : IntError} : Overflows t e → Refusal t e
  | invalid {t : List Char} : t ≠ [] → (∀ v, ¬Decimal t v) → (∀ e, ¬Overflows t e) →
      Refusal t .invalidDigit

/-- Reading a text as a whole: the run of digits after the sign is valued at once and checked
against the sign's bound once. -/
def readWhole (t : List Char) : Except IntError Int :=
  if t = [] then .error .empty
  else
    let sign := (Sign.split t).1
    let body := (Sign.split t).2
    let v := Nat.ofDigitChars 10 (body.takeWhile Char.isDigit) 0
    if sign.bound < v then .error sign.overflow
    else if body ≠ [] ∧ body.dropWhile Char.isDigit = [] then .ok (sign.apply v)
    else .error .invalidDigit

/-! ### The reader, digit by digit -/

/-- One digit read into the magnitude: past the sign's bound the reading fails on the sign's
side, otherwise it goes on with the digit added. -/
theorem readDigits_digit (s : Sign) {c : Char} (hc : c.isDigit = true) (acc : Nat)
    (rest : List Char) :
    readDigits s.positive (-(Int.pow 2 63)) (Int.pow 2 63 - 1) (s.apply acc) (c :: rest) =
      if s.bound < 10 * acc + (c.toNat - '0'.toNat) then .error s.overflow
      else readDigits s.positive (-(Int.pow 2 63)) (Int.pow 2 63 - 1)
        (s.apply (10 * acc + (c.toNat - '0'.toNat))) rest := by
  have hdigit := digit_bounds hc
  have hlow : '0'.toNat ≤ c.toNat := hdigit.1
  have hpow : Int.pow 2 63 = 2 ^ 63 := rfl
  rw [readDigits, if_pos hdigit]
  cases s <;> simp only [Sign.positive, Sign.apply, Sign.bound, Sign.overflow, hpow, if_true,
    Bool.false_eq_true, if_false]
  all_goals
    split_ifs with past past'
    · rfl
    · omega
    · omega
    · congr 1
      omega

theorem isDigit_iff {c : Char} : c.isDigit = true ↔ '0' ≤ c ∧ c ≤ '9' := by
  simp only [Char.isDigit, Bool.and_eq_true, decide_eq_true_eq]
  rfl

theorem readDigits_other {positive : Bool} {lo hi acc : Int} {c : Char} (hc : c.isDigit = false)
    (rest : List Char) : readDigits positive lo hi acc (c :: rest) = .error .invalidDigit := by
  rw [readDigits, if_neg fun hdigit => by simp [isDigit_iff.mpr hdigit] at hc]

/-- What the reader makes of digits read into a magnitude within the bound: the run of digits at
the front, valued whole, overflows on the sign's side when it passes the bound; otherwise it is the
value when nothing follows it and an invalid hdigit when something does. -/
theorem readDigits_eq (s : Sign) : ∀ (cs : List Char) (acc : Nat), acc ≤ s.bound →
    readDigits s.positive (-(Int.pow 2 63)) (Int.pow 2 63 - 1) (s.apply acc) cs =
      if s.bound < Nat.ofDigitChars 10 (cs.takeWhile Char.isDigit) acc then .error s.overflow
      else if cs.dropWhile Char.isDigit = [] then
        .ok (s.apply (Nat.ofDigitChars 10 (cs.takeWhile Char.isDigit) acc))
      else .error .invalidDigit
  | [], acc, hwithin => by simp [readDigits, Nat.not_lt.mpr hwithin]
  | c :: rest, acc, hwithin => by
    cases hc : c.isDigit with
    | false =>
      simp [readDigits_other hc, hc, Nat.not_lt.mpr hwithin]
    | true =>
      rw [readDigits_digit s hc, List.takeWhile_cons_of_pos hc, List.dropWhile_cons_of_pos hc,
        Nat.ofDigitChars_cons]
      by_cases hpast : s.bound < 10 * acc + (c.toNat - '0'.toNat)
      · have hmore :=
          le_ofDigitChars (rest.takeWhile Char.isDigit) (10 * acc + (c.toNat - '0'.toNat))
        rw [if_pos hpast, if_pos (by omega)]
      · rw [if_neg hpast, readDigits_eq s rest _ (by omega)]

theorem readI64_eq_readWhole (s : String) : readI64 s = readWhole s.toList := by
  have hsigned (sign : Sign) (body : List Char) (hne : body ≠ [])
      (hsplit : Sign.split (sign.text ++ body) = (sign, body)) :
      readDigits sign.positive (-(Int.pow 2 63)) (Int.pow 2 63 - 1) 0 body =
        readWhole (sign.text ++ body) := by
    have hwhole : sign.text ++ body ≠ [] := by simp [hne]
    rw [← sign.apply_zero, readDigits_eq sign body 0 (Nat.zero_le _), readWhole, if_neg hwhole,
      hsplit]
    simp only [hne, ne_eq, not_false_eq_true, true_and]
  unfold readI64 readInt
  generalize s.toList = t
  split
  · rfl
  · rfl
  · rfl
  · next rest hnonempty => exact hsigned .plus rest hnonempty rfl
  · next rest hnonempty => exact hsigned .minus rest hnonempty rfl
  · next hempty _ _ hplus hminus =>
    have hunsigned : Sign.split t = (.none, t) := by
      unfold Sign.split
      split
      · exact absurd rfl (hplus _)
      · exact absurd rfl (hminus _)
      · rfl
    exact hsigned .none t hempty hunsigned

-- the negative side holds one more value than the positive side
example : readI64 "-9223372036854775808" = .ok (-2 ^ 63) := by decide +kernel
example : readI64 "+9223372036854775808" = .error .tooLarge := by decide +kernel

/-! ### Reading a text as a whole -/

theorem head_isDigit {ds : List Char} (hdigits : ∀ c ∈ ds, c.isDigit = true) :
    ∀ c ∈ ds.head?, c.isDigit = true :=
  fun c hc => hdigits c (List.mem_of_mem_head? hc)

/-- A text is a sign and hdigits exactly when one or more hdigits, and nothing else, follow its
sign. -/
theorem decimal_iff {t : List Char} {v : Int} :
    Decimal t v ↔ (Sign.split t).2 ≠ [] ∧ (Sign.split t).2.dropWhile Char.isDigit = [] ∧
      v = (Sign.split t).1.apply
        (Nat.ofDigitChars 10 ((Sign.split t).2.takeWhile Char.isDigit) 0) := by
  constructor
  · rintro ⟨sign, hnonempty, digits⟩
    rw [Sign.split_text_append sign (head_isDigit digits), List.takeWhile_eq_self_iff.mpr digits]
    exact ⟨hnonempty, List.dropWhile_eq_nil_iff.mpr digits, rfl⟩
  · rintro ⟨hnonempty, hrest, rfl⟩
    have hdigits := List.dropWhile_eq_nil_iff.mp hrest
    have := Decimal.mk (Sign.split t).1 hnonempty hdigits
    rwa [Sign.split_text, ← List.takeWhile_eq_self_iff.mpr hdigits] at this

/-- A text overflows exactly when the run of hdigits after its sign is worth more than the sign's
bound, and then on the sign's side. -/
theorem overflows_iff {t : List Char} {e : IntError} :
    Overflows t e ↔
      (Sign.split t).1.bound < Nat.ofDigitChars 10 ((Sign.split t).2.takeWhile Char.isDigit) 0 ∧
        e = (Sign.split t).1.overflow := by
  constructor
  · rintro @⟨sign, ds, rest, hdigits, hpast⟩
    have hnonempty : ∀ c ∈ (ds ++ rest).head?, c.isDigit = true := by
      rw [List.head?_append_of_ne_nil]
      · exact head_isDigit hdigits
      · rintro rfl
        simp at hpast
    rw [List.append_assoc, Sign.split_text_append sign hnonempty,
      List.takeWhile_append_of_pos hdigits, Nat.ofDigitChars_append]
    dsimp only
    have hmore := le_ofDigitChars (rest.takeWhile Char.isDigit) (Nat.ofDigitChars 10 ds 0)
    exact ⟨by omega, rfl⟩
  · rintro ⟨hpast, rfl⟩
    have := Overflows.mk (Sign.split t).1 ((Sign.split t).2.dropWhile Char.isDigit)
      (fun c hc => List.mem_takeWhile_imp hc) hpast
    rwa [List.append_assoc, List.takeWhile_append_dropWhile, Sign.split_text] at this

theorem readWhole_nonempty {t : List Char} (h : t ≠ []) :
    readWhole t =
      if (Sign.split t).1.bound < Nat.ofDigitChars 10 ((Sign.split t).2.takeWhile Char.isDigit) 0
      then .error (Sign.split t).1.overflow
      else if (Sign.split t).2 ≠ [] ∧ (Sign.split t).2.dropWhile Char.isDigit = [] then
        .ok ((Sign.split t).1.apply
          (Nat.ofDigitChars 10 ((Sign.split t).2.takeWhile Char.isDigit) 0))
      else .error .invalidDigit := by
  rw [readWhole, if_neg h]

theorem readWhole_eq_ok_iff {t : List Char} {v : Int} :
    readWhole t = .ok v ↔ Decimal t v ∧ -2 ^ 63 ≤ v ∧ v < 2 ^ 63 := by
  by_cases hempty : t = []
  · subst hempty
    simp [readWhole, decimal_iff, Sign.split]
  rw [readWhole_nonempty hempty, decimal_iff]
  generalize (Sign.split t).1 = sign, (Sign.split t).2 = body
  constructor
  · intro h
    split_ifs at h with past whole
    cases h
    exact ⟨⟨whole.1, whole.2, rfl⟩, (sign.apply_fits_iff _).mpr (Nat.le_of_not_lt past)⟩
  · rintro ⟨⟨hnonempty, hrest, rfl⟩, hfits⟩
    rw [if_neg (Nat.not_lt.mpr ((sign.apply_fits_iff _).mp hfits)), if_pos ⟨hnonempty, hrest⟩]

theorem readWhole_eq_error_iff {t : List Char} {e : IntError} :
    readWhole t = .error e ↔ Refusal t e := by
  constructor
  · intro h
    by_cases hempty : t = []
    · subst hempty
      cases h
      exact .empty
    rw [readWhole_nonempty hempty] at h
    split_ifs at h with past whole
    · cases h
      exact .overflow (overflows_iff.mpr ⟨past, rfl⟩)
    · cases h
      refine .invalid hempty (fun v d => whole ?_) (fun e o => past (overflows_iff.mp o).1)
      obtain ⟨nonempty, hrest, -⟩ := decimal_iff.mp d
      exact ⟨nonempty, hrest⟩
  · rintro (_ | o | ⟨hempty, hnotDecimal, hnotOverflow⟩)
    · rfl
    · obtain ⟨hpast, rfl⟩ := overflows_iff.mp o
      have hnonempty : t ≠ [] := by
        rintro rfl
        simp [Sign.split, Sign.bound] at hpast
      rw [readWhole_nonempty hnonempty, if_pos hpast]
    · rw [readWhole_nonempty hempty,
        if_neg fun hpast => hnotOverflow _ (overflows_iff.mpr ⟨hpast, rfl⟩),
        if_neg fun hwhole => hnotDecimal _ (decimal_iff.mpr ⟨hwhole.1, hwhole.2, rfl⟩)]

end Signon.Numeric

namespace Signon

theorem Text.trim_toString (a : Int) : Text.trim (toString a) = toString a := by
  have hnotBlank : ∀ c ∈ (toString a).toList, Text.isBlank c = false := fun c hc => by
    rcases Numeric.mem_toString hc with hdigit | rfl
    · have := Char.isDigit_iff_toNat.mp hdigit
      simp only [Text.isBlank, Char.reduceToNat] at this ⊢
      simp only [Bool.or_eq_false_iff, Bool.and_eq_false_iff, decide_eq_false_iff_not,
        beq_eq_false_iff_ne]
      omega
    · decide
  rw [Text.trim_eq_self_iff]
  exact ⟨fun c hc => hnotBlank c (List.mem_of_mem_head? hc),
    fun c hc => hnotBlank c (List.mem_of_mem_getLast? hc)⟩

namespace UserId

theorem parse_eq_ok_iff {s : String} {id : UserId} :
    parse s = .ok id ↔ Numeric.readI64 (Text.trim s) = .ok id.value := by
  rw [parse]
  cases Numeric.readI64 (Text.trim s) <;> cases id <;> simp [Except.map]

theorem parse_eq_error_iff {s : String} {e : Numeric.IntError} :
    parse s = .error e ↔ Numeric.readI64 (Text.trim s) = .error e := by
  rw [parse]
  cases Numeric.readI64 (Text.trim s) <;> simp [Except.map]

/-- Identifiers read from text and written back. Every 64-bit identifier, the least and the
greatest included, reads back as itself from its decimal text. A text reads as an identifier
exactly when, trimmed, it is an optional sign and one or more ASCII digits whose value fits in 64
bits, and the identifier has that value. A text that is refused is refused as empty, for an
overflow on the side of its sign, or for an invalid digit, as `Refusal` sets out. -/
theorem decimal_text_round_trip :
    (∀ n : Int64, parse (render ⟨n.toInt⟩) = .ok ⟨n.toInt⟩) ∧
    (∀ (s : String) (id : UserId), parse s = .ok id ↔
      Numeric.Decimal (Text.trim s).toList id.value ∧ -2 ^ 63 ≤ id.value ∧ id.value < 2 ^ 63) ∧
    (∀ (s : String) (e : Numeric.IntError),
      parse s = .error e ↔ Numeric.Refusal (Text.trim s).toList e) := by
  refine ⟨fun n => ?_, fun s id => ?_, fun s e => ?_⟩
  · rw [parse_eq_ok_iff, render, Text.trim_toString]
    exact Numeric.readI64_toString n.le_toInt n.toInt_lt
  · rw [parse_eq_ok_iff, Numeric.readI64_eq_readWhole, Numeric.readWhole_eq_ok_iff]
  · rw [parse_eq_error_iff, Numeric.readI64_eq_readWhole, Numeric.readWhole_eq_error_iff]

end UserId

end Signon
