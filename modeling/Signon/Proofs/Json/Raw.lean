import Mathlib
import Signon.Proofs.Json.Tokens
import Signon.Proofs.Json.Fits

/-!
The layout of indented JSON text, and raw reading of it.
-/

namespace Signon.Json

open Text.Utf8

section Layout

/-- The text of an array after its opening bracket: each item still to come on a line of its own
one level in, after a comma unless it is the first, then the closing bracket on a line of its
own, or alone when the array is empty. -/
def itemsText (level : Nat) : Bool → List Json → String
  | true, [] => "]"
  | false, [] => "\n" ++ indent level ++ "]"
  | first, x :: xs =>
    (if first then "\n" else ",\n") ++ indent (level + 1) ++ pretty (level + 1) x ++
      itemsText level false xs

/-- The text of an object after its opening brace, laid out as `itemsText` lays out an array. -/
def fieldsText (level : Nat) : Bool → List (String × Json) → String
  | true, [] => "\x7d"
  | false, [] => "\n" ++ indent level ++ "\x7d"
  | first, (k, v) :: fs =>
    (if first then "\n" else ",\n") ++ indent (level + 1) ++ quote k ++ ": " ++ pretty (level + 1) v ++
      fieldsText level false fs

theorem prettyItems_close (level : Nat) : ∀ (x : Json) (xs : List Json),
    prettyItems (level + 1) (x :: xs) ++ "\n" ++ indent level ++ "]" =
      indent (level + 1) ++ pretty (level + 1) x ++ itemsText level false xs
  | x, [] => by simp [prettyItems, itemsText, String.append_assoc]
  | x, y :: ys => by
    have hrest := prettyItems_close level y ys
    simp only [String.append_assoc] at hrest
    simp [prettyItems, itemsText, String.append_assoc, hrest]

theorem prettyFields_close (level : Nat) : ∀ (f : String × Json) (fs : List (String × Json)),
    prettyFields (level + 1) (f :: fs) ++ "\n" ++ indent level ++ "\x7d" =
      indent (level + 1) ++ quote f.1 ++ ": " ++ pretty (level + 1) f.2 ++ fieldsText level false fs
  | (k, v), [] => by simp [prettyFields, fieldsText, String.append_assoc]
  | (k, v), g :: gs => by
    have hrest := prettyFields_close level g gs
    simp only [String.append_assoc] at hrest
    simp [prettyFields, fieldsText, String.append_assoc, hrest]

theorem pretty_arr (level : Nat) (xs : List Json) : pretty level (.arr xs) = "[" ++ itemsText level true xs := by
  cases xs with
  | nil => simp [pretty, itemsText]
  | cons x xs =>
    have hitems := prettyItems_close level x xs
    simp only [String.append_assoc] at hitems
    simp only [pretty, itemsText, if_true, String.append_assoc, hitems]
    rw [← String.append_assoc]
    rfl

theorem pretty_obj (level : Nat) (fs : List (String × Json)) :
    pretty level (.obj fs) = "\x7b" ++ fieldsText level true fs := by
  cases fs with
  | nil => simp [pretty, fieldsText]
  | cons f fs =>
    have hfields := prettyFields_close level f fs
    simp only [String.append_assoc] at hfields
    simp only [pretty, fieldsText, if_true, String.append_assoc, hfields]
    rw [← String.append_assoc]
    rfl

end Layout

section Bytes

variable {level : Nat} {first : Bool}

theorem ofString_sep (first : Bool) :
    ofString (if first then "\n" else ",\n") = (if first then [] else [byte ',']) ++ [byte '\n'] := by
  cases first <;> rfl

theorem blanks_indent (level : Nat) : Blanks (ofString (indent level)) := by
  intro b hb
  simp only [indent, ofString, String.toList_ofList, encode, List.mem_flatMap, List.mem_replicate] at hb
  obtain ⟨_, ⟨_, rfl⟩, hb⟩ := hb
  rw [encodeChar_of_lt (by decide), List.mem_singleton] at hb
  subst hb
  decide

theorem blanks_line (level : Nat) : Blanks (byte '\n' :: ofString (indent level)) := by
  intro b hb
  rcases List.mem_cons.mp hb with rfl | hb
  · decide
  · exact blanks_indent level b hb

theorem ofString_pretty_arr (xs : List Json) :
    ofString (pretty level (.arr xs)) = byte '[' :: ofString (itemsText level true xs) := by
  rw [pretty_arr, ofString_append]
  rfl

theorem ofString_pretty_obj (fs : List (String × Json)) :
    ofString (pretty level (.obj fs)) = byte '\x7b' :: ofString (fieldsText level true fs) := by
  rw [pretty_obj, ofString_append]
  rfl

theorem ofString_itemsText_nil (level : Nat) (first : Bool) :
    ∃ bl, Blanks bl ∧ ofString (itemsText level first []) = bl ++ [byte ']'] := by
  cases first with
  | true => exact ⟨[], blanks_nil, by unfold itemsText; rfl⟩
  | false =>
    refine ⟨byte '\n' :: ofString (indent level), blanks_line level, ?_⟩
    simp only [itemsText, ofString_append]
    rfl

theorem ofString_fieldsText_nil (level : Nat) (first : Bool) :
    ∃ bl, Blanks bl ∧ ofString (fieldsText level first []) = bl ++ [byte '\x7d'] := by
  cases first with
  | true => exact ⟨[], blanks_nil, by unfold fieldsText; rfl⟩
  | false =>
    refine ⟨byte '\n' :: ofString (indent level), blanks_line level, ?_⟩
    simp only [fieldsText, ofString_append]
    rfl

theorem ofString_itemsText_cons (x : Json) (xs : List Json) :
    ofString (itemsText level first (x :: xs)) =
      ofString (if first then "\n" else ",\n") ++ ofString (indent (level + 1)) ++
        ofString (pretty (level + 1) x) ++ ofString (itemsText level false xs) := by
  simp only [itemsText, ofString_append]

theorem ofString_fieldsText_cons (k : String) (v : Json) (fs : List (String × Json)) :
    ofString (fieldsText level first ((k, v) :: fs)) =
      ofString (if first then "\n" else ",\n") ++ ofString (indent (level + 1)) ++
        ofString (quote k) ++ [byte ':', byte ' '] ++ ofString (pretty (level + 1) v) ++
          ofString (fieldsText level false fs) := by
  simp only [fieldsText, ofString_append]
  rfl

theorem ofString_newline : ofString "\n" = [byte '\n'] := rfl

theorem ofString_comma : ofString ",\n" = [byte ',', byte '\n'] := rfl

theorem follows_itemsText (level : Nat) (xs : List Json) (tail : List UInt8) :
    Follows (ofString (itemsText level false xs) ++ tail) := by
  cases xs with
  | nil => simp [Follows, itemsText, ofString_append, ofString_newline]
  | cons x xs => simp [Follows, ofString_itemsText_cons, ofString_comma]

theorem follows_fieldsText (level : Nat) (fs : List (String × Json)) (tail : List UInt8) :
    Follows (ofString (fieldsText level false fs) ++ tail) := by
  cases fs with
  | nil => simp [Follows, fieldsText, ofString_append, ofString_newline]
  | cons f fs =>
    obtain ⟨k, v⟩ := f
    simp [Follows, ofString_fieldsText_cons, ofString_comma]

end Bytes

/-- A byte that can start the text of a value: not a blank, nor a closing bracket or brace. -/
structure Opening (b : UInt8) : Prop where
  not_blank : Cursor.isBlank b = false
  not_bracket : b ≠ byte ']'
  not_brace : b ≠ byte '\x7d'

theorem opening_digit {d : Char} (hd : d.isDigit = true) : Opening (byte d) where
  not_blank := by
    simp [Cursor.isBlank, byte_ne_of_digit hd (c := ' ') (by decide) (by decide),
      byte_ne_of_digit hd (c := '\t') (by decide) (by decide),
      byte_ne_of_digit hd (c := '\n') (by decide) (by decide),
      byte_ne_of_digit hd (c := '\r') (by decide) (by decide)]
  not_bracket := byte_ne_of_digit hd (by decide) (by decide)
  not_brace := byte_ne_of_digit hd (by decide) (by decide)

section Sep

variable {c : Cursor} {first : Bool} {bl more : List UInt8}

theorem nextItem_sep {b : UInt8}
    (hc : c.rest = ofString (if first then "\n" else ",\n") ++ bl ++ b :: more) (hbl : Blanks bl)
    (hb : Opening b) : ∃ c' : Cursor, c'.rest = b :: more ∧ nextItem c first = .ok (some c') := by
  have hline : Blanks (byte '\n' :: bl) := hbl.cons (by decide)
  rw [ofString_sep] at hc
  cases first with
  | true => exact nextItem_first (by simpa using hc) hline hb.not_blank hb.not_bracket
  | false => exact nextItem_later (by simpa using hc) hline hb.not_blank hb.not_bracket

/-- The key of the next field, after the separator and blanks that lead to it. -/
theorem nextKeyStart_sep
    (hc : c.rest = ofString (if first then "\n" else ",\n") ++ bl ++ byte '"' :: more)
    (hbl : Blanks bl) :
    ∃ c' : Cursor, c'.rest = byte '"' :: more ∧ nextKeyStart c first = .ok (some c') := by
  have hline : Blanks (byte '\n' :: bl) := hbl.cons (by decide)
  rw [ofString_sep] at hc
  cases first with
  | true => exact nextKeyStart_first (by simpa using hc) hline
  | false => exact nextKeyStart_later (by simpa using hc) hline

end Sep

/-- A value that raw reading takes back from its text: the text starts with an opening byte, and
from blanks and then the text, reading with more fuel than the text has bytes and nesting from
`n` on gives the value and stops at what follows, a comma or a line break. -/
structure ReadBack (n : Nat) (j : Json) : Prop where
  opens : ∀ level, ∃ b more, ofString (pretty level j) = b :: more ∧ Opening b
  read : ∀ {depth level fuel : Nat} {c : Cursor} {bl tail : List UInt8}, n ≤ depth →
    (ofString (pretty level j)).length < fuel → c.rest = bl ++ ofString (pretty level j) ++ tail →
    Blanks bl → Follows tail → ∃ c' : Cursor, c'.rest = tail ∧ readValue false depth fuel c = .ok (j, c')

theorem ReadBack.mono {n m : Nat} {j : Json} (h : ReadBack n j) (hle : n ≤ m) : ReadBack m j :=
  ⟨h.opens, fun hd => h.read (hle.trans hd)⟩

section Scalars

variable {depth fuel : Nat} {c : Cursor} {bl tail : List UInt8}

theorem ofString_null : ofString "null" = byte 'n' :: ofString "ull" := by decide

theorem ofString_true : ofString "true" = byte 't' :: ofString "rue" := by decide

theorem ofString_false : ofString "false" = byte 'f' :: ofString "alse" := by decide

/-- A word after blanks: skipping them reaches its first letter, and the rest of it is read as it
stands. -/
theorem word_rest {c : Cursor} {bl tail : List UInt8} {w : UInt8} {word : List UInt8}
    (hc : c.rest = bl ++ (w :: word) ++ tail) (hbl : Blanks bl) (hw : Cursor.isBlank w = false) :
    c.skipBlanks.rest = w :: (word ++ tail) ∧
      ∃ c' : Cursor, c'.rest = tail ∧ ident c.skipBlanks.next word = .ok c' := by
  rw [List.append_assoc, List.cons_append] at hc
  have hskip := Cursor.skipBlanks_rest hc hbl hw
  exact ⟨hskip, ident_rest _ c.skipBlanks.next (Cursor.rest_next hskip)⟩

/-- A value written as a word: its first letter picks the word and the rest is read as it
stands. -/
theorem readBack_ident {j : Json} {w : UInt8} {word : List UInt8}
    (htext : ∀ level, ofString (pretty level j) = w :: word) (hw : Opening w)
    (hpick : ∀ {depth f : Nat} {c : Cursor} {more : List UInt8} {c' : Cursor},
      c.skipBlanks.rest = w :: (word ++ more) → ident c.skipBlanks.next word = .ok c' →
        readValue false depth (f + 1) c = .ok (j, c')) : ReadBack 1 j where
  opens level := ⟨w, word, htext level, hw⟩
  read {depth level fuel c bl tail} _ hlen hc hbl _ := by
    obtain ⟨f, rfl⟩ : ∃ f, fuel = f + 1 := ⟨fuel - 1, by omega⟩
    rw [htext] at hc
    obtain ⟨hskip, c', hc', hstep⟩ := word_rest hc hbl hw.not_blank
    exact ⟨c', hc', hpick hskip hstep⟩

theorem readBack_null : ReadBack 1 .null :=
  readBack_ident (fun _ => ofString_null) ⟨by decide, by decide, by decide⟩ fun hskip hstep => by
    simp [readValue, hskip, hstep, bind, Except.bind, pure, Except.pure]

theorem readBack_bool (b : Bool) : ReadBack 1 (.bool b) := by
  cases b with
  | true =>
    exact readBack_ident (fun _ => ofString_true) ⟨by decide, by decide, by decide⟩ fun hskip hstep => by
      simp +decide [readValue, hskip, hstep, bind, Except.bind, pure, Except.pure]
  | false =>
    exact readBack_ident (fun _ => ofString_false) ⟨by decide, by decide, by decide⟩ fun hskip hstep => by
      simp +decide [readValue, hskip, hstep, bind, Except.bind, pure, Except.pure]

theorem readBack_str (s : String) : ReadBack 1 (.str s) where
  opens _ := ⟨byte '"', _, ofString_quote s, ⟨by decide, by decide, by decide⟩⟩
  read {depth level fuel c bl tail} _ hlen hc hbl _ := by
    obtain ⟨f, rfl⟩ : ∃ f, fuel = f + 1 := ⟨fuel - 1, by omega⟩
    have htext : ofString (pretty level (.str s)) = ofString (quote s) := rfl
    rw [htext, List.append_assoc] at hc
    have hskip := Cursor.skipBlanks_rest (by rw [hc, ofString_quote, List.cons_append]) hbl
      (by decide)
    obtain ⟨c', hc', hread⟩ := Cursor.string_quote (c := c.skipBlanks)
      (by rw [hskip, ofString_quote, List.cons_append])
    exact ⟨c', hc', by simp +decide [readValue, hskip, hread, bind, Except.bind, pure, Except.pure]⟩

theorem maxUnsigned_eq : maxUnsigned = 2 ^ 64 - 1 := rfl

theorem pow_63 : Nat.pow 2 63 = 2 ^ 63 := rfl

theorem byte_ne_of_digit' {d : Char} (hd : d.isDigit = true) :
    byte d ≠ byte 'n' ∧ byte d ≠ byte 't' ∧ byte d ≠ byte 'f' ∧ byte d ≠ byte '-' :=
  ⟨byte_ne_of_digit hd (by decide) (by decide), byte_ne_of_digit hd (by decide) (by decide),
    byte_ne_of_digit hd (by decide) (by decide), byte_ne_of_digit hd (by decide) (by decide)⟩

theorem ofString_pretty_nat (level n : Nat) : ∃ d ds, d.isDigit = true ∧
    Nat.toDigits 10 n = d :: ds ∧ ofString (pretty level (.num (.nat n))) = byte d :: ds.map byte := by
  obtain ⟨d, ds, hd⟩ := List.exists_cons_of_ne_nil (@Nat.toDigits_ne_nil n 10)
  refine ⟨d, ds, Numeric.isDigit_of_mem_toDigits (hd ▸ List.mem_cons_self), hd, ?_⟩
  rw [show pretty level (.num (.nat n)) = toString n from rfl, ofString_toString_nat, hd, List.map_cons]

theorem ofString_pretty_negSucc (level m : Nat) :
    ofString (pretty level (.num (.neg (Int.negSucc m)))) =
      byte '-' :: (Nat.toDigits 10 (m + 1)).map byte := by
  rw [show pretty level (.num (.neg (Int.negSucc m))) = toString (Int.negSucc m) from rfl,
    ofString_toString_negSucc]

theorem readBack_nat {n : Nat} (hn : n ≤ maxUnsigned) : ReadBack 1 (.num (.nat n)) := by
  refine ⟨fun level => ?_, ?_⟩
  · obtain ⟨d, ds, hdigit, -, htext⟩ := ofString_pretty_nat level n
    exact ⟨_, _, htext, opening_digit hdigit⟩
  intro depth level fuel c bl tail _ hlen hc hbl hfollow
  obtain ⟨d, ds, hdigit, hd, htext⟩ := ofString_pretty_nat level n
  obtain ⟨f, rfl⟩ : ∃ f, fuel = f + 1 := ⟨fuel - 1, by omega⟩
  rw [htext, List.append_assoc, List.cons_append] at hc
  have hskip := Cursor.skipBlanks_rest hc hbl (opening_digit hdigit).not_blank
  obtain ⟨c', hc', hnum⟩ := number_toDigits (c := c.skipBlanks) true
    (by rw [hskip, hd, List.map_cons, List.cons_append]) hn hfollow
  obtain ⟨hne_n, hne_t, hne_f, hne_minus⟩ := byte_ne_of_digit' hdigit
  refine ⟨c', hc', ?_⟩
  simp [readValue, hskip, readNumber, hnum, numberTail_unsigned (hc' ▸ hfollow), isDigit_byte hdigit,
    hne_n, hne_t, hne_f, hne_minus, bind, Except.bind, pure, Except.pure, Parsed.toNumber]

theorem negSucc_bounds {m : Nat} (hlo : -(Nat.pow 2 63 : Int) ≤ Int.negSucc m) :
    m + 1 ≤ Nat.pow 2 63 ∧ m + 1 ≤ maxUnsigned := by
  rw [Int.negSucc_eq, pow_63] at hlo
  rw [pow_63, maxUnsigned_eq]
  omega

theorem readBack_neg {n : Int} (hlo : -(Nat.pow 2 63 : Int) ≤ n) (hi : n < 0) :
    ReadBack 1 (.num (.neg n)) := by
  obtain ⟨m, rfl⟩ := Int.eq_negSucc_of_lt_zero hi
  refine ⟨fun level => ⟨_, _, ofString_pretty_negSucc level m, ⟨by decide, by decide, by decide⟩⟩, ?_⟩
  intro depth level fuel c bl tail _ hlen hc hbl hfollow
  obtain ⟨f, rfl⟩ : ∃ f, fuel = f + 1 := ⟨fuel - 1, by omega⟩
  rw [ofString_pretty_negSucc, List.append_assoc, List.cons_append] at hc
  have hskip := Cursor.skipBlanks_rest hc hbl (by decide)
  obtain ⟨hsmall, hfits⟩ := negSucc_bounds hlo
  obtain ⟨c', hc', hnum⟩ := number_toDigits (c := c.skipBlanks.next) false (Cursor.rest_next hskip)
    hfits hfollow
  refine ⟨c', hc', ?_⟩
  simp +decide [readValue, hskip, readNumber, hnum, numberTail_signed (hc' ▸ hfollow) (by omega) hsmall,
    bind, Except.bind, pure, Except.pure, Parsed.toNumber]
  rw [Int.negSucc_eq]
  omega

end Scalars

section Nested

variable {n depth level : Nat} {tail : List UInt8}

theorem itemsText_ne_nil (level : Nat) (first : Bool) (xs : List Json) :
    ofString (itemsText level first xs) ≠ [] := by
  cases xs with
  | nil =>
    obtain ⟨bl, -, htext⟩ := ofString_itemsText_nil level first
    simp [htext]
  | cons x xs => cases first <;> simp [ofString_itemsText_cons, ofString_newline, ofString_comma]

theorem fieldsText_ne_nil (level : Nat) (first : Bool) (fs : List (String × Json)) :
    ofString (fieldsText level first fs) ≠ [] := by
  cases fs with
  | nil =>
    obtain ⟨bl, -, htext⟩ := ofString_fieldsText_nil level first
    simp [htext]
  | cons f fs =>
    obtain ⟨k, v⟩ := f
    cases first <;> simp [ofString_fieldsText_cons, ofString_newline, ofString_comma]

theorem sep_length (first : Bool) : 1 ≤ (ofString (if first then "\n" else ",\n")).length := by
  cases first <;> decide

/-- An item's line, after the separator: the cursor at the item's text. -/
theorem item_sep {c : Cursor} {first : Bool} {x : Json} {xs : List Json}
    (hopens : ∃ b more, ofString (pretty (level + 1) x) = b :: more ∧ Opening b)
    (hc : c.rest = ofString (itemsText level first (x :: xs)) ++ tail) :
    ∃ c' : Cursor, nextItem c first = .ok (some c') ∧
      c'.rest = [] ++ ofString (pretty (level + 1) x) ++ (ofString (itemsText level false xs) ++ tail) := by
  obtain ⟨b, more, htext, hb⟩ := hopens
  have hat_item : c.rest = ofString (if first then "\n" else ",\n") ++ ofString (indent (level + 1)) ++
      b :: (more ++ ofString (itemsText level false xs) ++ tail) := by
    rw [hc, ofString_itemsText_cons, htext]
    simp
  obtain ⟨c', hc', hnext⟩ := nextItem_sep hat_item (blanks_indent _) hb
  exact ⟨c', hnext, by rw [hc', htext]; simp⟩

/-- A field's line, after the separator: where its key starts, the key, the colon, and the cursor
at the blank before the value's htext. -/
theorem field_sep {c : Cursor} {first : Bool} {k : String} {v : Json} {fs : List (String × Json)}
    (hc : c.rest = ofString (fieldsText level first ((k, v) :: fs)) ++ tail) :
    ∃ c₁ c₂ c₃ : Cursor, nextKeyStart c first = .ok (some c₁) ∧ c₁.next.string = .ok (k, c₂) ∧
      colon c₂ = .ok c₃ ∧
      c₃.rest = [byte ' '] ++ ofString (pretty (level + 1) v) ++ (ofString (fieldsText level false fs) ++ tail) := by
  rw [ofString_fieldsText_cons, ofString_quote] at hc
  have hat_key : c.rest = ofString (if first then "\n" else ",\n") ++ ofString (indent (level + 1)) ++
      byte '"' :: (encode (k.toList.flatMap escapeChar) ++ [byte '"'] ++ byte ':' ::
        (byte ' ' :: ofString (pretty (level + 1) v) ++ (ofString (fieldsText level false fs) ++ tail))) := by
    rw [hc]
    simp
  obtain ⟨c₁, hc₁, hstart⟩ := nextKeyStart_sep hat_key (blanks_indent _)
  obtain ⟨c₂, hc₂, hkey⟩ := Cursor.string_quote (c := c₁) (show c₁.rest = ofString (quote k) ++
      byte ':' :: (byte ' ' :: ofString (pretty (level + 1) v) ++ (ofString (fieldsText level false fs) ++ tail))
    by rw [hc₁, ofString_quote]; simp)
  obtain ⟨c₃, hc₃, hsep⟩ := colon_rest hc₂
  exact ⟨c₁, c₂, c₃, hstart, hkey, hsep, by rw [hc₃]; rfl⟩

/-- Raw reading takes the items of an array back, up to the blanks before its closing bracket. -/
theorem readItems_text (hn : n ≤ depth) :
    ∀ (xs : List Json) (first : Bool) (acc : List Json) (fuel : Nat) (c : Cursor),
      (∀ x ∈ xs, ReadBack n x) → (ofString (itemsText level first xs)).length ≤ fuel →
      c.rest = ofString (itemsText level first xs) ++ tail →
      ∃ c' : Cursor, (∃ bl, Blanks bl ∧ c'.rest = bl ++ byte ']' :: tail) ∧
        readItems false depth first acc fuel c = .ok (acc.reverse ++ xs, c')
  | [], first, acc, fuel, c, _, hlen, hc => by
    obtain ⟨bl, hbl, htext⟩ := ofString_itemsText_nil level first
    rw [htext] at hlen hc
    obtain ⟨f, rfl⟩ : ∃ f, fuel = f + 1 := ⟨fuel - 1, by simp at hlen; omega⟩
    rw [List.append_assoc, List.singleton_append] at hc
    exact ⟨c, ⟨bl, hbl, hc⟩,
      by simp [readItems, nextItem_close hc hbl, bind, Except.bind, pure, Except.pure]⟩
  | x :: xs, first, acc, fuel, c, h, hlen, hc => by
    have hx := h x List.mem_cons_self
    obtain ⟨c₁, hnext, hc₁⟩ := item_sep (hx.opens (level + 1)) hc
    have hsep := sep_length first
    have hrest := List.length_pos_of_ne_nil (itemsText_ne_nil level false xs)
    rw [ofString_itemsText_cons] at hlen
    simp only [List.length_append] at hlen
    obtain ⟨f, rfl⟩ : ∃ f, fuel = f + 1 := ⟨fuel - 1, by omega⟩
    obtain ⟨c₂, hc₂, hread⟩ := hx.read hn (show (ofString (pretty (level + 1) x)).length < f by omega)
      hc₁ blanks_nil (follows_itemsText level xs tail)
    obtain ⟨c₃, hclose, hitems⟩ := readItems_text hn xs false (x :: acc) f c₂
      (fun y hy => h y (List.mem_cons_of_mem _ hy)) (by omega) hc₂
    exact ⟨c₃, hclose, by simp [readItems, hnext, hread, hitems, bind, Except.bind]⟩

theorem nextKey_close {c : Cursor} {bl more : List UInt8} (hc : c.rest = bl ++ byte '\x7d' :: more)
    (hbl : Blanks bl) (first : Bool) : nextKey c first = .ok none := by
  simp [nextKey, nextKeyStart_close hc hbl, bind, Except.bind, pure, Except.pure]

/-- Raw reading takes the fields of an object back in order, up to the blanks before its closing
brace. -/
theorem readFields_text (hn : n ≤ depth) :
    ∀ (fs : List (String × Json)) (first : Bool) (acc : List (String × Json)) (fuel : Nat)
      (c : Cursor), (∀ f ∈ fs, ReadBack n f.2) → (ofString (fieldsText level first fs)).length ≤ fuel →
      c.rest = ofString (fieldsText level first fs) ++ tail →
      ∃ c' : Cursor, (∃ bl, Blanks bl ∧ c'.rest = bl ++ byte '\x7d' :: tail) ∧
        readFields false depth first acc fuel c = .ok (acc.reverse ++ fs, c')
  | [], first, acc, fuel, c, _, hlen, hc => by
    obtain ⟨bl, hbl, htext⟩ := ofString_fieldsText_nil level first
    rw [htext] at hlen hc
    obtain ⟨f, rfl⟩ : ∃ f, fuel = f + 1 := ⟨fuel - 1, by simp at hlen; omega⟩
    rw [List.append_assoc, List.singleton_append] at hc
    exact ⟨c, ⟨bl, hbl, hc⟩,
      by simp [readFields, nextKey_close hc hbl, bind, Except.bind, pure, Except.pure]⟩
  | (k, v) :: fs, first, acc, fuel, c, h, hlen, hc => by
    have hv := h (k, v) List.mem_cons_self
    obtain ⟨c₁, c₂, c₃, hstart, hkey, hsep, hc₃⟩ := field_sep hc
    have hlead := sep_length first
    have hrest := List.length_pos_of_ne_nil (fieldsText_ne_nil level false fs)
    rw [ofString_fieldsText_cons] at hlen
    simp only [List.length_append, List.length_cons, List.length_nil] at hlen
    obtain ⟨f, rfl⟩ : ∃ f, fuel = f + 1 := ⟨fuel - 1, by omega⟩
    obtain ⟨c₄, hc₄, hread⟩ := hv.read hn (show (ofString (pretty (level + 1) v)).length < f by omega)
      hc₃ (blanks_nil.cons (by decide)) (follows_fieldsText level fs tail)
    obtain ⟨c₅, hclose, hfields⟩ := readFields_text hn fs false ((k, v) :: acc) f c₄
      (fun g hg => h g (List.mem_cons_of_mem _ hg)) (by omega) hc₄
    exact ⟨c₅, hclose, by
      simp [readFields, nextKey, hstart, hkey, hsep, hread, hfields, bind, Except.bind, pure, Except.pure]⟩

theorem readBack_arr {xs : List Json} (hn : 1 ≤ n) (h : ∀ x ∈ xs, ReadBack n x) :
    ReadBack (n + 1) (.arr xs) where
  opens _ := ⟨byte '[', _, ofString_pretty_arr xs, ⟨by decide, by decide, by decide⟩⟩
  read {depth level fuel c bl tail} hd hlen hc hbl _ := by
    rw [ofString_pretty_arr] at hlen hc
    simp only [List.length_cons] at hlen
    obtain ⟨f, rfl⟩ : ∃ f, fuel = f + 1 := ⟨fuel - 1, by omega⟩
    rw [List.append_assoc, List.cons_append] at hc
    have hskip := Cursor.skipBlanks_rest hc hbl (by decide)
    obtain ⟨c₁, ⟨bl', hbl', hc₁⟩, hitems⟩ := readItems_text (show n ≤ depth - 1 by omega) xs true []
      f c.skipBlanks.next h (by omega) (Cursor.rest_next hskip)
    obtain ⟨c₂, hc₂, hclose⟩ := endSeq_rest hc₁ hbl'
    refine ⟨c₂, hc₂, ?_⟩
    simp +decide [readValue, hskip, show ¬ depth ≤ 1 by omega, hitems, hclose, bind, Except.bind,
      pure, Except.pure]

theorem readBack_obj {fs : List (String × Json)} (hn : 1 ≤ n) (h : ∀ f ∈ fs, ReadBack n f.2) :
    ReadBack (n + 1) (.obj fs) where
  opens _ := ⟨byte '\x7b', _, ofString_pretty_obj fs, ⟨by decide, by decide, by decide⟩⟩
  read {depth level fuel c bl tail} hd hlen hc hbl _ := by
    rw [ofString_pretty_obj] at hlen hc
    simp only [List.length_cons] at hlen
    obtain ⟨f, rfl⟩ : ∃ f, fuel = f + 1 := ⟨fuel - 1, by omega⟩
    rw [List.append_assoc, List.cons_append] at hc
    have hskip := Cursor.skipBlanks_rest hc hbl (by decide)
    obtain ⟨c₁, ⟨bl', hbl', hc₁⟩, hfields⟩ := readFields_text (show n ≤ depth - 1 by omega) fs true []
      f c.skipBlanks.next h (by omega) (Cursor.rest_next hskip)
    obtain ⟨c₂, hc₂, hclose⟩ := endMap_rest hc₁ hbl'
    refine ⟨c₂, hc₂, ?_⟩
    simp +decide [readValue, hskip, show ¬ depth ≤ 1 by omega, hfields, hclose, bind, Except.bind,
      pure, Except.pure]

end Nested

section Fitting

variable {κ : Type}

mutual
/-- Raw reading takes back every value that a shape fits. -/
theorem Fits.readBack : ∀ {s : Shape κ} {j : Json} {d : Datum κ} {n : Nat}, Fits s j d n →
    ReadBack n j
  | _, _, _, _, .text s => readBack_str s
  | _, _, _, _, .nat h => readBack_nat (by rw [maxUnsigned_eq]; rw [pow_63] at h; omega)
  | _, _, _, _, .neg hlo hi => readBack_neg hlo hi
  | _, _, _, _, .bool b => readBack_bool b
  | _, _, _, _, .none _ => readBack_null
  | _, _, _, _, .some h _ => h.readBack.mono (by omega)
  | _, _, _, _, .list h => readBack_arr h.pos h.readBack
  | _, _, _, _, .record h _ => readBack_obj h.pos h.readBack
  | _, _, _, _, .tagged _ _ _ (.record h _) => by
    refine (readBack_obj h.pos fun f hf => ?_).mono (by omega)
    rcases List.mem_cons.mp hf with rfl | hf
    · exact (readBack_str _).mono h.pos
    · exact h.readBack f hf
  | _, _, _, _, .case _ => readBack_str _
  | _, _, _, _, .checked _ => readBack_str _

theorem ItemsFit.readBack : ∀ {s : Shape κ} {js : List Json} {ds : List (Datum κ)} {n : Nat},
    ItemsFit s js ds n → ∀ x ∈ js, ReadBack n x
  | _, _, _, _, .nil _ => fun _ h => absurd h List.not_mem_nil
  | _, _, _, _, .cons h hs => fun x hx => by
    rcases List.mem_cons.mp hx with rfl | hx
    · exact h.readBack.mono (by omega)
    · exact (hs.readBack x hx).mono (by omega)

theorem FieldsFit.readBack : ∀ {fields : List (FieldKey κ × Shape κ)} {fs : List (String × Json)}
    {ds : List (Datum κ)} {n : Nat}, FieldsFit fields fs ds n → ∀ f ∈ fs, ReadBack n f.2
  | _, _, _, _, .nil => fun _ h => absurd h List.not_mem_nil
  | _, _, _, _, .given h hs => fun f hf => by
    rcases List.mem_cons.mp hf with rfl | hf
    · exact h.readBack.mono (by omega)
    · exact (hs.readBack f hf).mono (by omega)
  | _, _, _, _, .absent _ hs => hs.readBack
end

end Fitting

end Signon.Json
