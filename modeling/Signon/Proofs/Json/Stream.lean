import Mathlib
import Signon.Proofs.Json.Raw

/-!
The streaming decoder reads back the text that `pretty` writes for a value a shape fits.
-/

namespace Signon.Json

open Text.Utf8

variable {κ : Type}

theorem head?_ne_letter {b : UInt8} {more : List UInt8} (h : b ≠ byte 'n') :
    (b :: more).head? ≠ Option.some (byte 'n') := by
  simpa using h

/-- The text of a value that fits, other than `null`, does not start as `null` does. -/
theorem Fits.not_null_letter : ∀ {s : Shape κ} {j : Json} {d : Datum κ} {n : Nat}, Fits s j d n →
    j ≠ .null → ∀ level, (ofString (pretty level j)).head? ≠ Option.some (byte 'n')
  | _, _, _, _, .text s, _, level | _, _, _, _, .case (s := s) _, _, level
  | _, _, _, _, .checked (s := s) _, _, level => by
    rw [show pretty level (.str s) = quote s from rfl, ofString_quote]
    exact head?_ne_letter (by decide)
  | _, _, _, _, .nat (n := n) _, _, level => by
    obtain ⟨d, ds, hdigit, -, htext⟩ := ofString_pretty_nat level n
    rw [htext]
    exact head?_ne_letter (byte_ne_of_digit' hdigit).1
  | _, _, _, _, .neg _ hi, _, level => by
    obtain ⟨m, rfl⟩ := Int.eq_negSucc_of_lt_zero hi
    rw [ofString_pretty_negSucc]
    exact head?_ne_letter (by decide)
  | _, _, _, _, .bool b, _, level => by
    cases b with
    | true =>
      rw [show pretty level (.bool true) = "true" from rfl, ofString_true]
      exact head?_ne_letter (by decide)
    | false =>
      rw [show pretty level (.bool false) = "false" from rfl, ofString_false]
      exact head?_ne_letter (by decide)
  | _, _, _, _, .none _, h, _ => absurd rfl h
  | _, _, _, _, .some h hj, _, level => h.not_null_letter hj level
  | _, _, _, _, .list _, _, level => by
    rw [ofString_pretty_arr]
    exact head?_ne_letter (by decide)
  | _, _, _, _, .record _ _, _, level | _, _, _, _, .tagged _ _ _ _, _, level => by
    rw [ofString_pretty_obj]
    exact head?_ne_letter (by decide)

section Scalars

variable {fuel depth level : Nat} {c : Cursor} {bl tail : List UInt8}

theorem skipBlanks_quote {s : String} (hc : c.rest = bl ++ ofString (pretty level (.str s)) ++ tail)
    (hbl : Blanks bl) : c.skipBlanks.rest = ofString (quote s) ++ tail := by
  rw [show pretty level (.str s) = quote s from rfl, List.append_assoc] at hc
  rw [ofString_quote, List.cons_append]
  exact Cursor.skipBlanks_rest (by rw [hc, ofString_quote, List.cons_append]) hbl (by decide)

theorem peek_quote {s : String} (h : c.rest = ofString (quote s) ++ tail) :
    c.peek = Option.some (byte '"') := by
  simp [Cursor.peek, h, ofString_quote]

theorem readText_skipBlanks {s : String} (expected : String)
    (hc : c.rest = bl ++ ofString (pretty level (.str s)) ++ tail) (hbl : Blanks bl) :
    ∃ c' : Cursor, c'.rest = tail ∧ readText c.skipBlanks expected = .ok (s, c') :=
  readText_quote expected (show c.skipBlanks.rest = [] ++ ofString (quote s) ++ tail by
    rw [skipBlanks_quote hc hbl, List.nil_append]) blanks_nil

theorem decodeText_text {s : String} (hc : c.rest = bl ++ ofString (pretty level (.str s)) ++ tail)
    (hbl : Blanks bl) :
    ∃ c' : Cursor, c'.rest = tail ∧ decodeText (fuel + 1) depth (.text : Shape κ) c = .ok (.text s, c') := by
  obtain ⟨c', hc', hread⟩ := readText_skipBlanks "a string" hc hbl
  exact ⟨c', hc', by simp [decodeText, peek_quote (skipBlanks_quote hc hbl), hread, Except.map]⟩

theorem decodeText_case {names : List String} {s : String} {i : Nat} (hi : caseIndex? names s = some i)
    (hc : c.rest = bl ++ ofString (pretty level (.str s)) ++ tail) (hbl : Blanks bl) :
    ∃ c' : Cursor, c'.rest = tail ∧
      decodeText (fuel + 1) depth (.cases names : Shape κ) c = .ok (.case i, c') := by
  obtain ⟨c', hc', hread⟩ := readText_skipBlanks "variant identifier" hc hbl
  refine ⟨c', hc', ?_⟩
  simp +decide [decodeText, peek_quote (skipBlanks_quote hc hbl), readCase, hread, hi, Except.map,
    bind, Except.bind, pure, Except.pure]

theorem decodeText_checked {expecting : String} {read : String → Except String κ} {s : String}
    {k : κ} (hk : read s = .ok k) (hc : c.rest = bl ++ ofString (pretty level (.str s)) ++ tail)
    (hbl : Blanks bl) :
    ∃ c' : Cursor, c'.rest = tail ∧
      decodeText (fuel + 1) depth (.checked expecting read) c = .ok (.leaf k, c') := by
  obtain ⟨c', hc', htext⟩ := readText_skipBlanks expecting hc hbl
  refine ⟨c', hc', ?_⟩
  simp [decodeText, peek_quote (skipBlanks_quote hc hbl), htext, hk, bind, Except.bind, pure,
    Except.pure]

theorem decodeText_nat {n : Nat} (hn : n < Nat.pow 2 63)
    (hc : c.rest = bl ++ ofString (pretty level (.num (.nat n))) ++ tail) (hbl : Blanks bl)
    (ht : Follows tail) :
    ∃ c' : Cursor, c'.rest = tail ∧ decodeText (fuel + 1) depth (.int64 : Shape κ) c = .ok (.int n, c') := by
  obtain ⟨d, ds, hdigit, hd, htext⟩ := ofString_pretty_nat level n
  rw [htext, List.append_assoc, List.cons_append] at hc
  have hskip := Cursor.skipBlanks_rest hc hbl (opening_digit hdigit).not_blank
  obtain ⟨c', hc', hnum⟩ := number_toDigits (c := c.skipBlanks) true
    (by rw [hskip, hd, List.map_cons, List.cons_append])
    (by rw [maxUnsigned_eq]; rw [pow_63] at hn; omega) ht
  refine ⟨c', hc', ?_⟩
  simp [decodeText, Cursor.peek, hskip, (byte_ne_of_digit' hdigit).2.2.2, isDigit_byte hdigit, hnum,
    numberTail_unsigned (hc' ▸ ht), lift, hn, bind, Except.bind, pure, Except.pure]

theorem decodeText_neg {n : Int} (hlo : -(Nat.pow 2 63 : Int) ≤ n) (hi : n < 0)
    (hc : c.rest = bl ++ ofString (pretty level (.num (.neg n))) ++ tail) (hbl : Blanks bl)
    (ht : Follows tail) :
    ∃ c' : Cursor, c'.rest = tail ∧ decodeText (fuel + 1) depth (.int64 : Shape κ) c = .ok (.int n, c') := by
  obtain ⟨m, rfl⟩ := Int.eq_negSucc_of_lt_zero hi
  rw [ofString_pretty_negSucc, List.append_assoc, List.cons_append] at hc
  have hskip := Cursor.skipBlanks_rest hc hbl (by decide)
  obtain ⟨hsmall, hfits⟩ := negSucc_bounds hlo
  obtain ⟨c', hc', hnum⟩ := number_toDigits (c := c.skipBlanks.next) false (Cursor.rest_next hskip)
    hfits ht
  refine ⟨c', hc', ?_⟩
  simp [decodeText, Cursor.peek, hskip, hnum, numberTail_signed (hc' ▸ ht) (by omega) hsmall, lift,
    bind, Except.bind, pure, Except.pure]
  rw [Int.negSucc_eq]
  omega

theorem decodeText_bool (b : Bool) (hc : c.rest = bl ++ ofString (pretty level (.bool b)) ++ tail)
    (hbl : Blanks bl) :
    ∃ c' : Cursor, c'.rest = tail ∧ decodeText (fuel + 1) depth (.bool : Shape κ) c = .ok (.bool b, c') := by
  cases b with
  | true =>
    rw [show pretty level (.bool true) = "true" from rfl, ofString_true] at hc
    obtain ⟨hskip, c', hc', hstep⟩ := word_rest hc hbl (by decide)
    exact ⟨c', hc', by simp [decodeText, Cursor.peek, hskip, hstep, lift, Except.map]⟩
  | false =>
    rw [show pretty level (.bool false) = "false" from rfl, ofString_false] at hc
    obtain ⟨hskip, c', hc', hstep⟩ := word_rest hc hbl (by decide)
    exact ⟨c', hc', by simp +decide [decodeText, Cursor.peek, hskip, hstep, lift, Except.map]⟩

theorem decodeText_null {s : Shape κ} (hc : c.rest = bl ++ ofString (pretty level .null) ++ tail)
    (hbl : Blanks bl) :
    ∃ c' : Cursor, c'.rest = tail ∧ decodeText (fuel + 1) depth (.option s) c = .ok (.none, c') := by
  rw [show pretty level .null = "null" from rfl, ofString_null] at hc
  obtain ⟨hskip, c', hc', hstep⟩ := word_rest hc hbl (by decide)
  exact ⟨c', hc', by simp [decodeText, Cursor.peek, hskip, hstep, lift, Except.map]⟩

end Scalars

section Nested

variable {fuel depth level : Nat} {c : Cursor} {bl tail : List UInt8}

theorem decodeText_some {s : Shape κ} {j : Json} {d : Datum κ}
    (hletter : (ofString (pretty level j)).head? ≠ Option.some (byte 'n'))
    (hopens : ∃ b more, ofString (pretty level j) = b :: more ∧ Opening b)
    (hc : c.rest = bl ++ ofString (pretty level j) ++ tail) (hbl : Blanks bl)
    (hinner : ∀ c' : Cursor, c'.rest = ofString (pretty level j) ++ tail →
      ∃ c'' : Cursor, c''.rest = tail ∧ decodeText fuel depth s c' = .ok (d, c'')) :
    ∃ c' : Cursor, c'.rest = tail ∧ decodeText (fuel + 1) depth (.option s) c = .ok (.some d, c') := by
  obtain ⟨b, more, htext, hb⟩ := hopens
  rw [htext, List.append_assoc, List.cons_append] at hc
  have hskip := Cursor.skipBlanks_rest hc hbl hb.not_blank
  have hnot_null : b ≠ byte 'n' := fun e => hletter (by rw [htext, e]; rfl)
  obtain ⟨c', hc', hread⟩ := hinner c.skipBlanks (by rw [hskip, htext, List.cons_append])
  exact ⟨c', hc', by simp [decodeText, Cursor.peek, hskip, hnot_null, hread, Except.map]⟩

theorem decodeText_list {s : Shape κ} {js : List Json} {ds : List (Datum κ)} (hd : 1 < depth)
    (hc : c.rest = bl ++ ofString (pretty level (.arr js)) ++ tail) (hbl : Blanks bl)
    (hitems : ∀ c' : Cursor, c'.rest = ofString (itemsText level true js) ++ tail →
      ∃ c'' : Cursor, (∃ bl', Blanks bl' ∧ c''.rest = bl' ++ byte ']' :: tail) ∧
        decodeItemsText fuel (depth - 1) s true [] c' = .ok (ds, c'')) :
    ∃ c' : Cursor, c'.rest = tail ∧ decodeText (fuel + 1) depth (.list s) c = .ok (.list ds, c') := by
  rw [ofString_pretty_arr, List.append_assoc, List.cons_append] at hc
  have hskip := Cursor.skipBlanks_rest hc hbl (by decide)
  obtain ⟨c₁, ⟨bl', hbl', hc₁⟩, hread⟩ := hitems c.skipBlanks.next (Cursor.rest_next hskip)
  obtain ⟨c₂, hc₂, hclose⟩ := endSeq_rest hc₁ hbl'
  refine ⟨c₂, hc₂, ?_⟩
  simp +decide [decodeText, Cursor.peek, hskip, openNested_ok hd, hread, closing, hclose, Except.map,
    bind, Except.bind]

theorem decodeText_record {name : String} {fields : List (FieldKey κ × Shape κ)}
    {fs : List (String × Json)} {ds : List (Datum κ)}
    (hd : 1 < depth) (hc : c.rest = bl ++ ofString (pretty level (.obj fs)) ++ tail) (hbl : Blanks bl)
    (hslots : ∀ c' : Cursor, c'.rest = ofString (fieldsText level true fs) ++ tail →
      ∃ (rslots : List (Option (Datum κ))) (c'' : Cursor), completeFields fields rslots = .ok ds ∧
        (∃ bl', Blanks bl' ∧ c''.rest = bl' ++ byte '\x7d' :: tail) ∧
        fillSlotsText fuel (depth - 1) fields true (List.replicate fields.length none) c' =
          .ok (rslots, c'')) :
    ∃ c' : Cursor, c'.rest = tail ∧
      decodeText (fuel + 1) depth (.record name fields) c = .ok (.record ds, c') := by
  rw [ofString_pretty_obj, List.append_assoc, List.cons_append] at hc
  have hskip := Cursor.skipBlanks_rest hc hbl (by decide)
  obtain ⟨rslots, c₁, hcomplete, ⟨bl', hbl', hc₁⟩, hread⟩ := hslots c.skipBlanks.next (Cursor.rest_next hskip)
  obtain ⟨c₂, hc₂, hclose⟩ := endMap_rest hc₁ hbl'
  refine ⟨c₂, hc₂, ?_⟩
  simp +decide [decodeText, Cursor.peek, hskip, openNested_ok hd, List.map_const', hread, hcomplete,
    closing, hclose, bind, Except.bind]

end Nested

section Tagged

variable {n depth level : Nat} {tag : String} {members : List (Member × List (FieldKey κ × Shape κ))}
  {i : Nat} {tail : List UInt8}

/-- A tag written as a string names the first member with that tag. -/
theorem readMember_quote (members : List (Member × List (FieldKey κ × Shape κ))) {c : Cursor}
    {bl : List UInt8} {t : String} (hc : c.rest = bl ++ ofString (quote t) ++ tail) (hbl : Blanks bl)
    (hi : members.findIdx? (·.1.tag == t) = some i) :
    ∃ c' : Cursor, c'.rest = tail ∧ readMember c members = .ok (i, c') := by
  obtain ⟨c', hc', hread⟩ := readText_quote "variant identifier" hc hbl
  exact ⟨c', hc', by simp [readMember, hread, hi, bind, Except.bind, pure, Except.pure]⟩

/-- Every field of an object takes at least one byte of its text. -/
theorem length_le_fieldsText : ∀ (fs : List (String × Json)) (first : Bool),
    fs.length ≤ (ofString (fieldsText level first fs)).length
  | [], _ => Nat.zero_le _
  | (k, v) :: fs, first => by
    have hrest := length_le_fieldsText fs false
    have hsep := sep_length first
    simp only [ofString_fieldsText_cons, List.length_append, List.length_cons, List.length_nil]
    omega

/-- Past the tag, the other fields are buffered raw, in order, up to the closing brace. -/
theorem tagFromFields_rest (members : List (Member × List (FieldKey κ × Shape κ))) (i : Nat)
    (hn : n ≤ depth) :
    ∀ (fs acc : List (String × Json)) (fuel : Nat) (c : Cursor), (∀ f ∈ fs, f.1 ≠ tag) →
      (∀ f ∈ fs, ReadBack n f.2) → fs.length < fuel →
      c.rest = ofString (fieldsText level false fs) ++ tail →
      ∃ c' : Cursor, (∃ bl, Blanks bl ∧ c'.rest = bl ++ byte '\x7d' :: tail) ∧
        tagFromFields depth tag members fuel false (some i) acc c =
          .ok ((i, .obj (acc.reverse ++ fs)), c')
  | [], acc, fuel, c, _, _, hlen, hc => by
    obtain ⟨bl, hbl, htext⟩ := ofString_fieldsText_nil level false
    rw [htext, List.append_assoc, List.singleton_append] at hc
    obtain ⟨f, rfl⟩ : ∃ f, fuel = f + 1 := ⟨fuel - 1, by simp at hlen; omega⟩
    exact ⟨c, ⟨bl, hbl, hc⟩, by
      simp [tagFromFields, nextKeyStart_close hc hbl, lift, bind, Except.bind, pure, Except.pure]⟩
  | (k, v) :: fs, acc, fuel, c, htag, hfs, hlen, hc => by
    obtain ⟨f, rfl⟩ : ∃ f, fuel = f + 1 := ⟨fuel - 1, by simp at hlen; omega⟩
    obtain ⟨c₁, c₂, c₃, hstart, hkey, hsep, hc₃⟩ := field_sep hc
    have hlong : (ofString (pretty (level + 1) v)).length < c₃.fuel := by
      simp only [Cursor.fuel, hc₃, List.length_append, List.length_cons, List.length_nil]
      omega
    obtain ⟨c₄, hc₄, hread⟩ := (hfs (k, v) List.mem_cons_self).read hn hlong hc₃
      (blanks_nil.cons (by decide)) (follows_fieldsText level fs tail)
    obtain ⟨c₅, hclose, hrest⟩ := tagFromFields_rest members i hn fs ((k, v) :: acc) f c₄
      (fun g hg => htag g (List.mem_cons_of_mem _ hg)) (fun g hg => hfs g (List.mem_cons_of_mem _ hg))
      (by simp at hlen; omega) hc₄
    refine ⟨c₅, hclose, ?_⟩
    simp [tagFromFields, hstart, hkey, htag (k, v) List.mem_cons_self, hsep, hread, hrest, lift, bind,
      Except.bind]

/-- An object led by its tag: the tag names the member, the other fields are buffered raw. -/
theorem tagFromFields_text (members : List (Member × List (FieldKey κ × Shape κ))) {t : String}
    {fs : List (String × Json)} {c : Cursor} (hn : n ≤ depth)
    (hi : members.findIdx? (·.1.tag == t) = some i) (htag : ∀ f ∈ fs, f.1 ≠ tag)
    (hfs : ∀ f ∈ fs, ReadBack n f.2)
    (hc : c.rest = ofString (fieldsText level true ((tag, .str t) :: fs)) ++ tail) :
    ∃ c' : Cursor, (∃ bl, Blanks bl ∧ c'.rest = bl ++ byte '\x7d' :: tail) ∧
      tagFromFields depth tag members c.fuel true none [] c = .ok ((i, .obj fs), c') := by
  have hlong : ((tag, Json.str t) :: fs).length ≤
      (ofString (fieldsText level true ((tag, .str t) :: fs))).length := length_le_fieldsText _ true
  obtain ⟨f, hfuel⟩ : ∃ f, c.fuel = f + 1 ∧ fs.length < f := by
    refine ⟨c.fuel - 1, ?_, ?_⟩ <;>
      simp only [Cursor.fuel, hc, List.length_append, List.length_cons] at hlong ⊢ <;> omega
  rw [hfuel.1]
  obtain ⟨c₁, c₂, c₃, hstart, hkey, hsep, hc₃⟩ := field_sep hc
  obtain ⟨c₄, hc₄, hmember⟩ := readMember_quote members hc₃ (blanks_nil.cons (by decide)) hi
  obtain ⟨c₅, hclose, hrest⟩ := tagFromFields_rest members i hn fs [] f c₄ htag hfs hfuel.2 hc₄
  refine ⟨c₅, hclose, ?_⟩
  simp [tagFromFields, hstart, hkey, hsep, hmember, hrest, lift, bind, Except.bind]

theorem decodeText_tagged {fuel : Nat} {c : Cursor} {bl : List UInt8} {name : String} {m : Member}
    {fields : List (FieldKey κ × Shape κ)} {fs : List (String × Json)} {ds : List (Datum κ)}
    (hd : 1 < depth) (hm : members[i]? = some (m, fields))
    (hc : c.rest = bl ++ ofString (pretty level (.obj ((tag, .str m.tag) :: fs))) ++ tail)
    (hbl : Blanks bl)
    (hcontent : ∀ c' : Cursor, c'.rest = ofString (fieldsText level true ((tag, .str m.tag) :: fs)) ++ tail →
      ∃ c'' : Cursor, (∃ bl', Blanks bl' ∧ c''.rest = bl' ++ byte '\x7d' :: tail) ∧
        tagFromFields (depth - 1) tag members c'.fuel true none [] c' = .ok ((i, .obj fs), c''))
    (hmember : decodeTree .content fuel (.record ("struct variant " ++ name ++ "::" ++ m.name) fields)
      (.obj fs) = .ok (.record ds)) :
    ∃ c' : Cursor, c'.rest = tail ∧
      decodeText (fuel + 2) depth (.tagged name tag members) c = .ok (.variant i ds, c') := by
  rw [ofString_pretty_obj, List.append_assoc, List.cons_append] at hc
  have hskip := Cursor.skipBlanks_rest hc hbl (by decide)
  obtain ⟨c₁, ⟨bl', hbl', hc₁⟩, hread⟩ := hcontent c.skipBlanks.next (Cursor.rest_next hskip)
  obtain ⟨c₂, hc₂, hclose⟩ := endMap_rest hc₁ hbl'
  refine ⟨c₂, hc₂, ?_⟩
  simp +decide [decodeText, Cursor.peek, hskip, openNested_ok hd, hread, closing, hclose, decodeMember,
    hm, hmember, bind, Except.bind, pure, Except.pure]

end Tagged

section Fitting

mutual
/-- The streaming decoder reads back the text of every value that a shape fits. -/
theorem Fits.decodeText : ∀ {s : Shape κ} {j : Json} {d : Datum κ} {n : Nat}, Fits s j d n →
    ∀ {fuel depth level : Nat} {c : Cursor} {bl tail : List UInt8}, n ≤ fuel → n ≤ depth →
      c.rest = bl ++ ofString (pretty level j) ++ tail → Blanks bl → Follows tail →
      ∃ c' : Cursor, c'.rest = tail ∧ Json.decodeText fuel depth s c = .ok (d, c')
  | _, _, _, _, .text _, _ + 1, _, _, _, _, _, _, _, hc, hbl, _ => decodeText_text hc hbl
  | _, _, _, _, .nat h, _ + 1, _, _, _, _, _, _, _, hc, hbl, ht => decodeText_nat h hc hbl ht
  | _, _, _, _, .neg hlo hi, _ + 1, _, _, _, _, _, _, _, hc, hbl, ht =>
    decodeText_neg hlo hi hc hbl ht
  | _, _, _, _, .bool b, _ + 1, _, _, _, _, _, _, _, hc, hbl, _ => decodeText_bool b hc hbl
  | _, _, _, _, .none _, _ + 1, _, _, _, _, _, _, _, hc, hbl, _ => decodeText_null hc hbl
  | _, _, _, _, .some h hj, f + 1, _, level, _, _, _, hn, hd, hc, hbl, ht =>
    decodeText_some (h.not_null_letter hj level) (h.readBack.opens level) hc hbl fun c' hc' =>
      h.decodeText (show _ ≤ f by omega) (by omega) (show c'.rest = [] ++ _ ++ _ by rw [hc', List.nil_append])
        blanks_nil ht
  | _, _, _, _, .list h, f + 1, depth, _, _, _, _, hn, hd, hc, hbl, _ =>
    decodeText_list (by have := h.pos; omega) hc hbl fun c' hc' => by
      simpa using h.decodeItemsText true [] (show _ ≤ f by omega) (show _ ≤ depth - 1 by omega) hc'
  | _, _, _, _, .record h hk, f + 1, depth, _, _, _, _, hn, hd, hc, hbl, _ =>
    decodeText_record (by have := h.pos; omega) hc hbl fun c' hc' => by
      simpa using h.fillSlotsText true [] [] (by simpa using hk) rfl (show _ ≤ f by omega)
        (show _ ≤ depth - 1 by omega) hc'
  | _, _, _, _, .tagged hm hi ht (.record hf hk), fuel + 1, depth, level, _, _, _, hn, hd, hc, hbl,
      _ => by
    obtain ⟨f, rfl⟩ := Nat.exists_eq_succ_of_ne_zero (show fuel ≠ 0 by have := hf.pos; omega)
    refine decodeText_tagged (by have := hf.pos; omega) hm hc hbl (fun c' hc' => ?_)
      ((Fits.record hf hk).decodeTree .content (by omega))
    exact tagFromFields_text _ (show _ ≤ depth - 1 by omega) hi ht hf.readBack hc'
  | _, _, _, _, .case h, _ + 1, _, _, _, _, _, _, _, hc, hbl, _ => decodeText_case h hc hbl
  | _, _, _, _, .checked h, _ + 1, _, _, _, _, _, _, _, hc, hbl, _ => decodeText_checked h hc hbl
  | _, _, _, _, h, 0, _, _, _, _, _, hn, _, _, _, _ => absurd hn (by have := h.pos; omega)

/-- The streaming decoder reads back the items of a list that fit, after its opening bracket, up
to the blanks before the closing one. -/
theorem ItemsFit.decodeItemsText : ∀ {s : Shape κ} {js : List Json} {ds : List (Datum κ)} {n : Nat},
    ItemsFit s js ds n → ∀ {fuel depth level : Nat} (first : Bool) (acc : List (Datum κ))
      {c : Cursor} {tail : List UInt8}, n ≤ fuel → n ≤ depth →
      c.rest = ofString (itemsText level first js) ++ tail →
      ∃ c' : Cursor, (∃ bl, Blanks bl ∧ c'.rest = bl ++ byte ']' :: tail) ∧
        Json.decodeItemsText fuel depth s first acc c = .ok (acc.reverse ++ ds, c')
  | _, _, _, _, .nil _, _ + 1, _, level, first, acc, c, _, _, _, hc => by
    obtain ⟨bl, hbl, htext⟩ := ofString_itemsText_nil level first
    rw [htext, List.append_assoc, List.singleton_append] at hc
    exact ⟨c, ⟨bl, hbl, hc⟩, by simp [Json.decodeItemsText, nextItem_close hc hbl, lift, bind,
      Except.bind, pure, Except.pure]⟩
  | _, _, _, _, @ItemsFit.cons _ _ _ d _ _ _ _ h hs, f + 1, depth, level, first, acc, _, tail, hn, hd,
      hc => by
    obtain ⟨c₁, hnext, hc₁⟩ := item_sep (h.readBack.opens (level + 1)) hc
    obtain ⟨c₂, hc₂, hitem⟩ := h.decodeText (show _ ≤ f by omega) (show _ ≤ depth by omega) hc₁
      blanks_nil (follows_itemsText level _ tail)
    obtain ⟨c₃, hclose, hitems⟩ := hs.decodeItemsText false (d :: acc) (show _ ≤ f by omega)
      (show _ ≤ depth by omega) hc₂
    exact ⟨c₃, hclose, by simp [Json.decodeItemsText, hnext, hitem, hitems, lift, bind, Except.bind]⟩
  | _, _, _, _, h, 0, _, _, _, _, _, _, hn, _, _ => absurd hn (by have := h.pos; omega)

/-- The streaming decoder fills the slots of a record from fields that fit, after the object's
opening brace, up to the blanks before the closing one; `pre` are the record's fields before. -/
theorem FieldsFit.fillSlotsText : ∀ {rest : List (FieldKey κ × Shape κ)} {fs : List (String × Json)}
    {ds : List (Datum κ)} {n : Nat}, FieldsFit rest fs ds n →
    ∀ {fuel depth level : Nat} (first : Bool) (pre : List (FieldKey κ × Shape κ))
      (pslots : List (Option (Datum κ))) {c : Cursor} {tail : List UInt8}, Keyed (pre ++ rest) →
      pslots.length = pre.length → n ≤ fuel → n ≤ depth →
      c.rest = ofString (fieldsText level first fs) ++ tail →
      ∃ (rslots : List (Option (Datum κ))) (c' : Cursor), completeFields rest rslots = .ok ds ∧
        (∃ bl, Blanks bl ∧ c'.rest = bl ++ byte '\x7d' :: tail) ∧
        Json.fillSlotsText fuel depth (pre ++ rest) first (pslots ++ List.replicate rest.length none) c =
          .ok (pslots ++ rslots, c')
  | _, _, _, _, .nil, _ + 1, _, level, first, _, pslots, c, _, _, _, _, _, hc => by
    obtain ⟨bl, hbl, htext⟩ := ofString_fieldsText_nil level first
    rw [htext, List.append_assoc, List.singleton_append] at hc
    exact ⟨[], c, rfl, ⟨bl, hbl, hc⟩, by simp [Json.fillSlotsText, nextKeyStart_close hc hbl, lift,
      bind, Except.bind, pure, Except.pure]⟩
  | _, _, _, _, @FieldsFit.given _ key s _ d _ fields _ _ _ h hs, f + 1, depth, level, first, pre,
      pslots, _, tail, hk, hlen, hn, hd, hc => by
    obtain ⟨c₁, c₂, c₃, hstart, hkey_read, hsep, hc₃⟩ := field_sep hc
    obtain ⟨c₄, hc₄, hvalue⟩ := h.decodeText (show _ ≤ f by omega) (show _ ≤ depth by omega) hc₃
      (blanks_nil.cons (by decide)) (follows_fieldsText level _ tail)
    obtain ⟨rslots, c₅, hcomplete, hclose, hslots⟩ := hs.fillSlotsText false (pre ++ [(key, s)])
      (pslots ++ [some d]) (by simpa using hk) (by simp [hlen]) (show _ ≤ f by omega)
      (show _ ≤ depth by omega) hc₄
    refine ⟨some d :: rslots, c₅, by simp [completeFields, hcomplete, bind, Except.bind, pure,
      Except.pure], hclose, ?_⟩
    have hset : (pslots ++ List.replicate (fields.length + 1) none).set pre.length (some d) =
        (pslots ++ [some d]) ++ List.replicate fields.length none := by
      simp [hlen, List.replicate_succ]
    simp only [List.append_assoc, List.singleton_append] at hslots
    simp [Json.fillSlotsText, hstart, hkey_read, hk.fieldIndex?_name, hlen, hsep, hvalue, hset, hslots,
      lift, bind, Except.bind]
  | _, _, _, _, @FieldsFit.absent _ key s _ _ _ _ _ ha hs, fuel, _, _, first, pre, pslots, _, _, hk,
      hlen, hn, hd, hc => by
    obtain ⟨rslots, c', hcomplete, hclose, hslots⟩ := hs.fillSlotsText first (pre ++ [(key, s)])
      (pslots ++ [none]) (by simpa using hk) (by simp [hlen]) hn hd hc
    refine ⟨none :: rslots, c', by simp [completeFields, ha, hcomplete, bind, Except.bind, pure,
      Except.pure], hclose, ?_⟩
    simpa [List.replicate_succ] using hslots
  | _, _, _, _, h, 0, _, _, _, _, _, _, _, _, _, hn, _, _ => absurd hn (by have := h.pos; omega)
end

theorem decodeBytes_pretty {s : Shape κ} {j : Json} {d : Datum κ} {n : Nat} (h : Fits s j d n)
    (hn : n ≤ 64) : decodeBytes s (ofString (pretty 0 j)) = .ok d := by
  have hc : (Cursor.ofBytes (ofString (pretty 0 j))).rest = [] ++ ofString (pretty 0 j) ++ [] := by
    simp [Cursor.ofBytes]
  obtain ⟨c', hc', hdecode⟩ := h.decodeText
    (show n ≤ (Cursor.ofBytes (ofString (pretty 0 j))).fuel + 64 by omega) (show n ≤ 128 by omega) hc
    blanks_nil (fun _ hb => nomatch hb)
  simp [decodeBytes, hdecode, finish_blanks hc' blanks_nil]

theorem decodeBytesAs_pretty {α : Type} {s : Shape κ} {j : Json} {d : Datum κ} {n : Nat}
    {read : Datum κ → Option α} {a : α} (h : Fits s j d n) (hn : n ≤ 64) (hr : read d = some a) :
    decodeBytesAs s read (ofString (pretty 0 j)) = .ok a := by
  simp [decodeBytesAs, decodeBytes_pretty h hn, hr, bind, Except.bind, pure, Except.pure]

end Fitting

end Signon.Json
