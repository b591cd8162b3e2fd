import Mathlib
import Signon.Url.Parse
import Signon.Proofs.Text.Utf8
import Signon.Proofs.Http.CookieHeader

/-!
Reading the path of a URL segment by segment; escaping never makes a dot segment, and no segment
a special URL reads holds a slash.
-/

namespace Signon

namespace Text

/-- A list is its first piece and then the others, each after a separator. -/
theorem eq_pieces_flatMap (sep : Char) :
    ∀ cs : List Char, ∃ a bs, pieces sep cs = a :: bs ∧ cs = a ++ bs.flatMap (sep :: ·)
  | [] => ⟨[], [], rfl, rfl⟩
  | c :: rest => by
    obtain ⟨a, bs, hsplit, rfl⟩ := eq_pieces_flatMap sep rest
    by_cases here : c = sep
    · subst here
      exact ⟨[], a :: bs, by simp [pieces, hsplit], by simp⟩
    · exact ⟨c :: a, bs, by simp [pieces, here, hsplit], rfl⟩

end Text

namespace Url

/-! ### Escaping -/

@[simp] theorem encode_nil (set : EncodeSet) : encode set [] = [] := rfl

@[simp] theorem encode_cons (set : EncodeSet) (c : Char) (cs : List Char) :
    encode set (c :: cs) = encodeChar set c ++ encode set cs :=
  List.flatMap_cons

@[simp] theorem encode_append (set : EncodeSet) (cs ds : List Char) :
    encode set (cs ++ ds) = encode set cs ++ encode set ds :=
  List.flatMap_append

theorem encodeChar_slash : encodeChar .path '/' = ['/'] := by decide

theorem hexUpper_toLower_two : ∀ n < 16, (hexUpper n).toLower = '2' → n = 2 := by decide

theorem hexUpper_toLower_e : ∀ n < 16, (hexUpper n).toLower = 'e' → n = 14 := by decide

theorem hexUpper_ne_slash : ∀ n < 16, hexUpper n ≠ '/' := by decide

theorem exists_encodeChar_cons (c : Char) : ∃ b bs, Text.Utf8.encodeChar c = b :: bs := by
  unfold Text.Utf8.encodeChar
  dsimp only
  split_ifs <;> exact ⟨_, _, rfl⟩

/-- A path writes a character as it is, or as escapes whose first is not that of `.`: `.` is
never escaped, and a character beyond ASCII has only bytes with the high bit set. -/
theorem encodeChar_path_cases (c : Char) :
    encodeChar .path c = [c] ∨
      ∃ h l more, encodeChar .path c = '%' :: h :: l :: more ∧
        ¬(h.toLower = '2' ∧ l.toLower = 'e') := by
  unfold encodeChar
  split_ifs with plain
  · exact .inl rfl
  obtain ⟨b, bs, hbytes⟩ := exists_encodeChar_cons c
  refine .inr ⟨hexUpper (b.toNat / 16), hexUpper (b.toNat % 16), bs.flatMap escapeByte,
    by rw [hbytes]; rfl, ?_⟩
  have hnotDot : b.toNat ≠ 0x2E := by
    by_cases hascii : c.toNat < 0x80
    · have held : EncodeSet.path.holds c = true := by simpa [hascii] using plain
      rw [Text.Utf8.encodeChar_of_lt hascii, List.cons.injEq] at hbytes
      rw [← hbytes.1, Text.Utf8.toNat_toUInt8 (by omega)]
      intro hdot
      have : c = '.' := Char.toNat_inj.mp hdot
      subst this
      exact absurd held (by decide)
    · have := Text.Utf8.le_of_mem_encodeChar (by omega) (hbytes ▸ List.mem_cons_self)
      omega
  have high : b.toNat / 16 < 16 := by
    have : b.toNat < 256 := b.toNat_lt_size
    omega
  rintro ⟨htwo, e⟩
  have := hexUpper_toLower_two _ high htwo
  have := hexUpper_toLower_e _ (Nat.mod_lt _ (by decide)) e
  omega

/-- Every `%` of a text starts `%2e`, as in the escaped spellings of the hdot segments. -/
def escapesOnlyDots : List Char → Bool
  | [] => true
  | c :: rest => (c != '%' || rest.take 2 == ['2', 'e']) && escapesOnlyDots rest

/-- A path escapes nothing in a text whose lowercase escaped form has no escape but `%2e`: an
escape the path writes never reads as `%2e`. -/
theorem encode_eq_self_of_escapesOnlyDots :
    ∀ cs : List Char, escapesOnlyDots ((encode .path cs).map Char.toLower) = true →
      encode .path cs = cs
  | [], _ => rfl
  | c :: rest, honly => by
    rcases encodeChar_path_cases c with hplain | ⟨h, l, more, hescaped, hnotDot⟩
    · rw [encode_cons, hplain] at honly ⊢
      simp only [List.singleton_append, List.map_cons, escapesOnlyDots, Bool.and_eq_true] at honly
      rw [encode_eq_self_of_escapesOnlyDots rest honly.2]
      rfl
    · rw [encode_cons, hescaped] at honly
      simp only [List.cons_append, List.map_cons, escapesOnlyDots, Bool.and_eq_true,
        Bool.or_eq_true, bne_iff_ne, ne_eq, beq_iff_eq] at honly
      have hpercent : ('%' : Char).toLower = '%' := by decide
      have hfirst := honly.1
      simp only [hpercent, not_true_eq_false, false_or, List.take_succ_cons, List.take_zero,
        List.cons.injEq, and_true] at hfirst
      exact absurd hfirst hnotDot

/-- A segment that escaping makes a dot segment was one already, and escaping left it alone. -/
theorem encode_eq_self_of_dot {p : List Char}
    (hdot : isSingleDot (String.ofList (encode .path p)) = true ∨
      isDoubleDot (String.ofList (encode .path p)) = true) :
    encode .path p = p := by
  apply encode_eq_self_of_escapesOnlyDots
  have hlower : (String.ofList (encode .path p)).toLower.toList =
      (encode .path p).map Char.toLower := by
    simp [String.toLower, String.toList_map]
  simp only [isSingleDot, isDoubleDot, Bool.or_eq_true, decide_eq_true_eq] at hdot
  rw [← hlower]
  rcases hdot with (hspelled | hspelled) | (((hspelled | hspelled) | hspelled) | hspelled) <;>
    rw [hspelled] <;> decide

/-- Escaping a segment that is no hdot segment gives no hdot segment. -/
theorem encode_not_dot {p : List Char} (hsingle : isSingleDot (String.ofList p) = false)
    (hdouble : isDoubleDot (String.ofList p) = false) :
    isSingleDot (String.ofList (encode .path p)) = false ∧
      isDoubleDot (String.ofList (encode .path p)) = false := by
  by_contra hdot
  simp only [Bool.not_eq_false, not_and_or] at hdot
  rw [encode_eq_self_of_dot hdot] at hdot
  rcases hdot with hdot | hdot
  · exact absurd hdot (by simp [hsingle])
  · exact absurd hdot (by simp [hdouble])

theorem slash_not_mem_encodeChar {c : Char} (h : c ≠ '/') : '/' ∉ encodeChar .path c := by
  unfold encodeChar
  split_ifs
  · simpa using h.symm
  · simp only [List.mem_flatMap, escapeByte, List.mem_cons, List.not_mem_nil, or_false,
      not_exists, not_and]
    intro b _
    have : b.toNat < 256 := b.toNat_lt_size
    refine fun e => ?_
    rcases e with e | e | e
    · exact absurd e (by decide)
    · exact hexUpper_ne_slash _ (by omega) e.symm
    · exact hexUpper_ne_slash _ (Nat.mod_lt _ (by decide)) e.symm

/-! ### Reading segments -/

/-- Outside `file` URLs a segment that is neither `.` nor `..` is added as it stands. -/
theorem Segments.close_plain (st : Segments) {b : List Char} (slash : Bool)
    (hsingle : isSingleDot (String.ofList b) = false)
    (hdouble : isDoubleDot (String.ofList b) = false) :
    st.close false b slash = { st with parts := st.parts ++ [String.ofList b] } := by
  simp [Segments.close, hsingle, hdouble]

def InSegment (c : Char) : Prop := c ≠ '/' ∧ c ≠ '\\' ∧ c ≠ '?' ∧ c ≠ '#'

theorem readPath_end (special file : Bool) (st : Segments) (buffer : List Char) :
    readPath special file st buffer [] = (st.close file buffer false, []) := by
  rw [readPath]

theorem readPath_slash (special file : Bool) (st : Segments) (buffer rest : List Char) :
    readPath special file st buffer ('/' :: rest) =
      readPath special file (st.close file buffer true) [] rest := by
  rw [readPath, if_pos (by simp [isSlash])]

/-- A character that may stand in a segment is escaped into the segment being read. -/
theorem readPath_char (special : Bool) (st : Segments) (buffer : List Char) {c : Char}
    (rest : List Char) (hplain : InSegment c) :
    readPath special false st buffer (c :: rest) =
      readPath special false st (buffer ++ encodeChar .path c) rest := by
  obtain ⟨hslash, hbackslash, hquery, hfragment⟩ := hplain
  rw [readPath, if_neg (by simp [isSlash, hslash, hbackslash]),
    if_neg (by simp [hquery, hfragment])]
  simp only [Bool.false_and, Bool.false_eq_true, if_false]

theorem readPath_chunk (special : Bool) (st : Segments) :
    ∀ (chunk buffer rest : List Char), (∀ c ∈ chunk, InSegment c) →
      readPath special false st buffer (chunk ++ rest) =
        readPath special false st (buffer ++ encode .path chunk) rest
  | [], buffer, rest, _ => by simp
  | c :: chunk, buffer, rest, hplain => by
    rw [List.cons_append, readPath_char special st buffer _ (hplain c List.mem_cons_self),
      readPath_chunk special st chunk _ rest (fun d hd => hplain d (List.mem_cons_of_mem c hd)),
      encode_cons, List.append_assoc]

/-- Segments that hold no character ending them and are no dot segments are read after the
segments already there, each escaped. -/
theorem readPath_segments (special : Bool) :
    ∀ (bs : List (List Char)) (a : List Char) (st : Segments),
      (∀ p ∈ a :: bs, ∀ c ∈ p, InSegment c) →
      (∀ p ∈ a :: bs,
        isSingleDot (String.ofList p) = false ∧ isDoubleDot (String.ofList p) = false) →
      readPath special false st [] (a ++ bs.flatMap ('/' :: ·)) =
        ({ st with parts := st.parts ++ (a :: bs).map fun p => String.ofList (encode .path p) },
          [])
  | [], a, st, hplain, hdotless => by
    obtain ⟨hsingle, hdouble⟩ := encode_not_dot (hdotless a (by simp)).1 (hdotless a (by simp)).2
    rw [List.flatMap_nil, ← List.append_nil (a ++ []),
      readPath_chunk special st (a ++ []) [] [] (by simpa using hplain a (by simp)), readPath_end,
      List.nil_append, List.append_nil, Segments.close_plain _ _ hsingle hdouble]
    simp
  | b :: bs, a, st, hplain, hdotless => by
    obtain ⟨hsingle, hdouble⟩ := encode_not_dot (hdotless a (by simp)).1 (hdotless a (by simp)).2
    rw [List.flatMap_cons, List.cons_append, readPath_chunk special st a [] _ (hplain a (by simp)),
      List.nil_append, readPath_slash, Segments.close_plain _ _ hsingle hdouble,
      readPath_segments special bs b _ (fun p hp => hplain p (List.mem_cons_of_mem a hp))
        (fun p hp => hdotless p (List.mem_cons_of_mem a hp))]
    simp

/-! ### Segments without slashes -/

def SlashFree (parts : List String) : Prop := ∀ p ∈ parts, '/' ∉ p.toList

theorem SlashFree.sublist {parts parts' : List String} (h : SlashFree parts)
    (hsub : parts'.Sublist parts) : SlashFree parts' :=
  fun p hp => h p (hsub.subset hp)

theorem SlashFree.append {parts parts' : List String} (h : SlashFree parts)
    (h' : SlashFree parts') : SlashFree (parts ++ parts') := by
  intro p hp
  rcases List.mem_append.mp hp with hp | hp
  · exact h p hp
  · exact h' p hp

theorem slashFree_singleton {b : List Char} (h : '/' ∉ b) : SlashFree [String.ofList b] := by
  simpa [SlashFree] using h

theorem slashFree_empty : SlashFree [""] := by
  simp [SlashFree]

theorem shorten_sublist (file : Bool) (parts : List String) :
    (shorten file parts).Sublist parts := by
  unfold shorten
  split
  · split_ifs
    · exact List.Sublist.refl _
    · exact List.dropLast_sublist _
  · exact List.nil_sublist _

theorem Segments.close_slashFree {st : Segments} {b : List Char} (slash : Bool)
    (hparts : SlashFree st.parts) (hnoSlash : '/' ∉ b) :
    SlashFree (st.close false b slash).parts := by
  have hshortened := hparts.sublist (shorten_sublist false st.parts)
  simp only [Segments.close, Bool.false_and, Bool.false_eq_true, if_false]
  split_ifs
  · exact hshortened
  · exact hshortened.append slashFree_empty
  · exact hparts
  · exact hparts.append slashFree_empty
  · exact hparts.append (slashFree_singleton hnoSlash)

/-- Reading a path outside `file` URLs writes no segment with a slash. -/
theorem readPath_slashFree (special : Bool) :
    ∀ (st : Segments) (buffer cs : List Char), SlashFree st.parts → '/' ∉ buffer →
      SlashFree (readPath special false st buffer cs).1.parts
  | st, buffer, [], hparts, hnoSlash => by
    rw [readPath_end]
    exact Segments.close_slashFree false hparts hnoSlash
  | st, buffer, c :: rest, hparts, hnoSlash => by
    rw [readPath]
    simp only [Bool.false_and, Bool.false_eq_true, if_false]
    split_ifs with slash
    · exact readPath_slashFree special _ [] rest (Segments.close_slashFree true hparts hnoSlash)
        List.not_mem_nil
    · exact Segments.close_slashFree false hparts hnoSlash
    · have hnotSlash : c ≠ '/' := fun e => slash (by simp [isSlash, e])
      exact readPath_slashFree special st _ rest hparts
        (by simp [hnoSlash, slash_not_mem_encodeChar hnotSlash])

theorem pathStart_slashFree (special : Bool) (input : List Char) :
    SlashFree (pathStart special false input).1.parts := by
  have hfresh (cs : List Char) :=
    readPath_slashFree special ⟨[], false⟩ [] cs (by simp [SlashFree]) List.not_mem_nil
  unfold pathStart
  dsimp only
  split_ifs
  · split
    · split_ifs
      · exact hfresh _
      · exact hfresh _
    · exact hfresh _
  · split
    · simp [SlashFree]
    · simp [SlashFree]
    · simp [SlashFree]
    · exact hfresh _
    · exact hfresh _

/-! ### The path of a special URL -/

/-- What follows `//` is read into a URL of the scheme whose path is what `pathStart` reads. -/
theorem afterAuthoritySlashes_eq_ok {scheme : String} {input : List Char} {u : Url}
    (h : afterAuthoritySlashes scheme input = .ok u) :
    u.scheme = scheme ∧
      ∃ rest, u.path = .segments (pathStart (isSpecialScheme scheme) false rest).1.parts := by
  simp only [afterAuthoritySlashes, bind, Except.bind, pure, Except.pure] at h
  split at h
  · cases h
  split at h
  · cases h
  split_ifs at h
  cases h
  exact ⟨rfl, _, rfl⟩

theorem withoutAuthority_scheme (scheme : String) (input : List Char) :
    (withoutAuthority scheme input).scheme = scheme := by
  unfold withoutAuthority
  split <;> rfl

theorem parseFile_none_scheme {input : List Char} {u : Url} (h : parseFile none input = .ok u) :
    u.scheme = "file" := by
  unfold parseFile parseFile.fileRelative at h
  dsimp only at h
  split at h
  · split at h
    · split at h
      · cases h
        rfl
      split at h
      · cases h
        rfl
      · simp only [bind, Except.bind] at h
        split at h
        · cases h
        · cases h
          rfl
    · split at h
      · cases h
        rfl
      · cases h
        rfl
  · cases h
    rfl

theorem parse_special_segments {t : String} {u : Url} (h : parse t = .ok u)
    (hspecial : isSpecialScheme u.scheme = true) (hnotFile : u.scheme ≠ "file") :
    ∃ parts, u.path = .segments parts ∧ SlashFree parts := by
  unfold parse parseWith at h
  dsimp only at h
  cases hs : scheme? (prepare t) with
  | none =>
    rw [hs] at h
    cases h
  | some read =>
    obtain ⟨scheme, rest⟩ := read
    rw [hs] at h
    dsimp only at h
    unfold withScheme at h
    split_ifs at h with file read
    · exact absurd (parseFile_none_scheme h) hnotFile
    · obtain ⟨-, rest, hpath⟩ := afterAuthoritySlashes_eq_ok h
      exact ⟨_, hpath, pathStart_slashFree _ _⟩
    · split at h
      · obtain ⟨hsame, -⟩ := afterAuthoritySlashes_eq_ok h
        exact absurd (hsame ▸ hspecial) read
      · cases h
        rw [withoutAuthority_scheme] at hspecial
        exact absurd hspecial read

/-! ### Path texts -/

theorem Path.toList_render_segments (parts : List String) :
    (Path.render (.segments parts)).toList = parts.flatMap fun p => '/' :: p.toList := by
  simp [Path.render, String.toList_join, List.flatMap_map]

theorem encode_pieces (a : List Char) (bs : List (List Char)) :
    encode .path (a ++ bs.flatMap ('/' :: ·)) =
      encode .path a ++ bs.flatMap fun b => '/' :: encode .path b := by
  induction bs generalizing a with
  | nil => simp
  | cons b bs ih =>
    rw [List.flatMap_cons, List.flatMap_cons, List.cons_append, encode_append, encode_cons,
      encodeChar_slash, ih]
    simp

theorem render_escaped_pieces (a : List Char) (bs : List (List Char)) :
    (Path.render (.segments ((a :: bs).map fun p => String.ofList (encode .path p)))).toList =
      '/' :: encode .path (a ++ bs.flatMap ('/' :: ·)) := by
  rw [Path.toList_render_segments, encode_pieces]
  simp [List.flatMap_map]

theorem endsWith_slash_iff {parts : List String} (hfree : SlashFree parts) :
    (Path.render (.segments parts)).endsWith "/" = true ↔ ∃ ps, parts = ps ++ [""] := by
  have hslash : "/".toList = ['/'] := by simp
  rw [String.endsWith, String.Slice.endsWith_string_iff, String.copy_toSlice, hslash,
    List.singleton_suffix_iff_getLast?_eq_some, Path.toList_render_segments]
  rcases List.eq_nil_or_concat parts with rfl | ⟨ps, x, rfl⟩
  · simp
  rw [List.concat_eq_append] at hfree ⊢
  have hnoSlash : '/' ∉ x.toList := hfree x (by simp)
  rw [List.flatMap_append, List.flatMap_singleton]
  rcases List.eq_nil_or_concat x.toList with hempty | ⟨y, z, hlast⟩
  · have : x = "" := String.toList_eq_nil_iff.mp hempty
    subst this
    simp
  · rw [List.concat_eq_append] at hlast
    have hnotEmpty : x ≠ "" := by
      rintro rfl
      simp at hlast
    have hends : (List.flatMap (fun p => '/' :: p.toList) ps ++ '/' :: x.toList).getLast? =
        some z := by
      rw [hlast, List.getLast?_eq_some_iff]
      exact ⟨List.flatMap (fun p => '/' :: p.toList) ps ++ '/' :: y, by simp⟩
    rw [hends, Option.some.injEq]
    constructor
    · rintro rfl
      exact absurd (by simp [hlast]) hnoSlash
    · rintro ⟨qs, hsame⟩
      exact absurd (List.append_inj_right' hsame rfl) (by simpa using hnotEmpty)

end Url

end Signon
