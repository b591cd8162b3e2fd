import Mathlib
import Signon.Encoding.Base64Url
import Signon.Proofs.Text.Utf8

/-!
Base64url reads back exactly what it writes: the text of some bytes, with any number of `=`
after it, reads as those bytes, and only such texts read at all.
-/

namespace Signon

theorem Except.bind_eq_ok {ε α β : Type} {x : Except ε α} {f : α → Except ε β} {b : β}
    (h : x >>= f = .ok b) : ∃ a, x = .ok a ∧ f a = .ok b := by
  cases x with
  | error e => cases h
  | ok a => exact ⟨a, rfl, h⟩

namespace Base64Url

section Alphabet

theorem toUInt8_of_eq {n : Nat} {b : UInt8} (h : n = b.toNat) : n.toUInt8 = b := by
  subst h
  simp

theorem symbol_spec : ∀ v : Fin 64, symbolValue? (symbol v) = some v ∧ symbol v ≠ 61 ∧
    symbol v ≠ 46 ∧ (symbol v).toNat < 128 := by
  decide

theorem symbolValue?_symbol {v : Nat} (h : v < 64) : symbolValue? (symbol v) = some v :=
  (symbol_spec ⟨v, h⟩).1

theorem symbol_of_symbolValue? {b : UInt8} {v : Nat} (h : symbolValue? b = some v) :
    v < 64 ∧ symbol v = b := by
  unfold symbolValue? at h
  dsimp only at h
  split_ifs at h with h1 h2 h3 h4 h5 <;> cases h
  · exact ⟨by omega, by rw [symbol, if_pos (by omega)]; exact toUInt8_of_eq (by omega)⟩
  · exact ⟨by omega, by rw [symbol, if_neg (by omega), if_pos (by omega)]; exact toUInt8_of_eq (by omega)⟩
  · exact ⟨by omega, by
      rw [symbol, if_neg (by omega), if_neg (by omega), if_pos (by omega)]; exact toUInt8_of_eq (by omega)⟩
  · exact ⟨by omega, by
      rw [symbol, if_neg (by omega), if_neg (by omega), if_neg (by omega), if_pos rfl]
      exact toUInt8_of_eq h4.symm⟩
  · exact ⟨by omega, by
      rw [symbol, if_neg (by omega), if_neg (by omega), if_neg (by omega), if_neg (by omega)]
      exact toUInt8_of_eq h5.symm⟩

theorem values_map_symbol (offset : Nat) (vs : List Nat) (h : ∀ v ∈ vs, v < 64) :
    values offset (vs.map symbol) = .ok vs := by
  induction vs generalizing offset with
  | nil => rfl
  | cons v vs ih =>
    rw [List.map_cons, values, symbolValue?_symbol (h v List.mem_cons_self),
      ih (offset + 1) fun u hu => h u (List.mem_cons_of_mem _ hu)]
    rfl

theorem values_ok {offset : Nat} {xs : List UInt8} {vs : List Nat}
    (h : values offset xs = .ok vs) : xs = vs.map symbol ∧ ∀ v ∈ vs, v < 64 := by
  induction xs generalizing offset vs with
  | nil =>
    cases h
    simp
  | cons x xs ih =>
    rw [values] at h
    cases hx : symbolValue? x with
    | none => simp [hx] at h
    | some v =>
      obtain ⟨hv, rfl⟩ := symbol_of_symbolValue? hx
      cases hr : values (offset + 1) xs with
      | error e => simp [hx, hr, Except.map] at h
      | ok ws =>
        simp only [hx, hr, Except.map, Except.ok.injEq] at h
        subst h
        obtain ⟨rfl, hws⟩ := ih hr
        refine ⟨rfl, ?_⟩
        simp only [List.mem_cons, forall_eq_or_imp]
        exact ⟨hv, hws⟩

end Alphabet

section Groups

theorem mem_encodeBytes {bs : List UInt8} {x : UInt8} (h : x ∈ encodeBytes bs) :
    ∃ v < 64, symbol v = x := by
  fun_induction encodeBytes bs with
  | case1 => simp at h
  | case2 a =>
    have := UInt8.toNat_lt a
    simp only [List.mem_cons, List.not_mem_nil, or_false] at h
    rcases h with rfl | rfl <;> exact ⟨_, by omega, rfl⟩
  | case3 a b =>
    have := UInt8.toNat_lt a
    have := UInt8.toNat_lt b
    simp only [List.mem_cons, List.not_mem_nil, or_false] at h
    rcases h with rfl | rfl | rfl <;> exact ⟨_, by omega, rfl⟩
  | case4 a b c rest _ ih =>
    have := UInt8.toNat_lt a
    have := UInt8.toNat_lt b
    have := UInt8.toNat_lt c
    simp only [List.mem_cons] at h
    rcases h with rfl | rfl | rfl | rfl | h
    any_goals exact ⟨_, by omega, rfl⟩
    exact ih h

/-- The three bytes of a group of four six-bit values, the first value the highest. -/
def groupBytes (vs : List Nat) : List UInt8 :=
  let n := vs.foldl (fun acc v => acc * 64 + v) 0
  [(n / 65536).toUInt8, (n / 256 % 256).toUInt8, (n % 256).toUInt8]

/-- Four symbols and what follows them: the group's bytes, then the rest read on. A group of four
at the end reads as one inside the text. -/
theorem decodeGroups_four (offset : Nat) (x1 x2 x3 x4 : UInt8) (more : List UInt8) :
    decodeGroups offset (x1 :: x2 :: x3 :: x4 :: more) = (do
      let vs ← values offset [x1, x2, x3, x4]
      let tail ← decodeGroups (offset + 4) more
      pure (groupBytes vs ++ tail)) := by
  cases more with
  | cons e rest => rfl
  | nil =>
    simp only [decodeGroups, lastGroup]
    cases hv : values offset [x1, x2, x3, x4] with
    | error e => rfl
    | ok vs =>
      obtain ⟨hxs, -⟩ := values_ok hv
      obtain ⟨v1, v2, v3, v4, rfl⟩ : ∃ v1 v2 v3 v4, vs = [v1, v2, v3, v4] := by
        match vs, hxs with
        | [v1, v2, v3, v4], _ => exact ⟨v1, v2, v3, v4, rfl⟩
      simp [groupBytes, values, bind, Except.bind, pure, Except.pure]

theorem groupBytes_of_bytes (a b c : UInt8) :
    let n := (a.toNat * 256 + b.toNat) * 256 + c.toNat
    groupBytes [n / 262144, n / 4096 % 64, n / 64 % 64, n % 64] = [a, b, c] := by
  have := UInt8.toNat_lt a
  have := UInt8.toNat_lt b
  have := UInt8.toNat_lt c
  simp only [groupBytes, List.foldl_cons, List.foldl_nil, List.cons.injEq, and_true]
  refine ⟨toUInt8_of_eq ?_, toUInt8_of_eq ?_, toUInt8_of_eq ?_⟩ <;> omega

/-- Four values read as three bytes are written back as the symbols of those values. -/
theorem encodeBytes_groupBytes {v1 v2 v3 v4 : Nat} (h1 : v1 < 64) (h2 : v2 < 64) (h3 : v3 < 64)
    (h4 : v4 < 64) (tail : List UInt8) :
    encodeBytes (groupBytes [v1, v2, v3, v4] ++ tail) =
      symbol v1 :: symbol v2 :: symbol v3 :: symbol v4 :: encodeBytes tail := by
  set n := ((v1 * 64 + v2) * 64 + v3) * 64 + v4 with hn
  have hg : groupBytes [v1, v2, v3, v4] =
      [(n / 65536).toUInt8, (n / 256 % 256).toUInt8, (n % 256).toUInt8] := by
    simp [groupBytes, hn]
  rw [hg, List.cons_append, List.cons_append, List.cons_append, List.nil_append, encodeBytes]
  simp only [Text.Utf8.toNat_toUInt8 (show n / 65536 < 256 by omega),
    Text.Utf8.toNat_toUInt8 (show n / 256 % 256 < 256 by omega),
    Text.Utf8.toNat_toUInt8 (show n % 256 < 256 by omega)]
  have hbits : (n / 65536 * 256 + n / 256 % 256) * 256 + n % 256 = n := by omega
  rw [hbits, show n / 262144 = v1 by omega, show n / 4096 % 64 = v2 by omega,
    show n / 64 % 64 = v3 by omega, show n % 64 = v4 by omega]

theorem decodeGroups_encodeBytes (offset : Nat) (bs : List UInt8) :
    decodeGroups offset (encodeBytes bs) = .ok bs := by
  fun_induction encodeBytes bs generalizing offset with
  | case1 => rfl
  | case2 a =>
    have := UInt8.toNat_lt a
    have hv : values offset [symbol (a.toNat / 4), symbol (a.toNat % 4 * 16)] =
        .ok [a.toNat / 4, a.toNat % 4 * 16] :=
      values_map_symbol offset [a.toNat / 4, a.toNat % 4 * 16] (by simp; omega)
    simp only [decodeGroups, lastGroup]
    rw [hv]
    simp only [bind, Except.bind, List.getLast?_cons_cons, List.getLast?_singleton]
    rw [if_neg (by omega)]
    simp only [pure, Except.pure, Except.ok.injEq, List.cons.injEq, and_true]
    exact toUInt8_of_eq (by omega)
  | case3 a b n =>
    have := UInt8.toNat_lt a
    have := UInt8.toNat_lt b
    have hn : n = a.toNat * 256 + b.toNat := rfl
    have hv : values offset [symbol (n / 1024), symbol (n / 16 % 64), symbol (n % 16 * 4)] =
        .ok [n / 1024, n / 16 % 64, n % 16 * 4] :=
      values_map_symbol offset [n / 1024, n / 16 % 64, n % 16 * 4] (by simp; omega)
    simp only [decodeGroups, lastGroup]
    rw [hv]
    simp only [bind, Except.bind, List.getLast?_cons_cons, List.getLast?_singleton]
    rw [if_neg (by omega)]
    simp only [pure, Except.pure, Except.ok.injEq, List.cons.injEq, and_true]
    exact ⟨toUInt8_of_eq (by omega), toUInt8_of_eq (by omega)⟩
  | case4 a b c rest n ih =>
    have := UInt8.toNat_lt a
    have := UInt8.toNat_lt b
    have := UInt8.toNat_lt c
    have hv : values offset [symbol (n / 262144), symbol (n / 4096 % 64), symbol (n / 64 % 64),
        symbol (n % 64)] = .ok [n / 262144, n / 4096 % 64, n / 64 % 64, n % 64] :=
      values_map_symbol offset [n / 262144, n / 4096 % 64, n / 64 % 64, n % 64] (by simp; omega)
    rw [decodeGroups_four, hv, ih]
    simp only [bind, Except.bind, pure, Except.pure]
    rw [groupBytes_of_bytes]
    rfl

/-- Symbols that read as bytes are the symbols of those bytes: reading accepts only what writing
produces. -/
theorem encodeBytes_of_decodeGroups : ∀ (offset : Nat) (syms out : List UInt8),
    decodeGroups offset syms = .ok out → encodeBytes out = syms
  | offset, x1 :: x2 :: x3 :: x4 :: more, out, h => by
    rw [decodeGroups_four] at h
    obtain ⟨vs, hv, h⟩ := Except.bind_eq_ok h
    obtain ⟨tail, ht, h⟩ := Except.bind_eq_ok h
    cases h
    obtain ⟨hxs, hlt⟩ := values_ok hv
    match vs, hxs with
    | [v1, v2, v3, v4], hxs =>
      simp only [List.map_cons, List.map_nil, List.cons.injEq, and_true] at hxs
      obtain ⟨rfl, rfl, rfl, rfl⟩ := hxs
      simp only [List.mem_cons, List.not_mem_nil, or_false, forall_eq_or_imp, forall_eq] at hlt
      rw [encodeBytes_groupBytes hlt.1 hlt.2.1 hlt.2.2.1 hlt.2.2.2,
        encodeBytes_of_decodeGroups (offset + 4) more tail ht]
  | offset, [], out, h => by
    cases h
    rfl
  | offset, [x], out, h => by
    simp only [decodeGroups, lastGroup] at h
    obtain ⟨vs, hv, h⟩ := Except.bind_eq_ok h
    match vs, (values_ok hv).1 with
    | [v], _ => cases h
  | offset, [x, y], out, h => by
    simp only [decodeGroups, lastGroup] at h
    obtain ⟨vs, hv, h⟩ := Except.bind_eq_ok h
    obtain ⟨hxs, hlt⟩ := values_ok hv
    match vs, hxs with
    | [v1, v2], hxs =>
      simp only [List.map_cons, List.map_nil, List.cons.injEq, and_true] at hxs
      obtain ⟨rfl, rfl⟩ := hxs
      simp only [List.mem_cons, List.not_mem_nil, or_false, forall_eq_or_imp, forall_eq] at hlt
      simp only [List.getLast?_cons_cons, List.getLast?_singleton] at h
      split_ifs at h with spare
      cases h
      have hb := Text.Utf8.toNat_toUInt8 (show v1 * 4 + v2 / 16 < 256 by omega)
      rw [encodeBytes, hb, show (v1 * 4 + v2 / 16) / 4 = v1 by omega,
        show (v1 * 4 + v2 / 16) % 4 * 16 = v2 by omega]
  | offset, [x, y, z], out, h => by
    simp only [decodeGroups, lastGroup] at h
    obtain ⟨vs, hv, h⟩ := Except.bind_eq_ok h
    obtain ⟨hxs, hlt⟩ := values_ok hv
    match vs, hxs with
    | [v1, v2, v3], hxs =>
      simp only [List.map_cons, List.map_nil, List.cons.injEq, and_true] at hxs
      obtain ⟨rfl, rfl, rfl⟩ := hxs
      simp only [List.mem_cons, List.not_mem_nil, or_false, forall_eq_or_imp, forall_eq] at hlt
      simp only [List.getLast?_cons_cons, List.getLast?_singleton] at h
      split_ifs at h with spare
      cases h
      set n := (v1 * 64 + v2) * 64 + v3
      have ha := Text.Utf8.toNat_toUInt8 (show n / 1024 < 256 by omega)
      have hb := Text.Utf8.toNat_toUInt8 (show n / 4 % 256 < 256 by omega)
      rw [encodeBytes, ha, hb, show (n / 1024 * 256 + n / 4 % 256) / 1024 = v1 by omega,
        show (n / 1024 * 256 + n / 4 % 256) / 16 % 64 = v2 by omega,
        show (n / 1024 * 256 + n / 4 % 256) % 16 * 4 = v3 by omega]

end Groups

section Text

theorem decodeSymbols_encodeBytes (bs : List UInt8) : decodeSymbols (encodeBytes bs) = .ok bs := by
  unfold decodeSymbols
  split
  · next b hb =>
    obtain ⟨v, hv, rfl⟩ := mem_encodeBytes (List.mem_of_getLast? hb)
    rw [if_neg (by simp [symbolValue?_symbol hv])]
    exact decodeGroups_encodeBytes 0 bs
  · next hb =>
    have hback := decodeGroups_encodeBytes 0 bs
    rw [List.getLast?_eq_none_iff.mp hb] at hback
    exact hback

theorem encodeBytes_of_decodeSymbols {syms out : List UInt8} (h : decodeSymbols syms = .ok out) :
    encodeBytes out = syms := by
  unfold decodeSymbols at h
  split at h
  · split_ifs at h
    exact encodeBytes_of_decodeGroups 0 syms out h
  · next hb =>
    cases h
    rw [List.getLast?_eq_none_iff.mp hb, encodeBytes]

theorem dropPadding_append (bs : List UInt8) : ∃ k, bs = dropPadding bs ++ List.replicate k 61 := by
  obtain ⟨k, hpads⟩ : ∃ k, bs.reverse.takeWhile (· = 61) = List.replicate k 61 :=
    ⟨_, List.eq_replicate_iff.mpr ⟨rfl, fun b hb => by simpa using List.mem_takeWhile_imp hb⟩⟩
  refine ⟨k, ?_⟩
  calc bs = (bs.reverse.takeWhile (· = 61) ++ bs.reverse.dropWhile (· = 61)).reverse := by
        rw [List.takeWhile_append_dropWhile, List.reverse_reverse]
    _ = dropPadding bs ++ List.replicate k 61 := by
        rw [List.reverse_append, dropPadding, hpads, List.reverse_replicate]

theorem dropPadding_append_pads {bs : List UInt8} (h : ∀ b ∈ bs.getLast?, b ≠ 61) (k : Nat) :
    dropPadding (bs ++ List.replicate k 61) = bs := by
  have hkept : bs.reverse.dropWhile (· = 61) = bs.reverse := by
    cases hr : bs.reverse with
    | nil => rfl
    | cons b rest =>
      have hb : b ≠ 61 := h b (by simp [List.getLast?_eq_head?_reverse, hr])
      simp [hb]
  have hskipped : ∀ j, (List.replicate j (61 : UInt8) ++ bs.reverse).dropWhile (· = 61) =
      bs.reverse.dropWhile (· = 61) := by
    intro j
    induction j with
    | zero => rfl
    | succ j ih => simp [List.replicate_succ, ih]
  rw [dropPadding, List.reverse_append, List.reverse_replicate, hskipped, hkept, List.reverse_reverse]

theorem toNat_ofNat_ascii {n : Nat} (h : n < 128) : (Char.ofNat n).toNat = n := by
  have hvalid : n.isValidChar := Or.inl (by omega)
  simp [Char.ofNat, hvalid, Char.ofNatAux, Char.toNat]

theorem utf8_encode_ascii {xs : List UInt8} (h : ∀ x ∈ xs, x.toNat < 128) :
    Text.Utf8.encode (xs.map fun b => Char.ofNat b.toNat) = xs := by
  induction xs with
  | nil => rfl
  | cons x xs ih =>
    have hx := h x List.mem_cons_self
    have hcode := toNat_ofNat_ascii hx
    rw [List.map_cons, Text.Utf8.encode, List.flatMap_cons,
      Text.Utf8.encodeChar_of_lt (by rw [hcode]; omega), hcode, ← Text.Utf8.encode,
      ih fun y hy => h y (List.mem_cons_of_mem _ hy)]
    simp

theorem ofString_encode (bs : List UInt8) : Text.Utf8.ofString (encode bs) = encodeBytes bs := by
  rw [encode, Text.Utf8.ofString, String.toList_ofList]
  exact utf8_encode_ascii fun x hx => by
    obtain ⟨v, hv, rfl⟩ := mem_encodeBytes hx
    exact (symbol_spec ⟨v, hv⟩).2.2.2

theorem ofString_pads (k : Nat) :
    Text.Utf8.ofString (String.ofList (List.replicate k '=')) = List.replicate k 61 := by
  induction k with
  | zero => rfl
  | succ k ih =>
    simp only [Text.Utf8.ofString, String.toList_ofList, Text.Utf8.encode] at ih ⊢
    rw [List.replicate_succ, List.flatMap_cons, ih]
    rfl

theorem mem_encode {c : Char} {bs : List UInt8} (h : c ∈ (encode bs).toList) :
    ∃ v < 64, c.toNat = (symbol v).toNat := by
  rw [encode, String.toList_ofList] at h
  obtain ⟨x, hx, rfl⟩ := List.mem_map.mp h
  obtain ⟨v, hv, rfl⟩ := mem_encodeBytes hx
  exact ⟨v, hv, toNat_ofNat_ascii (symbol_spec ⟨v, hv⟩).2.2.2⟩

theorem pad_not_mem_encode (bs : List UInt8) : '=' ∉ (encode bs).toList := by
  intro h
  obtain ⟨v, hv, hcode⟩ := mem_encode h
  exact (symbol_spec ⟨v, hv⟩).2.1 (UInt8.toNat_inj.mp hcode.symm)

theorem dot_not_mem_encode (bs : List UInt8) : '.' ∉ (encode bs).toList := by
  intro h
  obtain ⟨v, hv, hcode⟩ := mem_encode h
  exact (symbol_spec ⟨v, hv⟩).2.2.1 (UInt8.toNat_inj.mp hcode.symm)

theorem decode_eq_ok_iff {s : String} {bs : List UInt8} :
    decode s = .ok bs ↔ ∃ k, s = encode bs ++ String.ofList (List.replicate k '=') := by
  constructor
  · intro h
    obtain ⟨k, hk⟩ := dropPadding_append (Text.Utf8.ofString s)
    refine ⟨k, Text.Utf8.ofString_injective ?_⟩
    rw [Text.Utf8.ofString_append, ofString_encode, ofString_pads, encodeBytes_of_decodeSymbols h]
    exact hk
  · rintro ⟨k, rfl⟩
    have hunpadded : ∀ b ∈ (encodeBytes bs).getLast?, b ≠ 61 := fun b hb => by
      obtain ⟨v, hv, rfl⟩ := mem_encodeBytes (List.mem_of_getLast? hb)
      exact (symbol_spec ⟨v, hv⟩).2.1
    rw [decode, Text.Utf8.ofString_append, ofString_encode, ofString_pads,
      dropPadding_append_pads hunpadded]
    exact decodeSymbols_encodeBytes bs

/-- Writing never uses `=`, and reading accepts exactly the written text followed by any number of
`=`: each padded form of the text of some bytes reads back as those bytes, and a text that reads
as some bytes is their text once its trailing `=` are dropped. -/
theorem padded_encodings_read_back (bs : List UInt8) :
    '=' ∉ (encode bs).toList ∧
      ∀ s, decode s = .ok bs ↔ ∃ k, s = encode bs ++ String.ofList (List.replicate k '=') :=
  ⟨pad_not_mem_encode bs, fun _ => decode_eq_ok_iff⟩

end Text

end Base64Url

end Signon
