import Mathlib
import Signon.Json.Stream

/-!
Values that a shape reads back: `Fits s j d n` says that decoding `j` by the shape `s` gives `d`
within the fuel and nesting bound `n`.
-/

namespace Signon.Json

/-- Fields that keys name one to one: distinct names and no other names. -/
structure Keyed {κ : Type} (fields : List (FieldKey κ × Shape κ)) : Prop where
  nodup : (fields.map (·.1.name)).Nodup
  no_aliases : ∀ f ∈ fields, f.1.aliases = []

mutual
/-- A value that a shape decodes to a datum, with a bound on the fuel and nesting it takes. -/
inductive Fits {κ : Type} : Shape κ → Json → Datum κ → Nat → Prop
  | text (s : String) : Fits .text (.str s) (.text s) 1
  | nat {n : Nat} : n < Nat.pow 2 63 → Fits .int64 (.num (.nat n)) (.int n) 1
  | neg {n : Int} : -(Nat.pow 2 63 : Int) ≤ n → n < 0 → Fits .int64 (.num (.neg n)) (.int n) 1
  | bool (b : Bool) : Fits .bool (.bool b) (.bool b) 1
  | none (s : Shape κ) : Fits (.option s) .null .none 1
  | some {s : Shape κ} {j : Json} {d : Datum κ} {n : Nat} :
      Fits s j d n → j ≠ .null → Fits (.option s) j (.some d) (n + 1)
  | list {s : Shape κ} {js : List Json} {ds : List (Datum κ)} {n : Nat} :
      ItemsFit s js ds n → Fits (.list s) (.arr js) (.list ds) (n + 1)
  | record {name : String} {fields : List (FieldKey κ × Shape κ)} {fs : List (String × Json)}
      {ds : List (Datum κ)} {n : Nat} :
      FieldsFit fields fs ds n → Keyed fields → Fits (.record name fields) (.obj fs) (.record ds) (n + 1)
  | tagged {name tag : String} {members : List (Member × List (FieldKey κ × Shape κ))} {i : Nat}
      {m : Member} {fields : List (FieldKey κ × Shape κ)} {fs : List (String × Json)}
      {ds : List (Datum κ)} {n : Nat} :
      members[i]? = some (m, fields) → members.findIdx? (·.1.tag == m.tag) = some i →
      (∀ f ∈ fs, f.1 ≠ tag) →
      Fits (.record ("struct variant " ++ name ++ "::" ++ m.name) fields) (.obj fs) (.record ds) n →
      Fits (.tagged name tag members) (.obj ((tag, .str m.tag) :: fs)) (.variant i ds) (n + 2)
  | case {names : List String} {s : String} {i : Nat} :
      caseIndex? names s = some i → Fits (.cases names) (.str s) (.case i) 1
  | checked {expecting : String} {read : String → Except String κ} {s : String} {k : κ} :
      read s = .ok k → Fits (.checked expecting read) (.str s) (.leaf k) 1

/-- Items that a shape decodes one by one. -/
inductive ItemsFit {κ : Type} : Shape κ → List Json → List (Datum κ) → Nat → Prop
  | nil (s : Shape κ) : ItemsFit s [] [] 1
  | cons {s : Shape κ} {j : Json} {d : Datum κ} {m : Nat} {js : List Json} {ds : List (Datum κ)}
      {n : Nat} : Fits s j d m → ItemsFit s js ds n → ItemsFit s (j :: js) (d :: ds) (max m n + 1)

/-- The fields of an object that give a record's fields in order: each given one under its name,
or left out when the record fills it. -/
inductive FieldsFit {κ : Type} : List (FieldKey κ × Shape κ) → List (String × Json) →
    List (Datum κ) → Nat → Prop
  | nil : FieldsFit [] [] [] 1
  | given {key : FieldKey κ} {s : Shape κ} {v : Json} {d : Datum κ} {m : Nat}
      {fields : List (FieldKey κ × Shape κ)} {fs : List (String × Json)} {ds : List (Datum κ)}
      {n : Nat} : Fits s v d m → FieldsFit fields fs ds n →
      FieldsFit ((key, s) :: fields) ((key.name, v) :: fs) (d :: ds) (max m n + 1)
  | absent {key : FieldKey κ} {s : Shape κ} {d : Datum κ} {fields : List (FieldKey κ × Shape κ)}
      {fs : List (String × Json)} {ds : List (Datum κ)} {n : Nat} :
      key.absent = .fill d → FieldsFit fields fs ds n → FieldsFit ((key, s) :: fields) fs (d :: ds) n
end

variable {κ : Type}

mutual
theorem Fits.pos : ∀ {s : Shape κ} {j : Json} {d : Datum κ} {n : Nat}, Fits s j d n → 1 ≤ n
  | _, _, _, _, .text _ | _, _, _, _, .nat _ | _, _, _, _, .neg _ _ | _, _, _, _, .bool _
  | _, _, _, _, .none _ | _, _, _, _, .case _ | _, _, _, _, .checked _ => le_refl 1
  | _, _, _, _, .some h _ => by have := h.pos; omega
  | _, _, _, _, .list h => by have := h.pos; omega
  | _, _, _, _, .record h _ => by have := h.pos; omega
  | _, _, _, _, .tagged _ _ _ h => by have := h.pos; omega

theorem ItemsFit.pos : ∀ {s : Shape κ} {js : List Json} {ds : List (Datum κ)} {n : Nat},
    ItemsFit s js ds n → 1 ≤ n
  | _, _, _, _, .nil _ => le_refl 1
  | _, _, _, _, .cons _ _ => by omega

theorem FieldsFit.pos : ∀ {fields : List (FieldKey κ × Shape κ)} {fs : List (String × Json)}
    {ds : List (Datum κ)} {n : Nat}, FieldsFit fields fs ds n → 1 ≤ n
  | _, _, _, _, .nil => le_refl 1
  | _, _, _, _, .given _ _ => by omega
  | _, _, _, _, .absent _ h => h.pos
end

section Keys

variable {pre rest : List (FieldKey κ × Shape κ)} {key : FieldKey κ} {s : Shape κ}

theorem Keyed.fieldIndex?_name (hk : Keyed (pre ++ (key, s) :: rest)) :
    fieldIndex? (pre ++ (key, s) :: rest) key.name = some pre.length := by
  have hbefore : ∀ f ∈ pre, f.1.matches key.name = false := by
    intro f hf
    have hname : f.1.name ≠ key.name := by
      have hnodup := hk.nodup
      rw [List.map_append, List.map_cons, List.nodup_append] at hnodup
      exact fun e => hnodup.2.2 _ (List.mem_map_of_mem hf) _ List.mem_cons_self e
    simp [FieldKey.matches, hk.no_aliases f (List.mem_append_left _ hf), hname]
  rw [fieldIndex?, List.findIdx?_append, List.findIdx?_eq_none_iff.mpr (by simpa using hbefore),
    List.findIdx?_cons]
  simp [FieldKey.matches]

end Keys

section Tree

variable (src : Source) {tag : String} {members : List (Member × List (FieldKey κ × Shape κ))}
  {i : Nat}

/-- The tag's field comes off an object whose other fields do not repeat it. -/
theorem splitTag_rest : ∀ fs : List (String × Json), (∀ f ∈ fs, f.1 ≠ tag) →
    splitTag src tag members (some i) fs = .ok (i, fs)
  | [], _ => rfl
  | (k, v) :: fs, h => by
    have hk : k ≠ tag := h (k, v) List.mem_cons_self
    rw [splitTag, if_neg hk, splitTag_rest fs (fun f hf => h f (List.mem_cons_of_mem _ hf))]
    rfl

theorem decodeTree_option_some {s : Shape κ} {j : Json} {fuel : Nat} (hj : j ≠ .null) :
    decodeTree src (fuel + 1) (.option s) j = (decodeTree src fuel s j).map .some := by
  cases j <;> first | exact absurd rfl hj | rfl

theorem decodeTree_record {name : String} {fields : List (FieldKey κ × Shape κ)}
    {fs : List (String × Json)} {rslots : List (Option (Datum κ))} {ds : List (Datum κ)} {fuel : Nat}
    (hslots : fillSlots src fuel fields (List.replicate fields.length none) fs = .ok rslots)
    (hcomplete : completeFields fields rslots = .ok ds) :
    decodeTree src (fuel + 1) (.record name fields) (.obj fs) = .ok (.record ds) := by
  simp [decodeTree, List.map_const', hslots, hcomplete, bind, Except.bind]

theorem decodeTree_tagged {name : String} {m : Member} {fields : List (FieldKey κ × Shape κ)}
    {fs : List (String × Json)} {ds : List (Datum κ)} {fuel : Nat}
    (hm : members[i]? = some (m, fields)) (hi : members.findIdx? (·.1.tag == m.tag) = some i)
    (ht : ∀ f ∈ fs, f.1 ≠ tag)
    (hr : decodeTree .content fuel (.record ("struct variant " ++ name ++ "::" ++ m.name) fields)
      (.obj fs) = .ok (.record ds)) :
    decodeTree src (fuel + 2) (.tagged name tag members) (.obj ((tag, .str m.tag) :: fs)) =
      .ok (.variant i ds) := by
  have hsplit : splitTag src tag members none ((tag, .str m.tag) :: fs) = .ok (i, fs) := by
    rw [splitTag, if_pos rfl]
    simp [memberOf, hi, splitTag_rest src fs ht, bind, Except.bind]
  simp [decodeTree, hsplit, decodeMember, hm, hr, bind, Except.bind, pure, Except.pure]

end Tree

mutual
/-- The tree decoder gives the datum of a value that fits. -/
theorem Fits.decodeTree : ∀ {s : Shape κ} {j : Json} {d : Datum κ} {n : Nat}, Fits s j d n →
    ∀ (src : Source) {fuel : Nat}, n ≤ fuel → Json.decodeTree src fuel s j = .ok d
  | _, _, _, _, .text _, _, _ + 1, _ => rfl
  | _, _, _, _, .nat h, _, _ + 1, _ => by simp [Json.decodeTree, h]
  | _, _, _, _, .neg _ _, _, _ + 1, _ => rfl
  | _, _, _, _, .bool _, _, _ + 1, _ => rfl
  | _, _, _, _, .none _, _, _ + 1, _ => rfl
  | _, _, _, _, .some h hj, src, _ + 1, hn => by
    rw [decodeTree_option_some src hj, h.decodeTree src (by omega)]
    rfl
  | _, _, _, _, .list h, src, f + 1, hn => by
    simp [Json.decodeTree, h.decodeItems src (show _ ≤ f by omega), Except.map]
  | _, _, _, _, .record h hk, src, f + 1, hn => by
    obtain ⟨rslots, hcomplete, hslots⟩ := h.fillSlots src [] [] (by simpa using hk) rfl
      (show _ ≤ f by omega)
    exact decodeTree_record src (by simpa using hslots) hcomplete
  | _, _, _, _, .tagged hm hi ht h, src, fuel + 1, hn => by
    obtain ⟨f, rfl⟩ := Nat.exists_eq_succ_of_ne_zero (show fuel ≠ 0 by have := h.pos; omega)
    exact decodeTree_tagged src hm hi ht (h.decodeTree .content (by omega))
  | _, _, _, _, .case h, _, _ + 1, _ => by simp [Json.decodeTree, h]
  | _, _, _, _, .checked h, _, _ + 1, _ => by simp [Json.decodeTree, h]
  | _, _, _, _, h, _, 0, hn => absurd hn (by have := h.pos; omega)

/-- The tree decoder gives the data of items that fit. -/
theorem ItemsFit.decodeItems : ∀ {s : Shape κ} {js : List Json} {ds : List (Datum κ)} {n : Nat},
    ItemsFit s js ds n → ∀ (src : Source) {fuel : Nat}, n ≤ fuel →
      Json.decodeItems src fuel s js = .ok ds
  | _, _, _, _, .nil _, _, _ + 1, _ => rfl
  | _, _, _, _, .cons h hs, src, f + 1, hn => by
    simp [Json.decodeItems, h.decodeTree src (show _ ≤ f by omega),
      hs.decodeItems src (show _ ≤ f by omega), bind, Except.bind, pure, Except.pure]
  | _, _, _, _, h, _, 0, hn => absurd hn (by have := h.pos; omega)

/-- Filling the slots of a record from fields that fit: each field given fills its own slot, the
others stay empty, and completing the slots gives the data. `pre` are the fields before. -/
theorem FieldsFit.fillSlots : ∀ {rest : List (FieldKey κ × Shape κ)} {fs : List (String × Json)}
    {ds : List (Datum κ)} {n : Nat}, FieldsFit rest fs ds n →
    ∀ (src : Source) {fuel : Nat} (pre : List (FieldKey κ × Shape κ))
      (pslots : List (Option (Datum κ))), Keyed (pre ++ rest) → pslots.length = pre.length →
      n ≤ fuel → ∃ rslots, completeFields rest rslots = .ok ds ∧
        Json.fillSlots src fuel (pre ++ rest) (pslots ++ List.replicate rest.length none) fs =
          .ok (pslots ++ rslots)
  | _, _, _, _, .nil, _, _ + 1, _, _, _, _, _ => ⟨[], rfl, by simp [Json.fillSlots]⟩
  | _, _, _, _, @FieldsFit.given _ key s _ d _ fields _ _ _ h hs, src, f + 1, pre, pslots, hk,
      hlen, hn => by
    obtain ⟨rslots, hcomplete, hslots⟩ := hs.fillSlots src (pre ++ [(key, s)]) (pslots ++ [some d])
      (by simpa using hk) (by simp [hlen]) (show _ ≤ f by omega)
    refine ⟨some d :: rslots, by simp [completeFields, hcomplete, bind, Except.bind, pure,
      Except.pure], ?_⟩
    have hindex := hk.fieldIndex?_name
    have hset : (pslots ++ List.replicate (fields.length + 1) none).set pre.length (some d) =
        (pslots ++ [some d]) ++ List.replicate fields.length none := by
      simp [hlen, List.replicate_succ]
    simp only [List.append_assoc, List.singleton_append] at hslots
    simp [Json.fillSlots, hindex, hlen, h.decodeTree src (show _ ≤ f by omega), bind, Except.bind,
      hset, hslots]
  | _, _, _, _, @FieldsFit.absent _ key s _ _ _ _ _ ha hs, src, fuel, pre, pslots, hk, hlen,
      hn => by
    obtain ⟨rslots, hcomplete, hslots⟩ := hs.fillSlots src (pre ++ [(key, s)]) (pslots ++ [none])
      (by simpa using hk) (by simp [hlen]) hn
    refine ⟨none :: rslots, by simp [completeFields, ha, hcomplete, bind, Except.bind, pure,
      Except.pure], ?_⟩
    simpa [List.replicate_succ] using hslots
  | _, _, _, _, h, _, 0, _, _, _, _, hn => absurd hn (by have := h.pos; omega)
end

end Signon.Json
