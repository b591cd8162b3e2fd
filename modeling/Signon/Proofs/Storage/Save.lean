import Signon.Storage.Vault
import Mathlib.Data.List.Nodup

/-!
A save that fails never damages the kept session: whichever step fails, the file and every path
above it read as before.
-/

namespace Signon.Disk

variable {d d' : Disk} {p q : List String}

@[simp] theorem node?_nil (d : Disk) : d.node? [] = some .directory := rfl

theorem node?_put_of_ne {n : Node} (h : q ≠ p) : (d.put p n).node? q = d.node? q := by
  unfold node? put
  split
  · rfl
  · have hkept : (fun e : List String × Node => decide ((e.1 != p) = true ∧ (e.1 == q) = true)) =
        fun e => e.1 == q := by
      funext e
      by_cases he : e.1 = q <;> simp [he, h]
    simp only [List.find?_append, List.find?_filter]
    rw [hkept]
    simp [Ne.symm h]

theorem node?_put_self {n : Node} (hp : p ≠ []) : (d.put p n).node? p = some n := by
  have hnone_left : d.nodes.find? (fun _ => false) = none := List.find?_eq_none.mpr (by simp)
  unfold node? put
  simp [hp, List.find?_append, List.find?_filter, hnone_left]

theorem node?_drop_of_not_prefix (h : ¬ p <+: q) : (d.drop p).node? q = d.node? q := by
  have houtside : p.isPrefixOf q = false := by
    rw [Bool.eq_false_iff, Ne, List.isPrefixOf_iff_prefix]
    exact h
  unfold node? drop
  split
  · rfl
  · have hkept : (fun e : List String × Node => decide ((!p.isPrefixOf e.1) = true ∧
        (e.1 == q) = true)) = fun e => e.1 == q := by
      funext e
      by_cases he : e.1 = q
      · simp [he, houtside]
      · simp [he]
    simp only [List.find?_filter]
    rw [hkept]

theorem blocked?_of_directories (h : ∀ k < p.length, d.node? (p.take k) = some .directory) :
    d.blocked? p = none := by
  unfold blocked?
  rw [List.findSome?_eq_none_iff]
  intro q hq
  obtain ⟨k, hk, rfl⟩ := List.mem_map.mp hq
  rw [h k (List.mem_range.mp hk)]

theorem blocked?_getD_of_no_file
    (h : ∀ k < p.length, ∀ data, d.node? (p.take k) ≠ some (.file data)) :
    (d.blocked? p).getD .notFound = .notFound := by
  cases hb : d.blocked? p with
  | none => rfl
  | some e =>
    obtain ⟨q, hq, he⟩ := List.exists_of_findSome?_eq_some hb
    obtain ⟨k, hk, rfl⟩ := List.mem_map.mp hq
    have hno_file := h k (List.mem_range.mp hk)
    revert he
    cases hn : d.node? (p.take k) with
    | none => intro he; cases he; rfl
    | some n =>
      cases n with
      | directory => intro he; cases he
      | file data => exact absurd hn (hno_file data)

/-- Making directories along a list of paths, each step finding a directory there or making one:
the paths of the list are directories afterwards and were no files before, and every other path
is as it was. -/
theorem foldlM_mkdirs {step : Disk → List String → Except IoError Disk}
    (hstep : ∀ d q d', step d q = .ok d' →
      (d.node? q = some .directory ∧ d' = d) ∨ (d.node? q = none ∧ d' = d.put q .directory))
    {qs : List (List String)} (hne : ∀ q ∈ qs, q ≠ []) (hnd : qs.Nodup) {d d' : Disk}
    (h : qs.foldlM step d = .ok d') :
    d'.cwd = d.cwd ∧ (∀ q ∉ qs, d'.node? q = d.node? q) ∧
      ∀ q ∈ qs, d'.node? q = some .directory ∧ ∀ data, d.node? q ≠ some (.file data) := by
  induction qs generalizing d with
  | nil =>
    cases h
    exact ⟨rfl, fun _ _ => rfl, fun _ h => nomatch h⟩
  | cons q₀ rest ih =>
    rw [List.foldlM_cons] at h
    cases h₀ : step d q₀ with
    | error e =>
      rw [h₀] at h
      cases h
    | ok d₁ =>
      rw [h₀] at h
      obtain ⟨hcwd, hout, hin⟩ := ih (fun q hq => hne q (.tail _ hq)) (List.nodup_cons.mp hnd).2 h
      have hfirst : d₁.cwd = d.cwd ∧ (∀ q, q ≠ q₀ → d₁.node? q = d.node? q) ∧
          d₁.node? q₀ = some .directory ∧ ∀ data, d.node? q₀ ≠ some (.file data) := by
        rcases hstep d q₀ d₁ h₀ with ⟨hd, rfl⟩ | ⟨hn, rfl⟩
        · exact ⟨rfl, fun _ _ => rfl, hd, by simp [hd]⟩
        · exact ⟨rfl, fun q hq => node?_put_of_ne hq, node?_put_self (hne q₀ (.head _)),
            by simp [hn]⟩
      have hlater : q₀ ∉ rest := (List.nodup_cons.mp hnd).1
      refine ⟨hcwd.trans hfirst.1, fun q hq => ?_, fun q hq => ?_⟩
      · rw [hout q (fun h => hq (.tail _ h)), hfirst.2.1 q (fun h => hq (h ▸ .head _))]
      · rcases List.mem_cons.mp hq with rfl | hq
        · exact ⟨(hout q hlater).trans hfirst.2.2.1, hfirst.2.2.2⟩
        · obtain ⟨hdir, hno_file⟩ := hin q hq
          have hne : q ≠ q₀ := fun e => hlater (e ▸ hq)
          exact ⟨hdir, by rw [← hfirst.2.1 q hne]; exact hno_file⟩

/-- Making every directory above a path and the path itself: afterwards each nonempty prefix of
the path is a directory and none was a file before, and every other path is as it was. -/
theorem createDirAll_ok (h : d.createDirAll p = .ok d') :
    d'.cwd = d.cwd ∧ (∀ q, (∀ k < p.length, q ≠ p.take (k + 1)) → d'.node? q = d.node? q) ∧
      ∀ k < p.length, d'.node? (p.take (k + 1)) = some .directory ∧
        ∀ data, d.node? (p.take (k + 1)) ≠ some (.file data) := by
  have hmem : ∀ q, q ∈ (List.range p.length).map (fun k => p.take (k + 1)) ↔
      ∃ k < p.length, q = p.take (k + 1) := by
    intro q
    simp only [List.mem_map, List.mem_range]
    exact ⟨fun ⟨k, hk, e⟩ => ⟨k, hk, e.symm⟩, fun ⟨k, hk, e⟩ => ⟨k, hk, e.symm⟩⟩
  have hne : ∀ q ∈ (List.range p.length).map (fun k => p.take (k + 1)), q ≠ [] := by
    intro q hq
    obtain ⟨k, hk, rfl⟩ := (hmem q).mp hq
    intro hempty
    have := congrArg List.length hempty
    rw [List.length_take_of_le (by omega)] at this
    cases this
  have hnd : ((List.range p.length).map fun k => p.take (k + 1)).Nodup := by
    refine List.Nodup.map_on (fun i hi j hj e => ?_) List.nodup_range
    have := congrArg List.length e
    rw [List.length_take_of_le (by simp at hi; omega),
      List.length_take_of_le (by simp at hj; omega)] at this
    omega
  unfold createDirAll at h
  obtain ⟨hcwd, hout, hin⟩ := foldlM_mkdirs (fun d₀ q d₁ hq => by
    split at hq
    · rename_i hd
      cases hq
      exact .inl ⟨hd, rfl⟩
    · cases hq
    · rename_i hn
      cases hq
      exact .inr ⟨hn, rfl⟩) hne hnd h
  refine ⟨hcwd, fun q hq => hout q fun hm => ?_, fun k hk => hin _ ((hmem _).mpr ⟨k, hk, rfl⟩)⟩
  obtain ⟨k, hk, rfl⟩ := (hmem q).mp hm
  exact hq k hk rfl

/-- Reading a path sees the node there and whether the way to it is open: with every directory
above it present afterwards and no file in the way before, a path reads as it did. -/
theorem read_eq_of_way (hsame : d'.node? p = d.node? p)
    (hopened : ∀ k < p.length, d'.node? (p.take k) = some .directory)
    (hno_file : ∀ k < p.length, ∀ data, d.node? (p.take k) ≠ some (.file data)) :
    d'.read p = d.read p := by
  unfold read
  rw [hsame]
  cases d.node? p with
  | some n => cases n <;> rfl
  | none => rw [blocked?_of_directories hopened, blocked?_getD_of_no_file hno_file]; rfl

theorem removeFile_getD {x : List String} (h : ¬ q <+: x) :
    ((d.removeFile q).toOption.getD d).cwd = d.cwd ∧
      ((d.removeFile q).toOption.getD d).node? x = d.node? x := by
  unfold removeFile
  split
  · exact ⟨rfl, node?_drop_of_not_prefix h⟩
  · exact ⟨rfl, rfl⟩
  · exact ⟨rfl, rfl⟩

theorem write_eq_ok {data : List UInt8} (h : d.write q data = .ok d') :
    d' = d.put q (.file data) := by
  unfold write at h
  split at h
  · cases h
  · cases h; rfl
  · split at h
    · cases h
    · cases h; rfl

end Signon.Disk

namespace Signon.Vault

open Disk

theorem not_sparePath_prefix {p : List String} {k : Nat} (hk : k ≤ p.length) :
    ¬ sparePath p <+: p.take k := by
  intro hpre
  unfold sparePath at hpre
  cases hl : p.getLast? with
  | none =>
    obtain rfl := List.getLast?_eq_none_iff.mp hl
    simp at hpre
  | some last =>
    rw [hl] at hpre
    have hwhole : p.dropLast ++ [last] = p := List.dropLast_append_getLast? last hl
    -- the spare path is as long as the path, so it could only be the path itself
    have hlong := hpre.length_le
    have hp : p.length = p.dropLast.length + 1 := by rw [← hwhole]; simp
    simp only [List.length_append, List.length_singleton, List.length_take] at hlong
    have heq := hpre.eq_of_length (by simp; omega)
    rw [List.take_of_length_le (by omega)] at heq
    have hlast_eq := List.append_cancel_left (heq.trans hwhole.symm)
    have := congrArg String.length (List.singleton_inj.mp hlast_eq)
    simp at this

theorem saveTo_of_error {d d' : Disk} {p : List String} {bytes : List UInt8} {e : IoError}
    (h : saveTo d p bytes = (.error e, d')) : d'.cwd = d.cwd ∧ d'.read p = d.read p := by
  unfold saveTo at h
  split at h
  · cases h
    exact ⟨rfl, rfl⟩
  · rename_i d₁ hmade
    obtain ⟨hcwd, hout, hin⟩ := createDirAll_ok hmade
    have hoff : ∀ k ≤ p.length, ¬ sparePath p <+: p.take k := fun k hk => not_sparePath_prefix hk
    dsimp only at h
    have hkept : d'.cwd = d₁.cwd ∧ ∀ k ≤ p.length, d'.node? (p.take k) = d₁.node? (p.take k) := by
      have hremoved := fun k hk => removeFile_getD (d := d₁) (hoff k hk)
      generalize (d₁.removeFile (sparePath p)).toOption.getD d₁ = d₂ at h hremoved
      split at h
      · cases h
        exact ⟨(hremoved 0 (Nat.zero_le _)).1, fun k hk => (hremoved k hk).2⟩
      · rename_i d₃ hwritten
        split at h
        · cases h
          rw [write_eq_ok hwritten]
          refine ⟨(hremoved 0 (Nat.zero_le _)).1, fun k hk => ?_⟩
          have hother : p.take k ≠ sparePath p := fun e =>
            hoff k hk (e ▸ List.prefix_refl (sparePath p))
          rw [node?_put_of_ne hother, (hremoved k hk).2]
        · cases h
    obtain ⟨hkcwd, hknode⟩ := hkept
    have habove : ∀ k < p.length, p.dropLast.take k = p.take k := by
      intro k hk
      rw [List.dropLast_eq_take, List.take_take]
      congr 1
      omega
    refine ⟨hkcwd.trans hcwd, read_eq_of_way ?_ (fun k hk => ?_) (fun k hk => ?_)⟩
    · have hat_p := hknode p.length (Nat.le_refl _)
      rw [List.take_length] at hat_p
      rw [hat_p]
      refine hout p fun k hk e => ?_
      have := congrArg List.length e
      simp only [List.length_take, List.length_dropLast] at this hk
      omega
    · rw [hknode k (Nat.le_of_lt hk)]
      cases k with
      | zero => rfl
      | succ j =>
        rw [← habove (j + 1) hk]
        exact (hin j (by simp only [List.length_dropLast]; omega)).1
    · cases k with
      | zero => simp
      | succ j =>
        rw [← habove (j + 1) hk]
        exact (hin j (by simp only [List.length_dropLast]; omega)).2

theorem load_save_of_error {v : Vault} {c : StoredCredentials} {f : Failure}
    (h : (v.save c).1 = .error f) : (v.save c).2.load = v.load := by
  cases v with
  | memory slot => cases h
  | file path d =>
    rcases hs : saveTo d (d.resolve path) (fileBytes c) with ⟨r, d'⟩
    simp only [save, hs] at h ⊢
    cases r with
    | ok u => cases h
    | error e =>
      obtain ⟨hcwd, hread⟩ := saveTo_of_error hs
      have hresolved : d'.resolve path = d.resolve path := by simp only [Disk.resolve, hcwd]
      simp only [load, hresolved, hread]

theorem clear_of_error {v : Vault} {f : Failure} (h : v.clear.1 = .error f) : v.clear.2 = v := by
  cases v with
  | memory slot => cases h
  | file path d =>
    cases hr : d.removeFile (d.resolve path) with
    | ok d' => simp [clear, hr] at h
    | error e => cases e <;> simp [clear, hr] at h ⊢

end Signon.Vault
