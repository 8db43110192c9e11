import VjBlockchain.Common.Bytes
/-!
# Records — a tag, a length, a value

A record is written as a 16-bit tag, a 16-bit length, and as many octets as
the length says. `next` takes the record at the front of a string off, when
there is a complete one; `walk` takes records off for as long as it can and
returns them with what it could not take. A string is the concatenation of
its walk and its leftover, and it is a concatenation of records exactly when
nothing is left over.
-/

namespace Common

open Bytes

/-- A tagged value. -/
structure Record where
  tag : BitVec 16
  value : Bytes
  deriving DecidableEq, Repr

namespace Record

/-- A record as octets. The length field keeps sixteen bits. -/
def encode (r : Record) : Bytes := toBE 2 r.tag.toNat ++ (toBE 2 r.value.length ++ r.value)

/-- Records written one after the other. -/
def encodeAll (rs : List Record) : Bytes := (rs.map encode).flatten

/-- The value fits its length field. -/
def Fits (r : Record) : Prop := r.value.length < 65536

instance (r : Record) : Decidable r.Fits := inferInstanceAs (Decidable (_ < _))

@[simp] theorem length_encode (r : Record) : r.encode.length = 4 + r.value.length := by
  simp only [encode, List.length_append, length_toBE]
  omega

@[simp] theorem encodeAll_nil : encodeAll [] = [] := rfl

@[simp] theorem encodeAll_cons (r : Record) (rs : List Record) :
    encodeAll (r :: rs) = r.encode ++ encodeAll rs := rfl

theorem length_encodeAll_replicate (n : ℕ) (r : Record) :
    (encodeAll (List.replicate n r)).length = n * (4 + r.value.length) := by
  induction n with
  | zero => simp
  | succ n ih =>
    rw [List.replicate_succ, encodeAll_cons, List.length_append, ih, length_encode]
    ring

theorem encodeAll_append (rs rs' : List Record) :
    encodeAll (rs ++ rs') = encodeAll rs ++ encodeAll rs' := by
  rw [encodeAll, List.map_append, List.flatten_append]
  rfl

/-! ## The first record -/

/-- The length field of the record at the front. -/
def sizeAt (bs : Bytes) : ℕ := ofBE (slice bs 2 4)

/-- The record at the front of a string, if it is complete, and the rest. -/
def next (bs : Bytes) : Option (Record × Bytes) :=
  if 4 ≤ bs.length ∧ 4 + sizeAt bs ≤ bs.length then
    some (⟨BitVec.ofNat 16 (ofBE (slice bs 0 2)), slice bs 4 (4 + sizeAt bs)⟩,
      bs.drop (4 + sizeAt bs))
  else none

/-- **A written record is taken off whole**, whatever follows it. -/
theorem next_encode_append {r : Record} (hr : r.Fits) (rest : Bytes) :
    next (r.encode ++ rest) = some (r, rest) := by
  have hsize : sizeAt (r.encode ++ rest) = r.value.length := by
    rw [sizeAt, encode, List.append_assoc, List.append_assoc, slice_mid (by simp) (by simp)]
    exact ofBE_toBE hr
  have htag : slice (r.encode ++ rest) 0 2 = toBE 2 r.tag.toNat := by
    rw [encode, List.append_assoc, slice_append_left (by simp), slice_self _ _ (by simp)]
  have hvalue : slice (r.encode ++ rest) 4 (4 + r.value.length) = r.value := by
    rw [encode, ← List.append_assoc, List.append_assoc, slice_mid (by simp) (by simp)]
  have hrest : (r.encode ++ rest).drop (4 + r.value.length) = rest :=
    List.drop_left' (length_encode r)
  rw [next, hsize, if_pos (by simp; omega), htag, hvalue, hrest, ofBE_toBE r.tag.isLt,
    BitVec.ofNat_toNat, BitVec.setWidth_eq]

/-- **What is taken off was written there.** -/
theorem next_eq_some {bs rest : Bytes} {r : Record} (h : next bs = some (r, rest)) :
    r.Fits ∧ bs = r.encode ++ rest := by
  rw [next] at h
  split at h
  · rename_i hfit
    obtain ⟨h₄, hlen⟩ := hfit
    obtain ⟨rfl, rfl⟩ := Prod.mk.inj (Option.some.inj h)
    have hsizeLen : (slice bs 2 4).length = 2 := by
      rw [length_slice]
      omega
    have htagLen : (slice bs 0 2).length = 2 := by
      rw [length_slice]
      omega
    have hvalueLen : (slice bs 4 (4 + sizeAt bs)).length = sizeAt bs := by
      rw [length_slice]
      omega
    have hsizeLt : sizeAt bs < 65536 := by
      simpa [sizeAt, hsizeLen] using ofBE_lt (slice bs 2 4)
    have htagLt : ofBE (slice bs 0 2) < 65536 := by simpa [htagLen] using ofBE_lt (slice bs 0 2)
    have htag : toBE 2 (BitVec.ofNat 16 (ofBE (slice bs 0 2))).toNat = slice bs 0 2 := by
      rw [BitVec.toNat_ofNat, Nat.mod_eq_of_lt htagLt]
      simpa [htagLen] using toBE_ofBE (slice bs 0 2)
    have hsize : toBE 2 (sizeAt bs) = slice bs 2 4 := by
      simpa [sizeAt, hsizeLen] using toBE_ofBE (slice bs 2 4)
    refine ⟨by simpa [Fits, hvalueLen] using hsizeLt, ?_⟩
    -- the three fields are consecutive cuts, and the rest follows the last
    rw [encode, htag, hvalueLen, hsize, List.append_assoc, List.append_assoc,
      slice_append_drop bs (by omega), slice_append_drop bs (by omega),
      slice_append_drop bs (by omega), List.drop_zero]
  · cases h

theorem next_eq_some_iff {bs rest : Bytes} {r : Record} :
    next bs = some (r, rest) ↔ r.Fits ∧ bs = r.encode ++ rest := by
  constructor
  · exact next_eq_some
  · rintro ⟨hr, rfl⟩
    exact next_encode_append hr rest

@[simp] theorem next_nil : next [] = none := rfl

theorem length_next {bs rest : Bytes} {r : Record} (h : next bs = some (r, rest)) :
    rest.length < bs.length := by
  obtain ⟨-, rfl⟩ := next_eq_some h
  rw [List.length_append, length_encode]
  omega

/-! ## Walks -/

/-- Take records off the front for as long as there is a complete one. -/
def walk (bs : Bytes) : List Record × Bytes :=
  match _h : next bs with
  | none => ([], bs)
  | some (r, rest) => (r :: (walk rest).1, (walk rest).2)
  termination_by bs.length
  decreasing_by all_goals exact length_next _h

theorem walk_none {bs : Bytes} (h : next bs = none) : walk bs = ([], bs) := by
  rw [walk]
  split
  · rfl
  · rename_i h'
    cases h.symm.trans h'

theorem walk_some {bs rest : Bytes} {r : Record} (h : next bs = some (r, rest)) :
    walk bs = (r :: (walk rest).1, (walk rest).2) := by
  rw [walk]
  split
  · rename_i h'
    cases h.symm.trans h'
  · rename_i h'
    obtain ⟨rfl, rfl⟩ := Prod.mk.inj (Option.some.inj (h.symm.trans h'))
    rfl

/-- **Induction along a walk.** -/
theorem walk_induction {P : Bytes → Prop} (stop : ∀ bs, next bs = none → P bs)
    (step : ∀ bs r rest, next bs = some (r, rest) → P rest → P bs) (bs : Bytes) : P bs := by
  induction hk : bs.length using Nat.strong_induction_on generalizing bs with
  | h k ih =>
    cases hnext : next bs with
    | none => exact stop bs hnext
    | some p =>
      obtain ⟨r, rest⟩ := p
      have hlt : rest.length < k := hk ▸ length_next hnext
      exact step bs r rest hnext (ih rest.length hlt rest rfl)

/-- **A string is its walk and its leftover.** -/
theorem encodeAll_walk (bs : Bytes) : encodeAll (walk bs).1 ++ (walk bs).2 = bs := by
  induction bs using walk_induction with
  | stop bs h => rw [walk_none h, encodeAll_nil, List.nil_append]
  | step bs r rest h ih =>
    rw [walk_some h, encodeAll_cons, List.append_assoc, ih, (next_eq_some h).2]

theorem fits_of_mem_walk (bs : Bytes) : ∀ r ∈ (walk bs).1, r.Fits := by
  induction bs using walk_induction with
  | stop bs h => simp [walk_none h]
  | step bs r rest h ih =>
    intro r' hr'
    rw [walk_some h] at hr'
    rcases List.mem_cons.mp hr' with rfl | hr'
    · exact (next_eq_some h).1
    · exact ih r' hr'

/-- **Written records are walked back**, up to what follows them. -/
theorem walk_encodeAll_append {rs : List Record} (hrs : ∀ r ∈ rs, r.Fits) {rest : Bytes}
    (hrest : next rest = none) : walk (encodeAll rs ++ rest) = (rs, rest) := by
  induction rs with
  | nil => exact walk_none hrest
  | cons r rs ih =>
    have hr : r.Fits := hrs r (List.mem_cons_self ..)
    have hnext := next_encode_append hr (encodeAll rs ++ rest)
    rw [encodeAll_cons, List.append_assoc, walk_some hnext,
      ih fun r' hr' => hrs r' (List.mem_cons_of_mem _ hr')]

theorem walk_encodeAll {rs : List Record} (hrs : ∀ r ∈ rs, r.Fits) :
    walk (encodeAll rs) = (rs, []) := by
  simpa using walk_encodeAll_append hrs next_nil

/-- A string that is records and nothing else. -/
def Whole (bs : Bytes) : Prop := ∃ rs : List Record, (∀ r ∈ rs, r.Fits) ∧ bs = encodeAll rs

/-- **Whole strings leave nothing over**, and only they. -/
theorem whole_iff (bs : Bytes) : Whole bs ↔ (walk bs).2 = [] := by
  constructor
  · rintro ⟨rs, hrs, rfl⟩
    rw [walk_encodeAll hrs]
  · intro h
    refine ⟨(walk bs).1, fits_of_mem_walk bs, ?_⟩
    conv_lhs => rw [← encodeAll_walk bs, h, List.append_nil]

end Record

end Common
