import Mathlib.Data.List.Basic
import Mathlib.Data.UInt
import Mathlib.Tactic.Ring
/-!
# Byte strings — big-endian words and cuts

A byte string is a list of octets. `toBE w n` writes the low `w` octets of
`n`, most significant first; `ofBE` reads a whole string back as a number.
The two invert each other in both directions once the width is fixed, so a
field of a message and the number it carries are interchangeable.
-/

namespace Common

/-- A byte string. -/
abbrev Bytes := List UInt8

namespace Bytes

/-- The low `w` octets of `n`, most significant first. -/
def toBE : ℕ → ℕ → Bytes
  | 0, _ => []
  | w + 1, n => UInt8.ofNat (n / 256 ^ w) :: toBE w n

/-- The number a byte string spells, most significant octet first. -/
def ofBE : Bytes → ℕ
  | [] => 0
  | b :: bs => b.toNat * 256 ^ bs.length + ofBE bs

/-- `w` zero octets: a freshly allocated array. -/
def zeros (w : ℕ) : Bytes := List.replicate w 0

@[simp] theorem length_toBE (w n : ℕ) : (toBE w n).length = w := by
  induction w with
  | zero => rfl
  | succ w ih => simp [toBE, ih]

@[simp] theorem length_zeros (w : ℕ) : (zeros w).length = w := List.length_replicate

theorem zeros_add (m n : ℕ) : zeros (m + n) = zeros m ++ zeros n :=
  List.replicate_add ..

@[simp] theorem zeros_zero : zeros 0 = [] := rfl

theorem ofBE_lt (bs : Bytes) : ofBE bs < 256 ^ bs.length := by
  induction bs with
  | nil => simp [ofBE]
  | cons b bs ih =>
    have hb : b.toNat + 1 ≤ 256 := b.toNat_lt
    calc ofBE (b :: bs) < b.toNat * 256 ^ bs.length + 256 ^ bs.length := by
          simp only [ofBE]
          omega
      _ = (b.toNat + 1) * 256 ^ bs.length := by ring
      _ ≤ 256 * 256 ^ bs.length := Nat.mul_le_mul_right _ hb
      _ = 256 ^ (b :: bs).length := by rw [List.length_cons, Nat.pow_succ, Nat.mul_comm]

/-- **Reading back a written number** keeps its low `w` octets. -/
theorem ofBE_toBE_mod (w n : ℕ) : ofBE (toBE w n) = n % 256 ^ w := by
  induction w with
  | zero => simp [toBE, ofBE, Nat.mod_one]
  | succ w ih =>
    have hhead : (UInt8.ofNat (n / 256 ^ w)).toNat = n / 256 ^ w % 256 := UInt8.toNat_ofNat'
    rw [toBE, ofBE, length_toBE, hhead, ih, Nat.pow_succ, Nat.mod_mul, Nat.mul_comm]
    omega

theorem ofBE_toBE {w n : ℕ} (h : n < 256 ^ w) : ofBE (toBE w n) = n := by
  rw [ofBE_toBE_mod, Nat.mod_eq_of_lt h]

/-- Adding a multiple of `256 ^ w` does not change the low `w` octets. -/
theorem toBE_add_mul (w n k : ℕ) : toBE w (k * 256 ^ w + n) = toBE w n := by
  induction w generalizing k with
  | zero => rfl
  | succ w ih =>
    have hpow : k * 256 ^ (w + 1) = k * 256 * 256 ^ w := by ring
    have hhead : (k * 256 ^ (w + 1) + n) / 256 ^ w = k * 256 + n / 256 ^ w := by
      rw [hpow, Nat.add_comm, Nat.add_mul_div_right _ _ (Nat.pow_pos (by decide)), Nat.add_comm]
    have hoct : UInt8.ofNat (k * 256 + n / 256 ^ w) = UInt8.ofNat (n / 256 ^ w) := by
      apply UInt8.toNat_inj.mp
      simp only [UInt8.toNat_ofNat']
      omega
    rw [toBE, toBE, hhead, hoct, hpow, ih]

/-- **Writing back a read string** of the right width gives the string. -/
theorem toBE_ofBE (bs : Bytes) : toBE bs.length (ofBE bs) = bs := by
  induction bs with
  | nil => rfl
  | cons b bs ih =>
    have hlt := ofBE_lt bs
    have hdiv : (b.toNat * 256 ^ bs.length + ofBE bs) / 256 ^ bs.length = b.toNat := by
      rw [Nat.add_comm, Nat.add_mul_div_right _ _ (Nat.pow_pos (by decide)),
        Nat.div_eq_of_lt hlt, Nat.zero_add]
    rw [ofBE, List.length_cons, toBE, hdiv, toBE_add_mul, ih, UInt8.ofNat_toNat]

theorem ofBE_injective {as bs : Bytes} (hlen : as.length = bs.length)
    (h : ofBE as = ofBE bs) : as = bs := by
  rw [← toBE_ofBE as, ← toBE_ofBE bs, h, hlen]

/-- **A field holds a number exactly when it is that number written out.** -/
theorem ofBE_eq_iff {w n : ℕ} {bs : Bytes} (hlen : bs.length = w) (hn : n < 256 ^ w) :
    ofBE bs = n ↔ bs = toBE w n := by
  constructor
  · intro h
    exact ofBE_injective (by simp [hlen]) (by rw [h, ofBE_toBE hn])
  · rintro rfl
    exact ofBE_toBE hn

/-! ## Cuts -/

/-- The octets from position `i` up to, not including, position `j`. -/
def slice (bs : Bytes) (i j : ℕ) : Bytes := (bs.drop i).take (j - i)

@[simp] theorem length_slice (bs : Bytes) (i j : ℕ) :
    (slice bs i j).length = min (j - i) (bs.length - i) := by
  simp [slice]

theorem slice_zero (bs : Bytes) (j : ℕ) : slice bs 0 j = bs.take j := by
  simp [slice]

/-- A cut of what is left behind `k`. -/
theorem slice_drop (bs : Bytes) (k i j : ℕ) : slice (bs.drop k) i j = slice bs (k + i) (k + j) := by
  rw [slice, slice, List.drop_drop, Nat.add_sub_add_left]

/-- A cut that ends inside the first part is a cut of the first part. -/
theorem slice_append_left {as bs : Bytes} {i j : ℕ} (hj : j ≤ as.length) :
    slice (as ++ bs) i j = slice as i j := by
  rcases Nat.le_total i j with hij | hij
  · rw [slice, slice, List.drop_append_of_le_length (hij.trans hj), List.take_append_of_le_length]
    simp
    omega
  · simp [slice, Nat.sub_eq_zero_of_le hij]

/-- A cut that starts past the first part is a cut of the second. -/
theorem slice_append_right {as bs : Bytes} {i j : ℕ} (hi : as.length ≤ i) :
    slice (as ++ bs) i j = slice bs (i - as.length) (j - as.length) := by
  rw [slice, slice, List.drop_append, List.drop_eq_nil_of_le hi, List.nil_append]
  congr 1
  omega

@[simp] theorem slice_self (bs : Bytes) (j : ℕ) (h : bs.length ≤ j) : slice bs 0 j = bs := by
  rw [slice_zero, List.take_of_length_le h]

/-- A cut and what lies behind it. -/
theorem slice_append_drop (bs : Bytes) {i j : ℕ} (hij : i ≤ j) :
    slice bs i j ++ bs.drop j = bs.drop i := by
  have hdrop : bs.drop j = (bs.drop i).drop (j - i) := by
    rw [List.drop_drop]
    congr 1
    omega
  rw [slice, hdrop, List.take_append_drop]

/-- The cut exactly covering the middle of three parts. -/
theorem slice_mid {as ms bs : Bytes} {i j : ℕ} (hi : as.length = i)
    (hj : as.length + ms.length = j) : slice (as ++ (ms ++ bs)) i j = ms := by
  subst hi hj
  rw [slice_append_right le_rfl, slice_append_left (by omega), Nat.sub_self,
    slice_self _ _ (by omega)]

/-- A string can be cut anywhere inside. -/
theorem exists_cut (bs : Bytes) (n : ℕ) (h : n ≤ bs.length) :
    ∃ as cs, as.length = n ∧ cs.length = bs.length - n ∧ bs = as ++ cs :=
  ⟨bs.take n, bs.drop n, List.length_take_of_le h, List.length_drop,
    (List.take_append_drop n bs).symm⟩

end Bytes

end Common
