import VjBlockchain.Util.Words
/-!
# The native UUID conversion — `util/uuid_conv.c`

Native code takes a UUID apart and puts one together octet by octet, with a
mask and a shift for each. It does so on unsigned words, and hands them to
Java as `jlong`s of the same bits.
-/

namespace VjBlockchain

open Common Common.Bytes Common.Throwing

namespace UuidConv

/-- The conversion of an octet to `uint64_t`. -/
def widen (octet : UInt8) : BitVec 64 := octet.toBitVec.setWidth 64

/-- The conversion of a `uint64_t` to an octet. -/
def narrow (word : BitVec 64) : UInt8 := UInt8.ofBitVec (word.setWidth 8)

/-- `uuidFromBytes`, which reads sixteen octets. -/
def uuidFromBytes : Bytes → Except Fault UUID
  | b₀ :: b₁ :: b₂ :: b₃ :: b₄ :: b₅ :: b₆ :: b₇ ::
      b₈ :: b₉ :: b₁₀ :: b₁₁ :: b₁₂ :: b₁₃ :: b₁₄ :: b₁₅ :: _ =>
    let msb := widen b₀ <<< 56
      ||| widen b₁ <<< 48
      ||| widen b₂ <<< 40
      ||| widen b₃ <<< 32
      ||| widen b₄ <<< 24
      ||| widen b₅ <<< 16
      ||| widen b₆ <<< 8
      ||| widen b₇
    let lsb := widen b₈ <<< 56
      ||| widen b₉ <<< 48
      ||| widen b₁₀ <<< 40
      ||| widen b₁₁ <<< 32
      ||| widen b₁₂ <<< 24
      ||| widen b₁₃ <<< 16
      ||| widen b₁₄ <<< 8
      ||| widen b₁₅
    .ok ⟨msb, lsb⟩
  | _ => .error .outOfBounds

/-- `uuidToBytes`, as the sixteen octets it writes. -/
def uuidToBytes (uuid : UUID) : Bytes :=
  let msb := uuid.mostSignificantBits
  let lsb := uuid.leastSignificantBits
  [ narrow ((msb &&& 0xFF00000000000000) >>> 56)
  , narrow ((msb &&& 0x00FF000000000000) >>> 48)
  , narrow ((msb &&& 0x0000FF0000000000) >>> 40)
  , narrow ((msb &&& 0x000000FF00000000) >>> 32)
  , narrow ((msb &&& 0x00000000FF000000) >>> 24)
  , narrow ((msb &&& 0x0000000000FF0000) >>> 16)
  , narrow ((msb &&& 0x000000000000FF00) >>> 8)
  , narrow (msb &&& 0x00000000000000FF)
  , narrow ((lsb &&& 0xFF00000000000000) >>> 56)
  , narrow ((lsb &&& 0x00FF000000000000) >>> 48)
  , narrow ((lsb &&& 0x0000FF0000000000) >>> 40)
  , narrow ((lsb &&& 0x000000FF00000000) >>> 32)
  , narrow ((lsb &&& 0x00000000FF000000) >>> 24)
  , narrow ((lsb &&& 0x0000000000FF0000) >>> 16)
  , narrow ((lsb &&& 0x000000000000FF00) >>> 8)
  , narrow (lsb &&& 0x00000000000000FF) ]

example : uuidToBytes ⟨0x0123456789ABCDEF, 0xFEDCBA9876543210⟩ =
    [0x01, 0x23, 0x45, 0x67, 0x89, 0xAB, 0xCD, 0xEF,
      0xFE, 0xDC, 0xBA, 0x98, 0x76, 0x54, 0x32, 0x10] := by decide

/-! ## Octets of a word -/

/-- **A word is put together octet by octet**: the octets so far stand in front
of the place of the next. -/
theorem toNat_or_widen {word : BitVec 64} {n s : ℕ} (h : word.toNat = n * 2 ^ (s + 8))
    (hs : s + 8 ≤ 64) (octet : UInt8) :
    (word ||| widen octet <<< s).toNat = (n * 256 + octet.toNat) * 2 ^ s := by
  have hoctet : octet.toNat < 256 := octet.toNat_lt
  have hplace : octet.toNat * 2 ^ s < 2 ^ (s + 8) := by
    rw [Nat.pow_add, Nat.mul_comm]
    exact Nat.mul_lt_mul_of_pos_left hoctet (Nat.two_pow_pos s)
  have hword : octet.toNat * 2 ^ s < 2 ^ 64 :=
    hplace.trans_le (Nat.pow_le_pow_right (by decide) hs)
  have hwiden : (widen octet).toNat = octet.toNat := by
    rw [widen, BitVec.toNat_setWidth, UInt8.toNat_toBitVec, Nat.mod_eq_of_lt (by omega)]
  rw [BitVec.toNat_or, BitVec.toNat_shiftLeft, hwiden, Nat.shiftLeft_eq, Nat.mod_eq_of_lt hword, h,
    Nat.mul_comm n, ← Nat.two_pow_add_eq_or_of_lt hplace, Nat.pow_add]
  ring

/-- **Eight octets put together are the number they spell.** -/
theorem or_widen_eq (b₀ b₁ b₂ b₃ b₄ b₅ b₆ b₇ : UInt8) :
    widen b₀ <<< 56 ||| widen b₁ <<< 48 ||| widen b₂ <<< 40 ||| widen b₃ <<< 32
      ||| widen b₄ <<< 24 ||| widen b₅ <<< 16 ||| widen b₆ <<< 8 ||| widen b₇ =
      BitVec.ofNat 64 (ofBE [b₀, b₁, b₂, b₃, b₄, b₅, b₆, b₇]) := by
  have h₀ := @toNat_or_widen 0#64 0 56 rfl le_rfl b₀
  rw [BitVec.zero_or, Nat.zero_mul, Nat.zero_add] at h₀
  have h₁ := toNat_or_widen (s := 48) h₀ (by decide) b₁
  have h₂ := toNat_or_widen (s := 40) h₁ (by decide) b₂
  have h₃ := toNat_or_widen (s := 32) h₂ (by decide) b₃
  have h₄ := toNat_or_widen (s := 24) h₃ (by decide) b₄
  have h₅ := toNat_or_widen (s := 16) h₄ (by decide) b₅
  have h₆ := toNat_or_widen (s := 8) h₅ (by decide) b₆
  have h₇ := toNat_or_widen (s := 0) h₆ (by decide) b₇
  rw [BitVec.shiftLeft_zero] at h₇
  have hspell : ofBE [b₀, b₁, b₂, b₃, b₄, b₅, b₆, b₇] = ((((((b₀.toNat * 256 + b₁.toNat) * 256 +
      b₂.toNat) * 256 + b₃.toNat) * 256 + b₄.toNat) * 256 + b₅.toNat) * 256 + b₆.toNat) * 256 +
      b₇.toNat := by
    simp only [ofBE, List.length_cons, List.length_nil]
    omega
  have hlt : ofBE [b₀, b₁, b₂, b₃, b₄, b₅, b₆, b₇] < 2 ^ 64 := by
    simpa using ofBE_lt [b₀, b₁, b₂, b₃, b₄, b₅, b₆, b₇]
  apply BitVec.eq_of_toNat_eq
  rw [h₇, Nat.pow_zero, Nat.mul_one, BitVec.toNat_ofNat, Nat.mod_eq_of_lt hlt, hspell]

/-- **A masked and shifted octet** is that octet of the word. -/
theorem narrow_mask {word mask : BitVec 64} {s : ℕ} (h : mask >>> s = 0xFF) :
    narrow ((word &&& mask) >>> s) = UInt8.ofNat (word.toNat / 2 ^ s) := by
  have hlow : (word.toNat / 2 ^ s) &&& 255 = word.toNat / 2 ^ s % 256 :=
    Nat.and_two_pow_sub_one_eq_mod _ 8
  apply UInt8.toNat_inj.mp
  rw [BitVec.ushiftRight_and_distrib, h, narrow, UInt8.toNat_ofNat']
  show ((word >>> s &&& 0xFF).setWidth 8).toNat = _
  rw [BitVec.toNat_setWidth, BitVec.toNat_and, BitVec.toNat_ushiftRight, Nat.shiftRight_eq_div_pow]
  show (word.toNat / 2 ^ s &&& 255) % 256 = _
  rw [hlow, Nat.mod_mod]

/-- **Eight masked and shifted octets are the word written out.** -/
theorem narrow_masks_eq (word : BitVec 64) :
    [ narrow ((word &&& 0xFF00000000000000) >>> 56)
    , narrow ((word &&& 0x00FF000000000000) >>> 48)
    , narrow ((word &&& 0x0000FF0000000000) >>> 40)
    , narrow ((word &&& 0x000000FF00000000) >>> 32)
    , narrow ((word &&& 0x00000000FF000000) >>> 24)
    , narrow ((word &&& 0x0000000000FF0000) >>> 16)
    , narrow ((word &&& 0x000000000000FF00) >>> 8)
    , narrow (word &&& 0x00000000000000FF) ] = ByteUtil.htonll word := by
  have hlast : narrow (word &&& 0x00000000000000FF) = UInt8.ofNat (word.toNat / 2 ^ 0) :=
    narrow_mask (s := 0) rfl
  rw [narrow_mask rfl, narrow_mask rfl, narrow_mask rfl, narrow_mask rfl, narrow_mask rfl,
    narrow_mask rfl, narrow_mask rfl, hlast]
  rfl

/-- **The native writer is the Java one.** -/
theorem uuidToBytes_eq (uuid : UUID) : uuidToBytes uuid = UuidUtil.getBytesFromUUID uuid := by
  rw [UuidUtil.getBytesFromUUID, ← narrow_masks_eq, ← narrow_masks_eq]
  rfl

/-- **The native reader is the Java one**, wherever there are sixteen octets. -/
theorem uuidFromBytes_eq {bytes : Bytes} (h : 16 ≤ bytes.length) :
    uuidFromBytes bytes = .ok (UuidUtil.halves bytes) := by
  obtain ⟨front, rest, hfront, -, rfl⟩ := exists_cut bytes 16 h
  match front, hfront with
  | [b₀, b₁, b₂, b₃, b₄, b₅, b₆, b₇, b₈, b₉, b₁₀, b₁₁, b₁₂, b₁₃, b₁₄, b₁₅], _ =>
    have hmsb := or_widen_eq b₀ b₁ b₂ b₃ b₄ b₅ b₆ b₇
    have hlsb := or_widen_eq b₈ b₉ b₁₀ b₁₁ b₁₂ b₁₃ b₁₄ b₁₅
    show Except.ok (UUID.mk _ _) = _
    rw [hmsb, hlsb]
    rfl

/-- On fewer it reads behind the array. -/
theorem uuidFromBytes_short {bytes : Bytes} (h : bytes.length < 16) :
    uuidFromBytes bytes = .error .outOfBounds := by
  unfold uuidFromBytes
  split
  · simp only [List.length_cons] at h
    omega
  · rfl

end UuidConv

end VjBlockchain
