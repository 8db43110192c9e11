import VjBlockchain.Util.Runtime
/-!
# Words and identifiers — `ByteUtil`, `UuidUtil`, `EqualsUtil`

Network byte order for the two machine words of the protocol, the sixteen
octets of a UUID, and the comparison that looks at every octet. Each pair of
a writer and a reader inverts.
-/

namespace VjBlockchain

open Common Common.Bytes Common.Throwing

/-- A Java `int`, boxed or not. -/
abbrev JInt := BitVec 32

/-- The size of an array fits an `int`. -/
theorem toInt_ofNat_size {n : ℕ} (h : n < 2 ^ 31) : (BitVec.ofNat 32 n).toInt = n := by
  have hnat : (BitVec.ofNat 32 n).toNat = n := Nat.mod_eq_of_lt (by omega)
  rw [BitVec.toInt_eq_toNat_of_lt (by omega), hnat]

/-- Widened to the size of a buffer it stays what it is. -/
theorem toNat_signExtend_size {n : ℕ} (h : n < 2 ^ 31) :
    ((BitVec.ofNat 32 n).signExtend 64).toNat = n := by
  have hmsb : (BitVec.ofNat 32 n).msb = false := by
    rw [BitVec.msb_eq_decide, BitVec.toNat_ofNat, Nat.mod_eq_of_lt (by omega)]
    simpa using h
  rw [BitVec.signExtend_eq_setWidth_of_msb_false hmsb, BitVec.toNat_setWidth, BitVec.toNat_ofNat]
  omega

/-- A size past those of an array, up to twice as many, is negative as an `int`. -/
theorem toInt_ofNat_neg {n : ℕ} (hbig : 2 ^ 31 ≤ n) (h : n < 2 ^ 32) :
    (BitVec.ofNat 32 n).toInt < 0 := by
  have hnat : (BitVec.ofNat 32 n).toNat = n := Nat.mod_eq_of_lt h
  rw [BitVec.toInt_eq_toNat_cond, hnat]
  split <;> omega

/-- JNI `NewByteArray`: the size is cut to 32 bits, and a negative one is
refused. -/
def newByteArray (size : ℕ) (failure : String) : Except Fault Bytes :=
  let length := (BitVec.ofNat 32 size).toInt
  if 0 ≤ length then .ok (zeros length.toNat) else .error (.java .nullPointerException failure)

theorem newByteArray_eq {size : ℕ} (h : size < 2 ^ 31) (failure : String) :
    newByteArray size failure = .ok (zeros size) := by
  unfold newByteArray
  simp [toInt_ofNat_size h]

/-- Sizes past those of an array, up to twice as many, come out negative. -/
theorem lt_of_newByteArray {size : ℕ} {failure : String} {a : Bytes} (h : size < 2 ^ 32)
    (hok : newByteArray size failure = .ok a) : size < 2 ^ 31 := by
  unfold newByteArray at hok
  by_contra hbig
  have hneg := toInt_ofNat_neg (n := size) (by omega) h
  rw [if_neg (by omega)] at hok
  cases hok

/-- They are refused with an exception. -/
theorem newByteArray_error {size : ℕ} (hbig : 2 ^ 31 ≤ size) (h : size < 2 ^ 32)
    (failure : String) :
    newByteArray size failure = .error (.java .nullPointerException failure) := by
  have hneg := toInt_ofNat_neg hbig h
  exact if_neg (by omega)

/-- JNI `NewByteArray` for octets that are copied into it. The size of an array
is an `int`, so there is none of 2^31 octets or more. -/
def toByteArray (octets : Bytes) (failure : Fault) : Except Fault Bytes := do
  check (octets.length < 2 ^ 31) failure
  .ok octets

theorem toByteArray_eq {octets : Bytes} (h : octets.length < 2 ^ 31) (failure : Fault) :
    toByteArray octets failure = .ok octets := by
  rw [toByteArray, check_pos h, ok_bind]

theorem toByteArray_eq_ok_iff {octets a : Bytes} {failure : Fault} :
    toByteArray octets failure = .ok a ↔ octets.length < 2 ^ 31 ∧ a = octets := by
  constructor
  · intro h
    obtain ⟨_, hsize, h⟩ := bind_eq_ok_iff.mp h
    exact ⟨check_eq_ok_iff.mp hsize, (Except.ok.inj h).symm⟩
  · rintro ⟨hsize, rfl⟩
    exact toByteArray_eq hsize failure

/-- Java `new byte[length]`. -/
def newArray (length : BitVec 32) : Except Fault Bytes :=
  if length.toInt < 0 then .error (.java .negativeArraySizeException "")
  else .ok (zeros length.toInt.toNat)

theorem newArray_eq {n : ℕ} (h : n < 2 ^ 31) : newArray (BitVec.ofNat 32 n) = .ok (zeros n) := by
  rw [newArray, toInt_ofNat_size h, if_neg (by omega), Int.toNat_natCast]

/-- Sizes past those of an array, up to twice as many, are refused. -/
theorem newArray_error {n : ℕ} (hbig : 2 ^ 31 ≤ n) (h : n < 2 ^ 32) :
    newArray (BitVec.ofNat 32 n) = .error (.java .negativeArraySizeException "") := by
  rw [newArray, if_pos (toInt_ofNat_neg hbig h)]

theorem length_of_newArray {length : BitVec 32} {a : Bytes} (h : newArray length = .ok a) :
    a.length < 2 ^ 31 := by
  obtain ⟨-, ha⟩ := (ite_eq_iff.mp h).resolve_left fun hneg => nomatch hneg.2
  have hlt := length.toInt_lt
  rw [← Except.ok.inj ha, length_zeros]
  omega

/-! ## Words of octets -/

/-- **A word written is the word read**, when it has as many values as its
octets. -/
theorem ofNat_ofBE_toBE {n w : ℕ} (hw : 256 ^ n = 2 ^ w) (v : BitVec w) :
    BitVec.ofNat w (ofBE (toBE n v.toNat)) = v := by
  rw [ofBE_toBE (hw ▸ v.isLt), BitVec.ofNat_toNat, BitVec.setWidth_eq]

/-- Octets read as a word are written back as they were. -/
theorem toBE_ofNat_ofBE {n w : ℕ} (hw : 256 ^ n = 2 ^ w) {bs : Bytes} (h : bs.length = n) :
    toBE n (BitVec.ofNat w (ofBE bs)).toNat = bs := by
  have hlt : ofBE bs < 2 ^ w := by
    rw [← hw, ← h]
    exact ofBE_lt bs
  rw [BitVec.toNat_ofNat, Nat.mod_eq_of_lt hlt, ← h, toBE_ofBE]

namespace ByteUtil

/-- The four octets of an `int`. -/
def htonl (val : BitVec 32) : Bytes := toBE 4 val.toNat

/-- The eight octets of a `long`. -/
def htonll (val : BitVec 64) : Bytes := toBE 8 val.toNat

/-- Four octets as a `long`, the upper half zero. -/
def ntohl (val : Bytes) : Except Fault ℕ := do
  check (val.length = 4) (.java .illegalArgumentException "expected 4 byte array")
  .ok (ofBE val)

def merge (array1 array2 : Bytes) : Bytes := array1 ++ array2

@[simp] theorem length_htonl (v : BitVec 32) : (htonl v).length = 4 := length_toBE ..

@[simp] theorem length_htonll (v : BitVec 64) : (htonll v).length = 8 := length_toBE ..

theorem ntohl_eq {val : Bytes} (h : val.length = 4) : ntohl val = .ok (ofBE val) := by
  rw [ntohl, check_pos h]
  rfl

@[simp] theorem ofBE_htonl (v : BitVec 32) : ofBE (htonl v) = v.toNat :=
  ofBE_toBE v.isLt

@[simp] theorem ofBE_htonll (v : BitVec 64) : ofBE (htonll v) = v.toNat :=
  ofBE_toBE v.isLt

@[simp] theorem ntohl_htonl (v : BitVec 32) : ntohl (htonl v) = .ok v.toNat := by
  rw [ntohl_eq (length_htonl v), ofBE_htonl]

/-- A four-octet field carries the word `v` exactly when it is `htonl v`. -/
theorem ofBE_eq_iff_htonl {bs : Bytes} {v : BitVec 32} (h : bs.length = 4) :
    ofBE bs = v.toNat ↔ bs = htonl v :=
  ofBE_eq_iff h v.isLt

/-- Every four-octet field is the network order of a word. -/
theorem exists_htonl {bs : Bytes} (h : bs.length = 4) : ∃ v, bs = htonl v := by
  have hlt : ofBE bs < 2 ^ 32 := by simpa [h] using ofBE_lt bs
  refine ⟨BitVec.ofNat 32 (ofBE bs), (ofBE_eq_iff_htonl h).mp ?_⟩
  rw [BitVec.toNat_ofNat, Nat.mod_eq_of_lt hlt]

end ByteUtil

/-- A UUID as its two halves. -/
structure UUID where
  mostSignificantBits : BitVec 64
  leastSignificantBits : BitVec 64
  deriving DecidableEq, Repr

/-- A hexadecimal number of `w` digits. -/
def hexPad (w n : ℕ) : String :=
  let digits := Nat.toDigits 16 n
  String.ofList (List.replicate (w - digits.length) '0' ++ digits)

/-- `UUID.toString`. -/
def UUID.toString (u : UUID) : String :=
  let hi := u.mostSignificantBits.toNat
  let lo := u.leastSignificantBits.toNat
  hexPad 8 (hi / 2 ^ 32) ++ "-" ++ hexPad 4 (hi / 2 ^ 16 % 2 ^ 16) ++ "-" ++
    hexPad 4 (hi % 2 ^ 16) ++ "-" ++ hexPad 4 (lo / 2 ^ 48) ++ "-" ++ hexPad 12 (lo % 2 ^ 48)

namespace UuidUtil

def getBytesFromUUID (uuid : UUID) : Bytes :=
  ByteUtil.htonll uuid.mostSignificantBits ++ ByteUtil.htonll uuid.leastSignificantBits

/-- The two halves at the front of a string. -/
def halves (bytes : Bytes) : UUID :=
  ⟨BitVec.ofNat 64 (ofBE (slice bytes 0 8)), BitVec.ofNat 64 (ofBE (slice bytes 8 16))⟩

/-- Two `getLong` calls on the array; what follows the sixteenth octet is not
looked at. -/
def getUUIDFromBytes (bytes : Bytes) : Except Fault UUID := do
  check (16 ≤ bytes.length) (.java .bufferUnderflowException "")
  .ok (halves bytes)

@[simp] theorem length_getBytesFromUUID (u : UUID) : (getBytesFromUUID u).length = 16 := by
  simp [getBytesFromUUID]

theorem getUUIDFromBytes_eq {bytes : Bytes} (h : 16 ≤ bytes.length) :
    getUUIDFromBytes bytes = .ok (halves bytes) := by
  rw [getUUIDFromBytes, check_pos h, ok_bind]

/-- **A UUID written is the UUID read.** -/
@[simp] theorem halves_getBytesFromUUID (u : UUID) : halves (getBytesFromUUID u) = u := by
  have hhi : slice (getBytesFromUUID u) 0 8 = ByteUtil.htonll u.mostSignificantBits := by
    rw [getBytesFromUUID, slice_append_left (by simp), slice_self _ _ (by simp)]
  have hlo : slice (getBytesFromUUID u) 8 16 = ByteUtil.htonll u.leastSignificantBits := by
    rw [getBytesFromUUID, slice_append_right (by simp)]
    simp
  rw [halves, hhi, hlo]
  simp

/-- **Sixteen octets read as a UUID** are written back as they were. -/
theorem getBytesFromUUID_halves {bytes : Bytes} (h : bytes.length = 16) :
    getBytesFromUUID (halves bytes) = bytes := by
  have hword : ∀ bs : Bytes, bs.length = 8 → ByteUtil.htonll (BitVec.ofNat 64 (ofBE bs)) = bs := by
    intro bs hbs
    have hlt : ofBE bs < 2 ^ 64 := by
      have hbound := ofBE_lt bs
      rw [hbs] at hbound
      exact hbound
    have hback := toBE_ofBE bs
    rwa [ByteUtil.htonll, BitVec.toNat_ofNat, Nat.mod_eq_of_lt hlt, ← hbs]
  have hrest : slice bytes 8 16 = bytes.drop 8 := List.take_of_length_le (by simp [h])
  rw [getBytesFromUUID, halves, hword _ (by simp [h]), hword _ (by simp [h]), slice_zero, hrest,
    List.take_append_drop]

end UuidUtil

namespace EqualsUtil

/-- One turn of the scan: octet `i` is missing on a side, or differs. -/
def differsAt (a b : Bytes) (i : ℕ) : Bool :=
  a.length ≤ i || b.length ≤ i || a[i]? != b[i]?

/-- The scan runs over the longer array to its end, whatever it has seen. -/
def constantTimeEqual : Option Bytes → Option Bytes → Bool
  | none, none => true
  | none, some _ => false
  | some _, none => false
  | some a, some b =>
    (List.range (max a.length b.length)).foldl
      (fun m i => if differsAt a b i then false else m) true

theorem foldl_scan (p : ℕ → Bool) (is : List ℕ) (m : Bool) :
    is.foldl (fun m i => if p i then false else m) m = (m && is.all fun i => !p i) := by
  induction is generalizing m with
  | nil => simp
  | cons i is ih =>
    rw [List.foldl_cons, ih, List.all_cons]
    cases p i <;> simp

/-- **The scan decides equality.** -/
theorem constantTimeEqual_iff (a b : Bytes) :
    constantTimeEqual (some a) (some b) = true ↔ a = b := by
  rw [constantTimeEqual, foldl_scan, Bool.true_and, List.all_eq_true]
  constructor
  · intro h
    have hat : ∀ i, i < max a.length b.length → i < a.length ∧ i < b.length ∧ a[i]? = b[i]? := by
      intro i hi
      simpa [differsAt, and_assoc] using h i (List.mem_range.mpr hi)
    have hlen : a.length = b.length := by
      by_contra hne
      have := hat (min a.length b.length) (by omega)
      omega
    apply List.ext_getElem? fun i => ?_
    rcases Nat.lt_or_ge i (max a.length b.length) with hi | hi
    · exact (hat i hi).2.2
    · rw [List.getElem?_eq_none (by omega), List.getElem?_eq_none (by omega)]
  · rintro rfl i hi
    have : i < a.length := by simpa using hi
    simp [differsAt, this]

end EqualsUtil

end VjBlockchain
