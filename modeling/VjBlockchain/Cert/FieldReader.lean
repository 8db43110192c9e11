import VjBlockchain.Cert.Strings
import VjBlockchain.Util.Time
/-!
# Conversions of a field

`CertificateFieldReader` with the position its buffer keeps. A relative read
moves it, and so does the decoder of a string, as far as it gets; the reads
of a date with an offset are absolute and leave it where it is. All that a
conversion knows of the field is its array and that position.

Six conversions want a field of one width and read it whole. They are one
method with a width, a message and a decoding.
-/

namespace VjBlockchain

open Common Common.Bytes Common.Throwing

/-- A reader of one value: the array, and how far it has been read. -/
structure CertificateFieldReader where
  array : Bytes
  position : ℕ
  deriving DecidableEq, Repr

namespace CertificateFieldReader

def new (fieldValue : Bytes) : CertificateFieldReader := ⟨fieldValue, 0⟩

def remaining (r : CertificateFieldReader) : ℕ := r.array.length - r.position

/-- `asByteArray`: the whole array, wherever the reader stands. -/
def asByteArray (r : CertificateFieldReader) : Bytes := r.array

end CertificateFieldReader

/-- A method of a field reader. -/
abbrev FieldReader := EStateM Fault CertificateFieldReader

namespace FieldReader

variable {α : Type}

/-! ## The buffer -/

/-- A relative read of `n` octets. -/
def get (n : ℕ) : FieldReader Bytes := fun r =>
  if n ≤ r.remaining then
    .ok (slice r.array r.position (r.position + n)) { r with position := r.position + n }
  else .error (.java .bufferUnderflowException "") r

/-- `getLong()`. -/
def getLong : FieldReader (BitVec 64) := do
  let octets ← get 8
  pure (BitVec.ofNat 64 (ofBE octets))

/-- An absolute read of `n` octets. -/
def getAt (index n : ℕ) : FieldReader Bytes := fun r =>
  if index + n ≤ r.array.length then .ok (slice r.array index (index + n)) r
  else .error (.java .indexOutOfBoundsException "") r

/-- `newDecoder().decode(buf)`: the position ends up behind the last character
that is well formed. -/
def decode : FieldReader JString := fun r =>
  let (chars, rest) := utf8Format.walk (r.array.drop r.position)
  let r := { r with position := r.array.length - rest.length }
  if rest = [] then .ok (utf16All chars) r
  else .error (.java .characterCodingException "") r

/-! ## The conversions -/

/-- The remaining octets are as many as the conversion takes. -/
def requireRemaining (n : ℕ) (message : String) : FieldReader Unit := fun r =>
  if r.remaining < n ∨ r.remaining > n then
    .error (.java .fieldConversionException message) r
  else .ok () r

/-- A conversion of a field of `n` octets. -/
def fixedWidth (n : ℕ) (message : String) (decoding : Bytes → α) : FieldReader α := do
  requireRemaining n message
  let octets ← get n
  pure (decoding octets)

def asByte : FieldReader (BitVec 8) :=
  fixedWidth 1 "Field cannot be converted to a byte." fun octets => BitVec.ofNat 8 (ofBE octets)

def asShort : FieldReader (BitVec 16) :=
  fixedWidth 2 "Field cannot be converted to a short." fun octets => BitVec.ofNat 16 (ofBE octets)

def asInt : FieldReader JInt :=
  fixedWidth 4 "Field cannot be converted to an int." fun octets => BitVec.ofNat 32 (ofBE octets)

def asLong : FieldReader (BitVec 64) :=
  fixedWidth 8 "Field cannot be converted to a long." fun octets => BitVec.ofNat 64 (ofBE octets)

/-- Two reads of a half. -/
def asUUID : FieldReader UUID := do
  requireRemaining 16 "Field cannot be converted to a UUID."
  let msb ← getLong
  let lsb ← getLong
  pure ⟨msb, lsb⟩

/-- Whatever the decoder throws becomes the declared exception. -/
def asString : FieldReader JString := fun r =>
  if r.remaining < 1 then .ok [] r
  else
    match decode r with
    | .ok s r => .ok s r
    | .error _ r => .error (.java .fieldConversionException
        "Encountered exception while converting string.") r

/-- A `Date`, as its milliseconds; the product is a `long`. -/
def asDate : FieldReader (BitVec 64) :=
  fixedWidth 8 "Field cannot be converted to a Date." fun octets =>
    BitVec.ofNat 64 (ofBE octets) * 1000

/-- The point in time of a second count and an offset. -/
def ofInstant (timeEpochSeconds : BitVec 64) (timeOffset : BitVec 32) :
    Except Fault Time.ZonedDateTime := do
  let instant ← Time.Instant.ofEpochSecond timeEpochSeconds
  let offset ← Time.ZoneOffset.ofTotalSeconds timeOffset
  Time.ZonedDateTime.ofInstant instant offset

def asZonedDateTime : FieldReader Time.ZonedDateTime := do
  requireRemaining 12 "Field cannot be converted to a ZonedDateTime."
  let timeEpochSeconds ← getAt 0 8
  let timeOffset ← getAt 8 4
  Effect.lift
    (ofInstant (BitVec.ofNat 64 (ofBE timeEpochSeconds)) (BitVec.ofNat 32 (ofBE timeOffset)))

def asByteArray : FieldReader Bytes := fun r => .ok r.asByteArray r

end FieldReader

namespace CertificateFieldReader

/-- `asUUID`, as a reader that is asked once answers it. -/
def asUUID (r : CertificateFieldReader) : Except Fault UUID :=
  (Effect.outcome FieldReader.asUUID r).1

end CertificateFieldReader

namespace FieldReader

variable {α : Type}

/-- **A conversion on a fresh reader.** -/
def fresh (conversion : FieldReader α) (value : Bytes) : Except Fault α :=
  (Effect.outcome conversion (.new value)).1

/-! ## What they do -/

theorem requireRemaining_pos {n : ℕ} {r : CertificateFieldReader} (h : r.remaining = n)
    (message : String) : requireRemaining n message r = .ok () r := by
  rw [requireRemaining, if_neg (by omega)]

theorem requireRemaining_neg {n : ℕ} {r : CertificateFieldReader} (h : r.remaining ≠ n)
    (message : String) :
    requireRemaining n message r = .error (.java .fieldConversionException message) r := by
  rw [requireRemaining, if_pos (by omega)]

/-- Reading as many octets as remain. -/
theorem get_eq {n : ℕ} {r : CertificateFieldReader} (h : n ≤ r.remaining) :
    get n r = .ok (slice r.array r.position (r.position + n))
      { r with position := r.position + n } := if_pos h

/-- **A field of the right width is read whole, and to its end.** -/
theorem fixedWidth_ok {n : ℕ} {r : CertificateFieldReader} (h : r.remaining = n)
    (message : String) (decoding : Bytes → α) :
    fixedWidth n message decoding r =
      .ok (decoding (r.array.drop r.position)) { r with position := r.position + n } := by
  have hall : slice r.array r.position (r.position + n) = r.array.drop r.position := by
    rw [slice, Nat.add_sub_cancel_left]
    exact List.take_of_length_le (by rw [List.length_drop, ← h, CertificateFieldReader.remaining])
  rw [fixedWidth, Effect.bind_ok (requireRemaining_pos h message),
    Effect.bind_ok (get_eq h.ge), hall]
  rfl

/-- A field of another width is refused, and the reader stays. -/
theorem fixedWidth_error {n : ℕ} {r : CertificateFieldReader} (h : r.remaining ≠ n)
    (message : String) (decoding : Bytes → α) :
    fixedWidth n message decoding r = .error (.java .fieldConversionException message) r :=
  Effect.bind_error (requireRemaining_neg h message)

theorem getLong_eq {r : CertificateFieldReader} (h : 8 ≤ r.remaining) :
    getLong r = .ok (BitVec.ofNat 64 (ofBE (slice r.array r.position (r.position + 8))))
      { r with position := r.position + 8 } := Effect.bind_ok (get_eq h)

/-- The two halves are the sixteen octets. -/
theorem asUUID_eq_fixedWidth :
    asUUID = fixedWidth 16 "Field cannot be converted to a UUID." UuidUtil.halves := by
  funext r
  by_cases h : r.remaining = 16
  · have hsecond : 8 ≤ ({ r with position := r.position + 8 } :
        CertificateFieldReader).remaining := by
      unfold CertificateFieldReader.remaining at h ⊢
      dsimp only
      omega
    rw [fixedWidth_ok h, asUUID, Effect.bind_ok (requireRemaining_pos h _),
      Effect.bind_ok (getLong_eq (by omega)), Effect.bind_ok (getLong_eq hsecond),
      UuidUtil.halves, slice_drop, slice_drop]
    rfl
  · rw [fixedWidth_error h]
    exact Effect.bind_error (requireRemaining_neg h _)

/-- Sixteen octets are a UUID, and no other number of them. -/
theorem asUUID_eq (r : CertificateFieldReader) :
    r.asUUID = if r.remaining = 16 then .ok (UuidUtil.halves (r.array.drop r.position))
      else .error (.java .fieldConversionException "Field cannot be converted to a UUID.") := by
  rw [CertificateFieldReader.asUUID, asUUID_eq_fixedWidth]
  split
  · rename_i h
    rw [Effect.outcome_ok (fixedWidth_ok h ..)]
  · rename_i h
    rw [Effect.outcome_error (fixedWidth_error h ..)]

/-- **The end of a string**: the decoder stops at the leftover of a walk. -/
theorem decode_eq (r : CertificateFieldReader) :
    decode r = if (utf8Format.walk (r.array.drop r.position)).2 = [] then
        .ok (utf16All (utf8Format.walk (r.array.drop r.position)).1)
          { r with position := r.array.length }
      else .error (.java .characterCodingException "")
        { r with position :=
          r.array.length - (utf8Format.walk (r.array.drop r.position)).2.length } := by
  unfold decode
  dsimp only
  split
  · rename_i h
    rw [h]
    rfl
  · rfl

/-- Nothing left to read is the empty string. -/
theorem asString_empty {r : CertificateFieldReader} (h : r.remaining = 0) :
    asString r = .ok [] r := if_pos (by omega)

theorem asString_ok {r : CertificateFieldReader} (h : r.remaining ≠ 0)
    (hwalk : (utf8Format.walk (r.array.drop r.position)).2 = []) :
    asString r = .ok (utf16All (utf8Format.walk (r.array.drop r.position)).1)
      { r with position := r.array.length } := by
  rw [asString, if_neg (by omega), decode_eq, if_pos hwalk]

/-- A malformed string is refused, and the reader left in front of what is
malformed. -/
theorem asString_error {r : CertificateFieldReader} (h : r.remaining ≠ 0)
    (hwalk : (utf8Format.walk (r.array.drop r.position)).2 ≠ []) :
    asString r = .error (.java .fieldConversionException
        "Encountered exception while converting string.")
      { r with position :=
        r.array.length - (utf8Format.walk (r.array.drop r.position)).2.length } := by
  rw [asString, if_neg (by omega), decode_eq, if_neg hwalk]

/-- The seconds of a field of twelve octets, and its offset. -/
def dateTimeSecond (array : Bytes) : BitVec 64 := BitVec.ofNat 64 (ofBE (slice array 0 8))
def dateTimeOffset (array : Bytes) : BitVec 32 := BitVec.ofNat 32 (ofBE (slice array 8 12))

/-- **A date with an offset** is read from the front of the array, without
moving. -/
theorem outcome_asZonedDateTime {r : CertificateFieldReader} (h : r.remaining = 12) :
    Effect.outcome asZonedDateTime r =
      (ofInstant (dateTimeSecond r.array) (dateTimeOffset r.array), r) := by
  have hlen : 12 ≤ r.array.length := by
    unfold CertificateFieldReader.remaining at h
    omega
  have hsecond : getAt 0 8 r = .ok (slice r.array 0 8) r := if_pos (by omega)
  have hoffset : getAt 8 4 r = .ok (slice r.array 8 12) r := if_pos (by omega)
  rw [asZonedDateTime, Effect.outcome_bind_ok (requireRemaining_pos h _),
    Effect.outcome_bind_ok hsecond, Effect.outcome_bind_ok hoffset]
  exact Effect.outcome_lift ..

theorem asZonedDateTime_error {r : CertificateFieldReader} (h : r.remaining ≠ 12) :
    asZonedDateTime r = .error (.java .fieldConversionException
      "Field cannot be converted to a ZonedDateTime.") r :=
  Effect.bind_error (requireRemaining_neg h _)

/-- A second count and an offset that are a point in time: each has its range,
and so has the local date. -/
structure Representable (timeEpochSeconds : BitVec 64) (timeOffset : BitVec 32) : Prop where
  instant : Time.Instant.Supports timeEpochSeconds
  offset : Time.ZoneOffset.Supports timeOffset
  localDate : Time.LocalDateTime.Supports timeEpochSeconds timeOffset

/-- **Out of range is an exception of the library.** -/
theorem ofInstant_cases (timeEpochSeconds : BitVec 64) (timeOffset : BitVec 32) :
    (Representable timeEpochSeconds timeOffset ∧
      ∃ z, ofInstant timeEpochSeconds timeOffset = .ok z) ∨
    (¬Representable timeEpochSeconds timeOffset ∧ ∃ message,
      ofInstant timeEpochSeconds timeOffset = .error (.java .dateTimeException message)) := by
  unfold ofInstant Time.Instant.ofEpochSecond
  by_cases hinstant : Time.Instant.Supports timeEpochSeconds
  swap
  · rw [dif_neg hinstant, error_bind]
    exact .inr ⟨fun h => hinstant h.instant, _, rfl⟩
  rw [dif_pos hinstant, ok_bind]
  unfold Time.ZoneOffset.ofTotalSeconds
  by_cases hoffset : Time.ZoneOffset.Supports timeOffset
  swap
  · rw [dif_neg hoffset, error_bind]
    exact .inr ⟨fun h => hoffset h.offset, _, rfl⟩
  rw [dif_pos hoffset, ok_bind]
  unfold Time.ZonedDateTime.ofInstant
  by_cases hlocal : Time.LocalDateTime.Supports timeEpochSeconds timeOffset
  · exact .inl ⟨⟨hinstant, hoffset, hlocal⟩, _, dif_pos hlocal⟩
  · exact .inr ⟨fun h => hlocal h.localDate, _, dif_neg hlocal⟩

/-! ## Fresh readers -/

theorem array_new (value : Bytes) : (CertificateFieldReader.new value).array = value := rfl

/-- A fresh reader has everything in front of it. -/
theorem remaining_new (value : Bytes) :
    (CertificateFieldReader.new value).remaining = value.length := rfl

theorem fresh_fixedWidth {n : ℕ} {value : Bytes} (h : value.length = n) (message : String)
    (decoding : Bytes → α) :
    fresh (fixedWidth n message decoding) value = .ok (decoding value) := by
  rw [fresh, Effect.outcome_ok (fixedWidth_ok ((remaining_new value).trans h) message decoding)]
  rfl

theorem fresh_fixedWidth_error {n : ℕ} {value : Bytes} (h : value.length ≠ n) (message : String)
    (decoding : Bytes → α) : fresh (fixedWidth n message decoding) value =
      .error (.java .fieldConversionException message) := by
  rw [fresh, Effect.outcome_error (fixedWidth_error (r := .new value) h message decoding)]

end FieldReader

end VjBlockchain
