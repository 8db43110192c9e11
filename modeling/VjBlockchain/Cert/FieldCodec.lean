import VjBlockchain.Cert.Model
/-!
# Fields read back

What the builder serializes of a value, a fresh reader converts back to it: a
number, a UUID and a string exactly, a point in time rounded down to the
second. Rounding goes down before the epoch as well, since the seconds are a
floor.

For the types of one width the converse holds: the reader refuses every other
width, and what it returns is serialized to the octets it was read from.
-/

namespace VjBlockchain

open Common Common.Bytes Common.Throwing CertificateBuilder

namespace FieldReader

variable {α : Type}

/-- **A conversion and a serialization are inverse**, between all values and
all fields of `n` octets. -/
structure ReadsExactly (n : ℕ) (conversion : FieldReader α) (message : String)
    (serialize : α → Bytes) : Prop where
  back : ∀ a, fresh conversion (serialize a) = .ok a
  written : ∀ value, value.length = n → ∃ a, fresh conversion value = .ok a ∧ serialize a = value
  refused : ∀ value, fresh conversion value = .error (.java .fieldConversionException message) ↔
    value.length ≠ n

theorem readsExactly_fixedWidth {n : ℕ} {decoding : Bytes → α} {serialize : α → Bytes}
    (hlen : ∀ a, (serialize a).length = n) (hback : ∀ a, decoding (serialize a) = a)
    (hwritten : ∀ value, value.length = n → serialize (decoding value) = value)
    (message : String) :
    ReadsExactly n (fixedWidth n message decoding) message serialize where
  back := fun a => by rw [fresh_fixedWidth (hlen a), hback]
  written := fun value h => ⟨_, fresh_fixedWidth h .., hwritten value h⟩
  refused := by
    intro value
    constructor
    · intro hrefused h
      rw [fresh_fixedWidth h] at hrefused
      cases hrefused
    · exact fun h => fresh_fixedWidth_error h ..

/-- Numbers of `n` octets. -/
theorem readsExactly_word {n w : ℕ} (hw : 256 ^ n = 2 ^ w) (message : String) :
    ReadsExactly n (fixedWidth n message fun octets => BitVec.ofNat w (ofBE octets)) message
      fun v : BitVec w => toBE n v.toNat :=
  readsExactly_fixedWidth (fun _ => length_toBE ..) (ofNat_ofBE_toBE hw)
    (fun _ h => toBE_ofNat_ofBE hw h) message

/-! ## Short numbers -/

/-- Only the low sixteen bits of an `int` are serialized. -/
theorem serializeShort_eq (v : JInt) : serializeShort v = toBE 2 (v.setWidth 16).toNat := by
  have hsplit : v.toNat = v.toNat / 65536 * 256 ^ 2 + v.toNat % 65536 := by omega
  rw [serializeShort, hsplit, toBE_add_mul, BitVec.toNat_setWidth]

/-- A `short` is passed as an `int` of the same value. -/
theorem serializeShort_signExtend (v : BitVec 16) :
    serializeShort (v.signExtend 32) = toBE 2 v.toNat := by
  have hlow : (v.signExtend 32).setWidth 16 = v := by
    ext i hi
    have hi₃₂ : i < 32 := by omega
    simp [BitVec.getLsbD_eq_getElem, BitVec.getElem_signExtend, hi, hi₃₂]
  rw [serializeShort_eq, hlow]

/-! ## Points in time -/

/-- The product with a thousand is exact within these bounds, and only
there. -/
theorem toInt_mul_thousand_iff (s : BitVec 64) :
    (s * 1000).toInt = s.toInt * 1000 ↔
      -9223372036854775 ≤ s.toInt ∧ s.toInt ≤ 9223372036854775 := by
  have hthousand : (1000 : BitVec 64).toInt = 1000 := rfl
  rw [BitVec.toInt_mul, hthousand]
  constructor
  · intro h
    have hlo := Int.le_bmod (x := s.toInt * 1000) (m := 2 ^ 64) (by decide)
    have hhi := Int.bmod_lt (x := s.toInt * 1000) (m := 2 ^ 64) (by decide)
    rw [h] at hlo hhi
    omega
  · rintro ⟨hlo, hhi⟩
    exact Int.bmod_eq_of_le (by omega) (by omega)

/-- The second a date belongs to, in milliseconds. -/
def wholeSecond (millis : BitVec 64) : ℤ := millis.toInt.fdiv 1000 * 1000

/-- **A date is read back as its second.** -/
theorem asDate_serializeDate {millis : BitVec 64} (h : -2 ^ 63 ≤ wholeSecond millis) :
    ∃ back, fresh asDate (serializeDate millis) = .ok back ∧ back.toInt = wholeSecond millis := by
  have hmin := millis.le_toInt
  have hmax := millis.toInt_lt
  unfold wholeSecond at h ⊢
  have hfloor : millis.toInt.fdiv 1000 = millis.toInt / 1000 :=
    Int.fdiv_eq_ediv_of_nonneg _ (by decide)
  rw [hfloor] at h ⊢
  have hsecond : (BitVec.ofInt 64 (millis.toInt / 1000)).toInt = millis.toInt / 1000 := by
    rw [BitVec.toInt_ofInt]
    exact Int.bmod_eq_of_le (by omega) (by omega)
  refine ⟨BitVec.ofInt 64 (millis.toInt / 1000) * 1000, ?_, ?_⟩
  · rw [serializeDate, hfloor, asDate, fresh_fixedWidth (length_toBE ..),
      ofNat_ofBE_toBE (by decide)]
  · have hexact := (toInt_mul_thousand_iff (BitVec.ofInt 64 (millis.toInt / 1000))).mpr
    rw [hsecond] at hexact
    exact hexact (by omega)

/-- Within all three ranges there is a point in time. -/
theorem ofInstant_eq (z : Time.ZonedDateTime) :
    ofInstant z.instant.epochSecond z.offset.totalSeconds = .ok z.truncatedToSeconds := by
  have hinstant : Time.Instant.Supports z.instant.epochSecond :=
    ⟨z.instant.min_le_epochSecond, z.instant.epochSecond_le_max⟩
  have hoffset : Time.ZoneOffset.Supports z.offset.totalSeconds :=
    ⟨z.offset.min_le_totalSeconds, z.offset.totalSeconds_le_max⟩
  rw [ofInstant, Time.Instant.ofEpochSecond, dif_pos hinstant, ok_bind,
    Time.ZoneOffset.ofTotalSeconds, dif_pos hoffset, ok_bind]
  exact dif_pos z.supported

/-- **A date with an offset is read back as its second.** -/
theorem asZonedDateTime_serializeZonedDateTime (z : Time.ZonedDateTime) :
    fresh asZonedDateTime (serializeZonedDateTime z) =
      .ok z.truncatedToSeconds := by
  have hremaining : (CertificateFieldReader.new
      (serializeZonedDateTime z)).remaining = 12 := by
    rw [remaining_new, serializeZonedDateTime, List.length_append, length_toBE, length_toBE]
  have hsecond : dateTimeSecond (serializeZonedDateTime z) =
      z.instant.epochSecond := by
    rw [dateTimeSecond, serializeZonedDateTime, slice_append_left (length_toBE ..).ge,
      slice_self _ _ (length_toBE ..).le]
    exact ofNat_ofBE_toBE (by decide) _
  have hoffset : dateTimeOffset (serializeZonedDateTime z) =
      z.offset.totalSeconds := by
    rw [dateTimeOffset, serializeZonedDateTime, slice_append_right (length_toBE ..).le,
      length_toBE, slice_self _ _ (length_toBE ..).le]
    exact ofNat_ofBE_toBE (by decide) _
  rw [fresh, outcome_asZonedDateTime hremaining, array_new, hsecond, hoffset, ofInstant_eq]

/-! ## Strings -/

/-- **A string without unpaired surrogates is read back.** -/
theorem asString_serializeString {s : JString} (h : WellPaired s) :
    fresh asString (serializeString s) = .ok s := by
  obtain ⟨chars, hchars, rfl, hwritten⟩ := exists_chars h
  have hwalk : utf8Format.walk (serializeString (utf16All chars)) = (chars, []) := by
    rw [serializeString, hwritten]
    exact ItemFormat.walk_writeAll hchars
  rw [fresh]
  by_cases hempty : (serializeString (utf16All chars)).length = 0
  · -- nothing is written of no character only
    rw [List.length_eq_zero_iff.mp hempty] at hwalk ⊢
    obtain rfl : [] = chars := (Prod.mk.inj ((ItemFormat.walk_none ItemFormat.next_nil).symm.trans
      hwalk)).1
    rfl
  · have hok := asString_ok (r := .new (serializeString (utf16All chars)))
      (by rwa [remaining_new]) (congrArg Prod.snd hwalk)
    rw [Effect.outcome_ok hok]
    exact congrArg (fun w => Except.ok (utf16All w.1)) hwalk

/-- **The typed field codec.** Every value that is serialized is read back:
numbers and UUIDs exactly, an `int` added as a short as its low sixteen bits,
a string without unpaired surrogates exactly, a date as its second where that
is a `long` of milliseconds, a date with an offset as its second at that
offset. And every field of the right width, but of no other, is what is
serialized of the number or UUID it is read as. -/
theorem typed_field_codec :
    ReadsExactly 1 asByte "Field cannot be converted to a byte." serializeByte ∧
    ReadsExactly 2 asShort "Field cannot be converted to a short."
      (fun v => serializeShort (v.signExtend 32)) ∧
    (∀ v : JInt, fresh asShort (serializeShort v) = .ok (v.setWidth 16)) ∧
    ReadsExactly 4 asInt "Field cannot be converted to an int." serializeInt ∧
    ReadsExactly 8 asLong "Field cannot be converted to a long." serializeLong ∧
    ReadsExactly 16 asUUID "Field cannot be converted to a UUID." serializeUUID ∧
    (∀ s, WellPaired s → fresh asString (serializeString s) = .ok s) ∧
    (∀ millis, -2 ^ 63 ≤ wholeSecond millis → ∃ back,
      fresh asDate (serializeDate millis) = .ok back ∧ back.toInt = wholeSecond millis) ∧
    ∀ z : Time.ZonedDateTime, fresh asZonedDateTime (serializeZonedDateTime z) =
      .ok z.truncatedToSeconds := by
  have hshort := readsExactly_word (n := 2) (w := 16) (by decide)
    "Field cannot be converted to a short."
  refine ⟨readsExactly_word (by decide) _, ?_, ?_, readsExactly_word (by decide) _,
    readsExactly_word (by decide) _, ?_, fun s h => asString_serializeString h,
    fun millis h => asDate_serializeDate h, asZonedDateTime_serializeZonedDateTime⟩
  · simp only [serializeShort_signExtend]
    exact hshort
  · intro v
    rw [serializeShort_eq]
    exact hshort.back _
  · rw [asUUID_eq_fixedWidth]
    exact readsExactly_fixedWidth UuidUtil.length_getBytesFromUUID
      UuidUtil.halves_getBytesFromUUID (fun _ h => UuidUtil.getBytesFromUUID_halves h) _

/-- In the open: half a second before the epoch is read back as a second
before it. -/
theorem typed_field_codec_open :
    fresh asString (serializeString [0x56, 0xE9, 0xD83D, 0xDE00]) =
      .ok [0x56, 0xE9, 0xD83D, 0xDE00] ∧
    ∃ back, fresh asDate (serializeDate (-500)) = .ok back ∧ back.toInt = -1000 := by
  obtain ⟨-, -, -, -, -, -, hstring, hdate, -⟩ := typed_field_codec
  exact ⟨hstring _ (by simp [WellPaired, isHighSurrogate, isLowSurrogate, isSurrogate]),
    hdate (-500) (by decide)⟩

end FieldReader

end VjBlockchain
