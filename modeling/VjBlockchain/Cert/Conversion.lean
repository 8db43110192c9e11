import VjBlockchain.Cert.FieldCodec
import VjBlockchain.Cert.Rereading
/-!
# What a conversion makes of any field

The octets of a field are somebody else's. All conversions declare one
exception and check lengths; what they do not check are the ranges of the
library types behind them. A date with an offset throws the library's own
exception when its second or its offset is out of range, or the local date
between them. A date does not throw, and is another date when its
milliseconds do not fit a `long`.
-/

namespace VjBlockchain

open Common Common.Bytes Common.Throwing CertificateBuilder FieldReader

/-- **A declared outcome**: a value, or the exception that all conversions
declare. -/
def Declared {α : Type} (x : Except Fault α) : Prop :=
  ∀ f, x = .error f → ∃ message, f = .java .fieldConversionException message

namespace Declared

variable {α β : Type}

theorem ok (a : α) : Declared (.ok a : Except Fault α) := by
  intro f h
  cases h

theorem refused (message : String) :
    Declared (.error (.java .fieldConversionException message) : Except Fault α) := by
  intro f h
  exact ⟨message, (Except.error.inj h).symm⟩

theorem map_iff {x : Except Fault α} (f : α → β) : Declared (x.map f) ↔ Declared x := by
  constructor
  · intro h e he
    exact h e (by rw [he]; rfl)
  · intro h e he
    exact h e (map_eq_error he)

end Declared

/-- Only a date with an offset may end otherwise. -/
theorem declared_of_ne {c : FieldCall} (hc : c ≠ .asZonedDateTime) (r : CertificateFieldReader) :
    Declared (Effect.outcome c.run r).1 := by
  cases c.kind with
  | @fixed n message decoding _ hrun _ _ =>
    rw [hrun]
    by_cases h : r.remaining = n
    · rw [Effect.outcome_ok (fixedWidth_ok h message decoding)]
      exact .ok _
    · rw [Effect.outcome_error (fixedWidth_error h message decoding)]
      exact .refused _
  | string h =>
    subst h
    rw [FieldCall.run, Effect.outcome_bind_pure, Declared.map_iff]
    by_cases hempty : r.remaining = 0
    · rw [Effect.outcome_ok (asString_empty hempty)]
      exact .ok _
    · by_cases hwalk : (utf8Format.walk (r.array.drop r.position)).2 = []
      · rw [Effect.outcome_ok (asString_ok hempty hwalk)]
        exact .ok _
      · rw [Effect.outcome_error (asString_error hempty hwalk)]
        exact .refused _
  | dateTime h => exact absurd h hc
  | array h =>
    subst h
    exact .ok _

/-- **When a conversion fails in the declared way only**, wherever the reader
stands: unless it is the one of a date with an offset, with twelve octets left
and a second and an offset at the front of the field that are no point in
time. -/
theorem declared_iff (c : FieldCall) (r : CertificateFieldReader) :
    Declared (Effect.outcome c.run r).1 ↔ (c = .asZonedDateTime → r.remaining = 12 →
      Representable (dateTimeSecond r.array) (dateTimeOffset r.array)) := by
  by_cases hc : c = .asZonedDateTime
  swap
  · exact iff_of_true (declared_of_ne hc r) fun h => absurd h hc
  subst hc
  rw [forall_prop_of_true rfl, FieldCall.run, Effect.outcome_bind_pure, Declared.map_iff]
  by_cases h : r.remaining = 12
  · rw [outcome_asZonedDateTime h, forall_prop_of_true h]
    obtain ⟨hrange, z, hok⟩ | ⟨hrange, message, herror⟩ :=
      ofInstant_cases (dateTimeSecond r.array) (dateTimeOffset r.array)
    · rw [hok]
      exact iff_of_true (.ok z) hrange
    · rw [herror]
      refine iff_of_false (fun hdeclared => ?_) hrange
      obtain ⟨_, hother⟩ := hdeclared _ rfl
      cases hother
  · rw [Effect.outcome_error (asZonedDateTime_error h)]
    exact iff_of_true (.refused _) fun h' => absurd h' h

/-- **An offset of more than eighteen hours** is an exception of another
class. -/
theorem not_declared :
    ¬Declared (fresh FieldCall.asZonedDateTime.run (toBE 8 0 ++ toBE 4 64801)) := by
  intro h
  have herror : fresh FieldCall.asZonedDateTime.run (toBE 8 0 ++ toBE 4 64801) =
      .error (.java .dateTimeException "Zone offset not in valid range: -18:00 to +18:00") := by
    decide +kernel
  obtain ⟨_, hother⟩ := h _ herror
  cases hother

/-! ## Dates -/

/-- The seconds a field of eight octets holds. -/
def fieldSeconds (value : Bytes) : ℤ := (BitVec.ofNat 64 (ofBE value)).toInt

/-- **A field is not misdated**: it is refused, or the date is that of its
seconds. -/
def NotMisdated (value : Bytes) : Prop :=
  (∃ message, fresh asDate value = .error (.java .fieldConversionException message)) ∨
    ∃ millis, fresh asDate value = .ok millis ∧ millis.toInt = 1000 * fieldSeconds value

/-- The seconds fit a `long` of milliseconds. -/
def FitsMillis (value : Bytes) : Prop :=
  -9223372036854775 ≤ fieldSeconds value ∧ fieldSeconds value ≤ 9223372036854775

/-- Every field of eight octets is converted. -/
theorem fresh_asDate {value : Bytes} (h : value.length = 8) :
    fresh asDate value = .ok (BitVec.ofNat 64 (ofBE value) * 1000) := fresh_fixedWidth h ..

theorem toInt_date_iff (value : Bytes) :
    (BitVec.ofNat 64 (ofBE value) * 1000).toInt = 1000 * fieldSeconds value ↔
      FitsMillis value := by
  rw [mul_comm 1000, fieldSeconds]
  exact toInt_mul_thousand_iff _

/-- **When a date is not misdated**: exactly if its seconds fit a `long` of
milliseconds. Fields that fit are dated in the order of their seconds. -/
theorem not_misdated_iff {value : Bytes} (h : value.length = 8) :
    (NotMisdated value ↔ FitsMillis value) ∧
    ∀ (w : Bytes) (a b : BitVec 64), w.length = 8 → FitsMillis value → FitsMillis w →
      fresh asDate value = .ok a → fresh asDate w = .ok b →
      (a.toInt < b.toInt ↔ fieldSeconds value < fieldSeconds w) := by
  constructor
  · rw [NotMisdated, fresh_asDate h, ← toInt_date_iff]
    constructor
    · rintro (⟨_, hrefused⟩ | ⟨millis, hok, hexact⟩)
      · cases hrefused
      · obtain rfl := Except.ok.inj hok
        exact hexact
    · exact fun hexact => .inr ⟨_, rfl, hexact⟩
  · intro w a b hw hfits hfits' ha hb
    obtain rfl := Except.ok.inj ((fresh_asDate h).symm.trans ha)
    obtain rfl := Except.ok.inj ((fresh_asDate hw).symm.trans hb)
    rw [(toInt_date_iff value).mpr hfits, (toInt_date_iff w).mpr hfits']
    omega

/-- In the open: the epoch is, and it comes before the second after it. -/
theorem not_misdated_open :
    NotMisdated (toBE 8 0) ∧ ∀ a b : BitVec 64, fresh asDate (toBE 8 0) = .ok a →
      fresh asDate (toBE 8 1) = .ok b → a.toInt < b.toInt := by
  have hlength : (toBE 8 0).length = 8 := rfl
  obtain ⟨hdated, horder⟩ := not_misdated_iff hlength
  have hfits : FitsMillis (toBE 8 0) ∧ FitsMillis (toBE 8 1) := by
    unfold FitsMillis
    decide +kernel
  refine ⟨hdated.mpr hfits.1, fun a b ha hb => ?_⟩
  exact (horder _ a b rfl hfits.1 hfits.2 ha hb).mpr (by decide +kernel)

/-- **The far future is long ago**: the first second that does not fit is dated
before the epoch. -/
theorem misdated_future :
    fieldSeconds (toBE 8 9223372036854776) = 9223372036854776 ∧
      fresh asDate (toBE 8 9223372036854776) = .ok (BitVec.ofInt 64 (-9223372036854775616)) ∧
      (BitVec.ofInt 64 (-9223372036854775616)).toInt = -9223372036854775616 := by
  refine ⟨?_, ?_, ?_⟩ <;> decide +kernel

end VjBlockchain
