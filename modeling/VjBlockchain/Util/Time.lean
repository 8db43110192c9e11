import VjBlockchain.Util.Runtime
/-!
# Points in time

`java.time`, as far as certificate fields hold it. Each type has a range and
a constructor that throws outside it. An instant reaches about a year further
than a local date on both sides, so that an instant and an offset, each in
its range, may have no local date and time between them.
-/

namespace VjBlockchain.Time

/-- A point on the time line: whole seconds and a fraction. -/
structure Instant where
  epochSecond : BitVec 64
  nano : ℕ
  min_le_epochSecond : -31557014167219200 ≤ epochSecond.toInt
  epochSecond_le_max : epochSecond.toInt ≤ 31556889864403199
  nano_lt : nano < 1000000000
  deriving DecidableEq

/-- The second is one an instant may have. -/
def Instant.Supports (epochSecond : BitVec 64) : Prop :=
  -31557014167219200 ≤ epochSecond.toInt ∧ epochSecond.toInt ≤ 31556889864403199

instance (epochSecond : BitVec 64) : Decidable (Instant.Supports epochSecond) :=
  inferInstanceAs (Decidable (_ ∧ _))

/-- `Instant.ofEpochSecond`. -/
def Instant.ofEpochSecond (epochSecond : BitVec 64) : Except Fault Instant :=
  if h : Supports epochSecond then .ok ⟨epochSecond, 0, h.1, h.2, by decide⟩
  else .error (.java .dateTimeException "Instant exceeds minimum or maximum instant")

/-- An offset from UTC of at most eighteen hours. -/
structure ZoneOffset where
  totalSeconds : BitVec 32
  min_le_totalSeconds : -64800 ≤ totalSeconds.toInt
  totalSeconds_le_max : totalSeconds.toInt ≤ 64800
  deriving DecidableEq

/-- The number of seconds is one an offset may have. -/
def ZoneOffset.Supports (totalSeconds : BitVec 32) : Prop :=
  -64800 ≤ totalSeconds.toInt ∧ totalSeconds.toInt ≤ 64800

instance (totalSeconds : BitVec 32) : Decidable (ZoneOffset.Supports totalSeconds) :=
  inferInstanceAs (Decidable (_ ∧ _))

/-- `ZoneOffset.ofTotalSeconds`. -/
def ZoneOffset.ofTotalSeconds (totalSeconds : BitVec 32) : Except Fault ZoneOffset :=
  if h : Supports totalSeconds then .ok ⟨totalSeconds, h.1, h.2⟩
  else .error (.java .dateTimeException "Zone offset not in valid range: -18:00 to +18:00")

/-- The local second belongs to a local date. -/
def LocalDateTime.Supports (epochSecond : BitVec 64) (totalSeconds : BitVec 32) : Prop :=
  -31557014135596800 ≤ epochSecond.toInt + totalSeconds.toInt ∧
    epochSecond.toInt + totalSeconds.toInt ≤ 31556889832780799

instance (epochSecond : BitVec 64) (totalSeconds : BitVec 32) :
    Decidable (LocalDateTime.Supports epochSecond totalSeconds) :=
  inferInstanceAs (Decidable (_ ∧ _))

/-- A date and time at an offset. The region it may have been taken in is left
out; a local date and time belongs to it. -/
structure ZonedDateTime where
  instant : Instant
  offset : ZoneOffset
  supported : LocalDateTime.Supports instant.epochSecond offset.totalSeconds
  deriving DecidableEq

/-- `ZonedDateTime.ofInstant`, in the zone of an offset. -/
def ZonedDateTime.ofInstant (instant : Instant) (offset : ZoneOffset) :
    Except Fault ZonedDateTime :=
  if h : LocalDateTime.Supports instant.epochSecond offset.totalSeconds then
    .ok ⟨instant, offset, h⟩
  else .error (.java .dateTimeException "Invalid value for EpochDay")

/-- The same point in time, rounded down to the second. -/
def ZonedDateTime.truncatedToSeconds (z : ZonedDateTime) : ZonedDateTime :=
  ⟨{ z.instant with nano := 0, nano_lt := by decide }, z.offset, z.supported⟩

end VjBlockchain.Time
