import SqlDialect.Calendar.Date
import SqlDialect.Calendar.TimeOfDay

/-!
# Instants

An instant is a number of seconds since the first of January 1970, midnight in universal time, and
nanoseconds within the second. Leap seconds do not count among the seconds: one is the second
before it, going on past its thousand million nanoseconds.

## Main definitions

* `Instant` — an instant within the supported years
* `Instant.ofNanos` — an instant from nanoseconds since 1970
* `Instant.ofParts?` — an instant from a date and a time of day
* `Instant.text` — date and time of day with one space between them

## Main results

* `Instant.ofNanos_nanos`, `Instant.ofNanos_seconds` — what `ofNanos` makes of a number
-/

namespace SqlDialect

/-- An instant within the supported years. -/
structure Instant where
  /-- Whole seconds since the start of 1970. -/
  seconds : Int
  /-- Nanoseconds since the second began; from `10 ^ 9` upwards in a leap second. -/
  nanos : Nat
  /-- The instant lies in the supported years, and only a second 59 can be a leap second. -/
  valid : -8334601228800 ≤ seconds ∧ seconds ≤ 8210266876799 ∧
    (nanos < 1000000000 ∨ (seconds % 60 = 59 ∧ nanos < 2000000000))
  deriving DecidableEq

namespace Instant

/-- Seconds of a day. -/
def secondsPerDay : Int := 86400

/-- The instant with the given seconds and nanoseconds, if it is supported. -/
def ofSeconds? (seconds : Int) (nanos : Nat) : Option Instant :=
  if h : -8334601228800 ≤ seconds ∧ seconds ≤ 8210266876799 ∧
      (nanos < 1000000000 ∨ (seconds % 60 = 59 ∧ nanos < 2000000000)) then
    some ⟨seconds, nanos, h⟩
  else none

/-- The instant `n` nanoseconds after the start of 1970. -/
def ofNanos (n : Int64) : Instant where
  seconds := n.toInt / 1000000000
  nanos := (n.toInt % 1000000000).toNat
  valid := by
    have low := Int64.le_toInt n
    have high := Int64.toInt_lt n
    omega

@[simp] theorem ofNanos_seconds (n : Int64) : (ofNanos n).seconds = n.toInt / 1000000000 := rfl

@[simp] theorem ofNanos_nanos (n : Int64) :
    (ofNanos n).nanos = (n.toInt % 1000000000).toNat := rfl

/-- The instant of a date and a time of day, `offset` seconds ahead of universal time. -/
def ofParts? (date : Date) (time : TimeOfDay) (offset : Int) : Option Instant :=
  ofSeconds? (secondsPerDay * date.dayNumber + time.reading.secondOfDay - offset)
    time.reading.nanos

/-! ### Text -/

/-- The date in universal time. -/
def civil (i : Instant) : Civil := Civil.ofDayNumber (i.seconds / secondsPerDay)

/-- What a clock in universal time reads. -/
def reading (i : Instant) : ClockReading :=
  ClockReading.ofSecondOfDay (i.seconds % secondsPerDay).toNat i.nanos

/-- Date and time of day with a space between them. -/
def text (i : Instant) : Text := i.civil.text ++ ' ' :: i.reading.text

end Instant

end SqlDialect
