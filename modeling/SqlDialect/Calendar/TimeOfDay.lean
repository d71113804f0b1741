import SqlDialect.Number.Digits

/-!
# Times of day

A time of day counts hours, minutes and seconds, and nanoseconds within the second. A leap second
is the second 59 of a minute that goes on: its nanoseconds run from one thousand million up to two
thousand million, and it is written as second 60.

## Main definitions

* `TimeOfDay` — a time that exists, leap seconds included
* `TimeOfDay.text` — hours, minutes, seconds and milliseconds
-/

namespace SqlDialect

/-- Hours, minutes, seconds and nanoseconds as they are counted. -/
structure ClockReading where
  /-- The hour. -/
  hour : Nat
  /-- The minute. -/
  minute : Nat
  /-- The second; a leap second is counted as the second 59. -/
  second : Nat
  /-- Nanoseconds since the second began; from `10 ^ 9` upwards in a leap second. -/
  nanos : Nat
  deriving DecidableEq

namespace ClockReading

/-- Nanoseconds of an ordinary second. -/
def nanosPerSecond : Nat := 1000000000

/-- Whether a clock can read so. -/
def isValid (r : ClockReading) : Bool :=
  r.hour < 24 && r.minute < 60 && r.second < 60 &&
    (r.nanos < nanosPerSecond || (r.second == 59 && r.nanos < 2 * nanosPerSecond))

theorem isValid_iff {r : ClockReading} : r.isValid = true ↔
    r.hour < 24 ∧ r.minute < 60 ∧ r.second < 60 ∧
      (r.nanos < 1000000000 ∨ r.second = 59 ∧ r.nanos < 2000000000) := by
  simp only [isValid, Bool.and_eq_true, Bool.or_eq_true, decide_eq_true_eq, beq_iff_eq, and_assoc]
  rfl

/-- Whole seconds since midnight. -/
def secondOfDay (r : ClockReading) : Nat := 3600 * r.hour + 60 * r.minute + r.second

/-- The reading at a second of the day. -/
def ofSecondOfDay (second nanos : Nat) : ClockReading :=
  ⟨second / 3600, second / 60 % 60, second % 60, nanos⟩

/-- Hours, minutes and seconds with colons between them, and three decimal places: the
milliseconds that have passed in full. -/
def text (r : ClockReading) : Text :=
  Digits.padded 2 r.hour ++ ':' :: Digits.padded 2 r.minute ++
    ':' :: Digits.padded 2 (r.second + r.nanos / nanosPerSecond) ++
    '.' :: Digits.padded 3 (r.nanos % nanosPerSecond / 1000000)

end ClockReading

/-- A time of day that exists. -/
structure TimeOfDay where
  /-- The time as a clock reads it. -/
  reading : ClockReading
  /-- A clock can read so. -/
  valid : reading.isValid = true
  deriving DecidableEq

namespace TimeOfDay

/-- The time with the given reading, if there is one. -/
def ofReading? (reading : ClockReading) : Option TimeOfDay :=
  if h : reading.isValid = true then some ⟨reading, h⟩ else none

/-- Hours, minutes, seconds and milliseconds. -/
def text (t : TimeOfDay) : Text := t.reading.text

end TimeOfDay

end SqlDialect
