import SqlDialect.Proofs.Calendar.InstantText
import SqlDialect.Proofs.Calendar.WrittenTimestamp

/-!
# Instants as nanoseconds

A signed number of 64 bits, taken as nanoseconds since the start of 1970, is an instant, and that
instant can be written as a timestamp of four-digit years: the numbers reach from 1677 to 2262.

## Two ways to the same instant

The number is divided into seconds and nanoseconds so that the nanoseconds are never negative, also
before 1970. The timestamp knows nothing of this division. It has a date and a time of day, and its
instant is told by counting the days up to the date. The two meet because an instant without a leap
second is given by the one number (`Instant.eq_ofNanos`), and the timestamp that is written for the
number has that number.

## Main definitions

* `Instant.epochNanos` — nanoseconds since the start of 1970
* `Instant.Before` — the order of instants
* `WrittenTimestamp.ofNanos` — the timestamp of a number, in universal time

## Main results

* `Instant.before_iff` — instants are ordered as their numbers are
* `WrittenTimestamp.instant_ofNanos` — the timestamp of a number stands for its instant
-/

namespace SqlDialect

open Digits

namespace Instant

variable {i j : Instant} {n : Int64}

/-! ### Instants and numbers -/

/-- Nanoseconds since the start of 1970. In a leap second they run ahead into the next second. -/
def epochNanos (i : Instant) : Int := i.seconds * 1000000000 + i.nanos

/-- Whether `i` comes before `j`: in an earlier second, or earlier in the same one. -/
def Before (i j : Instant) : Prop :=
  i.seconds < j.seconds ∨ i.seconds = j.seconds ∧ i.nanos < j.nanos

theorem nanos_ofNanos_lt (n : Int64) : (ofNanos n).nanos < 1000000000 := by
  rw [ofNanos_nanos]
  omega

theorem epochNanos_ofNanos (n : Int64) : (ofNanos n).epochNanos = n.toInt := by
  rw [epochNanos, ofNanos_seconds, ofNanos_nanos]
  omega

/-- Outside leap seconds an instant is given by its number. -/
theorem eq_ofNanos (hnanos : i.nanos < 1000000000) (h : i.epochNanos = n.toInt) :
    i = ofNanos n := by
  rw [epochNanos] at h
  have hseconds : i.seconds = (ofNanos n).seconds := by
    rw [ofNanos_seconds]
    omega
  have hrest : i.nanos = (ofNanos n).nanos := by
    rw [ofNanos_nanos]
    omega
  obtain ⟨seconds, nanos, valid⟩ := i
  obtain rfl : seconds = _ := hseconds
  obtain rfl : nanos = _ := hrest
  rfl

/-- Outside leap seconds instants are ordered as their numbers are. -/
theorem before_iff (hi : i.nanos < 1000000000) (hj : j.nanos < 1000000000) :
    i.Before j ↔ i.epochNanos < j.epochNanos := by
  rw [Before, epochNanos, epochNanos]
  omega

theorem ofNanos_before_iff {m : Int64} : (ofNanos m).Before (ofNanos n) ↔ m < n := by
  rw [before_iff (nanos_ofNanos_lt m) (nanos_ofNanos_lt n), epochNanos_ofNanos, epochNanos_ofNanos,
    Int64.lt_iff_toInt_lt]

/-- A number of 64 bits does not lead out of the years of four digits. -/
theorem year_ofNanos (n : Int64) :
    1677 ≤ (ofNanos n).civil.year ∧ (ofNanos n).civil.year ≤ 2262 := by
  have hlow := Int64.le_toInt n
  have hhigh := Int64.toInt_lt n
  have hfirst : Civil.daysBeforeYear 1677 - Civil.epochDay = -107015 := by decide
  have hlast : Civil.daysBeforeYear (2262 + 1) - Civil.epochDay = 107016 := by decide
  refine Civil.year_ofDayNumber ?_ ?_
  · rw [hfirst, ofNanos_seconds, secondsPerDay]
    omega
  · rw [hlast, ofNanos_seconds, secondsPerDay]
    omega

end Instant

namespace WrittenTimestamp

/-! ### The timestamp of a number -/

/-- The instant `n` nanoseconds after the start of 1970, in universal time and with all nine digits
of its fraction. -/
def ofNanos (n : Int64) : WrittenTimestamp where
  date := (Instant.ofNanos n).civil
  valid := (Instant.ofNanos n).isValid_civil
  year := by
    have hyear := Instant.year_ofNanos n
    omega
  hour := ⟨(Instant.ofNanos n).reading.hour,
    (ClockReading.isValid_iff.mp (Instant.ofNanos n).isValid_reading).1⟩
  minute := ⟨(Instant.ofNanos n).reading.minute,
    (ClockReading.isValid_iff.mp (Instant.ofNanos n).isValid_reading).2.1⟩
  second := ⟨(Instant.ofNanos n).reading.second,
    (ClockReading.isValid_iff.mp (Instant.ofNanos n).isValid_reading).2.2.1⟩
  fraction := padded 9 (Instant.ofNanos n).nanos
  isDigit := fun _ => isDigit_of_mem_padded
  length_le := Nat.le_of_eq (length_padded (by decide) (Instant.nanos_ofNanos_lt n))
  offset := .zulu

theorem length_fraction_ofNanos (n : Int64) : (ofNanos n).fraction.length = 9 :=
  length_padded (by decide) (Instant.nanos_ofNanos_lt n)

theorem nanos_ofNanos (n : Int64) : (ofNanos n).nanos = (Instant.ofNanos n).nanos := by
  rw [nanos, nanoDigits, length_fraction_ofNanos, value_append_zeros]
  exact (Nat.mul_one _).trans (value_padded 9 _)

theorem seconds_ofNanos (n : Int64) : (ofNanos n).seconds = (Instant.ofNanos n).seconds := by
  rw [← Instant.seconds_eq, Instant.secondsPerDay, seconds, ← Civil.dayNumber_eq_countedDays]
  simp only [ofNanos, WrittenOffset.seconds, ClockReading.secondOfDay]
  push_cast
  ring

/-- **The timestamp of a number stands for its instant.** -/
theorem instant_ofNanos (n : Int64) : (ofNanos n).instant = Instant.ofNanos n := by
  refine Instant.eq_ofNanos (ofNanos n).nanos_lt ?_
  rw [← Instant.epochNanos_ofNanos]
  exact congrArg₂ (fun (s : Int) (k : Nat) => s * 1000000000 + k) (seconds_ofNanos n)
    (nanos_ofNanos n)

end WrittenTimestamp

end SqlDialect
