import SqlDialect.Proofs.Calendar.TimestampText

/-!
# Timestamps as they are written

A timestamp with a date, a time of day, a fraction of up to nine digits and an offset, as RFC 3339
has it, or without the offset. The instant it stands for is told from its parts: the days up to the
date are counted year by year and month by month, the offset is taken off, and the digits of the
fraction are filled up to nine.

## The offset may lead out of the year

An offset can put the instant on the day before or after the date, and so before the start of 1970
or outside the years from 0 to 9999 that can be written here. All these instants are supported, so
that a written timestamp has its instant needs no condition (`WrittenTimestamp.instant`).

## Main definitions

* `WrittenOffset` — an offset from universal time, or none
* `WrittenTimestamp` — a timestamp, its text and its instant

## Main results

* `WrittenTimestamp.read?_text` — the text is read as the instant
-/

namespace SqlDialect

open Digits

/-! ### Offsets -/

/-- How far local time is ahead of universal time. -/
inductive WrittenOffset where
  /-- Nothing is said. -/
  | absent
  /-- Local time is universal time. -/
  | zulu
  /-- Local time is ahead. -/
  | ahead (hours : Fin 24) (minutes : Fin 60)
  /-- Local time is behind. -/
  | behind (hours : Fin 24) (minutes : Fin 60)

namespace WrittenOffset

/-- The offset with its sign, hours and minutes in two digits with a colon between them. -/
def text : WrittenOffset → Text
  | absent => []
  | zulu => ['Z']
  | ahead hours minutes => '+' :: (padded 2 hours ++ ':' :: padded 2 minutes)
  | behind hours minutes => '-' :: (padded 2 hours ++ ':' :: padded 2 minutes)

/-- Hours and minutes in seconds. -/
def difference (hours : Fin 24) (minutes : Fin 60) : Int :=
  3600 * (hours : Nat) + 60 * (minutes : Nat)

/-- The seconds that local time is ahead. -/
def seconds : WrittenOffset → Int
  | absent | zulu => 0
  | ahead hours minutes => difference hours minutes
  | behind hours minutes => -difference hours minutes

theorem seconds_lt (o : WrittenOffset) : -86400 < o.seconds ∧ o.seconds < 86400 := by
  cases o with
  | absent | zulu => decide
  | ahead hours minutes | behind hours minutes =>
    dsimp only [seconds, difference]
    omega

/-- An offset goes on neither with a digit nor with a point. -/
theorem stop_text (o : WrittenOffset) : Stop o.text := by
  cases o with
  | absent => exact .nil
  | zulu | ahead | behind => exact .cons rfl _

theorem head?_text_ne (o : WrittenOffset) : o.text.head? ≠ some '.' := by
  cases o <;> simp [text]

/-- Hours and minutes behind a sign. -/
theorem offset?_signed {sign : Char} (hours : Fin 24) (minutes : Fin 60)
    (hsign : sign = '+' ∨ sign = '-') :
    TimestampText.offset? (sign :: (padded 2 hours ++ ':' :: padded 2 minutes))
      = some (if sign = '+' then difference hours minutes else -difference hours minutes, []) := by
  have hminutes : TimestampText.number? 2 2 (padded 2 minutes) = some (minutes.val, []) := by
    simpa using TimestampText.number?_two (n := minutes) (by omega) []
  have hzulu : ¬ (sign = 'Z' ∨ sign = 'z') := by
    rcases hsign with rfl | rfl
    · decide
    · decide
  rw [TimestampText.offset?.eq_def]
  refine (if_neg hzulu).trans ((if_pos (hsign.imp_right .inl)).trans ?_)
  refine TimestampText.bind_eq_of_eq_some (TimestampText.number?_two (by omega) _) ?_
  refine TimestampText.bind_eq_of_eq_some (TimestampText.after?_colon _) ?_
  refine TimestampText.bind_eq_of_eq_some hminutes ?_
  exact if_pos ⟨by omega, by omega⟩

/-- An offset that is written is read. -/
theorem offset?_text {o : WrittenOffset} (h : o ≠ absent) :
    TimestampText.offset? o.text = some (o.seconds, []) := by
  cases o with
  | absent => exact absurd rfl h
  | zulu => rfl
  | ahead hours minutes => exact offset?_signed hours minutes (.inl rfl)
  | behind hours minutes => exact offset?_signed hours minutes (.inr rfl)

end WrittenOffset

/-! ### Timestamps -/

/-- A date with a year of four digits, a time of day, a fraction of a second and an offset. -/
structure WrittenTimestamp where
  /-- The date. -/
  date : Civil
  /-- There is such a date. -/
  valid : date.isValid = true
  /-- The year has four digits and no sign. -/
  year : 0 ≤ date.year ∧ date.year ≤ 9999
  /-- The hour. -/
  hour : Fin 24
  /-- The minute. -/
  minute : Fin 60
  /-- The second. -/
  second : Fin 60
  /-- The digits after the point; none if there is no point. -/
  fraction : Text
  /-- They are digits. -/
  isDigit : ∀ c ∈ fraction, c.isDigit = true
  /-- There are no more than nine. -/
  length_le : fraction.length ≤ 9
  /-- The offset from universal time. -/
  offset : WrittenOffset

namespace WrittenTimestamp

/-- A point and the digits after it, or nothing. -/
def fractionText (w : WrittenTimestamp) : Text :=
  if w.fraction = [] then [] else '.' :: w.fraction

/-- `YYYY-MM-DDTHH:MM:SS`, the fraction and the offset. -/
def text (w : WrittenTimestamp) : Text :=
  padded 4 w.date.year.toNat ++ '-' :: padded 2 w.date.month ++ '-' :: padded 2 w.date.day ++
    'T' :: padded 2 w.hour ++ ':' :: padded 2 w.minute ++ ':' :: padded 2 w.second ++
    w.fractionText ++ w.offset.text

/-- Seconds since the start of 1970: the days up to the date, the time of day, and the offset taken
off. -/
def seconds (w : WrittenTimestamp) : Int :=
  86400 * w.date.countedDays + 3600 * (w.hour : Nat) + 60 * (w.minute : Nat) + (w.second : Nat)
    - w.offset.seconds

/-- The digits of the fraction, filled up to nine. -/
def nanoDigits (w : WrittenTimestamp) : Text :=
  w.fraction ++ List.replicate (9 - w.fraction.length) '0'

/-- Nanoseconds since the second began. -/
def nanos (w : WrittenTimestamp) : Nat := value w.nanoDigits

theorem nanos_lt (w : WrittenTimestamp) : w.nanos < 1000000000 := by
  have hdigits : ∀ c ∈ w.nanoDigits, c.isDigit = true := by
    intro c hc
    rcases List.mem_append.mp hc with hfraction | hzero
    · exact w.isDigit c hfraction
    · exact isDigit_of_mem_zeros hzero
  have hlength : w.nanoDigits.length = 9 := by
    have hshort := w.length_le
    rw [nanoDigits, List.length_append, List.length_replicate]
    omega
  have hlt := value_lt hdigits
  rw [hlength] at hlt
  exact hlt

/-- Dates of four-digit years are supported, and so is the day before the first of them and the day
after the last. -/
theorem seconds_bounds (w : WrittenTimestamp) :
    -8334601228800 ≤ w.seconds ∧ w.seconds ≤ 8210266876799 := by
  obtain ⟨hfirst, hlast⟩ := Civil.dayNumber_bounds w.valid
  have hearly : Civil.daysBeforeYear 0 ≤ Civil.daysBeforeYear w.date.year :=
    Civil.daysBeforeYear_mono w.year.1
  have hlate : Civil.daysBeforeYear (w.date.year + 1) ≤ Civil.daysBeforeYear 10000 :=
    Civil.daysBeforeYear_mono (by have hyear := w.year.2; omega)
  have hyears : Civil.daysBeforeYear 0 = -366 ∧ Civil.daysBeforeYear 10000 = 3652059 ∧
      Civil.epochDay = 719162 := by decide
  have hoffset := w.offset.seconds_lt
  rw [seconds, ← Civil.dayNumber_eq_countedDays]
  omega

/-- The instant the timestamp stands for. -/
def instant (w : WrittenTimestamp) : Instant where
  seconds := w.seconds
  nanos := w.nanos
  valid := ⟨w.seconds_bounds.1, w.seconds_bounds.2, .inl w.nanos_lt⟩

/-! ### Reading a timestamp -/

theorem text_eq_dateTime (w : WrittenTimestamp) :
    w.text = TimestampText.dateTime w.date w.hour w.minute w.second
      (w.fractionText ++ w.offset.text) := by
  simp [text, TimestampText.dateTime, Civil.text, Civil.yearText, w.year]

/-- The fraction is read in front of the offset. -/
theorem fraction?_text (w : WrittenTimestamp) :
    TimestampText.fraction? (w.fractionText ++ w.offset.text) = some (w.nanos, w.offset.text) := by
  rw [fractionText]
  split
  · next hnone =>
    have hzero : w.nanos = 0 := by
      rw [nanos, nanoDigits, hnone]
      rfl
    rw [hzero, List.nil_append, TimestampText.fraction?_of_ne w.offset.head?_text_ne]
  · next hsome =>
    exact TimestampText.fraction?_digits w.isDigit hsome w.length_le w.offset.stop_text

/-- The parts make up the instant. -/
theorem instantOfFields?_eq (w : WrittenTimestamp) :
    TimestampText.instantOfFields? w.date w.hour w.minute w.second w.nanos w.offset.seconds
      = some w.instant := by
  have hnanos := w.nanos_lt
  have hreading : ClockReading.isValid ⟨w.hour, w.minute, w.second, w.nanos⟩ = true :=
    ClockReading.isValid_iff.mpr ⟨w.hour.isLt, w.minute.isLt, w.second.isLt, .inl hnanos⟩
  have hfields := TimestampText.instantOfFields?_shown w.valid hreading w.offset.seconds
  rw [Nat.div_eq_of_lt hnanos, Nat.mod_eq_of_lt hnanos] at hfields
  have hseconds : Instant.secondsPerDay * w.date.dayNumber
        + (ClockReading.secondOfDay ⟨w.hour, w.minute, w.second, w.nanos⟩ : Nat)
        - w.offset.seconds = w.seconds := by
    rw [seconds, ← Civil.dayNumber_eq_countedDays, Instant.secondsPerDay, ClockReading.secondOfDay]
    push_cast
    ring
  refine hfields.trans ?_
  rw [hseconds]
  exact dif_pos w.instant.valid

/-- **A timestamp is read as its instant**, in the zoned form if it has an offset and in the local
form if it has none. -/
theorem read?_text (w : WrittenTimestamp) : TimestampText.read? w.text = some w.instant := by
  have hdate := TimestampText.lt_hundred_of_isValid w.valid
  have hclock : w.hour.val < 100 ∧ w.minute.val < 100 ∧ w.second.val < 100 := by omega
  have hfraction := w.fraction?_text
  have hfields := w.instantOfFields?_eq
  rw [text_eq_dateTime]
  by_cases habsent : w.offset = .absent
  · rw [habsent] at hfraction hfields
    rw [habsent, TimestampText.read?_dateTime_local hdate hclock hfraction]
    exact hfields
  · exact TimestampText.read?_dateTime_zoned w.year hdate hclock hfraction
      (WrittenOffset.offset?_text habsent) hfields

end WrittenTimestamp

end SqlDialect
