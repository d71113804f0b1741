import SqlDialect.Number.Digits

/-!
# Calendar dates

Dates of the Gregorian calendar, carried back before its introduction, with a year zero and
negative years before it. A date is counted by the days since the first of January 1970.

## Counting days

`Date.dayNumber` adds up whole years by the leap-year rule, whole months and days.
`Civil.ofDayNumber` undoes it by cycles: 400 years always have the same number of days, and so
do, within one such cycle, 100 years and 4 years, but for the last cycle of each kind, which is
one day shorter or longer. Counting is done from the first of January of the year 1, so that the
leap day is the last day of each cycle.

## Main definitions

* `Civil` — year, month and day, whether or not there is such a date
* `Civil.isValid` — whether there is, within the years that are supported
* `Date` — a date that exists
* `Civil.dayNumber`, `Civil.ofDayNumber` — dates as days since 1970
-/

namespace SqlDialect

/-- A year, a month and a day as they are written. -/
structure Civil where
  /-- The year; zero is the year before the year 1. -/
  year : Int
  /-- The month, from 1. -/
  month : Nat
  /-- The day of the month, from 1. -/
  day : Nat
  deriving DecidableEq

namespace Civil

/-! ### The calendar -/

/-- Whether the year has a 29th of February. -/
def isLeapYear (year : Int) : Bool :=
  year % 4 == 0 && (year % 100 != 0 || year % 400 == 0)

/-- The number of days of a month. -/
def daysInMonth (leap : Bool) : Nat → Nat
  | 1 => 31
  | 2 => if leap then 29 else 28
  | 3 => 31
  | 4 => 30
  | 5 => 31
  | 6 => 30
  | 7 => 31
  | 8 => 31
  | 9 => 30
  | 10 => 31
  | 11 => 30
  | 12 => 31
  | _ => 0

/-- The first year that is supported. -/
def firstYear : Int := -262143

/-- The last year that is supported. -/
def lastYear : Int := 262142

/-- Whether there is such a date and its year is supported. -/
def isValid (c : Civil) : Bool :=
  firstYear ≤ c.year && c.year ≤ lastYear && 1 ≤ c.day &&
    c.day ≤ daysInMonth (isLeapYear c.year) c.month

/-! ### Counting days -/

/-- Days from the first of January of the year 1 to the first of January of `year`. -/
def daysBeforeYear (year : Int) : Int :=
  let passed := year - 1
  365 * passed + passed / 4 - passed / 100 + passed / 400

/-- Days from the start of the year to the start of `month`. -/
def daysBeforeMonth (leap : Bool) : Nat → Nat
  | 0 => 0
  | month + 1 => daysBeforeMonth leap month + daysInMonth leap month

/-- Days from the first of January of the year 1 to the first of January 1970. -/
def epochDay : Int := daysBeforeYear 1970

/-- Days from the first of January 1970 to the date. -/
def dayNumber (c : Civil) : Int :=
  daysBeforeYear c.year + daysBeforeMonth (isLeapYear c.year) c.month + c.day - 1 - epochDay

/-- The month and day that lie `rest` days after the start of `month`, looking at up to `months`
months. -/
def monthAndDay (leap : Bool) : (months month rest : Nat) → Nat × Nat
  | 0, month, rest => (month, rest + 1)
  | months + 1, month, rest =>
    if rest < daysInMonth leap month then (month, rest + 1)
    else monthAndDay leap months (month + 1) (rest - daysInMonth leap month)

/-- The date that lies `days` days after the first of January 1970. -/
def ofDayNumber (days : Int) : Civil :=
  let sinceYearOne := days + epochDay
  let cycles := sinceYearOne / 146097
  let inCycle := (sinceYearOne % 146097).toNat
  let centuries := min 3 (inCycle / 36524)
  let inCentury := inCycle - 36524 * centuries
  let olympiads := inCentury / 1461
  let inOlympiad := inCentury % 1461
  let years := min 3 (inOlympiad / 365)
  let year := 400 * cycles + 100 * centuries + 4 * olympiads + years + 1
  let (month, day) := monthAndDay (isLeapYear year) 11 1 (inOlympiad - 365 * years)
  ⟨year, month, day⟩

/-! ### Text -/

/-- A year with four digits where it has no more than four and no sign; any other with a sign and
at least four digits. -/
def yearText (year : Int) : Text :=
  if 0 ≤ year ∧ year ≤ 9999 then Digits.padded 4 year.toNat
  else (if year < 0 then '-' else '+') :: Digits.padded 4 year.natAbs

example : yearText 7 = "0007" ∧ yearText (-1) = "-0001" ∧ yearText 10000 = "+10000" := by decide

/-- Year, month and day with dashes between them. -/
def text (c : Civil) : Text :=
  yearText c.year ++ '-' :: Digits.padded 2 c.month ++ '-' :: Digits.padded 2 c.day

end Civil

/-- A date that exists. -/
structure Date where
  /-- The date as it is written. -/
  civil : Civil
  /-- There is such a date. -/
  valid : civil.isValid = true
  deriving DecidableEq

namespace Date

/-- The date with the given year, month and day, if there is one. -/
def ofCivil? (civil : Civil) : Option Date :=
  if h : civil.isValid = true then some ⟨civil, h⟩ else none

/-- Days from the first of January 1970 to the date. -/
def dayNumber (d : Date) : Int := d.civil.dayNumber

/-- Year, month and day with dashes between them. -/
def text (d : Date) : Text := d.civil.text

end Date

end SqlDialect
