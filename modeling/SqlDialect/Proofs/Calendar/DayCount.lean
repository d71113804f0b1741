import Mathlib.Data.Nat.Init
import SqlDialect.Calendar.Date

/-!
# Counting days

The number of a date is the count of the days since the first of January 1970, year by year and
month by month, with the lengths that the leap-year rule gives to them. Dates before 1970 count
backwards. In the other direction, every number is the number of a date, and that date exists.

## Two ways to count

`countedDays` adds up the lengths of the years and months that have passed; nothing in it knows of
cycles. `dayNumber` has a closed form for the years, and `ofDayNumber` takes that form apart again,
by 400 years, by 100, by 4 and by one. The closed form grows by the length of each year
(`daysBeforeYear_succ`), which joins the two ways to count, and splits along the cycles
(`daysBeforeYear_cycles`), which undoes it.

## Main definitions

* `Civil.yearLength`, `Civil.countedDays` — the length of a year, and days counted one by one

## Main results

* `Civil.dayNumber_eq_countedDays` — the number of a date is the count of its days
* `Civil.dayNumber_ofDayNumber`, `Civil.isValid_ofDayNumber` — every number has a date
-/

namespace SqlDialect

namespace Civil

/-! ### Lengths of years -/

/-- The number of days of a year. -/
def yearLength (year : Int) : Int := if isLeapYear year then 366 else 365

theorem isLeapYear_iff {year : Int} :
    isLeapYear year = true ↔ year % 4 = 0 ∧ (year % 100 ≠ 0 ∨ year % 400 = 0) := by
  simp [isLeapYear]

/-- The closed form grows by the length of each year. -/
theorem daysBeforeYear_succ (year : Int) :
    daysBeforeYear (year + 1) = daysBeforeYear year + yearLength year := by
  by_cases hleap : isLeapYear year = true
  · have hrule := isLeapYear_iff.mp hleap
    simp only [daysBeforeYear, yearLength, hleap, if_true]
    omega
  · have hrule := mt isLeapYear_iff.mpr hleap
    simp only [daysBeforeYear, yearLength, hleap, if_false, Bool.false_eq_true]
    omega

/-- Days of the given count of years from the first of January of `year` on. -/
def daysOfYears (year : Int) : Nat → Int
  | 0 => 0
  | count + 1 => daysOfYears year count + yearLength (year + count)

theorem daysOfYears_eq (year : Int) (count : Nat) :
    daysOfYears year count = daysBeforeYear (year + count) - daysBeforeYear year := by
  induction count with
  | zero => simp [daysOfYears]
  | succ count ih =>
    rw [daysOfYears, ih, Int.natCast_succ, ← Int.add_assoc, daysBeforeYear_succ]
    omega

/-! ### Lengths of months -/

theorem daysBeforeMonth_mono (leap : Bool) {m n : Nat} (h : m ≤ n) :
    daysBeforeMonth leap m ≤ daysBeforeMonth leap n := by
  induction n, h using Nat.le_induction with
  | base => exact Nat.le_refl _
  | succ n _ ih => exact Nat.le_add_right_of_le ih

/-- The months make up the year. -/
theorem daysBeforeMonth_thirteen (year : Int) :
    (daysBeforeMonth (isLeapYear year) 13 : Int) = yearLength year := by
  rw [yearLength]
  cases isLeapYear year with
  | true => rfl
  | false => rfl

/-- A month with days is one of twelve. -/
theorem month_le_of_daysInMonth {leap : Bool} {month : Nat} (h : 0 < daysInMonth leap month) :
    1 ≤ month ∧ month ≤ 12 := by
  unfold daysInMonth at h
  split at h
  all_goals omega

theorem daysInMonth_le (leap : Bool) (month : Nat) : daysInMonth leap month ≤ 31 := by
  unfold daysInMonth
  split
  all_goals first | omega | (split <;> omega)

/-! ### The count of a date -/

/-- Days from the first of January 1970 to the date: the years between the two, forwards or
backwards, the months of the year that have passed, and the days of the month that have passed. -/
def countedDays (c : Civil) : Int :=
  daysOfYears 1970 (c.year - 1970).toNat - daysOfYears c.year (1970 - c.year).toNat
    + daysBeforeMonth (isLeapYear c.year) c.month + (c.day - 1)

/-- **The number of a date is the count of its days.** -/
theorem dayNumber_eq_countedDays (c : Civil) : c.dayNumber = c.countedDays := by
  rw [countedDays, daysOfYears_eq, daysOfYears_eq, dayNumber, epochDay]
  rcases Int.le_total 1970 c.year with hafter | hbefore
  · have hyear : (1970 : Int) + (c.year - 1970).toNat = c.year := by omega
    have hnone : c.year + (1970 - c.year).toNat = c.year := by omega
    rw [hyear, hnone]
    omega
  · have hyear : c.year + (1970 - c.year).toNat = 1970 := by omega
    have hnone : (1970 : Int) + (c.year - 1970).toNat = 1970 := by omega
    rw [hyear, hnone]
    omega

theorem isValid_iff {c : Civil} : c.isValid = true ↔
    (firstYear ≤ c.year ∧ c.year ≤ lastYear) ∧
      1 ≤ c.day ∧ c.day ≤ daysInMonth (isLeapYear c.year) c.month := by
  simp [isValid, and_assoc]

/-- A date lies in its year. -/
theorem dayNumber_bounds {c : Civil} (h : c.isValid = true) :
    daysBeforeYear c.year - epochDay ≤ c.dayNumber ∧
      c.dayNumber < daysBeforeYear (c.year + 1) - epochDay := by
  obtain ⟨-, hday, hlast⟩ := isValid_iff.mp h
  have hmonth := month_le_of_daysInMonth (Nat.lt_of_lt_of_le hday hlast)
  have hpassed : daysBeforeMonth (isLeapYear c.year) (c.month + 1)
      ≤ daysBeforeMonth (isLeapYear c.year) 13 := daysBeforeMonth_mono _ (by omega)
  rw [daysBeforeMonth] at hpassed
  rw [daysBeforeYear_succ, ← daysBeforeMonth_thirteen, dayNumber]
  omega

/-! ### The date of a number -/

/-- The closed form, taken apart by cycles. -/
theorem daysBeforeYear_cycles (cycles : Int) {centuries olympiads years : Nat}
    (hcenturies : centuries ≤ 3) (holympiads : olympiads ≤ 24) (hyears : years ≤ 3) :
    daysBeforeYear (400 * cycles + 100 * centuries + 4 * olympiads + years + 1)
      = 146097 * cycles + 36524 * centuries + 1461 * olympiads + 365 * years := by
  simp only [daysBeforeYear]
  omega

/-- The last year of four is longer, but not the last one of a hundred, but again the last one of
four hundred. -/
theorem yearLength_cycles (cycles : Int) {centuries olympiads : Nat} (holympiads : olympiads ≤ 24)
    (h : olympiads = 24 → centuries = 3) :
    yearLength (400 * cycles + 100 * centuries + 4 * olympiads + 3 + 1) = 366 := by
  rw [yearLength, if_pos]
  exact isLeapYear_iff.mpr ⟨by omega, by omega⟩

theorem yearLength_ge (year : Int) : 365 ≤ yearLength year := by
  rw [yearLength]
  split
  · decide
  · exact Int.le_refl _

/-- The month and day of a day that lies in one of the months looked at. -/
theorem monthAndDay_spec (leap : Bool) (months month rest : Nat)
    (h : daysBeforeMonth leap month + rest < daysBeforeMonth leap (month + months + 1)) :
    daysBeforeMonth leap (monthAndDay leap months month rest).1
        + (monthAndDay leap months month rest).2 = daysBeforeMonth leap month + rest + 1 ∧
      1 ≤ (monthAndDay leap months month rest).2 ∧
      (monthAndDay leap months month rest).2
        ≤ daysInMonth leap (monthAndDay leap months month rest).1 := by
  induction months generalizing month rest with
  | zero =>
    rw [Nat.add_zero, daysBeforeMonth] at h
    simp only [monthAndDay]
    omega
  | succ months ih =>
    by_cases hhere : rest < daysInMonth leap month
    · simp only [monthAndDay, if_pos hhere]
      omega
    · have hnext : daysBeforeMonth leap (month + 1)
          = daysBeforeMonth leap month + daysInMonth leap month := rfl
      have hlater := ih (month + 1) (rest - daysInMonth leap month) (by
        rw [show month + 1 + months + 1 = month + (months + 1) + 1 by omega]
        omega)
      simp only [monthAndDay, if_neg hhere]
      omega

/-- How a number is taken apart: what is left after the cycles and years is a day of a year, and the
366th day comes only where the cycles are full. -/
theorem exists_cycles (days : Int) :
    ∃ (cycles : Int) (centuries olympiads years rest : Nat),
      (centuries ≤ 3 ∧ olympiads ≤ 24 ∧ years ≤ 3) ∧
      days + epochDay
        = 146097 * cycles + 36524 * centuries + 1461 * olympiads + 365 * years + rest ∧
      (rest < 365 ∨ rest = 365 ∧ years = 3 ∧ (olympiads = 24 → centuries = 3)) ∧
      ∃ year, year = 400 * cycles + 100 * centuries + 4 * olympiads + years + 1 ∧
        ofDayNumber days = ⟨year, (monthAndDay (isLeapYear year) 11 1 rest).1,
          (monthAndDay (isLeapYear year) 11 1 rest).2⟩ := by
  have hsplit : days + epochDay
      = 146097 * ((days + epochDay) / 146097) + ((days + epochDay) % 146097).toNat := by omega
  have hcycle : ((days + epochDay) % 146097).toNat < 146097 := by omega
  refine ⟨_, _, _, _, _, ?_, ?_, ?_, _, rfl, rfl⟩
  all_goals
    generalize (days + epochDay) / 146097 = cycles at *
    generalize ((days + epochDay) % 146097).toNat = inCycle at *
    omega

/-- The year of a number, and the day in it. -/
theorem ofDayNumber_spec (days : Int) :
    ∃ (year : Int) (rest : Nat), days + epochDay = daysBeforeYear year + rest ∧
      rest < yearLength year ∧
      ofDayNumber days = ⟨year, (monthAndDay (isLeapYear year) 11 1 rest).1,
        (monthAndDay (isLeapYear year) 11 1 rest).2⟩ := by
  obtain ⟨cycles, centuries, olympiads, years, rest, ⟨hcenturies, holympiads, hyears⟩, hsplit,
    hrest, year, rfl, hdate⟩ := exists_cycles days
  refine ⟨_, rest, ?_, ?_, hdate⟩
  · rw [daysBeforeYear_cycles cycles hcenturies holympiads hyears, hsplit]
  · rcases hrest with hshort | ⟨rfl, rfl, hfull⟩
    · have hlength := yearLength_ge (400 * cycles + 100 * centuries + 4 * olympiads + years + 1)
      omega
    · have hlong : yearLength (400 * cycles + 100 * centuries + 4 * olympiads + (3 : ℕ) + 1) = 366 :=
        yearLength_cycles cycles holympiads hfull
      omega

/-- **Every number has a date**, and the day of that date is one of its month. -/
theorem dayNumber_ofDayNumber_and (days : Int) :
    (ofDayNumber days).dayNumber = days ∧ 1 ≤ (ofDayNumber days).day ∧
      (ofDayNumber days).day
        ≤ daysInMonth (isLeapYear (ofDayNumber days).year) (ofDayNumber days).month := by
  obtain ⟨year, rest, hsplit, hrest, hdate⟩ := ofDayNumber_spec days
  have hjanuary : daysBeforeMonth (isLeapYear year) 1 = 0 := rfl
  have hyear : daysBeforeMonth (isLeapYear year) 1 + rest
      < daysBeforeMonth (isLeapYear year) (1 + 11 + 1) := by
    rw [← daysBeforeMonth_thirteen] at hrest
    rw [hjanuary, Nat.zero_add]
    exact Int.ofNat_lt.mp hrest
  obtain ⟨hsum, hday, hlast⟩ := monthAndDay_spec _ 11 1 rest hyear
  refine ⟨?_, ?_, ?_⟩
  · rw [hdate, dayNumber]
    dsimp only
    omega
  · rw [hdate]
    exact hday
  · rw [hdate]
    exact hlast

theorem dayNumber_ofDayNumber (days : Int) : (ofDayNumber days).dayNumber = days :=
  (dayNumber_ofDayNumber_and days).1

theorem daysBeforeYear_mono {year year' : Int} (h : year ≤ year') :
    daysBeforeYear year ≤ daysBeforeYear year' := by
  simp only [daysBeforeYear]
  omega

/-- The year of a number that lies within the days of some years. -/
theorem year_ofDayNumber {days first last : Int} (hfirst : daysBeforeYear first - epochDay ≤ days)
    (hlast : days < daysBeforeYear (last + 1) - epochDay) :
    first ≤ (ofDayNumber days).year ∧ (ofDayNumber days).year ≤ last := by
  obtain ⟨year, rest, hsplit, hrest, hdate⟩ := ofDayNumber_spec days
  have hnext := daysBeforeYear_succ year
  rw [hdate]
  dsimp only
  constructor
  · refine Int.not_lt.mp fun hearly => ?_
    have hmono : daysBeforeYear (year + 1) ≤ daysBeforeYear first := daysBeforeYear_mono (by omega)
    omega
  · refine Int.not_lt.mp fun hlate => ?_
    have hmono : daysBeforeYear (last + 1) ≤ daysBeforeYear year := daysBeforeYear_mono (by omega)
    omega

/-- The date of a number within the supported years exists. -/
theorem isValid_ofDayNumber {days : Int} (hfirst : daysBeforeYear firstYear - epochDay ≤ days)
    (hlast : days < daysBeforeYear (lastYear + 1) - epochDay) :
    (ofDayNumber days).isValid = true :=
  isValid_iff.mpr ⟨year_ofDayNumber hfirst hlast, (dayNumber_ofDayNumber_and days).2⟩

end Civil

end SqlDialect
