import SqlDialect.Calendar.TimestampText
import SqlDialect.Proofs.Calendar.DayCount
import SqlDialect.Proofs.Number.Digits

/-!
# Reading a date and a time of day

What the two forms of a timestamp make of a date with a time of day, whatever the fields are and
whatever fraction and offset follow. A form is a chain of readers, and each reader finds its own
field in front of what is left, so a form is walked through once (`zoned?_dateTime`,
`local?_dateTime`) and not again for each kind of timestamp.

## Which form takes a text

The zoned form refuses a text that has no offset behind its time, and one whose year has a sign. The
local form refuses one that goes on behind its time. So no text of this shape is taken by both, and
that the zoned form is tried first does not matter for it.

## Main definitions

* `TimestampText.dateTime` — a date with a time of day and what follows
* `TimestampText.instantOfFields?` — the instant of the fields that were read

## Main results

* `TimestampText.zoned?_dateTime`, `TimestampText.zoned?_signed` — what the zoned form reads
* `TimestampText.local?_dateTime` — what the local form reads
* `TimestampText.instantOfFields?_eq` — the instant of a date and a time of day that exist
-/

namespace SqlDialect

namespace TimestampText

open Digits

variable {least most width n : Nat} {digits rest tail text : Text}

/-! ### Readers of the parts -/

theorem number?_digits (hdigits : ∀ c ∈ digits, c.isDigit = true) (hleast : least ≤ digits.length)
    (hmost : digits.length ≤ most) (hend : digits.length = most ∨ Stop rest) :
    number? least most (digits ++ rest) = some (value digits, rest) := by
  rw [number?, takeUpTo_digits hdigits hmost hend]
  exact if_pos hleast

/-- A number with the full count of digits is read, whatever follows. -/
theorem number?_padded (hwidth : 0 < width) (hn : n < 10 ^ width) (hleast : least ≤ width)
    (rest : Text) : number? least width (padded width n ++ rest) = some (n, rest) := by
  have hlength := length_padded hwidth hn
  rw [number?_digits (fun _ => isDigit_of_mem_padded) (by omega) (by omega) (.inl hlength),
    value_padded]

theorem number?_of_stop (h : Stop text) (hleast : 0 < least) (most : Nat) :
    number? least most text = none := by
  rw [number?, takeUpTo_of_stop h]
  exact if_neg (Nat.not_le_of_lt hleast)

/-- Up to nine digits after a point are nanoseconds. -/
theorem fraction?_digits (hdigits : ∀ c ∈ digits, c.isDigit = true) (hne : digits ≠ [])
    (hshort : digits.length ≤ 9) (hrest : Stop rest) :
    fraction? ('.' :: (digits ++ rest))
      = some (value (digits ++ List.replicate (9 - digits.length) '0'), rest) := by
  have hsome : digits.isEmpty = false := by simpa using hne
  have hend : rest.dropWhile Char.isDigit = rest := by
    cases rest with
    | nil => rfl
    | cons c rest => rw [List.dropWhile_cons_of_neg (by simp [hrest c rfl])]
  simp only [fraction?, takeUpTo_digits hdigits hshort (.inr hrest), hsome, Bool.false_eq_true,
    if_false, hend, value_append_zeros]
  rfl

theorem fraction?_of_ne (h : text.head? ≠ some '.') : fraction? text = some (0, text) := by
  rw [fraction?]
  rintro rest rfl
  exact h rfl

/-! ### The two forms -/

/-- Date and time of day with a `T` between them, and what follows. -/
def dateTime (date : Civil) (hour minute second : Nat) (tail : Text) : Text :=
  date.text ++ 'T' :: (padded 2 hour ++ ':' :: (padded 2 minute ++ ':' :: (padded 2 second ++ tail)))

/-- The instant with the given fields, if there is one. -/
def instantOfFields? (date : Civil) (hour minute second fraction : Nat) (offset : Int) :
    Option Instant := do
  let date ← Date.ofCivil? date
  let time ← timeOfFields? hour minute second fraction
  Instant.ofParts? date time offset

variable {date : Civil} {hour minute second fraction : Nat}

/-- What a chain of readers makes of a text, one reader at a time. -/
theorem bind_eq_of_eq_some {α β : Type} {first : Option α} {a : α} {others : α → Option β}
    {result : Option β} (h : first = some a) (hothers : others a = result) :
    (first >>= others) = result := by
  rw [h]
  exact hothers

theorem bind_eq_of_eq_none {α β : Type} {first : Option α} {others : α → Option β}
    (h : first = none) : (first >>= others) = none := by
  rw [h]
  rfl

theorem after?_dash (rest : Text) : Text.after? "-" ('-' :: rest) = some rest := rfl

theorem after?_colon (rest : Text) : Text.after? ":" (':' :: rest) = some rest := rfl

/-- A number of two digits. -/
theorem number?_two (hn : n < 100) (rest : Text) :
    number? 2 2 (padded 2 n ++ rest) = some (n, rest) :=
  number?_padded (by decide) hn (by decide) rest

/-- A date of four-digit years with its time of day, in the zoned form: an offset must follow. -/
theorem zoned?_dateTime (hyear : 0 ≤ date.year ∧ date.year ≤ 9999)
    (hdate : date.month < 100 ∧ date.day < 100)
    (hclock : hour < 100 ∧ minute < 100 ∧ second < 100)
    (hfraction : fraction? tail = some (fraction, rest)) :
    zoned? (dateTime date hour minute second tail)
      = (offset? rest).bind fun (offset, left) =>
          if left.isEmpty then instantOfFields? date hour minute second fraction offset
          else none := by
  obtain ⟨year, month, day⟩ := date
  obtain ⟨year, rfl⟩ := Int.eq_ofNat_of_zero_le hyear.1
  have htext : dateTime ⟨year, month, day⟩ hour minute second tail
      = padded 4 year ++ '-' :: (padded 2 month ++ '-' :: (padded 2 day ++ 'T' ::
          (padded 2 hour ++ ':' :: (padded 2 minute ++ ':' :: (padded 2 second ++ tail))))) := by
    simp [dateTime, Civil.text, Civil.yearText, hyear.2]
  have hfour (rest : Text) : number? 4 4 (padded 4 year ++ rest) = some (year, rest) :=
    number?_padded (by decide) (by dsimp only at hyear; omega) (by decide) rest
  rw [htext, zoned?]
  refine bind_eq_of_eq_some (hfour _) ?_
  refine bind_eq_of_eq_some (after?_dash _) ?_
  refine bind_eq_of_eq_some (number?_two hdate.1 _) ?_
  refine bind_eq_of_eq_some (after?_dash _) ?_
  refine bind_eq_of_eq_some (number?_two hdate.2 _) ?_
  refine (if_pos (.inl rfl)).trans (bind_eq_of_eq_some rfl ?_)
  refine bind_eq_of_eq_some (number?_two hclock.1 _) ?_
  refine bind_eq_of_eq_some (after?_colon _) ?_
  refine bind_eq_of_eq_some (number?_two hclock.2.1 _) ?_
  refine bind_eq_of_eq_some (after?_colon _) ?_
  refine bind_eq_of_eq_some (number?_two hclock.2.2 _) ?_
  refine bind_eq_of_eq_some hfraction ?_
  cases hoffset : offset? rest with
  | none => exact bind_eq_of_eq_none hoffset
  | some found =>
    obtain ⟨offset, left⟩ := found
    refine bind_eq_of_eq_some hoffset ?_
    cases left with
    | nil => rfl
    | cons c left => rfl

/-- A year with a sign is not in the zoned form. -/
theorem zoned?_signed (hyear : ¬ (0 ≤ date.year ∧ date.year ≤ 9999)) :
    zoned? (dateTime date hour minute second tail) = none := by
  obtain ⟨sign, hsign, hyearText⟩ : ∃ sign, sign.isDigit = false ∧
      Civil.yearText date.year = sign :: padded 4 date.year.natAbs := by
    rw [Civil.yearText, if_neg hyear]
    split
    · exact ⟨'-', rfl, rfl⟩
    · exact ⟨'+', rfl, rfl⟩
  rw [zoned?, dateTime, Civil.text, hyearText]
  exact bind_eq_of_eq_none (number?_of_stop (Stop.cons hsign _) (by decide) 4)

/-- A text without a sign is read as a year of at most four digits. -/
theorem year?_unsigned (hminus : text.head? ≠ some '-') (hplus : text.head? ≠ some '+') :
    year? text = (number? 1 4 text).map fun (n, after) => ((n : Int), after) := by
  rw [year?]
  · rintro rest rfl
    exact hminus rfl
  · rintro rest rfl
    exact hplus rfl

/-- A year is read with its sign, if it has one. -/
theorem year?_yearText (year : Int) (hrest : Stop rest) :
    year? (Civil.yearText year ++ rest) = some (year, rest) := by
  have hsigned (n : Nat) : number? 1 (padded 4 n ++ rest).length (padded 4 n ++ rest)
      = some (n, rest) := by
    have hlength := length_padded_ge 4 n
    rw [number?_digits (fun _ => isDigit_of_mem_padded) (by omega) (by simp) (.inr hrest),
      value_padded]
  by_cases hplain : 0 ≤ year ∧ year ≤ 9999
  · have hread : number? 1 4 (padded 4 year.toNat ++ rest) = some (year.toNat, rest) :=
      number?_padded (by decide) (by omega) (by decide) rest
    have hminus : (padded 4 year.toNat ++ rest).head? ≠ some '-' :=
      head?_padded_append_ne (by decide) rfl _ rest
    have hplus : (padded 4 year.toNat ++ rest).head? ≠ some '+' :=
      head?_padded_append_ne (by decide) rfl _ rest
    rw [Civil.yearText, if_pos hplain, year?_unsigned hminus hplus, hread]
    simp [Int.toNat_of_nonneg hplain.1]
  · rw [Civil.yearText, if_neg hplain, List.cons_append]
    split
    · next hnegative =>
      simp only [year?, hsigned, Option.map_some]
      rw [show -(year.natAbs : Int) = year by omega]
    · next hpositive =>
      simp only [year?, hsigned, Option.map_some]
      rw [show (year.natAbs : Int) = year by omega]

/-! ### Blanks -/

theorem not_isBlank_of_isDigit {c : Char} (h : c.isDigit = true) : Text.isBlank c = false := by
  obtain ⟨hlow, hhigh⟩ := toNat_of_isDigit h
  simp only [Text.isBlank, Text.blankRanges, Text.inRanges]
  grind

theorem trimStart_padded (hwidth : 0 < width) (n : Nat) (rest : Text) :
    Text.trimStart (padded width n ++ rest) = padded width n ++ rest := by
  obtain ⟨c, text, hcons, hdigit⟩ := exists_padded_append_eq_cons hwidth n rest
  rw [hcons, Text.trimStart_cons (not_isBlank_of_isDigit hdigit)]

theorem trimStart_yearText (year : Int) (rest : Text) :
    Text.trimStart (Civil.yearText year ++ rest) = Civil.yearText year ++ rest := by
  rw [Civil.yearText]
  split
  · exact trimStart_padded (by decide) _ rest
  · split
    · exact Text.trimStart_cons (by decide) _
    · exact Text.trimStart_cons (by decide) _

/-- A number of two digits, where blanks and a single digit would do. -/
theorem number?_trimStart (hn : n < 100) (rest : Text) :
    number? 1 2 (Text.trimStart (padded 2 n ++ rest)) = some (n, rest) := by
  rw [trimStart_padded (by decide)]
  exact number?_padded (by decide) hn (by decide) rest

/-- A date with its time of day, in the local form: nothing may follow. -/
theorem local?_dateTime (hdate : date.month < 100 ∧ date.day < 100)
    (hclock : hour < 100 ∧ minute < 100 ∧ second < 100)
    (hfraction : fraction? tail = some (fraction, [])) :
    local? (dateTime date hour minute second tail)
      = instantOfFields? date hour minute second fraction 0 := by
  have htext : dateTime date hour minute second tail
      = Civil.yearText date.year ++ '-' :: (padded 2 date.month ++ '-' :: (padded 2 date.day ++ 'T' ::
          (padded 2 hour ++ ':' :: (padded 2 minute ++ ':' :: (padded 2 second ++ tail))))) := by
    simp [dateTime, Civil.text]
  rw [htext, local?, trimStart_yearText]
  refine bind_eq_of_eq_some (year?_yearText date.year (Stop.cons rfl _)) ?_
  refine bind_eq_of_eq_some (after?_dash _) ?_
  refine bind_eq_of_eq_some (number?_trimStart hdate.1 _) ?_
  refine bind_eq_of_eq_some (after?_dash _) ?_
  refine bind_eq_of_eq_some (number?_trimStart hdate.2 _) ?_
  refine bind_eq_of_eq_some rfl ?_
  refine bind_eq_of_eq_some (number?_trimStart hclock.1 _) ?_
  refine bind_eq_of_eq_some (after?_colon _) ?_
  refine bind_eq_of_eq_some (number?_trimStart hclock.2.1 _) ?_
  refine bind_eq_of_eq_some (after?_colon _) ?_
  refine bind_eq_of_eq_some (number?_trimStart hclock.2.2 _) ?_
  refine bind_eq_of_eq_some hfraction ?_
  rfl

/-! ### Either form -/

/-- Nothing follows: only the local form takes the text. -/
theorem read?_dateTime_local (hdate : date.month < 100 ∧ date.day < 100)
    (hclock : hour < 100 ∧ minute < 100 ∧ second < 100)
    (hfraction : fraction? tail = some (fraction, [])) :
    read? (dateTime date hour minute second tail)
      = instantOfFields? date hour minute second fraction 0 := by
  have hzoned : zoned? (dateTime date hour minute second tail) = none := by
    by_cases hyear : 0 ≤ date.year ∧ date.year ≤ 9999
    · rw [zoned?_dateTime hyear hdate hclock hfraction]
      rfl
    · exact zoned?_signed hyear
  rw [read?, hzoned, Option.none_or, local?_dateTime hdate hclock hfraction]

/-- An offset follows: the zoned form takes the text, if there is such an instant. -/
theorem read?_dateTime_zoned {offset : Int} {instant : Instant}
    (hyear : 0 ≤ date.year ∧ date.year ≤ 9999) (hdate : date.month < 100 ∧ date.day < 100)
    (hclock : hour < 100 ∧ minute < 100 ∧ second < 100)
    (hfraction : fraction? tail = some (fraction, rest)) (hoffset : offset? rest = some (offset, []))
    (hinstant : instantOfFields? date hour minute second fraction offset = some instant) :
    read? (dateTime date hour minute second tail) = some instant := by
  have hzoned : zoned? (dateTime date hour minute second tail) = some instant := by
    rw [zoned?_dateTime hyear hdate hclock hfraction, hoffset]
    exact hinstant
  rw [read?, hzoned, Option.some_or]

/-! ### The fields that were read -/

/-- The second that a clock shows, and the nanoseconds behind it, are those of its reading: a leap
second is shown as the second 60. -/
theorem timeOfFields?_shown {r : ClockReading} (h : r.isValid = true) :
    timeOfFields? r.hour r.minute (r.second + r.nanos / 1000000000) (r.nanos % 1000000000)
      = some ⟨r, h⟩ := by
  obtain ⟨-, -, hsecond, hnanos⟩ := ClockReading.isValid_iff.mp h
  rw [timeOfFields?]
  by_cases hordinary : r.nanos < 1000000000
  · rw [Nat.div_eq_of_lt hordinary, Nat.mod_eq_of_lt hordinary, if_neg (by omega)]
    exact dif_pos h
  · have hleap : r.second = 59 := by omega
    have hfull : ClockReading.nanosPerSecond + r.nanos % 1000000000 = r.nanos := by
      rw [ClockReading.nanosPerSecond]
      omega
    rw [if_pos (by omega), hfull, ← hleap]
    exact dif_pos h

/-- **The instant of a date that exists and of what a clock shows.** -/
theorem instantOfFields?_shown {r : ClockReading} (hdate : date.isValid = true)
    (hreading : r.isValid = true) (offset : Int) :
    instantOfFields? date r.hour r.minute (r.second + r.nanos / 1000000000)
        (r.nanos % 1000000000) offset
      = Instant.ofSeconds? (Instant.secondsPerDay * date.dayNumber + r.secondOfDay - offset)
          r.nanos := by
  have hexists : Date.ofCivil? date = some ⟨date, hdate⟩ := dif_pos hdate
  rw [instantOfFields?, hexists, timeOfFields?_shown hreading]
  rfl

/-- The fields of a date that exists have two digits. -/
theorem lt_hundred_of_isValid (h : date.isValid = true) : date.month < 100 ∧ date.day < 100 := by
  obtain ⟨-, hday, hlast⟩ := Civil.isValid_iff.mp h
  have hmonth := Civil.month_le_of_daysInMonth (Nat.lt_of_lt_of_le hday hlast)
  have hlong := Civil.daysInMonth_le (Civil.isLeapYear date.year) date.month
  omega

end TimestampText

end SqlDialect
