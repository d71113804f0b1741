import SqlDialect.Proofs.Calendar.InstantText
import SqlDialect.Proofs.Number.Text

/-!
# Dates and times are told from their texts

No two dates have the same text. Two times of day have the same text exactly if they are in the same
millisecond, and so do two instants.

## Signs and leap seconds

A year has as many digits as it needs, but no fewer than four, and it may have a sign. It ends where
the digits end, so it is told from the month behind it (`Civil.yearText_append_inj`). A leap second
is shown as the second 60 of its minute. No other second is shown so, and from the second and the
three digits behind it the milliseconds are known that have passed since the second 59 began.

## Main definitions

* `TimeOfDay.wholeMillis` — a time of day without what has passed of the millisecond

## Main results

* `Date.text_inj` — dates are told from their texts
* `TimeOfDay.text_eq_iff`, `Instant.text_eq_iff` — times of day and instants, to the millisecond
-/

namespace SqlDialect

open Digits

/-! ### Dates -/

namespace Civil

variable {c d : Civil} {year year' : Int} {rest rest' : Text}

/-- A year is told from what follows it, unless digits follow. -/
theorem yearText_append_inj (hrest : Stop rest) (hrest' : Stop rest')
    (h : yearText year ++ rest = yearText year' ++ rest') : year = year' ∧ rest = rest' := by
  have hread := congrArg TimestampText.year? h
  rw [TimestampText.year?_yearText year hrest, TimestampText.year?_yearText year' hrest'] at hread
  exact Prod.mk.inj (Option.some.inj hread)

/-- The fields of dates that exist have a fixed width behind the year. -/
theorem text_inj (hc : c.isValid = true) (hd : d.isValid = true) (h : c.text = d.text) : c = d := by
  obtain ⟨hmonth, hday⟩ := TimestampText.lt_hundred_of_isValid hc
  obtain ⟨hmonth', hday'⟩ := TimestampText.lt_hundred_of_isValid hd
  obtain ⟨year, month, day⟩ := c
  obtain ⟨year', month', day'⟩ := d
  simp only [text, List.append_assoc, List.cons_append] at h
  obtain ⟨rfl, hmonths⟩ := yearText_append_inj (.cons rfl _) (.cons rfl _) h
  obtain ⟨rfl, hdays⟩ :=
    (padded_append_inj (by decide) hmonth hmonth').mp (List.cons.inj hmonths).2
  obtain rfl := padded_inj (List.cons.inj hdays).2
  rfl

end Civil

/-- **Dates are told from their texts.** -/
theorem Date.text_inj {d e : Date} : d.text = e.text ↔ d = e := by
  refine ⟨fun h => ?_, fun h => by rw [h]⟩
  have hcivil : d.civil = e.civil := Civil.text_inj d.valid e.valid h
  obtain ⟨civil, valid⟩ := d
  obtain rfl : civil = _ := hcivil
  rfl

/-! ### Times of day -/

namespace ClockReading

variable {r s : ClockReading}

theorem secondOfDay_wholeMillis (r : ClockReading) : r.wholeMillis.secondOfDay = r.secondOfDay :=
  rfl

/-- What a clock shows of seconds and milliseconds, and what it has counted of them. -/
theorem shown_iff (hr : r.isValid = true) (hs : s.isValid = true) :
    (r.second + r.nanos / 1000000000 = s.second + s.nanos / 1000000000 ∧
        r.nanos % 1000000000 / 1000000 = s.nanos % 1000000000 / 1000000) ↔
      r.second = s.second ∧ r.nanos / 1000000 * 1000000 = s.nanos / 1000000 * 1000000 := by
  obtain ⟨-, -, hsecond, hnanos⟩ := isValid_iff.mp hr
  obtain ⟨-, -, hsecond', hnanos'⟩ := isValid_iff.mp hs
  omega

/-- Two readings show the same text exactly if they are in the same millisecond. -/
theorem text_eq_iff (hr : r.isValid = true) (hs : s.isValid = true) :
    r.text = s.text ↔ r.wholeMillis = s.wholeMillis := by
  have hshown := shown_iff hr hs
  obtain ⟨hhour, hminute, hsecond, hnanos⟩ := isValid_iff.mp hr
  obtain ⟨hhour', hminute', hsecond', hnanos'⟩ := isValid_iff.mp hs
  have hfields : r.text = s.text ↔ r.hour = s.hour ∧ r.minute = s.minute ∧
      (r.second + r.nanos / 1000000000 = s.second + s.nanos / 1000000000 ∧
        r.nanos % 1000000000 / 1000000 = s.nanos % 1000000000 / 1000000) := by
    simp only [text, nanosPerSecond, List.append_assoc, List.cons_append]
    rw [padded_append_inj (by decide) (by omega) (by omega), List.cons_inj_right,
      padded_append_inj (by decide) (by omega) (by omega), List.cons_inj_right,
      padded_append_inj (by decide) (by omega) (by omega), List.cons_inj_right]
    have hmillis : padded 3 (r.nanos % 1000000000 / 1000000)
          = padded 3 (s.nanos % 1000000000 / 1000000) ↔
        r.nanos % 1000000000 / 1000000 = s.nanos % 1000000000 / 1000000 :=
      ⟨padded_inj, fun h => by rw [h]⟩
    rw [hmillis]
  rw [hfields, hshown, wholeMillis, wholeMillis, mk.injEq]

end ClockReading

/-- The time of day, without what has passed of its last millisecond. -/
def TimeOfDay.wholeMillis (t : TimeOfDay) : TimeOfDay :=
  ⟨t.reading.wholeMillis, ClockReading.isValid_wholeMillis t.valid⟩

/-- **Times of day are told from their texts, to the millisecond.** -/
theorem TimeOfDay.text_eq_iff {t u : TimeOfDay} : t.text = u.text ↔ t.wholeMillis = u.wholeMillis := by
  rw [wholeMillis, wholeMillis, mk.injEq]
  exact ClockReading.text_eq_iff t.valid u.valid

/-! ### Instants -/

namespace Instant

variable {i j : Instant}

/-- The date and the time of day are told from each other by the blank. -/
theorem text_eq_iff_parts :
    i.text = j.text ↔ i.civil.text = j.civil.text ∧ i.reading.text = j.reading.text := by
  refine ⟨fun h => ?_, fun ⟨hcivil, hreading⟩ => by rw [text, text, hcivil, hreading]⟩
  have hblank (c : Civil) : ' ' ∉ c.text := fun hc => c.bare_text ' ' hc (by decide)
  exact Text.append_mark_inj (hblank i.civil) (hblank j.civil) h

/-- Instants of the same millisecond have the same date, and their clocks have counted the same
milliseconds; from these the instant is known. -/
theorem wholeMillis_eq_iff :
    i.wholeMillis = j.wholeMillis ↔
      i.civil = j.civil ∧ i.reading.wholeMillis = j.reading.wholeMillis := by
  have hmillis : i.wholeMillis = j.wholeMillis ↔
      i.seconds = j.seconds ∧ i.nanos / 1000000 * 1000000 = j.nanos / 1000000 * 1000000 := by
    rw [wholeMillis, wholeMillis, mk.injEq]
  rw [hmillis]
  constructor
  · rintro ⟨hseconds, hnanos⟩
    refine ⟨by rw [civil, civil, hseconds], ?_⟩
    simp only [reading, ClockReading.ofSecondOfDay, ClockReading.wholeMillis, hseconds, hnanos]
  · rintro ⟨hcivil, hreading⟩
    have hnanos := congrArg ClockReading.nanos hreading
    have hsecond : i.reading.secondOfDay = j.reading.secondOfDay := by
      rw [← ClockReading.secondOfDay_wholeMillis, hreading, ClockReading.secondOfDay_wholeMillis]
    refine ⟨?_, hnanos⟩
    rw [← i.seconds_eq, ← j.seconds_eq, hcivil, hsecond]

/-- **Instants are told from their texts, to the millisecond.** -/
theorem text_eq_iff : i.text = j.text ↔ i.wholeMillis = j.wholeMillis := by
  have hcivil : i.civil.text = j.civil.text ↔ i.civil = j.civil :=
    ⟨Civil.text_inj i.isValid_civil j.isValid_civil, fun h => by rw [h]⟩
  rw [text_eq_iff_parts, hcivil, ClockReading.text_eq_iff i.isValid_reading j.isValid_reading,
    wholeMillis_eq_iff]

end Instant

end SqlDialect
