import SqlDialect.Proofs.Calendar.TimestampText
import SqlDialect.Proofs.Lexing.Literal

/-!
# Instants are read back from their literals

The literal of an instant has its date, a blank and its time of day in quotes. With a `T` for the
blank it is a timestamp in the local form, and what is read from it is the instant again, but for
what has passed of its last millisecond: a literal shows no more than milliseconds.

## Every instant, not only those of four-digit years

The date of an instant is a supported one, since the first and the last supported second are those
of the first and the last supported day (`Instant.isValid_civil`). Before the year 0 and after 9999
it is shown with a sign, which keeps the zoned form away from it; in between, the zoned form looks
for an offset and finds none. A leap second is shown as the second 60 and read as the second 59 with
its full second of nanoseconds, so it needs no case of its own here.

## Main definitions

* `ClockReading.wholeMillis`, `Instant.wholeMillis` — without what has passed of the millisecond

## Main results

* `Instant.read?_text` — an instant is read back from its date and its time of day
* `Value.read?_literal` — and so from its literal
-/

namespace SqlDialect

open Token

/-! ### Whole milliseconds -/

namespace ClockReading

/-- The reading, without what has passed of its last millisecond. -/
def wholeMillis (r : ClockReading) : ClockReading := { r with nanos := r.nanos / 1000000 * 1000000 }

theorem isValid_wholeMillis {r : ClockReading} (h : r.isValid = true) :
    r.wholeMillis.isValid = true := by
  obtain ⟨hhour, hminute, hsecond, hnanos⟩ := isValid_iff.mp h
  refine isValid_iff.mpr ⟨hhour, hminute, hsecond, ?_⟩
  dsimp only [wholeMillis]
  omega

/-- A reading is one of the second of the day that it was taken at. -/
theorem secondOfDay_ofSecondOfDay (second nanos : Nat) :
    (ofSecondOfDay second nanos).secondOfDay = second := by
  dsimp only [ofSecondOfDay, secondOfDay]
  omega

theorem isValid_ofSecondOfDay {second nanos : Nat} (hday : second < 86400)
    (hnanos : nanos < 1000000000 ∨ second % 60 = 59 ∧ nanos < 2000000000) :
    (ofSecondOfDay second nanos).isValid = true := by
  refine isValid_iff.mpr ⟨?_, ?_, ?_, hnanos⟩
  all_goals
    dsimp only [ofSecondOfDay]
    omega

end ClockReading

namespace Instant

/-- The instant, without what has passed of its last millisecond. -/
def wholeMillis (i : Instant) : Instant where
  seconds := i.seconds
  nanos := i.nanos / 1000000 * 1000000
  valid := by
    have hvalid := i.valid
    omega

/-! ### The date and the time of day of an instant -/

theorem dayNumber_civil (i : Instant) : i.civil.dayNumber = i.seconds / secondsPerDay :=
  Civil.dayNumber_ofDayNumber _

/-- The date of an instant is a supported one. -/
theorem isValid_civil (i : Instant) : i.civil.isValid = true := by
  obtain ⟨hfirst, hlast, -⟩ := i.valid
  have hfirstDay : Civil.daysBeforeYear Civil.firstYear - Civil.epochDay = -96465292 := by decide
  have hlastDay : Civil.daysBeforeYear (Civil.lastYear + 1) - Civil.epochDay = 95026237 := by decide
  refine Civil.isValid_ofDayNumber ?_ ?_
  · rw [hfirstDay, secondsPerDay]
    omega
  · rw [hlastDay, secondsPerDay]
    omega

theorem isValid_reading (i : Instant) : i.reading.isValid = true := by
  obtain ⟨-, -, hnanos⟩ := i.valid
  refine ClockReading.isValid_ofSecondOfDay ?_ ?_
  · rw [secondsPerDay]
    omega
  · rw [secondsPerDay]
    omega

/-- An instant is the one of its date and its time of day. -/
theorem seconds_eq (i : Instant) :
    secondsPerDay * i.civil.dayNumber + i.reading.secondOfDay = i.seconds := by
  rw [dayNumber_civil, reading, ClockReading.secondOfDay_ofSecondOfDay, secondsPerDay]
  omega

/-! ### Reading an instant back -/

/-- Three digits after a point are milliseconds. -/
theorem fraction?_millis {millis : Nat} (h : millis < 1000) :
    TimestampText.fraction? ('.' :: Digits.padded 3 millis) = some (millis * 1000000, []) := by
  have hlength : (Digits.padded 3 millis).length = 3 := Digits.length_padded (by decide) h
  have hne : Digits.padded 3 millis ≠ [] := by
    rw [← List.length_pos_iff, hlength]
    decide
  have hread := TimestampText.fraction?_digits (fun _ => Digits.isDigit_of_mem_padded) hne
    (by rw [hlength]; decide) Digits.Stop.nil
  rw [List.append_nil] at hread
  rw [hread, hlength, Digits.value_append_zeros, Digits.value_padded]
  rfl

/-- **An instant is read back from its date and its time of day**, to the millisecond. -/
theorem read?_text (i : Instant) :
    TimestampText.read? (i.civil.text ++ 'T' :: i.reading.text) = some i.wholeMillis := by
  have hreading := i.isValid_reading
  obtain ⟨hhour, hminute, hsecond, hnanos⟩ := ClockReading.isValid_iff.mp hreading
  have htext : i.civil.text ++ 'T' :: i.reading.text
      = TimestampText.dateTime i.civil i.reading.hour i.reading.minute
          (i.reading.second + i.reading.nanos / 1000000000)
          ('.' :: Digits.padded 3 (i.reading.nanos % 1000000000 / 1000000)) := by
    simp [TimestampText.dateTime, ClockReading.text, ClockReading.nanosPerSecond]
  have hmillis : i.reading.nanos % 1000000000 / 1000000 < 1000 := by omega
  have hfraction := fraction?_millis hmillis
  -- What the literal shows is what a clock shows that has stopped at the millisecond.
  have hshown : i.reading.nanos / 1000000000 = i.reading.wholeMillis.nanos / 1000000000 ∧
      i.reading.nanos % 1000000000 / 1000000 * 1000000
        = i.reading.wholeMillis.nanos % 1000000000 := by
    dsimp only [ClockReading.wholeMillis]
    omega
  rw [htext, TimestampText.read?_dateTime_local
    (TimestampText.lt_hundred_of_isValid i.isValid_civil) (by omega) hfraction, hshown.1, hshown.2]
  refine (TimestampText.instantOfFields?_shown (r := i.reading.wholeMillis) i.isValid_civil
    (ClockReading.isValid_wholeMillis hreading) 0).trans ?_
  rw [show i.reading.wholeMillis.secondOfDay = i.reading.secondOfDay from rfl, seconds_eq,
    Int.sub_zero]
  exact dif_pos i.wholeMillis.valid

end Instant

/-! ### The literal -/

/-- What stands around the date and the time of day of a literal: the quotes, and the blank. -/
def Token.literalMarks : List Char := ['\'', ' ']

theorem Token.isDigit_literalMarks : ∀ m ∈ literalMarks, m.isDigit = false := by
  simp only [literalMarks, List.forall_mem_cons]
  exact ⟨rfl, rfl, nofun⟩

theorem Token.Bare.padded (width n : Nat) : Bare literalMarks (Digits.padded width n) :=
  .of_isDigit isDigit_literalMarks fun _ => Digits.isDigit_of_mem_padded

theorem Civil.bare_text (c : Civil) : Bare literalMarks c.text := by
  have hyear : Bare literalMarks (yearText c.year) := by
    rw [yearText]
    split
    · exact .padded 4 _
    · split
      · exact .cons (by decide) (.padded 4 _)
      · exact .cons (by decide) (.padded 4 _)
  rw [text, List.append_assoc]
  exact .append hyear (.append (.cons (by decide) (.padded 2 _)) (.cons (by decide) (.padded 2 _)))

theorem ClockReading.bare_text (r : ClockReading) : Bare literalMarks r.text := by
  rw [text, List.append_assoc, List.append_assoc]
  refine .append (.padded 2 _) (.append (.cons (by decide) (.padded 2 _)) (.append ?_ ?_))
  · exact .cons (by decide) (.padded 2 _)
  · exact .cons (by decide) (.padded 3 _)

/-- A text without a quote is not changed by the quotes around it. -/
theorem Value.quoted_of_not_mem {text : Text} (h : '\'' ∉ text) :
    quoted text = '\'' :: text ++ ['\''] := by
  have hsingle : ∀ c ∈ text, (if c = '\'' then ['\'', '\''] else [c]) = [c] := by
    intro c hc
    rw [if_neg]
    rintro rfl
    exact h hc
  rw [quoted, Text.doubled_singleton, List.flatMap_congr hsingle, List.flatMap_singleton']

/-- **Literals of instants are read back.** The literal of an instant has two quotes, at its ends,
and one blank between a date and a time of day. What stands between the quotes, with a `T` for the
blank, is read as the instant, without what has passed of its last millisecond. -/
theorem Value.read?_literal (i : Instant) :
    ∃ date time : Text,
      (Value.timestamp i).literal = '\'' :: date ++ ' ' :: time ++ ['\''] ∧
      ('\'' ∉ date ∧ ' ' ∉ date) ∧ ('\'' ∉ time ∧ ' ' ∉ time) ∧
      TimestampText.read? (date ++ 'T' :: time) = some i.wholeMillis := by
  have hmarks {text : Text} (h : Bare literalMarks text) : '\'' ∉ text ∧ ' ' ∉ text :=
    ⟨fun hc => h _ hc (by decide), fun hc => h _ hc (by decide)⟩
  have hdate := hmarks i.civil.bare_text
  have htime := hmarks i.reading.bare_text
  refine ⟨i.civil.text, i.reading.text, ?_, hdate, htime, i.read?_text⟩
  have hquote : '\'' ∉ i.text := by
    simp [Instant.text, hdate.1, htime.1]
  rw [literal, quoted_of_not_mem hquote, Instant.text]
  rfl

example : (Value.timestamp ⟨-1, 1999999999, by decide⟩).literal = "'1969-12-31 23:59:60.999'" := by
  decide

end SqlDialect
