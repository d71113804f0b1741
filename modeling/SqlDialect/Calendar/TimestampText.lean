import SqlDialect.Calendar.Instant
import SqlDialect.Text.Blank

/-!
# Reading timestamps

A timestamp is read in one of two forms. The *zoned* form is that of RFC 3339: every field has its
full width and an offset from universal time ends it. The *local* form has no offset and is taken
as universal time; it is more lenient, with blanks before each number, fields of one or two digits
and years of any length behind a sign. The zoned form is tried first.

## One way of reading

A reader takes a text and gives what it read with the rest of the text, or nothing. The fields of
a form follow one another, so a form is a chain of readers, and a text is accepted when nothing is
left of it.

The second of a minute may be 60: that is the leap second, kept as the second 59 with a thousand
million nanoseconds more.

## Main definitions

* `TimestampText.zoned?`, `TimestampText.local?` — the two forms
* `TimestampText.read?` — an instant from either form
-/

namespace SqlDialect

namespace TimestampText

/-! ### Readers of the parts -/

/-- A number of at least `least` and at most `most` digits. -/
def number? (least most : Nat) (text : Text) : Option (Nat × Text) :=
  let (digits, rest) := Digits.takeUpTo most text
  if least ≤ digits.length then some (Digits.value digits, rest) else none

/-- The nanoseconds after a point: at least one digit, of which nine count. -/
def fraction? : Text → Option (Nat × Text)
  | '.' :: rest =>
    let (digits, after) := Digits.takeUpTo 9 rest
    if digits.isEmpty then none
    else some (Digits.value digits * Nat.pow 10 (9 - digits.length), after.dropWhile Char.isDigit)
  | text => some (0, text)

/-- The seconds an offset puts local time ahead of universal time. -/
def offset? : Text → Option (Int × Text)
  | [] => none
  | sign :: rest =>
    if sign = 'Z' ∨ sign = 'z' then some (0, rest)
    else if sign = '+' ∨ sign = '-' ∨ sign = '−' then do
      let (hours, rest) ← number? 2 2 rest
      let rest ← Text.after? ":" rest
      let (minutes, rest) ← number? 2 2 rest
      if hours ≤ 23 ∧ minutes ≤ 59 then
        let ahead : Int := 3600 * hours + 60 * minutes
        some (if sign = '+' then ahead else -ahead, rest)
      else none
    else none

/-- A year: up to four digits, or any number of digits behind a sign. -/
def year? (text : Text) : Option (Int × Text) :=
  match text with
  | '-' :: rest => (number? 1 rest.length rest).map fun (n, after) => (-(n : Int), after)
  | '+' :: rest => (number? 1 rest.length rest).map fun (n, after) => ((n : Int), after)
  | _ => (number? 1 4 text).map fun (n, after) => ((n : Int), after)

/-- The time of day with the given fields, a second 60 being a leap second. -/
def timeOfFields? (hour minute second fraction : Nat) : Option TimeOfDay :=
  if second = 60 then
    TimeOfDay.ofReading? ⟨hour, minute, 59, ClockReading.nanosPerSecond + fraction⟩
  else
    TimeOfDay.ofReading? ⟨hour, minute, second, fraction⟩

/-! ### The two forms -/

/-- An instant written with all fields in full and with its offset. -/
def zoned? (text : Text) : Option Instant := do
  let (year, rest) ← number? 4 4 text
  let rest ← Text.after? "-" rest
  let (month, rest) ← number? 2 2 rest
  let rest ← Text.after? "-" rest
  let (day, rest) ← number? 2 2 rest
  let rest ← match rest with
    | c :: rest => if c = 'T' ∨ c = 't' ∨ c = ' ' then some rest else none
    | [] => none
  let (hour, rest) ← number? 2 2 rest
  let rest ← Text.after? ":" rest
  let (minute, rest) ← number? 2 2 rest
  let rest ← Text.after? ":" rest
  let (second, rest) ← number? 2 2 rest
  let (fraction, rest) ← fraction? rest
  let (offset, rest) ← offset? rest
  guard rest.isEmpty
  let date ← Date.ofCivil? ⟨year, month, day⟩
  let time ← timeOfFields? hour minute second fraction
  Instant.ofParts? date time offset

/-- An instant written without an offset, in universal time. -/
def local? (text : Text) : Option Instant := do
  let (year, rest) ← year? (Text.trimStart text)
  let rest ← Text.after? "-" rest
  let (month, rest) ← number? 1 2 (Text.trimStart rest)
  let rest ← Text.after? "-" rest
  let (day, rest) ← number? 1 2 (Text.trimStart rest)
  let rest ← Text.after? "T" rest
  let (hour, rest) ← number? 1 2 (Text.trimStart rest)
  let rest ← Text.after? ":" rest
  let (minute, rest) ← number? 1 2 (Text.trimStart rest)
  let rest ← Text.after? ":" rest
  let (second, rest) ← number? 1 2 (Text.trimStart rest)
  let (fraction, rest) ← fraction? rest
  guard rest.isEmpty
  let date ← Date.ofCivil? ⟨year, month, day⟩
  let time ← timeOfFields? hour minute second fraction
  Instant.ofParts? date time 0

/-- The instant a text stands for, in either form. -/
def read? (text : Text) : Option Instant := (zoned? text).or (local? text)

example : read? "2024-05-01T12:30:00.25+02:00" = Instant.ofSeconds? 1714559400 250000000 := by
  decide

example : read? "2024-05-01T10:30:00.250" = Instant.ofSeconds? 1714559400 250000000 := by decide

end TimestampText

end SqlDialect
