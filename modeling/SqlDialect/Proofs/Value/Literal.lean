import SqlDialect.Proofs.Calendar.Text
import SqlDialect.Proofs.Lexing.Literal

/-!
# Values are told from their literals

Two defaults of the same variant are written alike only if they are the same value, as far as a
literal goes: it shows milliseconds, and it does not show whether bytes are shared.

## Of the same variant

Values of different variants may well have the same literal, as `1` is that of a truth value and of
a number, and a date may stand in a text. Which of them is meant is known from the column. So values
are compared within a variant (`Value.Alike`). Floating-point numbers are left out, since the bits
of those that are no number are not shown.

## Quotes

A literal in quotes is read back as the text inside (`Value.readable_tokens`). So for texts, bytes,
dates, times of day and instants there is nothing to say of quotes that are written twice, and what
is left to compare is what stands inside.

## Main definitions

* `Value.Alike` — two values of the same variant
* `Value.shown` — a value as far as its literal shows it

## Main results

* `Value.literal_eq_iff` — when two values have the same literal
-/

namespace SqlDialect

open Token

namespace Value

variable {v w : Value} {a b : Text} {data : List UInt8}

/-- Two values of the same variant, other than floating-point numbers. The two variants of bytes
count as one. -/
inductive Alike : Value → Value → Prop where
  | int8 (m n : Int8) : Alike (.int8 m) (.int8 n)
  | int16 (m n : Int16) : Alike (.int16 m) (.int16 n)
  | int32 (m n : Int32) : Alike (.int32 m) (.int32 n)
  | int64 (m n : Int64) : Alike (.int64 m) (.int64 n)
  | boolean (b c : Bool) : Alike (.boolean b) (.boolean c)
  | string (text other : Text) : Alike (.string text) (.string other)
  | binary {v w : Value} {data other : List UInt8} :
      v.bytes? = some data → w.bytes? = some other → Alike v w
  | decimal (d e : Decimal) : Alike (.decimal d) (.decimal e)
  | date (d e : Date) : Alike (.date d) (.date e)
  | time (t u : TimeOfDay) : Alike (.time t) (.time u)
  | timestamp (i j : Instant) : Alike (.timestamp i) (.timestamp j)

/-- The value as far as its literal shows it: whole milliseconds of a time of day or an instant, and
bytes whoever they belong to. -/
def shown : Value → Value
  | .buffer data => .bytes data
  | .time t => .time t.wholeMillis
  | .timestamp i => .timestamp i.wholeMillis
  | v => v

/-! ### Literals in quotes -/

/-- What stands in the quotes of a literal is read off it. -/
theorem quotedText?_eq_of_literal_eq (h : v.literal = w.literal) :
    v.quotedText? = w.quotedText? := by
  have htokens : v.tokens = w.tokens := by
    have hread := read_writeAll v.readable_tokens
    rw [writeAll_tokens, h, ← writeAll_tokens w, read_writeAll w.readable_tokens] at hread
    exact (Option.some.inj hread).symm
  have hquoted := congrArg (quotedBy '\'') htokens
  rw [quotedBy_literal, quotedBy_literal] at hquoted
  rw [← Option.head?_toList (o := v.quotedText?), hquoted, Option.head?_toList]

/-- Literals in quotes are the same if what stands in the quotes is, and the mark for bytes. -/
theorem literal_eq_iff_of_quotedText? (hv : v.quotedText? = some a) (hw : w.quotedText? = some b)
    (hbytes : v.bytes?.isSome = w.bytes?.isSome) : v.literal = w.literal ↔ a = b := by
  constructor
  · intro h
    have hquoted := quotedText?_eq_of_literal_eq h
    rw [hv, hw] at hquoted
    exact Option.some.inj hquoted
  · rintro rfl
    rw [← writeAll_tokens v, ← writeAll_tokens w, tokens, tokens, hv, hw, hbytes]

theorem eq_of_bytes? (h : v.bytes? = some data) : v = .bytes data ∨ v = .buffer data := by
  cases v with
  | bytes other => exact .inl (congrArg bytes (Option.some.inj h))
  | buffer other => exact .inr (congrArg buffer (Option.some.inj h))
  | _ => simp [bytes?] at h

theorem quotedText?_of_bytes? (h : v.bytes? = some data) :
    v.quotedText? = some (data.flatMap Digits.hexUpper) := by
  rcases eq_of_bytes? h with rfl | rfl <;> rfl

theorem shown_of_bytes? (h : v.bytes? = some data) : v.shown = .bytes data := by
  rcases eq_of_bytes? h with rfl | rfl <;> rfl

/-! ### Literals of one variant -/

/-- **Literals lose nothing.** Two values of the same variant have the same literal exactly if they
are the same value, without what has passed of the last millisecond of a time of day or an instant,
and whoever their bytes belong to. -/
theorem literal_eq_iff (h : v.Alike w) : v.literal = w.literal ↔ v.shown = w.shown := by
  cases h with
  | int8 m n => simp only [literal, shown, Digits.ofInt_inj, Int8.toInt_inj, int8.injEq]
  | int16 m n => simp only [literal, shown, Digits.ofInt_inj, Int16.toInt_inj, int16.injEq]
  | int32 m n => simp only [literal, shown, Digits.ofInt_inj, Int32.toInt_inj, int32.injEq]
  | int64 m n => simp only [literal, shown, Digits.ofInt_inj, Int64.toInt_inj, int64.injEq]
  | boolean b c => cases b <;> cases c <;> decide
  | string text other =>
    have hquoted : (Value.string text).literal = (Value.string other).literal ↔ text = other :=
      literal_eq_iff_of_quotedText? rfl rfl rfl
    simp only [hquoted, shown, string.injEq]
  | binary hv hw =>
    have hbytes : v.bytes?.isSome = w.bytes?.isSome := by rw [hv, hw, Option.isSome, Option.isSome]
    rw [literal_eq_iff_of_quotedText? (quotedText?_of_bytes? hv) (quotedText?_of_bytes? hw) hbytes,
      Digits.flatMap_hexUpper_inj, shown_of_bytes? hv, shown_of_bytes? hw, bytes.injEq]
  | decimal d e => simp only [literal, shown, Decimal.text_inj, decimal.injEq]
  | date d e =>
    have hquoted : (Value.date d).literal = (Value.date e).literal ↔ d.text = e.text :=
      literal_eq_iff_of_quotedText? rfl rfl rfl
    simp only [hquoted, Date.text_inj, shown, date.injEq]
  | time t u =>
    have hquoted : (Value.time t).literal = (Value.time u).literal ↔ t.text = u.text :=
      literal_eq_iff_of_quotedText? rfl rfl rfl
    simp only [hquoted, TimeOfDay.text_eq_iff, shown, time.injEq]
  | timestamp i j =>
    have hquoted : (Value.timestamp i).literal = (Value.timestamp j).literal ↔ i.text = j.text :=
      literal_eq_iff_of_quotedText? rfl rfl rfl
    simp only [hquoted, Instant.text_eq_iff, shown, timestamp.injEq]

/-- A leap second, twice in the same millisecond, and the second after it. -/
theorem literal_eq_iff_leap :
    (Value.timestamp ⟨-1, 1999999999, by decide⟩).literal
        = (Value.timestamp ⟨-1, 1999000000, by decide⟩).literal ∧
      (Value.timestamp ⟨-1, 1999999999, by decide⟩).literal
        ≠ (Value.timestamp ⟨0, 999999999, by decide⟩).literal := by
  refine ⟨(literal_eq_iff (.timestamp _ _)).mpr (by decide), fun h => ?_⟩
  have hshown := (literal_eq_iff (.timestamp _ _)).mp h
  exact absurd hshown (by decide)

end Value

end SqlDialect
