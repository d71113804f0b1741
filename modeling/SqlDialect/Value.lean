import SqlDialect.Calendar.Instant
import SqlDialect.Number.Decimal
import SqlDialect.Number.Shortest

/-!
# Field values

A value of one column of one row. A missing value is no value, so there is no constructor for it.
Floating-point numbers are carried as bits.

## Literals

A default of a column is written into the statement as a literal. Numbers are written as they are,
truth values as `1` and `0`, everything else in single quotes. A quote inside a text is written
twice; bytes are hexadecimal digits behind an `x`.

## Main definitions

* `Value` — a value, `Value.bytes?` its bytes if it is binary
* `Value.literal` — the value inside a statement
-/

namespace SqlDialect

/-- A value of one column. -/
inductive Value where
  /-- A signed integer of 8 bits. -/
  | int8 (value : Int8)
  /-- A signed integer of 16 bits. -/
  | int16 (value : Int16)
  /-- A signed integer of 32 bits. -/
  | int32 (value : Int32)
  /-- A signed integer of 64 bits. -/
  | int64 (value : Int64)
  /-- A floating-point number of 32 bits. -/
  | float32 (bits : UInt32)
  /-- A floating-point number of 64 bits. -/
  | float64 (bits : UInt64)
  /-- A truth value. -/
  | boolean (value : Bool)
  /-- A text. -/
  | string (text : Text)
  /-- Bytes that belong to the value. -/
  | bytes (data : List UInt8)
  /-- Bytes that are shared with others. -/
  | buffer (data : List UInt8)
  /-- A decimal number. -/
  | decimal (value : Decimal)
  /-- A calendar date. -/
  | date (value : Date)
  /-- A time of day. -/
  | time (value : TimeOfDay)
  /-- An instant. -/
  | timestamp (value : Instant)
  deriving DecidableEq

namespace Value

/-- The bytes of a binary value. -/
def bytes? : Value → Option (List UInt8)
  | .bytes data => some data
  | .buffer data => some data
  | _ => none

/-- `text` in single quotes, a quote inside written twice. -/
def quoted (text : Text) : Text := '\'' :: Text.doubled ['\''] text ++ ['\'']

/-- The value as it is written inside a statement. -/
def literal : Value → Text
  | .int8 n => Digits.ofInt n.toInt
  | .int16 n => Digits.ofInt n.toInt
  | .int32 n => Digits.ofInt n.toInt
  | .int64 n => Digits.ofInt n.toInt
  | .float32 bits => (BinaryFormat.single.decode bits.toNat).plainText .single
  | .float64 bits => (BinaryFormat.double.decode bits.toNat).plainText .double
  | .boolean b => if b then "1" else "0"
  | .string text => quoted text
  | .bytes data => 'x' :: quoted (data.flatMap Digits.hexUpper)
  | .buffer data => 'x' :: quoted (data.flatMap Digits.hexUpper)
  | .decimal d => d.text
  | .date d => quoted d.text
  | .time t => quoted t.text
  | .timestamp i => quoted i.text

end Value

end SqlDialect
