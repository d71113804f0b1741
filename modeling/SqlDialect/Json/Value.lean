import SqlDialect.Keyed
import SqlDialect.Number.Shortest
import SqlDialect.Text.Shown

/-!
# JSON values

Numbers are of two sorts: whole numbers that fit 64 bits, with or without a sign, and
floating-point numbers. The members of an object are kept in the order of their keys, each key
once.

A message that a value has the wrong shape names the shape, and for a scalar the value as well.

## Main definitions

* `Json` — a value
* `Json.Shape` — what a message says of a value, `Json.Shape.text` its words
-/

namespace SqlDialect

/-- A JSON value. -/
inductive Json where
  /-- The value `null`. -/
  | null
  /-- A truth value. -/
  | boolean (value : Bool)
  /-- A whole number of 64 bits, with or without a sign. -/
  | integer (value : Int)
  /-- A floating-point number, by its bits. -/
  | floating (bits : UInt64)
  /-- A text. -/
  | string (value : Text)
  /-- A list of values. -/
  | array (items : List Json)
  /-- Values under keys. -/
  | object (members : List (Text × Json))

namespace Json

/-- What a message says of a value. -/
inductive Shape where
  /-- The value `null`. -/
  | null
  /-- A truth value. -/
  | boolean (value : Bool)
  /-- A whole number. -/
  | integer (value : Int)
  /-- A floating-point number. -/
  | floating (bits : UInt64)
  /-- A text. -/
  | string (value : Text)
  /-- Some list. -/
  | array
  /-- Some object. -/
  | object
  deriving DecidableEq

/-- The words for a shape. -/
def Shape.text : Shape → Text
  | .null => "null"
  | .boolean value => "boolean \x60" ++ (if value then "true" else "false") ++ ['\x60']
  | .integer value => "integer \x60" ++ Digits.ofInt value ++ ['\x60']
  | .floating bits =>
    "floating point \x60" ++ (BinaryFormat.double.decode bits.toNat).pointedText .double ++ ['\x60']
  | .string value => "string " ++ Text.shown value
  | .array => "sequence"
  | .object => "map"

/-- The shape of a value. -/
def shape : Json → Shape
  | .null => .null
  | .boolean value => .boolean value
  | .integer value => .integer value
  | .floating bits => .floating bits
  | .string value => .string value
  | .array _ => .array
  | .object _ => .object

end Json

end SqlDialect
