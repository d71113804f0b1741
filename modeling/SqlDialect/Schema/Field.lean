import SqlDialect.Keyed
import SqlDialect.Schema.Kind
import SqlDialect.Value

/-!
# Schemas and fields

A schema says what the values of a field are: their kind, a logical type on top of it, and
parameters of the logical type as texts. A field is a named schema and may be part of the primary
key.

## The scale of a decimal

The scale is a parameter and so a text. It is read as a number of 32 bits without a sign: decimal
digits, at least one, and a plus sign in front if one likes.

## Main definitions

* `Schema`, `Field`
* `Schema.decimalScale?` — the scale of a decimal schema
* `Field.isOptional` — whether the column takes NULL
-/

namespace SqlDialect

/-- What the values of a field are. -/
structure Schema where
  /-- How the values travel. -/
  kind : Kind
  /-- What they mean beyond that. -/
  logical : Option LogicalType := none
  /-- Parameters of the logical type. -/
  parameters : Keyed Text := []
  /-- Whether a value may be missing. -/
  optional : Bool := false
  /-- The value of a row that gives none. -/
  default : Option Value := none

namespace Schema

/-- The parameter that holds the scale of a decimal. -/
def scaleKey : Text := "scale"

/-- The schema of decimals with `scale` places. -/
def decimal (scale : Nat) : Schema where
  kind := .bytes
  logical := some .decimal
  parameters := [(scaleKey, Digits.ofNat scale)]

/-- The schema of dates. -/
def date : Schema where
  kind := .int32
  logical := some .date

/-- The schema of times of day. -/
def time : Schema where
  kind := .int32
  logical := some .time

/-- The schema of instants. -/
def timestamp : Schema where
  kind := .int64
  logical := some .timestamp

/-- The schema with one parameter more, or with another value for it. -/
def withParameter (s : Schema) (key value : Text) : Schema :=
  { s with parameters := s.parameters.insert key value }

/-- A number of 32 bits without a sign: digits behind an optional plus. -/
def natOfText? (text : Text) : Option Nat :=
  let digits := match text with
    | '+' :: rest => rest
    | _ => text
  if !digits.isEmpty && digits.all Char.isDigit && Digits.value digits < Nat.pow 2 32 then
    some (Digits.value digits)
  else none

/-- The scale among the parameters, if it is there and a number. -/
def decimalScale? (s : Schema) : Option Nat := (s.parameters.get? scaleKey).bind natOfText?

end Schema

/-- A field of a record. -/
structure Field where
  /-- Its name, which is also that of the column. -/
  name : Text
  /-- What its values are. -/
  schema : Schema
  /-- Whether it is part of the primary key. -/
  isKey : Bool := false

/-- Whether the column takes NULL. A key column never does. -/
def Field.isOptional (f : Field) : Bool := !f.isKey && f.schema.optional

end SqlDialect
