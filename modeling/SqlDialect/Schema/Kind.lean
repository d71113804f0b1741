import SqlDialect.Text.Basic

/-!
# Kinds of fields

A field of a record has a primitive kind, the way its values travel, and may have a logical type,
what they mean. Both have a name that is shown in messages.

## Main definitions

* `Kind`, `LogicalType` — the primitive kinds and the logical types
* `Kind.name`, `LogicalType.name` — their names
-/

namespace SqlDialect

/-- How the values of a field travel. -/
inductive Kind where
  /-- A signed integer of 8 bits. -/
  | int8
  /-- A signed integer of 16 bits. -/
  | int16
  /-- A signed integer of 32 bits. -/
  | int32
  /-- A signed integer of 64 bits. -/
  | int64
  /-- A floating-point number of 32 bits. -/
  | float32
  /-- A floating-point number of 64 bits. -/
  | float64
  /-- A truth value. -/
  | boolean
  /-- A text. -/
  | string
  /-- A row of bytes. -/
  | bytes
  /-- A list of values. -/
  | array
  /-- Values under keys. -/
  | map
  /-- A record inside the record. -/
  | struct
  deriving DecidableEq

/-- The name of the kind. -/
def Kind.name : Kind → Text
  | .int8 => "INT8"
  | .int16 => "INT16"
  | .int32 => "INT32"
  | .int64 => "INT64"
  | .float32 => "FLOAT32"
  | .float64 => "FLOAT64"
  | .boolean => "BOOLEAN"
  | .string => "STRING"
  | .bytes => "BYTES"
  | .array => "ARRAY"
  | .map => "MAP"
  | .struct => "STRUCT"

/-- What the values of a field mean, beyond their kind. -/
inductive LogicalType where
  /-- A decimal number with a fixed scale. -/
  | decimal
  /-- A calendar date. -/
  | date
  /-- A time of day. -/
  | time
  /-- An instant. -/
  | timestamp
  deriving DecidableEq

/-- The full name of the logical type. -/
def LogicalType.name : LogicalType → Text
  | .decimal => "org.apache.kafka.connect.data.Decimal"
  | .date => "org.apache.kafka.connect.data.Date"
  | .time => "org.apache.kafka.connect.data.Time"
  | .timestamp => "org.apache.kafka.connect.data.Timestamp"

end SqlDialect
