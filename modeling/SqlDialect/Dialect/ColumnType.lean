import SqlDialect.Dialect
import SqlDialect.Schema.Field

/-!
# Column types

Which type the column of a field gets. The vendor is asked first and may decline; then the types of
the standard are taken. A logical type goes before the kind of the field. Lists, maps and records
have no column type anywhere.

## Main definitions

* `Field.standardType` — the type of the standard
* `Field.oracleType?` — Oracle's own type, if there is one
* `Dialect.columnType` — the type in a dialect
-/

namespace SqlDialect

/-! ### The standard -/

/-- The standard's type for a logical type. -/
def LogicalType.standardType : LogicalType → Text
  | .decimal => "DECIMAL"
  | .date => "DATE"
  | .time => "TIME"
  | .timestamp => "TIMESTAMP"

/-- The standard's type for a kind. -/
def Kind.standardType? : Kind → Option Text
  | .int8 => some "TINYINT"
  | .int16 => some "SMALLINT"
  | .int32 => some "INTEGER"
  | .int64 => some "BIGINT"
  | .float32 => some "REAL"
  | .float64 => some "DOUBLE PRECISION"
  | .boolean => some "BOOLEAN"
  | .string => some "TEXT"
  | .bytes => some "BLOB"
  | .array | .map | .struct => none

/-- The standard's type for a field. -/
def Field.standardType (f : Field) : Except Error Text :=
  match f.schema.logical with
  | some logical => .ok logical.standardType
  | none =>
    match f.schema.kind.standardType? with
    | some type => .ok type
    | none => .error (.unsupportedType f.schema.kind)

/-! ### Oracle -/

/-- Oracle's type for a kind. -/
def Kind.oracleType? : Kind → Option Text
  | .int8 => some "NUMBER(3,0)"
  | .int16 => some "NUMBER(5,0)"
  | .int32 => some "NUMBER(10,0)"
  | .int64 => some "NUMBER(19,0)"
  | .float32 => some "BINARY_FLOAT"
  | .float64 => some "BINARY_DOUBLE"
  | .boolean => some "NUMBER(1,0)"
  | .string => some "VARCHAR2(4000)"
  | .bytes => some "BLOB"
  | .array | .map | .struct => none

/-- Oracle's type for a field with a logical type. A decimal needs its scale. -/
def Field.oracleLogicalType (f : Field) : LogicalType → Except Error Text
  | .decimal =>
    match f.schema.decimalScale? with
    | some scale => .ok ("NUMBER(*," ++ Digits.ofNat scale ++ ")")
    | none => .error (.scaleMissing f.name)
  | .date | .time => .ok "DATE"
  | .timestamp => .ok "TIMESTAMP"

/-- Whether the values of a kind can be instants when the field is listed as a timestamp. -/
def Kind.canBeTimestamp : Kind → Bool
  | .int64 | .string => true
  | _ => false

/-- The precision of a field that is kept as a timestamp because it is listed as one. -/
def Field.listedPrecision? (f : Field) (sink : Option SinkOptions) : Option TimestampPrecision :=
  if f.schema.kind.canBeTimestamp then sink.bind (·.precisionOf? f.name) else none

/-- Oracle's own type for a field, if there is one. -/
def Field.oracleType? (f : Field) (sink : Option SinkOptions) : Except Error (Option Text) :=
  match f.schema.logical with
  | some logical => (f.oracleLogicalType logical).map some
  | none =>
    match f.listedPrecision? sink with
    | some precision => .ok (some ("TIMESTAMP(" ++ Digits.ofNat precision.digits ++ ")"))
    | none => .ok f.schema.kind.oracleType?

/-! ### In a dialect -/

/-- The vendor's own type for a field, if there is one. -/
def Vendor.columnType? (v : Vendor) (f : Field) (sink : Option SinkOptions) :
    Except Error (Option Text) :=
  match v with
  | .generic => .ok none
  | .oracle => f.oracleType? sink

/-- The type of the column for a field. -/
def Dialect.columnType (d : Dialect) (f : Field) : Except Error Text :=
  match d.vendor.columnType? f d.sink with
  | .error error => .error error
  | .ok (some type) => .ok type
  | .ok none => f.standardType

end SqlDialect
