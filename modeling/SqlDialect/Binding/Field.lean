import SqlDialect.Calendar.TimestampText
import SqlDialect.Dialect.ColumnType
import SqlDialect.Statement

/-!
# Binding a field

A value is bound by exactly one call of the driver. Which call it is depends on the field, the
value, the column if the table is known, and the dialect; it does not depend on the statement. So
the call is chosen first and made afterwards.

## Choosing the call

Ways are tried in order, and the first that takes the value decides.

1. A missing value is NULL, of the column's type, or else of the type that goes with the field.
2. A value that is what the logical type of the field says is bound as that.
3. The vendor may have a call of its own for the kind of field and the type of the column.
4. A value of a listed timestamp field is made an instant, if the field has no logical type.
5. Any other value is bound as what it is, unless only a logical type would explain it.

A value that no way takes is an error, and so is the text of a timestamp field that is none.

## Main definitions

* `Dialect.chooseCall` — the call for a field
* `Dialect.bindField` — the call made
-/

namespace SqlDialect

/-! ### Missing values -/

/-- The type that goes with a logical type. -/
def LogicalType.nullType : LogicalType → SqlType
  | .decimal => .numeric
  | .date => .date
  | .time => .time
  | .timestamp => .timestamp

/-- The type that goes with a kind. -/
def Kind.nullType? : Kind → Option SqlType
  | .int8 | .int16 => some .smallInt
  | .int32 => some .integer
  | .int64 => some .bigInt
  | .float32 => some .real
  | .float64 => some .double
  | .boolean => some .boolean
  | .string => some .varchar
  | .bytes => some .varbinary
  | .array | .map | .struct => none

/-- The type of NULL for a field, when the column is not known. -/
def Schema.nullType? (s : Schema) : Option SqlType :=
  match s.logical with
  | some logical => some logical.nullType
  | none => s.kind.nullType?

/-! ### Values with a logical type -/

/-- The call for a value that is what a logical type says. -/
def LogicalType.call? : LogicalType → Value → Option BindCall
  | .decimal, .decimal value => some (.whole (.decimal value))
  | .date, .date value => some (.whole (.date value))
  | .time, .time value => some (.whole (.time value))
  | .timestamp, .timestamp value => some (.whole (.timestamp value))
  | _, _ => none

/-! ### Calls of a vendor -/

/-- The length a driver is told with a large text: its characters, but none from the threshold
upwards when the mode of the configuration is upsert. -/
def lengthHint (profile : Profile) (config : Config) (text : Text) : Option Nat :=
  match config.insertMode, profile.streamThreshold with
  | .upsert, some threshold => if text.length < threshold then some text.length else none
  | _, _ => some text.length

/-- Oracle's own call for a kind of field, a type of column and a value. -/
def oracleCall? (profile : Profile) (config : Config) :
    Kind → SqlType → Value → Option BindCall
  | .string, .clob, .string text =>
    some (.characterStream (.ofText text) (lengthHint profile config text))
  | .string, .nClob, .string text => some (.nationalCharacterStream (.ofText text))
  | .string, .nVarchar, .string text => some (.whole (.nationalString text))
  | .string, .nChar, .string text => some (.whole (.nationalString text))
  | .bytes, .blob, .buffer data => some (.blob ⟨data, none⟩)
  | .bytes, .blob, .bytes data => some (.blob ⟨data, none⟩)
  | .float32, .binaryFloat, .float32 bits => some (.binaryFloat bits)
  | .float64, .binaryDouble, .float64 bits => some (.binaryDouble bits)
  | _, _, _ => none

/-- The vendor's own call for a field, if the column is known and the vendor has one. -/
def Dialect.vendorCall? (d : Dialect) (f : Field) (value : Value) (column : Option Column) :
    Option BindCall :=
  match d.vendor, column with
  | .oracle, some column => oracleCall? d.profile d.config f.schema.kind column.sqlType value
  | _, _ => none

/-! ### Calls every driver has -/

/-- Whether a field is made an instant because it is listed as a timestamp. -/
def Field.isListed (f : Field) (sink : Option SinkOptions) : Bool :=
  f.schema.logical.isNone && (sink.bind (·.precisionOf? f.name)).isSome

/-- The instant a value of a listed field stands for: nanoseconds since 1970, or a text. Nothing
for other values; an error for a text that is no timestamp. -/
def Field.instantOf? (f : Field) : Value → Except Error (Option Instant)
  | .int64 nanos => .ok (if f.schema.kind = .int64 then some (.ofNanos nanos) else none)
  | .string text =>
    if f.schema.kind = .string then
      match TimestampText.read? text with
      | some instant => .ok (some instant)
      | none => .error (.notATimestamp f.name text)
    else .ok none
  | _ => .ok none

/-- The call for a value as it is. -/
def Value.plainCall? : Value → Option BindCall
  | .int8 n => some (.whole (.int8 n))
  | .int16 n => some (.whole (.int16 n))
  | .int32 n => some (.whole (.int32 n))
  | .int64 n => some (.whole (.int64 n))
  | .float32 bits => some (.whole (.float32 bits))
  | .float64 bits => some (.whole (.float64 bits))
  | .boolean b => some (.whole (.boolean b))
  | .string text => some (.whole (.string text))
  | .bytes data => some (.whole (.bytes data))
  | .buffer data => some (.whole (.bytes data))
  | .decimal _ | .date _ | .time _ | .timestamp _ => none

/-- The call for a value without looking at the column. -/
def Field.commonCall (f : Field) (sink : Option SinkOptions) (value : Value) :
    Except Error BindCall :=
  match (if f.isListed sink then f.instantOf? value else .ok none) with
  | .error error => .error error
  | .ok (some instant) => .ok (.whole (.timestamp instant))
  | .ok none =>
    match value.plainCall? with
    | some call => .ok call
    | none => .error (.unsupportedValue f.schema.kind)

/-! ### The choice -/

/-- The call for a value that is there. -/
def Dialect.chooseValueCall (d : Dialect) (f : Field) (value : Value) (column : Option Column) :
    Except Error BindCall :=
  match (f.schema.logical.bind (·.call? value)).or (d.vendorCall? f value column) with
  | some call => .ok call
  | none => f.commonCall d.sink value

/-- The call for a field, whose value may be missing and whose column may not be known. -/
def Dialect.chooseCall (d : Dialect) (f : Field) (value : Option Value)
    (column : Option Column) : Except Error BindCall :=
  match value with
  | some value => d.chooseValueCall f value column
  | none =>
    .ok (.whole (.null (match column with
      | some column => some column.sqlType
      | none => f.schema.nullType?)))

/-- The statement after a call, or the error with which it was refused. -/
def Statement.bindOrFail (s : Statement) (index : Nat) (call : BindCall) :
    Except Error Statement :=
  match s.bind index call with
  | .ok s => .ok s
  | .error error => .error (.driver error)

/-- The statement with a field bound to a parameter. -/
def Dialect.bindField (d : Dialect) (s : Statement) (index : Nat) (f : Field)
    (value : Option Value) (column : Option Column) : Except Error Statement :=
  match d.chooseCall f value column with
  | .ok call => s.bindOrFail index call
  | .error error => .error error

end SqlDialect
