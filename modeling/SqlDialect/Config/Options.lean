import SqlDialect.Config.Error
import SqlDialect.Identifier.Policy

/-!
# Options

What can be set for a dialect: whether names are quoted, and, in a sink, how records are written
and which fields are instants whatever their kind. Each choice has a name by which a configuration
gives it; around a name blanks do not count, and neither does the case of its ASCII letters.

## Main definitions

* `InsertMode`, `TimestampPrecision` — the choices, with `Quoting`
* `Quoting.ofName`, `InsertMode.ofName`, `TimestampPrecision.ofName` — reading a choice
* `SinkOptions`, `Config` — the options together
* `SinkOptions.precisionOf?` — the precision of a field that is listed as a timestamp
-/

namespace SqlDialect

/-! ### Quoting -/

/-- The name of a choice. -/
def Quoting.name : Quoting → Text
  | .always => "always"
  | .never => "never"

/-- The choice with the given name. -/
def Quoting.ofName (text : Text) : Except ConfigError Quoting :=
  let name := Text.asciiLower (Text.trim text)
  if name = "always" then .ok .always
  else if name = "never" then .ok .never
  else .error (.unknownQuoting name)

/-! ### Insert mode -/

/-- How records are written. -/
inductive InsertMode where
  /-- A new row for each record. -/
  | insert
  /-- A new row, or the row with the same key changed: an upsert. -/
  | upsert
  /-- The row with the same key changed. -/
  | update
  deriving DecidableEq

/-- The name of a choice. -/
def InsertMode.name : InsertMode → Text
  | .insert => "insert"
  | .upsert => "upsert"
  | .update => "update"

/-- The choice with the given name. -/
def InsertMode.ofName (text : Text) : Except ConfigError InsertMode :=
  let name := Text.asciiUpper (Text.trim text)
  if name = "INSERT" then .ok .insert
  else if name = "UPSERT" then .ok .upsert
  else if name = "UPDATE" then .ok .update
  else .error (.unknownInsertMode name)

/-! ### Timestamp precision -/

/-- How finely the seconds of a timestamp field are divided. -/
inductive TimestampPrecision where
  /-- Six digits. -/
  | microseconds
  /-- Nine digits. -/
  | nanoseconds
  deriving DecidableEq

/-- The name of a choice. -/
def TimestampPrecision.name : TimestampPrecision → Text
  | .microseconds => "microseconds"
  | .nanoseconds => "nanoseconds"

/-- The count of digits after the second. -/
def TimestampPrecision.digits : TimestampPrecision → Nat
  | .microseconds => 6
  | .nanoseconds => 9

/-- The choice with the given name. -/
def TimestampPrecision.ofName (text : Text) : Except ConfigError TimestampPrecision :=
  let name := Text.asciiLower (Text.trim text)
  if name = "microseconds" then .ok .microseconds
  else if name = "nanoseconds" then .ok .nanoseconds
  else .error (.unknownPrecision name)

/-! ### Options together -/

/-- The options of a sink. -/
structure SinkOptions where
  /-- How records are written. -/
  insertMode : InsertMode := .insert
  /-- Names of fields that are instants whatever their kind. -/
  timestampFields : List Text := []
  /-- The precision of those fields. -/
  timestampPrecision : TimestampPrecision := .microseconds
  deriving DecidableEq

/-- The precision of a field, if it is listed as a timestamp. -/
def SinkOptions.precisionOf? (o : SinkOptions) (field : Text) : Option TimestampPrecision :=
  if o.timestampFields.contains field then some o.timestampPrecision else none

/-- What a dialect is set up with. -/
structure Config where
  /-- Whether names are quoted. -/
  quoting : Quoting := .always
  /-- The options of the sink, if there is one. -/
  sink : Option SinkOptions := none
  deriving DecidableEq

/-- How records are written; plain inserts outside a sink. -/
def Config.insertMode (c : Config) : InsertMode := (c.sink.map (·.insertMode)).getD .insert

end SqlDialect
