import SqlDialect.Config.Error
import SqlDialect.Identifier.Name
import SqlDialect.Schema.Kind

/-!
# Errors

Everything that can go wrong between a record and the database: a field without a column type, a
value that cannot be bound, a name or an address that cannot be read, a configuration that cannot
be used, or a driver that refuses. An error is its cause; the words are made from it in one place.

A driver's error is passed on as it came. It alone may go away when the same record is tried again;
every other one is permanent.

## Main definitions

* `DriverError` — what a driver reports
* `Error` — the causes, `Error.message` their words, `Error.isPermanent` whether trying again is
  useless
-/

namespace SqlDialect

/-- What a driver reports. -/
structure DriverError where
  /-- The vendor's own code. -/
  code : Int
  /-- The standard state code, where the driver gives one. -/
  state : Option Text := none
  /-- The driver's words. -/
  message : Text
  deriving DecidableEq

/-- The driver's words with both codes; a dash stands for a missing state. -/
def DriverError.text (e : DriverError) : Text :=
  e.message ++ " (vendor code " ++ Digits.ofInt e.code ++ ", SQLSTATE " ++ e.state.getD "-" ++ ")"

/-- What went wrong. -/
inductive Error where
  /-- No column type holds fields of this kind. -/
  | unsupportedType (kind : Kind)
  /-- No way of binding takes the value of a field of this kind. -/
  | unsupportedValue (kind : Kind)
  /-- The dialect has no statement for an upsert. -/
  | upsertUnsupported (dialect : Text)
  /-- A decimal field has no scale, or none that is a number. -/
  | scaleMissing (field : Text)
  /-- The text of a timestamp field is no timestamp. -/
  | notATimestamp (field text : Text)
  /-- An upsert needs a key to find the row by. -/
  | keysMissing (table : TableId)
  /-- An address names no kind of database; secrets in it are masked. -/
  | invalidUrl (masked : Text)
  /-- A text is no table name. -/
  | invalidIdentifier (text : Text)
  /-- No dialect has this name. -/
  | unknownDialect (name : Text)
  /-- The configuration cannot be used. -/
  | config (cause : ConfigError)
  /-- The driver refused. -/
  | driver (cause : DriverError)
  deriving DecidableEq

namespace Error

/-- The words for an error. -/
def message : Error → Text
  | .unsupportedType kind =>
    "<none> (" ++ kind.name ++ ") type doesn't have a mapping to the SQL database column type"
  | .unsupportedValue kind => "Unsupported source data type: " ++ kind.name
  | .upsertUnsupported dialect => dialect ++ " dialect does not support upsert"
  | .scaleMissing field =>
    "Invalid schema for field '" ++ field ++ "': decimal requires a numeric 'scale' parameter"
  | .notATimestamp field text =>
    "Invalid value for field '" ++ field ++ "': '" ++ text ++
      "' is not an RFC 3339 or ISO-8601 timestamp"
  | .keysMissing table =>
    "Upsert into '" ++ table.display ++ "' requires at least one key column"
  | .invalidUrl masked => "Invalid connection URL '" ++ masked ++ "'"
  | .invalidIdentifier text => "Invalid identifier '" ++ text ++ "'"
  | .unknownDialect name => "No dialect named '" ++ name ++ "' is registered"
  | .config cause => "Configuration error: " ++ cause.message
  | .driver cause => "Driver error: " ++ cause.text

/-- Whether trying the same record again cannot succeed. -/
def isPermanent : Error → Bool
  | .driver _ => false
  | _ => true

end Error

end SqlDialect
