import SqlDialect.Config.Options
import SqlDialect.Json.Reader

/-!
# Reading a configuration

A configuration is a JSON object of connector properties, of which four count; the others are not
looked at. The sink exists when one of its three properties is there, whatever its value. A
property that is `null` is there.

## Order of the checks

The object is read as a whole before any property is looked at, so a text that is no JSON is
refused as such. Then the four properties are checked in a fixed order. Only when they are in order
does anything behind the object count, where nothing but space may stand.

## Main definitions

* `Config.ofMembers` — a configuration from the members of an object
* `Config.parse` — a configuration from a text
-/

namespace SqlDialect

namespace Config

/-! ### The properties -/

/-- The property that says whether names are quoted. -/
def quotingKey : Text := "quote.sql.identifiers"

/-- The property that says how records are written. -/
def insertModeKey : Text := "insert.mode"

/-- The property that lists the timestamp fields. -/
def timestampFieldsKey : Text := "timestamp.fields.list"

/-- The property that gives the precision of the timestamp fields. -/
def timestampPrecisionKey : Text := "timestamp.precision.mode"

/-- The properties of a sink. -/
def sinkKeys : List Text := [insertModeKey, timestampFieldsKey, timestampPrecisionKey]

/-- The text of a property that has to be one. -/
def textOf : Json → Except ConfigError Text
  | .string text => .ok text
  | value => .error (.notAString value.shape)

/-- The names in a text, between commas: no blanks around them and no empty ones. -/
def namesBetweenCommas (text : Text) : List Text :=
  ((Text.splitAll ',' text).map Text.trim).filter fun name => !name.isEmpty

/-- The texts of a list that holds nothing else. -/
def texts? : List Json → Option (List Text)
  | [] => some []
  | .string text :: rest => (texts? rest).map (text :: ·)
  | _ :: _ => none

/-- A list of names, given as a list or as one text with commas. -/
def namesOf : Json → Except ConfigError (List Text)
  | .string text => .ok (namesBetweenCommas text)
  | .array items =>
    match texts? items with
    | some names => .ok names
    | none => .error .notAList
  | _ => .error .notAList

/-- The value of a property, or what stands for it when it is not there. -/
def property {α : Type} (members : Keyed Json) (key : Text) (absent : α)
    (read : Json → Except ConfigError α) : Except ConfigError α :=
  match members.get? key with
  | some value => read value
  | none => .ok absent

/-! ### A configuration -/

/-- The options of the sink, from the members of an object. -/
def sinkOfMembers (members : Keyed Json) : Except ConfigError SinkOptions := do
  let insertMode ← property members insertModeKey .insert fun v => textOf v >>= InsertMode.ofName
  let timestampFields ← property members timestampFieldsKey [] namesOf
  let timestampPrecision ← property members timestampPrecisionKey .microseconds fun v =>
    textOf v >>= TimestampPrecision.ofName
  return { insertMode, timestampFields, timestampPrecision }

/-- The configuration from the members of an object. -/
def ofMembers (members : Keyed Json) : Except ConfigError Config := do
  let quoting ← property members quotingKey .always fun v => textOf v >>= Quoting.ofName
  if sinkKeys.any fun key => (members.get? key).isSome then
    let sink ← sinkOfMembers members
    return { quoting, sink := some sink }
  else
    return { quoting }

/-- The configuration that a text gives. -/
def parse (text : Text) : Except ConfigError Config :=
  match Json.skipSpace text with
  | '\x7b' :: rest =>
    match Json.members? (text.length + 1) (Json.maxDepth - 1) rest with
    | none => .error .malformed
    | some (members, after) => do
      let config ← ofMembers members
      if (Json.skipSpace after).isEmpty then .ok config else .error .malformed
  | text =>
    match Json.glimpse? text with
    | some shape => .error (.notAnObject shape)
    | none => .error .malformed

end Config

end SqlDialect
