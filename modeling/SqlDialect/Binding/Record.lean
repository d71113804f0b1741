import SqlDialect.Binding.Field

/-!
# Binding a record

A record is bound field by field, in the order in which the statement about its row has the
parameters: key fields first, except in an update, where they come last. Parameters are counted
from one. The first field that cannot be bound ends the run; what was bound before it stays bound.

## Finding the column

When the table is known, the column of a field is the one of exactly the same name, or else the one
of the name in the case in effect.

## Main definitions

* `RecordBinder` — the fields of a record, the order and the table
* `RecordBinder.bind` — binding a record
-/

namespace SqlDialect

/-- The values of a record, by field. -/
abbrev Record := Keyed Value

/-- How records of one shape are bound. -/
structure RecordBinder where
  /-- The dialect. -/
  dialect : Dialect
  /-- The kind of statement, which decides the order. -/
  mode : InsertMode
  /-- The fields of the key. -/
  keys : List Field
  /-- The other fields. -/
  others : List Field
  /-- The table, if it is known. -/
  table : Option Table := none

namespace RecordBinder

/-- A binder for the kind of statement that the configuration asks for. -/
def ofDialect (dialect : Dialect) (keys others : List Field) : RecordBinder :=
  { dialect, mode := dialect.config.insertMode, keys, others }

/-- The fields in the order of their parameters. -/
def fields (b : RecordBinder) : List Field :=
  match b.mode with
  | .update => b.others ++ b.keys
  | .insert | .upsert => b.keys ++ b.others

/-- The column of a field, if the table is known and has it. -/
def column? (b : RecordBinder) (f : Field) : Option Column :=
  b.table.bind fun table =>
    (table.column? f.name).or (table.column? (b.dialect.policy.fold.apply f.name))

/-- The run from one parameter on: the statement that is left, and the error that ended it. -/
def bindFrom (b : RecordBinder) (record : Record) :
    Nat → List Field → Statement → Statement × Except Error Unit
  | _, [], s => (s, .ok ())
  | index, f :: rest, s =>
    match b.dialect.bindField s index f (record.get? f.name) (b.column? f) with
    | .ok s => b.bindFrom record (index + 1) rest s
    | .error error => (s, .error error)

/-- A record bound: the statement that is left, and the count of parameters or the error. -/
def bind (b : RecordBinder) (record : Record) (s : Statement) : Statement × Except Error Nat :=
  let (s, outcome) := b.bindFrom record 1 b.fields s
  (s, outcome.map fun _ => b.fields.length)

end RecordBinder

end SqlDialect
