import SqlDialect.Dialect
import SqlDialect.Statement.Sql

/-!
# Statements about rows

The statements that insert a row, change it, or do whichever is needed. Each value is a question
mark, a parameter that is bound later. The columns come in two lists, those of the key and the
others, and the order of the parameters is part of what a statement promises: key first, except
when a row is changed, where the key is looked for last.

## Upserts

The row is selected from nowhere and merged: the select holds all parameters, and everything after
it speaks of the selected row by the name `incoming`. Without other columns there is nothing to
change in a row that is found.

## Main definitions

* `Dialect.insert`, `Dialect.update`, `Dialect.upsert` — the statements
-/

namespace SqlDialect

namespace Dialect

/-! ### Insert -/

/-- `count` parameters with commas between them. -/
def parameterMarks (count : Nat) : Text := Text.join "," (List.replicate count "?")

/-- The statement that inserts a row. -/
def insertSql (table : TableId) (keys others : List ColumnId) : Sql :=
  List.flatten [
    ["INSERT INTO ", .table table, "("],
    Sql.leadNames "," [] (keys ++ others),
    [") VALUES(", .raw (parameterMarks (keys.length + others.length)), ")"]]

/-- The statement that inserts a row, as text. -/
def insert (d : Dialect) (table : TableId) (keys others : List ColumnId) : Text :=
  (insertSql table keys others).render d.policy

/-! ### Update -/

/-- Columns compared with or set to a parameter each. -/
def assignments (delimiter : Text) (columns : List ColumnId) : Sql :=
  Sql.list delimiter (columns.map fun c => [.name c.name, " = ?"])

/-- The statement that changes a row; without a key it changes every row. -/
def updateSql (table : TableId) (keys others : List ColumnId) : Sql :=
  List.flatten [
    ["UPDATE ", .table table, " SET "],
    assignments ", " others,
    if keys.isEmpty then [] else [" WHERE "],
    assignments " AND " keys]

/-- The statement that changes a row, as text. -/
def update (d : Dialect) (table : TableId) (keys others : List ColumnId) : Text :=
  (updateSql table keys others).render d.policy

/-! ### Upsert -/

/-- Columns of `table` compared with or set to the same column of the incoming row. -/
def matchings (table : TableId) (delimiter : Text) (columns : List ColumnId) : Sql :=
  Sql.list delimiter
    (columns.map fun c => [.table table, .separator, .name c.name, "=incoming.", .name c.name])

/-- The statement that upserts a row; `suffix` closes the select. -/
def mergeSql (suffix : Text) (table : TableId) (keys others : List ColumnId) : Sql :=
  List.flatten [
    ["merge into ", .table table, " using (select "],
    Sql.leadNames ", " "? " (keys ++ others),
    [.raw suffix, ") incoming on("],
    matchings table " and " keys,
    [")"],
    if others.isEmpty then [] else [" when matched then update set "],
    matchings table "," others,
    [" when not matched then insert("],
    Sql.columns "," (others ++ keys),
    [") values("],
    Sql.leadNames "," "incoming." (others ++ keys),
    [")"]]

/-- The statement that upserts a row, as text. -/
def upsert (d : Dialect) (table : TableId) (keys others : List ColumnId) : Except Error Text :=
  match d.profile.upsert with
  | .unsupported => .error (.upsertUnsupported d.name)
  | .merge suffix =>
    if keys.isEmpty then .error (.keysMissing table)
    else .ok ((mergeSql suffix table keys others).render d.policy)

end Dialect

end SqlDialect
