import SqlDialect.Dialect.ColumnType
import SqlDialect.Statement.Sql

/-!
# Statements about tables

The statements that create a table, add columns to it and drop it. A column is written with its
name, its type and what a row without a value for it gets: the default, NULL, or nothing at all.

## Dropping a table that may not be there

Some databases have a clause for it. For the others the drop is executed inside a block that passes
over one error and raises every other again. There the statement is a text inside single quotes, so
every single quote in it is written twice.

## Main definitions

* `Dialect.columnSql` — a column of a table
* `Dialect.createTable`, `Dialect.addColumns`, `Dialect.dropTable` — the statements
-/

namespace SqlDialect

/-- How a table is dropped. -/
structure DropOptions where
  /-- Whether dependent constraints go along. -/
  cascade : Bool := false
  /-- Whether the table may be missing. -/
  ifExists : Bool := false
  deriving DecidableEq

namespace Dialect

/-! ### Columns -/

/-- What a row without a value gets. -/
def absenceSql (f : Field) : Text :=
  match f.schema.default with
  | some value => " DEFAULT " ++ value.literal
  | none => if f.isOptional then " NULL" else " NOT NULL"

/-- A column with its name, its type and what a row without a value gets. -/
def columnSql (d : Dialect) (f : Field) : Except Error Sql :=
  match d.columnType f with
  | .error error => .error error
  | .ok type => .ok [.name f.name, " ", .raw type, .raw (absenceSql f)]

/-- The columns of fields. The first field without a type decides the error. -/
def columnSqls (d : Dialect) : List Field → Except Error (List Sql)
  | [] => .ok []
  | f :: rest =>
    match d.columnSql f with
    | .error error => .error error
    | .ok sql => (d.columnSqls rest).map (sql :: ·)

/-- A column as text. -/
def columnText (d : Dialect) (f : Field) : Except Error Text :=
  (d.columnSql f).map (Sql.render d.policy)

/-! ### Tables -/

/-- The clause with the primary key; none without key fields. -/
def primaryKeySql (fields : List Field) : Sql :=
  let keys := fields.filter (·.isKey)
  if keys.isEmpty then []
  else List.flatten [
    [",\nPRIMARY KEY("],
    Sql.list "," (keys.map fun f => [.name f.name]),
    [")"]]

/-- The statement that creates a table. -/
def createTableSql (d : Dialect) (table : TableId) (fields : List Field) : Except Error Sql :=
  (d.columnSqls fields).map fun columns => List.flatten [
    ["CREATE TABLE ", .table table, " ("],
    Sql.list "," (columns.map (.raw "\n" :: ·)),
    primaryKeySql fields,
    [")"]]

/-- The statement that creates a table, as text. -/
def createTable (d : Dialect) (table : TableId) (fields : List Field) : Except Error Text :=
  (d.createTableSql table fields).map (Sql.render d.policy)

/-- The clause or clauses that add columns. -/
def additionSql (style : AddColumnsStyle) (columns : List Sql) : Sql :=
  match style with
  | .parenthesized => List.flatten [
      [" ADD("],
      Sql.list "," (columns.map (.raw "\n" :: ·)),
      [")"]]
  | .perColumn => .raw " " :: Sql.list "," (columns.map (.raw "\nADD " :: ·))

/-- The statement that adds columns to a table. -/
def addColumnsSql (d : Dialect) (table : TableId) (fields : List Field) : Except Error Sql :=
  (d.columnSqls fields).map fun columns =>
    .raw "ALTER TABLE " :: .table table :: additionSql d.profile.addColumns columns

/-- The statements that add columns to a table, as text: one is enough in every style. -/
def addColumns (d : Dialect) (table : TableId) (fields : List Field) : Except Error (List Text) :=
  (d.addColumnsSql table fields).map fun sql => [sql.render d.policy]

/-- The statement that drops a table; `clause` is what stands before its name. -/
def dropSql (d : Dialect) (table : TableId) (clause : Text) (cascade : Bool) : Sql :=
  ["DROP TABLE ", .raw clause, .table table, .raw (if cascade then d.profile.cascadeClause else [])]

/-- The text that follows a statement inside a block and passes over one error. -/
def handlerText (code : Int) : Text :=
  " EXCEPTION WHEN OTHERS THEN IF SQLCODE != " ++ Digits.ofInt code ++
    " THEN     RAISE;END IF;END;"

/-- A block that executes a statement and passes over one error. -/
def guarded (statement : Text) (code : Int) : Text :=
  "BEGIN EXECUTE IMMEDIATE " ++ Value.quoted statement ++ handlerText code

/-- The statement that drops a table, as text. -/
def dropTable (d : Dialect) (table : TableId) (options : DropOptions) : Text :=
  match options.ifExists, d.profile.drop with
  | false, _ => (d.dropSql table [] options.cascade).render d.policy
  | true, .native => (d.dropSql table "IF EXISTS " options.cascade).render d.policy
  | true, .guarded code => guarded ((d.dropSql table [] options.cascade).render d.policy) code

end Dialect

end SqlDialect
