import SqlDialect.Dialect
import SqlDialect.Keyed

/-!
# Asking the database

A connection answers two questions: who is logged in, and what the rows of a query are. What a
dialect asks is part of what it does, so each function gives the calls it made along with its
result.

## Synonyms

In some databases a table has further names. The name is looked up among those of the user who is
logged in, both in upper case; what comes back is the name of the table in the first row.

## Main definitions

* `Catalog`, `CatalogCall` — a connection, and a question put to it
* `Dialect.isAlive` — whether the database answers
* `Dialect.resolveSynonym` — the table behind a further name
-/

namespace SqlDialect

/-- A row of an answer: texts or NULL, by column. -/
abbrev Row := Keyed (Option Text)

/-- A connection, by its answers. -/
structure Catalog where
  /-- The user who is logged in. -/
  sessionUser : Except DriverError Text
  /-- The rows of a query with parameters. -/
  query : Text → List Text → Except DriverError (List Row)

/-- A question put to a connection. -/
inductive CatalogCall where
  /-- Who is logged in. -/
  | sessionUser
  /-- The rows of a query. -/
  | query (sql : Text) (parameters : List Text)
  deriving DecidableEq

namespace Dialect

/-- Whether the database answers the health query with a row, and the calls made. -/
def isAlive (d : Dialect) (c : Catalog) : List CatalogCall × Except Error Bool :=
  ([.query d.profile.healthQuery []],
    match c.query d.profile.healthQuery [] with
    | .ok rows => .ok !rows.isEmpty
    | .error error => .error (.driver error))

/-- The query for the table behind a synonym. -/
def synonymQuery : Text :=
  "SELECT TABLE_OWNER, TABLE_NAME FROM ALL_SYNONYMS WHERE OWNER = ? AND SYNONYM_NAME = ?"

/-- The name of the table in the first row of an answer. -/
def firstTableName (rows : List Row) : Option Text :=
  rows.head?.bind fun row => (row.get? "TABLE_NAME").join

/-- The table behind a synonym of the Oracle database, and the calls made. -/
def oracleSynonym (p : Policy) (c : Catalog) (synonym : Text) :
    List CatalogCall × Except Error (Option Text) :=
  match p.parseTable synonym with
  | .error error => ([], .error error)
  | .ok table =>
    match c.sessionUser with
    | .error error => ([.sessionUser], .error (.driver error))
    | .ok user =>
      let parameters := [Text.upper user, Text.upper table.table]
      ([.sessionUser, .query synonymQuery parameters],
        match c.query synonymQuery parameters with
        | .ok rows => .ok (firstTableName rows)
        | .error error => .error (.driver error))

/-- The table behind a further name, if there is one, and the calls made. -/
def resolveSynonym (d : Dialect) (c : Catalog) (synonym : Text) :
    List CatalogCall × Except Error (Option Text) :=
  match d.vendor with
  | .generic => ([], .ok none)
  | .oracle => oracleSynonym d.policy c synonym

end Dialect

end SqlDialect
