import SqlDialect.Text.Basic

/-!
# Names of tables and columns

A table may be qualified by a schema, and further by a catalog; a column may be qualified by the
table it belongs to. Names are kept as they are meant, without quotes.

## Main definitions

* `TableId`, `ColumnId` — possibly qualified names
* `TableId.parts`, `ColumnId.parts` — the names that are present, outermost first
* `TableId.display` — the parts with dots between them, for messages
-/

namespace SqlDialect

/-- The name of a table. -/
structure TableId where
  /-- The catalog, where the name is qualified by one. -/
  catalog : Option Text := none
  /-- The schema, where the name is qualified by one. -/
  schema : Option Text := none
  /-- The table. -/
  table : Text
  deriving DecidableEq

/-- The name of a column. -/
structure ColumnId where
  /-- The table that qualifies the name, if any. -/
  table : Option TableId := none
  /-- The column. -/
  name : Text
  deriving DecidableEq

/-- The names present, outermost first. -/
def TableId.parts (t : TableId) : List Text := t.catalog.toList ++ t.schema.toList ++ [t.table]

/-- The parts with dots between them. -/
def TableId.display (t : TableId) : Text := Text.join "." t.parts

/-- The names present, outermost first. -/
def ColumnId.parts (c : ColumnId) : List Text := (c.table.map TableId.parts).getD [] ++ [c.name]

end SqlDialect
