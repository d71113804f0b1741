import SqlDialect.Identifier.Rules
import SqlDialect.Text.Case

/-!
# Identifier policy

A dialect writes and reads all names of a session in one way: with its rules, quoted always or
never, and with table names folded to the case in which the database keeps unquoted names. A quoted
name keeps its case, so the fold counts only when nothing is quoted.

## Main definitions

* `Quoting`, `CaseFold`, `CaseFold.apply` — whether names are quoted, and the case of a database
* `Policy`, `Policy.fold` — rules, quoting and the case fold in effect
* `Policy.quote`, `Policy.quoteTable`, `Policy.quoteColumn` — names as they are written
* `Policy.normalize`, `Policy.parseTable` — table names as they are read
-/

namespace SqlDialect

/-- Whether names are written in quotes. -/
inductive Quoting where
  /-- Every name is quoted. -/
  | always
  /-- No name is quoted. -/
  | never
  deriving DecidableEq

/-- The case a database gives to names without quotes. -/
inductive CaseFold where
  /-- Upper case. -/
  | upper
  /-- Lower case. -/
  | lower
  /-- The case they are written in. -/
  | preserve
  deriving DecidableEq

/-- `name` in the given case. -/
def CaseFold.apply : CaseFold → Text → Text
  | .upper, name => Text.upper name
  | .lower, name => Text.lower name
  | .preserve, name => name

/-- How a dialect writes and reads names. -/
structure Policy where
  /-- The marks of written names. -/
  rules : Rules
  /-- Whether names are quoted. -/
  quoting : Quoting
  /-- The case of unquoted names in the database. -/
  canonicalCase : CaseFold
  deriving DecidableEq

namespace Policy

/-- The case fold in effect: that of the database for unquoted names, none for quoted ones. -/
def fold (p : Policy) : CaseFold :=
  match p.quoting with
  | .never => p.canonicalCase
  | .always => .preserve

/-! ### Writing -/

/-- One part of a name as it is written. -/
def quote (p : Policy) (name : Text) : Text :=
  match p.quoting with
  | .always => p.rules.quote name
  | .never => name

/-- A table name as it is written. -/
def quoteTable (p : Policy) (table : TableId) : Text :=
  Text.join p.rules.separator (table.parts.map p.quote)

/-- A column name as it is written, behind the name of its table if it has one. -/
def quoteColumn (p : Policy) (column : ColumnId) : Text :=
  match column.table with
  | some table => p.quoteTable table ++ p.rules.separator ++ p.quote column.name
  | none => p.quote column.name

/-- A column is written as its parts. -/
theorem quoteColumn_eq_join (p : Policy) (column : ColumnId) :
    p.quoteColumn column = Text.join p.rules.separator (column.parts.map p.quote) := by
  obtain ⟨table, name⟩ := column
  cases table with
  | none => simp [quoteColumn, ColumnId.parts]
  | some table =>
    have some_part : table.parts.map p.quote ≠ [] := by simp [TableId.parts]
    show p.quoteTable table ++ p.rules.separator ++ p.quote name
      = Text.join p.rules.separator ((table.parts ++ [name]).map p.quote)
    rw [List.map_append, List.map_singleton, Text.join_concat _ _ some_part]
    rfl

/-! ### Reading -/

/-- The table name in the case in effect. Schema and catalog stay as they are. -/
def normalize (p : Policy) (table : TableId) : TableId :=
  { table with table := p.fold.apply table.table }

/-- The table name with the given parts, outermost first. -/
def tableOfParts? : List Text → Option TableId
  | [table] => some { table }
  | [schema, table] => some { schema := some schema, table }
  | [catalog, schema, table] => some { catalog := some catalog, schema := some schema, table }
  | _ => none

/-- The table a written name stands for. It has one to three parts. -/
def parseTable (p : Policy) (text : Text) : Except Error TableId := do
  let parts ← p.rules.parseQualified text
  match tableOfParts? parts with
  | some table => .ok (p.normalize table)
  | none => .error (.invalidIdentifier text)

end Policy

end SqlDialect
