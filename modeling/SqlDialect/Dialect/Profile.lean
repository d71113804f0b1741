import SqlDialect.Identifier.Policy

/-!
# Profiles

What is particular about a database, as far as it can be said as data: how names are written, in
which case they are kept, how a row is upserted, how a table is dropped that may not be there, and
which queries tell whether the database answers and what time it is.

What cannot be said as data, such as the column types, is told apart by the vendor.

## Main definitions

* `Vendor` — whose own rules are tried before the common ones
* `UpsertStyle`, `DropStyle`, `AddColumnsStyle` — the ways to write a statement
* `Profile` — everything together
* `Profile.generic`, `Profile.oracle` — the profiles of the two dialects
-/

namespace SqlDialect

/-- Whose own rules are tried before the common ones. -/
inductive Vendor where
  /-- Nobody's: only the common rules hold. -/
  | generic
  /-- The rules of the Oracle database. -/
  | oracle
  deriving DecidableEq

/-- How a row is upserted: inserted, or changed if it is there. -/
inductive UpsertStyle where
  /-- Not in one statement. -/
  | unsupported
  /-- By merging a row that is selected from nowhere; `suffix` closes the select. -/
  | merge (suffix : Text)
  deriving DecidableEq

/-- How a table is dropped that may not be there. -/
inductive DropStyle where
  /-- By a clause of the statement. -/
  | native
  /-- In a block that goes on after one error, the one of the given code. -/
  | guarded (missingTableCode : Int)
  deriving DecidableEq

/-- How columns are added to a table. -/
inductive AddColumnsStyle where
  /-- With a clause for each column. -/
  | perColumn
  /-- With all columns in one pair of parentheses. -/
  | parenthesized
  deriving DecidableEq

/-- What is particular about a database. -/
structure Profile where
  /-- The name of the dialect. -/
  name : Text
  /-- How names are written. -/
  rules : Rules
  /-- The case in which the database keeps names without quotes. -/
  canonicalCase : CaseFold
  /-- How a row is upserted. -/
  upsert : UpsertStyle
  /-- How a table is dropped that may not be there. -/
  drop : DropStyle
  /-- What is added to a drop that takes dependent constraints along. -/
  cascadeClause : Text
  /-- How columns are added. -/
  addColumns : AddColumnsStyle
  /-- In upserts, texts of this length and longer are streamed without a length. -/
  streamThreshold : Option Nat
  /-- A query every database in order answers. -/
  healthQuery : Text
  /-- The query for the time of the database. -/
  clockQuery : Text
  deriving DecidableEq

namespace Profile

/-- A database about which nothing is known but the standard. -/
def generic : Profile where
  name := "generic"
  rules := .ansi
  canonicalCase := .preserve
  upsert := .unsupported
  drop := .native
  cascadeClause := " CASCADE"
  addColumns := .perColumn
  streamThreshold := none
  healthQuery := "SELECT 1"
  clockQuery := "SELECT CURRENT_TIMESTAMP"

/-- The Oracle database. A missing table is its error 942. -/
def oracle : Profile where
  name := "oracle"
  rules := .ansi
  canonicalCase := .upper
  upsert := .merge " FROM dual"
  drop := .guarded (-942)
  cascadeClause := " CASCADE CONSTRAINTS"
  addColumns := .parenthesized
  streamThreshold := some 4000
  healthQuery := "SELECT 1 FROM DUAL"
  clockQuery := "select CURRENT_TIMESTAMP from dual"

end Profile

end SqlDialect
