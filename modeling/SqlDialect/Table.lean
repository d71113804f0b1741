import SqlDialect.Identifier.Name
import SqlDialect.Keyed

/-!
# Tables as the database knows them

What the catalog of a database says of a table that exists: its columns, by name, and what each of
them holds.

## Main definitions

* `SqlType` — what a column holds
* `Column`, `Table` — a column and a table of the catalog
* `Table.ofColumns`, `Table.column?`, `Table.columnNames`
-/

namespace SqlDialect

/-- What a column holds, as far as binding tells it apart. -/
inductive SqlType where
  /-- Truth values. -/
  | boolean
  /-- Small integers. -/
  | smallInt
  /-- Integers. -/
  | integer
  /-- Big integers. -/
  | bigInt
  /-- Decimal numbers. -/
  | numeric
  /-- Floating-point numbers of single precision. -/
  | real
  /-- Floating-point numbers of double precision. -/
  | double
  /-- The vendor's own binary numbers of single precision. -/
  | binaryFloat
  /-- The vendor's own binary numbers of double precision. -/
  | binaryDouble
  /-- Texts of fixed length. -/
  | char
  /-- Texts of bounded length. -/
  | varchar
  /-- Texts of fixed length in the national character set. -/
  | nChar
  /-- Texts of bounded length in the national character set. -/
  | nVarchar
  /-- Large texts. -/
  | clob
  /-- Large texts in the national character set. -/
  | nClob
  /-- Bytes of bounded length. -/
  | varbinary
  /-- Large rows of bytes. -/
  | blob
  /-- Dates. -/
  | date
  /-- Times of day. -/
  | time
  /-- Instants. -/
  | timestamp
  /-- Anything else, by the driver's code for it. -/
  | other (code : Int)
  deriving DecidableEq

/-- A column of a table that exists. -/
structure Column where
  /-- The name under which the catalog keeps it. -/
  name : Text
  /-- What it holds. -/
  sqlType : SqlType
  /-- The vendor's name of its type. -/
  typeName : Text
  /-- Whether it takes NULL. -/
  nullable : Bool := true
  /-- The count of digits of a number. -/
  precision : Option Nat := none
  /-- The count of decimal places of a number. -/
  scale : Option Int := none
  deriving DecidableEq

/-- A table that exists. -/
structure Table where
  /-- Its name. -/
  id : TableId
  /-- Its columns, by name. -/
  columns : Keyed Column

namespace Table

/-- The table with the given columns; of two with one name the last stays. -/
def ofColumns (id : TableId) (columns : List Column) : Table :=
  ⟨id, Keyed.ofList (columns.map fun c => (c.name, c))⟩

/-- The column kept under exactly this name. -/
def column? (t : Table) (name : Text) : Option Column := t.columns.get? name

/-- The names of the columns, in order of their characters. -/
def columnNames (t : Table) : List Text := t.columns.keys

end Table

end SqlDialect
