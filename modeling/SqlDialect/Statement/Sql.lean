import SqlDialect.Identifier.Policy

/-!
# SQL text with names in it

The text of a statement is put together from fragments: raw text, and names that are written by the
policy of the dialect. Only rendering looks at the policy, so what a statement says and how its
names are written are apart.

## Main definitions

* `Fragment` — raw text or a name, `Fragment.render` its text
* `Sql` — a row of fragments, `Sql.render` its text
* `Sql.list` — rows of fragments with a delimiter between them
-/

namespace SqlDialect

/-- A piece of a statement. -/
inductive Fragment where
  /-- Text that is written as it is. -/
  | raw (text : Text)
  /-- A name of one part. -/
  | name (part : Text)
  /-- The name of a table. -/
  | table (id : TableId)
  /-- The name of a column, behind its table if it has one. -/
  | column (id : ColumnId)
  /-- The mark between the parts of a name. -/
  | separator
  deriving DecidableEq

instance : Coe Text Fragment := ⟨Fragment.raw⟩

instance : Coe String Fragment := ⟨fun text => .raw text⟩

/-- The fragment as it is written under a policy. -/
def Fragment.render (p : Policy) : Fragment → Text
  | .raw text => text
  | .name part => p.quote part
  | .table id => p.quoteTable id
  | .column id => p.quoteColumn id
  | .separator => p.rules.separator

/-- The pieces of a statement, first to last. -/
abbrev Sql := List Fragment

namespace Sql

/-- The text of the pieces under a policy. -/
def render (p : Policy) (sql : Sql) : Text := sql.flatMap (Fragment.render p)

@[simp] theorem render_nil (p : Policy) : render p [] = [] := rfl

@[simp] theorem render_cons (p : Policy) (fragment : Fragment) (sql : Sql) :
    render p (fragment :: sql) = fragment.render p ++ render p sql := rfl

@[simp] theorem render_append (p : Policy) (a b : Sql) :
    render p (a ++ b) = render p a ++ render p b := List.flatMap_append

/-- `items` with `delimiter` between every two of them. -/
def list (delimiter : Text) (items : List Sql) : Sql :=
  List.intercalate [Fragment.raw delimiter] items

/-- The names of columns, each behind `lead` and without its table. -/
def leadNames (delimiter lead : Text) (columns : List ColumnId) : Sql :=
  list delimiter (columns.map fun c => [.raw lead, .name c.name])

/-- The columns, each behind its table if it has one. -/
def columns (delimiter : Text) (columns : List ColumnId) : Sql :=
  list delimiter (columns.map fun c => [.column c])

end Sql

end SqlDialect
