import SqlDialect.Proofs.Lexing.Token
import SqlDialect.Statement.Sql

/-!
# Statements as tokens

Under a policy that quotes every name by the usual rules, each fragment of a statement is a row of
tokens: raw text is outside quotes, a part of a name is inside. The text of the statement is these
tokens written one after the other (`Sql.render_eq_writeAll`), so everything about the text can be
read off the tokens, in which names are still apart from what surrounds them.

## Main definitions

* `Token.qualified` — the parts of a name
* `Fragment.tokens`, `Sql.tokens` — the tokens of a fragment and of a statement

## Main results

* `Sql.render_eq_writeAll` — a statement is written token by token
* `Sql.readable_list`, `Sql.quotedTexts_list`, `Sql.plainText_list` — lists within a statement
-/

namespace SqlDialect

open Token

/-! ### Names -/

/-- The parts of a name, quoted, with dots between them. -/
def Token.qualified (parts : List Text) : List Token :=
  (plains ".").intercalate (parts.map fun part => [.quoted '"' part])

theorem Token.readable_name (part : Text) : Readable ['"'] [.quoted '"' part] :=
  .singleton List.mem_cons_self

/-- A name is read back whatever else is a quote, as long as the dot is none. -/
theorem Token.Readable.qualified {marks : List Char} (hmark : '"' ∈ marks) (hdot : Bare marks ".")
    (parts : List Text) : Readable marks (qualified parts) := by
  refine .intercalate (by decide) hdot fun piece hp => ?_
  obtain ⟨part, -, rfl⟩ := List.mem_map.mp hp
  exact .singleton hmark

theorem Token.readable_qualified (parts : List Text) : Readable ['"'] (qualified parts) :=
  .qualified List.mem_cons_self (by decide) parts

@[simp] theorem Token.quotedTexts_qualified (parts : List Text) :
    quotedTexts (qualified parts) = parts := by
  rw [qualified, quotedTexts_intercalate, List.flatMap_map]
  simp

@[simp] theorem Token.quotedBy_qualified (parts : List Text) :
    quotedBy '"' (qualified parts) = parts := by
  rw [qualified, quotedBy_intercalate, List.flatMap_map]
  simp

theorem Token.quotedBy_qualified_of_ne {mark : Char} (h : '"' ≠ mark) (parts : List Text) :
    quotedBy mark (qualified parts) = [] := by
  rw [qualified, quotedBy_intercalate, List.flatMap_map]
  simp [quotedBy_cons_of_ne h]

/-- Outside the quotes of a name there are only its dots. -/
theorem Token.plainText_qualified (parts : List Text) :
    plainText (qualified parts) = Text.join "." (List.replicate parts.length []) := by
  rw [qualified, plainText_intercalate, List.map_map]
  exact congrArg _ List.map_const'

theorem Token.writeAll_qualified (parts : List Text) :
    writeAll (qualified parts) = Text.join "." (parts.map Rules.ansi.quote) := by
  rw [qualified, writeAll_intercalate, List.map_map]
  refine congrArg _ (List.map_congr_left fun part _ => ?_)
  simp [writeAll, write, Rules.quote, Rules.ansi]

/-! ### Fragments and statements -/

/-- The tokens of a fragment. -/
def Fragment.tokens : Fragment → List Token
  | .raw text => plains text
  | .name part => [.quoted '"' part]
  | .table id => qualified id.parts
  | .column id => qualified id.parts
  | .separator => plains "."

theorem Fragment.render_eq_writeAll (canonicalCase : CaseFold) (fragment : Fragment) :
    fragment.render ⟨.ansi, .always, canonicalCase⟩ = writeAll fragment.tokens := by
  cases fragment with
  | raw text => exact (writeAll_plains text).symm
  | name part => simp [render, tokens, Policy.quote, Rules.quote, Rules.ansi, writeAll, write]
  | table id => exact (writeAll_qualified id.parts).symm
  | column id =>
    rw [render, Policy.quoteColumn_eq_join]
    exact (writeAll_qualified id.parts).symm
  | separator => exact (writeAll_plains ".").symm

namespace Sql

/-- The tokens of a statement. -/
def tokens (sql : Sql) : List Token := sql.flatMap Fragment.tokens

@[simp] theorem tokens_nil : tokens [] = [] := rfl

@[simp] theorem tokens_cons (fragment : Fragment) (sql : Sql) :
    tokens (fragment :: sql) = fragment.tokens ++ tokens sql := rfl

@[simp] theorem tokens_append (a b : Sql) : tokens (a ++ b) = tokens a ++ tokens b :=
  List.flatMap_append

/-- **A statement is written token by token**, if all names are quoted by the usual rules. -/
theorem render_eq_writeAll (canonicalCase : CaseFold) (sql : Sql) :
    sql.render ⟨.ansi, .always, canonicalCase⟩ = writeAll sql.tokens := by
  induction sql with
  | nil => rfl
  | cons fragment sql ih =>
    rw [render_cons, tokens_cons, writeAll_append, Fragment.render_eq_writeAll, ih]

/-! ### Lists

A list in a statement has one piece for each item. -/

variable {α : Type} {items : List α} {marks : List Char} {delimiter : Text} {piece : α → Sql}

/-- The text of a list is the texts of its pieces with the delimiter between them. -/
theorem render_list (p : Policy) (delimiter : Text) (pieces : List Sql) :
    (list delimiter pieces).render p = Text.join delimiter (pieces.map (render p)) := by
  have hraw : render p [Fragment.raw delimiter] = delimiter := List.append_nil _
  rw [list, map_intercalate (render p) (render_append p), hraw, Text.join]

theorem tokens_list (delimiter : Text) (piece : α → Sql) (items : List α) :
    (list delimiter (items.map piece)).tokens
      = (plains delimiter).intercalate (items.map fun c => (piece c).tokens) := by
  have hraw : tokens [Fragment.raw delimiter] = plains delimiter := List.append_nil _
  rw [list, map_intercalate tokens tokens_append, hraw, List.map_map]
  rfl

theorem readable_list (hne : delimiter ≠ []) (hdelimiter : Bare marks delimiter)
    (h : ∀ c, Readable marks (piece c).tokens) :
    Readable marks (list delimiter (items.map piece)).tokens := by
  rw [tokens_list]
  refine .intercalate hne hdelimiter fun tokens htokens => ?_
  obtain ⟨c, -, rfl⟩ := List.mem_map.mp htokens
  exact h c

theorem quotedTexts_list (delimiter : Text) (piece : α → Sql) (items : List α) :
    quotedTexts (list delimiter (items.map piece)).tokens
      = items.flatMap fun c => quotedTexts (piece c).tokens := by
  rw [tokens_list, quotedTexts_intercalate, List.flatMap_map]

theorem quotedBy_list (mark : Char) (delimiter : Text) (piece : α → Sql) (items : List α) :
    quotedBy mark (list delimiter (items.map piece)).tokens
      = items.flatMap fun c => quotedBy mark (piece c).tokens := by
  rw [tokens_list, quotedBy_intercalate, List.flatMap_map]

theorem plainText_list (delimiter : Text) (piece : α → Sql) (items : List α) :
    plainText (list delimiter (items.map piece)).tokens
      = Text.join delimiter (items.map fun c => plainText (piece c).tokens) := by
  rw [tokens_list, plainText_intercalate, List.map_map]
  rfl

end Sql

end SqlDialect
