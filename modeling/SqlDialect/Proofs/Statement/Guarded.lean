import SqlDialect.Proofs.Identifier.RoundTrip
import SqlDialect.Proofs.Lexing.Literal

/-!
# A statement inside a statement

A table that may not be there is dropped inside a block where the database has no clause for it, and
the block has the statement as a literal. Names are written into the statement first, with quotes of
their own that a policy is free to choose, and then the whole is quoted once more. What has to hold
is that the literal ends where the block goes on and that it is the statement again, whatever quotes
are in the names, in the marks around them or in the clause for dependent constraints.

## Two readers

A reader of quoted parts starts behind the opening quote and stops at the quote that ends the part.
A reader of tokens goes through the whole block, and names are quoted for it as well, so it would
notice a quote that is left open behind the literal, or a second literal. Both find the statement.

## Main results

* `Dialect.readQuoted_guarded`, `Dialect.read_guarded` — a block is read back
* `Dialect.dropTable_guarded` — the guarded drop has the plain drop as its only literal
-/

namespace SqlDialect

open Token

namespace Dialect

/-! ### Blocks -/

/-- What stands in front of the literal. -/
theorem bare_leadText : Bare sqlMarks "BEGIN EXECUTE IMMEDIATE " := by decide

/-- No quote stands behind the literal. -/
theorem bare_handlerText (code : Int) : Bare sqlMarks (handlerText code) := by
  show Bare sqlMarks (" EXCEPTION WHEN OTHERS THEN IF SQLCODE != " ++ Digits.ofInt code ++
    " THEN     RAISE;END IF;END;")
  exact .append (.append (by decide) (bare_sqlMarks (Digits.bare_ofInt code))) (by decide)

theorem guarded_eq (statement : Text) (code : Int) :
    guarded statement code
      = "BEGIN EXECUTE IMMEDIATE " ++ (quoted '\'' statement).write ++ handlerText code := rfl

/-- From behind its opening quote, the literal of a block is read up to what follows it. -/
theorem readQuoted_guarded (statement : Text) (code : Int) :
    Rules.readQuoted ['\''] 0 (Text.doubled ['\''] statement ++ '\'' :: handlerText code)
      = some (statement, handlerText code) := by
  have hsingle : Text.Unbordered ['\''] := by decide
  have hafter : ¬ ['\''] <+: handlerText code := fun hquote =>
    bare_handlerText code '\'' (hquote.subset List.mem_cons_self) (by decide)
  exact Rules.readQuoted_doubled (List.cons_ne_nil _ _) hsingle hafter statement

/-- A block has one literal, which is the statement, and nothing else in quotes. -/
theorem read_guarded (statement : Text) (code : Int) :
    read sqlMarks (guarded statement code)
      = some (plains "BEGIN EXECUTE IMMEDIATE " ++
          ([quoted '\'' statement] ++ plains (handlerText code))) := by
  have hmark : '\'' ∈ sqlMarks := by decide
  have hliteral : Readable sqlMarks [quoted '\'' statement] := .singleton hmark
  have hreadable := (hliteral.append_text (bare_handlerText code)).plains_append bare_leadText
  have hwritten : guarded statement code
      = writeAll (plains "BEGIN EXECUTE IMMEDIATE " ++
          ([quoted '\'' statement] ++ plains (handlerText code))) := by
    rw [guarded_eq, writeAll_append, writeAll_append, writeAll_plains, writeAll_plains, writeAll,
      List.flatMap_singleton, List.append_assoc]
  rw [hwritten, read_writeAll hreadable]

/-! ### Drops -/

variable {d : Dialect} {code : Int}

theorem dropTable_eq_guarded (hdrop : d.profile.drop = .guarded code) (table : TableId)
    (cascade : Bool) :
    d.dropTable table { cascade, ifExists := true }
      = guarded (d.dropTable table { cascade, ifExists := false }) code := by
  simp only [dropTable, hdrop]

/-- **The guarded drop executes exactly the plain drop.** It is the plain drop as a literal between
two fixed texts. Read from its opening quote on, the literal ends where the second text begins and
yields the plain drop; and nothing else in the guarded drop is quoted. -/
theorem dropTable_guarded (hdrop : d.profile.drop = .guarded code) (table : TableId)
    (cascade : Bool) :
    (∃ body, d.dropTable table { cascade, ifExists := true }
        = "BEGIN EXECUTE IMMEDIATE " ++ '\'' :: body ∧
      Rules.readQuoted ['\''] 0 body
        = some (d.dropTable table { cascade, ifExists := false },
            " EXCEPTION WHEN OTHERS THEN IF SQLCODE != " ++ Digits.ofInt code ++
              " THEN     RAISE;END IF;END;")) ∧
    read sqlMarks (d.dropTable table { cascade, ifExists := true })
      = some (plains "BEGIN EXECUTE IMMEDIATE " ++
          ([quoted '\'' (d.dropTable table { cascade, ifExists := false })] ++
            plains (handlerText code))) := by
  rw [dropTable_eq_guarded hdrop]
  refine ⟨⟨_, ?_, readQuoted_guarded _ code⟩, read_guarded _ code⟩
  rw [guarded_eq, write]
  simp

/-- A name that ends in a single quote, which ends neither the literal nor what follows it. -/
theorem dropTable_guarded_quote :
    (oracle {}).profile.drop = .guarded (-942) ∧
    (oracle {}).dropTable { table := "it'" } { cascade := true, ifExists := false }
      = "DROP TABLE \"it'\" CASCADE CONSTRAINTS" ∧
    read sqlMarks ((oracle {}).dropTable { table := "it'" } { cascade := true, ifExists := true })
      = some (plains "BEGIN EXECUTE IMMEDIATE " ++
          ([quoted '\'' "DROP TABLE \"it'\" CASCADE CONSTRAINTS"] ++
            plains (handlerText (-942)))) := by
  have hplain : (oracle {}).dropTable { table := "it'" } { cascade := true, ifExists := false }
      = "DROP TABLE \"it'\" CASCADE CONSTRAINTS" := by decide
  refine ⟨rfl, hplain, ?_⟩
  rw [(dropTable_guarded rfl _ true).2, hplain]

end Dialect

end SqlDialect
