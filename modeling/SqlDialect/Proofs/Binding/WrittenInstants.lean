import SqlDialect.Proofs.Binding.Instants
import SqlDialect.Proofs.Calendar.WrittenTimestamp

/-!
# Timestamps that are bound from their text

A field that the sink lists as a timestamp may be one of texts. The generic dialect then binds not
the text but the instant that it stands for. Which instant that is has nothing to do with binding:
it is told from the parts of the timestamp, with the days up to its date counted by the leap-year
rule.

## Main definitions

* `WrittenTimestamp.newYear` — a timestamp whose offset leads into the year before

## Main results

* `Dialect.generic_bindField_of_instantOf?` — a value of a listed field is bound as its instant
* `Dialect.generic_bindField_written` — a written timestamp is bound as the instant of its parts
-/

namespace SqlDialect

/-- Local midnight at the start of 1970, nearly a day ahead of universal time. -/
def WrittenTimestamp.newYear : WrittenTimestamp where
  date := ⟨1970, 1, 1⟩
  valid := by decide
  year := by decide
  hour := 0
  minute := 0
  second := 0
  fraction := ['0', '5']
  isDigit := by
    simp only [List.forall_mem_cons]
    exact ⟨rfl, rfl, nofun⟩
  length_le := by decide
  offset := .ahead 23 59

namespace Dialect

variable {config : Config} {sink : SinkOptions} {s : Statement} {index : Nat} {f : Field}
  {v : Value} {instant : Instant}

/-- The generic dialect has no call of its own, so a value of a listed field is bound as the
instant it stands for, whatever the column. -/
theorem generic_bindField_of_instantOf? (hsink : config.sink = some sink)
    (hlisted : f.name ∈ sink.timestampFields) (hlogical : f.schema.logical = none)
    (hinstant : f.instantOf? v = .ok (some instant)) (hrefused : s.refusal? index = none)
    (column : Option Column) :
    (generic config).bindField s index f (some v) column
      = .ok { s with bindings := s.bindings ++ [(index, .whole (.timestamp instant))] } := by
  have hlist : f.isListed (generic config).sink = true :=
    (f.isListed_iff _).mpr ⟨hlogical, sink, hsink, hlisted⟩
  have hvendor : (generic config).vendorCall? f v column = none := rfl
  refine bindField_eq_timestamp_iff.mpr ⟨?_, hrefused⟩
  rw [chooseCall, chooseValueCall, hlogical, hvendor, Option.bind_none, Option.none_or,
    Field.commonCall, hlist, if_pos rfl, hinstant]

/-- **A written timestamp is bound as the instant of its parts**, in a listed field of texts without
a logical type: the days from 1970 to its date, counted by the leap-year rule, its time of day with
the offset taken off, and the digits of its fraction filled up to nine. -/
theorem generic_bindField_written (w : WrittenTimestamp) (config : Config) (sink : SinkOptions)
    (s : Statement) (index : Nat) (f : Field) (column : Option Column)
    (hsink : config.sink = some sink) (hlisted : f.name ∈ sink.timestampFields)
    (hlogical : f.schema.logical = none) (hkind : f.schema.kind = .string)
    (hrefused : s.refusal? index = none) :
    (generic config).bindField s index f (some (.string w.text)) column
      = .ok { s with bindings := s.bindings ++ [(index, .whole (.timestamp w.instant))] } := by
  refine generic_bindField_of_instantOf? hsink hlisted hlogical ?_ hrefused column
  rw [Field.instantOf?, if_pos hkind, w.read?_text]

/-- The offset leads from the start of 1970 to the first minute of the day before. -/
theorem generic_bindField_written_newYear :
    (generic { sink := some { timestampFields := ["seen"] } }).bindField {} 1
        ⟨"seen", { kind := .string }, false⟩ (some (.string "1970-01-01T00:00:00.05+23:59")) none
      = .ok { bindings := [(1, .whole (.timestamp ⟨-86340, 50000000, by decide⟩))] } := by
  have htext : WrittenTimestamp.newYear.text = "1970-01-01T00:00:00.05+23:59" := by decide
  have hinstant : WrittenTimestamp.newYear.instant = ⟨-86340, 50000000, by decide⟩ := by decide
  have hbind := generic_bindField_written .newYear
    { sink := some { timestampFields := ["seen"] } } { timestampFields := ["seen"] } {} 1
    ⟨"seen", { kind := .string }, false⟩ none rfl (List.mem_singleton_self _) rfl rfl rfl
  rw [htext, hinstant] at hbind
  exact hbind

end Dialect

end SqlDialect
