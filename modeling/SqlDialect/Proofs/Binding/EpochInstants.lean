import SqlDialect.Proofs.Binding.WrittenInstants
import SqlDialect.Proofs.Calendar.EpochNanos

/-!
# The same instant from a number and from a text

A listed field may hold numbers, which are nanoseconds since the start of 1970, or texts, which are
timestamps. The generic dialect binds instants for both. If a number and a text mean the same
instant, then the same one is bound, at both ends of the numbers as well and also before 1970, where
numbers are negative and a date is counted backwards.

## Main definitions

* `Field.ListedAs` — a field without a logical type that the sink lists as a timestamp

## Main results

* `Dialect.generic_bindField_epoch` — a number and a text of the same instant are bound alike
-/

namespace SqlDialect

/-- A field of a kind that the sink lists as a timestamp. It has no logical type. -/
structure Field.ListedAs (f : Field) (sink : SinkOptions) (kind : Kind) : Prop where
  /-- The sink names it. -/
  listed : f.name ∈ sink.timestampFields
  /-- It has no logical type. -/
  plain : f.schema.logical = none
  /-- Its values are of the kind. -/
  kind_eq : f.schema.kind = kind

namespace Dialect

variable {config : Config} {sink : SinkOptions} {s : Statement} {index : Nat} {f g : Field}
  {instant : Instant}

/-- A number of a listed field is bound as nanoseconds since the start of 1970. -/
theorem generic_bindField_number (hsink : config.sink = some sink) (hf : f.ListedAs sink .int64)
    (hrefused : s.refusal? index = none) (n : Int64) (column : Option Column) :
    (generic config).bindField s index f (some (.int64 n)) column
      = .ok { s with bindings := s.bindings ++ [(index, .whole (.timestamp (.ofNanos n)))] } := by
  refine generic_bindField_of_instantOf? hsink hf.listed hf.plain ?_ hrefused column
  rw [Field.instantOf?, if_pos hf.kind_eq]

/-- A text of a listed field is bound as the instant that is read from it. -/
theorem generic_bindField_read (hsink : config.sink = some sink) (hg : g.ListedAs sink .string)
    (hrefused : s.refusal? index = none) {text : Text}
    (hread : TimestampText.read? text = some instant) (column : Option Column) :
    (generic config).bindField s index g (some (.string text)) column
      = .ok { s with bindings := s.bindings ++ [(index, .whole (.timestamp instant))] } := by
  refine generic_bindField_of_instantOf? hsink hg.listed hg.plain ?_ hrefused column
  rw [Field.instantOf?, if_pos hg.kind_eq, hread]

/-- **A number and a text of the same instant are bound alike**, in listed fields of numbers and of
texts. The number is split into seconds and nanoseconds, of which the latter are never negative. The
text is that of any timestamp whose date and time of day lie so many nanoseconds after the start of
1970; one in universal time with nine digits of a second is among them, for every number. Other
numbers are bound as earlier and later instants, in their order. -/
theorem generic_bindField_epoch (n : Int64) (config : Config) (sink : SinkOptions) (s : Statement)
    (index : Nat) (f g : Field) (column column' : Option Column) (hsink : config.sink = some sink)
    (hf : f.ListedAs sink .int64) (hg : g.ListedAs sink .string)
    (hrefused : s.refusal? index = none) :
    ∃ instant : Instant,
      (instant.seconds * 1000000000 + instant.nanos = n.toInt ∧ instant.nanos < 1000000000) ∧
      (generic config).bindField s index f (some (.int64 n)) column
        = .ok { s with bindings := s.bindings ++ [(index, .whole (.timestamp instant))] } ∧
      (∃ w : WrittenTimestamp, w.offset = .zulu ∧ w.fraction.length = 9 ∧
        w.instant.epochNanos = n.toInt) ∧
      (∀ w : WrittenTimestamp, w.instant.epochNanos = n.toInt →
        (generic config).bindField s index g (some (.string w.text)) column'
          = .ok { s with bindings := s.bindings ++ [(index, .whole (.timestamp instant))] }) ∧
      ∀ (m : Int64) (earlier : Instant),
        (generic config).bindField s index f (some (.int64 m)) column
            = .ok { s with bindings := s.bindings ++ [(index, .whole (.timestamp earlier))] } →
          (earlier.Before instant ↔ m < n) := by
  refine ⟨.ofNanos n, ⟨Instant.epochNanos_ofNanos n, Instant.nanos_ofNanos_lt n⟩,
    generic_bindField_number hsink hf hrefused n column, ?_, fun w hw => ?_, fun m earlier hm => ?_⟩
  · refine ⟨.ofNanos n, rfl, WrittenTimestamp.length_fraction_ofNanos n, ?_⟩
    rw [WrittenTimestamp.instant_ofNanos, Instant.epochNanos_ofNanos]
  · have hinstant : w.instant = .ofNanos n := Instant.eq_ofNanos w.nanos_lt hw
    rw [← hinstant]
    exact generic_bindField_read hsink hg hrefused w.read?_text column'
  · rw [generic_bindField_number hsink hf hrefused] at hm
    have hsame := Statement.push_inj.mp (Except.ok.inj hm)
    obtain rfl : Instant.ofNanos m = earlier := by simpa using hsame
    exact Instant.ofNanos_before_iff

/-- The least number: its seconds are rounded down, away from zero. -/
theorem generic_bindField_epoch_least :
    (generic { sink := some { timestampFields := ["seen"] } }).bindField {} 1
        ⟨"seen", { kind := .int64 }, false⟩ (some (.int64 Int64.minValue)) none
      = .ok { bindings := [(1, .whole (.timestamp ⟨-9223372037, 145224192, by decide⟩))] } ∧
    (generic { sink := some { timestampFields := ["seen"] } }).bindField {} 1
        ⟨"seen", { kind := .string }, false⟩
        (some (.string "1677-09-21T00:12:43.145224192Z")) none
      = .ok { bindings := [(1, .whole (.timestamp ⟨-9223372037, 145224192, by decide⟩))] } := by
  have hleast : Instant.ofNanos Int64.minValue = ⟨-9223372037, 145224192, by decide⟩ := by decide
  have htext : (WrittenTimestamp.ofNanos Int64.minValue).text = "1677-09-21T00:12:43.145224192Z" := by
    decide
  obtain ⟨instant, ⟨hsum, hlt⟩, hnumber, -, hbind, -⟩ := generic_bindField_epoch Int64.minValue
    { sink := some { timestampFields := ["seen"] } } { timestampFields := ["seen"] } {} 1
    ⟨"seen", { kind := .int64 }, false⟩ ⟨"seen", { kind := .string }, false⟩ none none rfl
    ⟨by decide, rfl, rfl⟩ ⟨by decide, rfl, rfl⟩ rfl
  obtain rfl : instant = Instant.ofNanos Int64.minValue := Instant.eq_ofNanos hlt hsum
  have hnanos : (WrittenTimestamp.ofNanos Int64.minValue).instant.epochNanos
      = Int64.minValue.toInt := by
    rw [WrittenTimestamp.instant_ofNanos, Instant.epochNanos_ofNanos]
  have hwritten := hbind (.ofNanos Int64.minValue) hnanos
  rw [htext, hleast] at hwritten
  rw [hleast] at hnumber
  exact ⟨hnumber, hwritten⟩

end Dialect

end SqlDialect
