import SqlDialect.Proofs.Binding.Refinement

/-!
# Columns and bindings of instants

Whether a field is kept as an instant is decided twice: once for the type of its column, when the
table is created, and again for each of its values. Neither decision asks for the other. For Oracle
they agree, since both look at the sink's list of timestamp fields. The generic dialect looks at the
list only when a value is bound: the column of a listed field is one of numbers or of texts, and
instants are bound in it.

## Two reasons for an instant

A value is bound as an instant because it is one, in a field whose logical type says so, or because
it stands for one in a listed field. The second reason can fail, for a text that is no timestamp,
and no other value fails in this way. So the values that stand for instants are those that are bound
as instants or fail as such, and for the values of a kind this depends on the kind alone.

## Main definitions

* `Kind.Holds` — the values of a kind
* `Dialect.TakesForInstant` — binding a value ends in an instant, or in the error for want of one

## Main results

* `Dialect.takesForInstant_iff` — the values that are taken for instants
* `Dialect.oracle_takesForInstant_iff` — Oracle's columns agree with what is bound
* `Dialect.generic_columnType_of_instant` — the columns in which the generic dialect binds instants
-/

namespace SqlDialect

/-! ### Kinds, columns and instants -/

/-- The values of a kind. There are none for lists, maps and records. -/
inductive Kind.Holds : Kind → Value → Prop
  | int8 (n : Int8) : Holds .int8 (.int8 n)
  | int16 (n : Int16) : Holds .int16 (.int16 n)
  | int32 (n : Int32) : Holds .int32 (.int32 n)
  | int64 (n : Int64) : Holds .int64 (.int64 n)
  | float32 (bits : UInt32) : Holds .float32 (.float32 bits)
  | float64 (bits : UInt64) : Holds .float64 (.float64 bits)
  | boolean (b : Bool) : Holds .boolean (.boolean b)
  | string (text : Text) : Holds .string (.string text)
  | ownedBytes (data : List UInt8) : Holds .bytes (.bytes data)
  | sharedBytes (data : List UInt8) : Holds .bytes (.buffer data)

/-- Among the values of a kind, all can be instants or none can. -/
theorem Field.mayBeInstant_iff {f : Field} {value : Value} (h : f.schema.kind.Holds value) :
    f.MayBeInstant value ↔ f.schema.kind.canBeTimestamp = true := by
  rw [MayBeInstant]
  generalize f.schema.kind = kind at h ⊢
  cases h <;> simp [Kind.canBeTimestamp]

/-- A field is kept as a timestamp if the sink names it and its values can be instants. -/
theorem Field.listedPrecision?_eq_some_iff {f : Field} {sink? : Option SinkOptions}
    {precision : TimestampPrecision} :
    f.listedPrecision? sink? = some precision ↔
      f.schema.kind.canBeTimestamp = true ∧
        ∃ sink, sink? = some sink ∧ f.name ∈ sink.timestampFields ∧
          sink.timestampPrecision = precision := by
  rw [listedPrecision?]
  cases sink? with
  | none => simp
  | some sink => simp [SinkOptions.precisionOf?]

/-- Oracle has no call of its own for an instant. -/
theorem OwnCall.not_timestamp {kind : Kind} {sqlType : SqlType} {instant : Instant} :
    ¬ OwnCall kind sqlType (.timestamp instant) := nofun

/-- Oracle has no call of its own for a column of instants either. -/
theorem OwnCall.not_timestampColumn {kind : Kind} {value : Value} :
    ¬ OwnCall kind .timestamp value := nofun

/-- None of Oracle's types for a kind begins as those of instants do. -/
theorem Kind.head?_oracleType {kind : Kind} {type : Text} (h : kind.oracleType? = some type) :
    type.head? ≠ some 'T' := by
  cases kind
  case array | map | struct => exact absurd h (Option.some_ne_none type).symm
  all_goals
    obtain rfl := Option.some.inj h
    decide

/-- A kind without a type of Oracle's has none of the standard's either. -/
theorem Kind.standardType?_eq_none {kind : Kind} (h : kind.oracleType? = none) :
    kind.standardType? = none := by
  cases kind
  case array | map | struct => rfl
  all_goals exact absurd h (Option.some_ne_none _)

/-! ### What a statement holds afterwards -/

/-- An instant is bound only by the call for it. -/
theorem BindCall.run_eq_timestamp_iff {call : BindCall} {nativeFloats : Bool} {instant : Instant} :
    call.run nativeFloats = .ok (.whole (.timestamp instant)) ↔
      call = .whole (.timestamp instant) := by
  refine ⟨fun h => ?_, fun h => by rw [h, run]⟩
  cases call with
  | whole value => simpa [run] using h
  | characterStream source length =>
    rw [run] at h
    cases hread : source.text <;> simp [hread] at h
  | nationalCharacterStream source =>
    rw [run] at h
    cases hread : source.text <;> simp [hread] at h
  | blob source =>
    rw [run] at h
    cases hread : source.bytes <;> simp [hread] at h
  | binaryFloat bits => cases nativeFloats <;> simp [run] at h
  | binaryDouble bits => cases nativeFloats <;> simp [run] at h

namespace Dialect

variable {d : Dialect} {s : Statement} {index : Nat} {f : Field} {value : Option Value} {v : Value}
  {column : Option Column} {instant : Instant}

/-- The statement holds one instant more if that is the call and the parameter takes it. -/
theorem bindField_eq_timestamp_iff :
    d.bindField s index f value column
        = .ok { s with bindings := s.bindings ++ [(index, .whole (.timestamp instant))] } ↔
      d.chooseCall f value column = .ok (.whole (.timestamp instant)) ∧
        s.refusal? index = none := by
  refine bindField_eq_push_iff.trans (outcome_eq_ok_iff.trans ?_)
  constructor
  · rintro ⟨call, hcall, hrun, hrefused⟩
    rw [BindCall.run_eq_timestamp_iff.mp hrun] at hcall
    exact ⟨hcall, hrefused⟩
  · rintro ⟨hcall, hrefused⟩
    exact ⟨_, hcall, rfl, hrefused⟩

/-- A text is found to be no timestamp before the driver is called. -/
theorem bindField_eq_notATimestamp_iff {name text : Text} :
    d.bindField s index f value column = .error (.notATimestamp name text) ↔
      d.chooseCall f value column = .error (.notATimestamp name text) := by
  rw [bindField]
  cases d.chooseCall f value column with
  | error e => simp
  | ok call =>
    simp only [Statement.bindOrFail]
    cases s.bind index call <;> simp

/-! ### Values that become instants -/

/-- The common handler fails in this way only where it looks for an instant. -/
theorem commonCall_eq_notATimestamp {sink : Option SinkOptions} {name text : Text}
    (h : f.commonCall sink v = .error (.notATimestamp name text)) :
    f.isListed sink = true ∧ f.MayBeInstant v := by
  rw [Field.commonCall] at h
  cases hlisted : f.isListed sink with
  | false =>
    rw [hlisted] at h
    cases hplain : v.plainCall? <;> simp [hplain] at h
  | true =>
    refine ⟨rfl, Classical.byContradiction fun hnot => ?_⟩
    rw [hlisted, Field.instantOf?_eq_ok_none_iff.mpr hnot] at h
    cases hplain : v.plainCall? <;> simp [hplain] at h

/-- No vendor has a call of its own for an instant. -/
theorem vendorCall?_timestamp (d : Dialect) (f : Field) (instant : Instant)
    (column : Option Column) : d.vendorCall? f (.timestamp instant) column = none := by
  unfold vendorCall?
  split
  · exact oracleCall?_eq_none_iff.mpr OwnCall.not_timestamp
  · rfl

/-- A value that is an instant is bound only if the logical type says so. -/
theorem logical_of_chooseValueCall_timestamp {call : BindCall}
    (h : d.chooseValueCall f (.timestamp instant) column = .ok call) :
    f.schema.logical = some .timestamp := by
  rw [chooseValueCall, vendorCall?_timestamp, Option.or_none] at h
  cases hlogical : f.schema.logical.bind (·.call? (.timestamp instant)) with
  | some other =>
    obtain ⟨logical, hsome, hcall⟩ := Option.bind_eq_some_iff.mp hlogical
    cases logical with
    | timestamp => exact hsome
    | decimal | date | time => exact absurd hcall (Option.some_ne_none other).symm
  | none =>
    rw [hlogical] at h
    rcases commonCall_eq_ok h with ⟨-, other, hinstant, -⟩ | ⟨-, hplain⟩
    · exact absurd (Except.ok.inj hinstant) (Option.some_ne_none other).symm
    · exact absurd hplain (Option.some_ne_none call).symm

/-- An instant that is bound is the value itself, in a field that is said to hold instants, or is
what the value stands for. -/
theorem instant_of_chooseValueCall
    (h : d.chooseValueCall f v column = .ok (.whole (.timestamp instant))) :
    f.schema.logical = some .timestamp ∨ d.StandsForInstant f v column := by
  rcases chooseValueCall_eq_ok h with ⟨hstands, -⟩ | ⟨-, hcarries⟩
  · exact .inr hstands
  · -- The call hands over the value, so the value is an instant.
    obtain ⟨bound, hrun, hcarried⟩ := hcarries true
    obtain rfl := Except.ok.inj hrun
    cases v with
    | timestamp other => exact .inl (logical_of_chooseValueCall_timestamp h)
    | _ => simp [Bound.carried?, Value.owned] at hcarried

/-- Only where a value stands for an instant can it fail to be one. -/
theorem standsForInstant_of_notATimestamp {name text : Text}
    (h : d.chooseValueCall f v column = .error (.notATimestamp name text)) :
    d.StandsForInstant f v column := by
  rw [chooseValueCall] at h
  cases hcall : (f.schema.logical.bind (·.call? v)).or (d.vendorCall? f v column) with
  | some call => simp [hcall] at h
  | none =>
    rw [hcall] at h
    obtain ⟨-, hvendor⟩ := Option.or_eq_none_iff.mp hcall
    obtain ⟨hlisted, hinstant⟩ := commonCall_eq_notATimestamp h
    obtain ⟨hfree, hsink⟩ := (f.isListed_iff d.sink).mp hlisted
    exact ⟨hfree, hsink, hinstant, hvendor⟩

/-- What is chosen for a value that stands for an instant. -/
theorem StandsForInstant.chooseValueCall_eq (h : d.StandsForInstant f v column) :
    (∃ instant, d.chooseValueCall f v column = .ok (.whole (.timestamp instant))) ∨
      ∃ text, d.chooseValueCall f v column = .error (.notATimestamp f.name text) := by
  cases hchoice : d.chooseValueCall f v column with
  | ok call =>
    rcases chooseValueCall_eq_ok hchoice with ⟨-, instant, -, rfl⟩ | ⟨hnot, -⟩
    · exact .inl ⟨instant, rfl⟩
    · exact absurd h hnot
  | error e =>
    rcases chooseValueCall_eq_error hchoice with ⟨hplain, -⟩ | ⟨text, -, -, rfl⟩
    · rcases h.kind with ⟨-, nanos, rfl⟩ | ⟨-, text, rfl⟩
      · exact absurd hplain (Option.some_ne_none _)
      · exact absurd hplain (Option.some_ne_none _)
    · exact .inr ⟨text, rfl⟩

/-- Binding a value ends in an instant, which is all that the statement holds more, or in the error of
the field for want of one. -/
def TakesForInstant (d : Dialect) (s : Statement) (index : Nat) (f : Field) (value : Option Value)
    (column : Option Column) : Prop :=
  (∃ instant, d.bindField s index f value column
    = .ok { s with bindings := s.bindings ++ [(index, .whole (.timestamp instant))] }) ∨
  ∃ text, d.bindField s index f value column = .error (.notATimestamp f.name text)

/-- **The values that are taken for instants** are those that stand for one, in a field without a
logical type and at a parameter that is not refused. -/
theorem takesForInstant_iff (hlogical : f.schema.logical = none)
    (hrefused : s.refusal? index = none) :
    d.TakesForInstant s index f (some v) column ↔ d.StandsForInstant f v column := by
  simp only [TakesForInstant, bindField_eq_timestamp_iff, bindField_eq_notATimestamp_iff, hrefused,
    and_true]
  constructor
  · rintro (⟨instant, h⟩ | ⟨text, h⟩)
    · refine (instant_of_chooseValueCall h).resolve_left fun hsome => ?_
      exact absurd (hsome.symm.trans hlogical) (Option.some_ne_none _)
    · exact standsForInstant_of_notATimestamp h
  · exact StandsForInstant.chooseValueCall_eq

/-! ### Oracle -/

/-- For Oracle, a column of instants leaves the values of a field to the list. -/
theorem oracle_standsForInstant_iff {config : Config} (hlogical : f.schema.logical = none)
    (hvalue : f.schema.kind.Holds v) (hcolumn : ∀ c ∈ column, c.sqlType = .timestamp) :
    (oracle config).StandsForInstant f v column ↔
      ∃ precision, f.listedPrecision? config.sink = some precision := by
  have hvendor : (oracle config).vendorCall? f v column = none := by
    cases column with
    | none => rfl
    | some c =>
      refine oracleCall?_eq_none_iff.mpr ?_
      rw [hcolumn c rfl]
      exact OwnCall.not_timestampColumn
  have hkind := Field.mayBeInstant_iff hvalue
  constructor
  · intro h
    obtain ⟨sink, hsink, hlisted⟩ := h.listed
    exact ⟨_, Field.listedPrecision?_eq_some_iff.mpr ⟨hkind.mp h.kind, sink, hsink, hlisted, rfl⟩⟩
  · rintro ⟨precision, h⟩
    obtain ⟨hcan, sink, hsink, hlisted, -⟩ := Field.listedPrecision?_eq_some_iff.mp h
    exact ⟨hlogical, ⟨sink, hsink, hlisted⟩, hkind.mpr hcan, hvendor⟩

/-- Oracle's type for a field without a logical type: the list goes before the kind. -/
theorem oracle_columnType_eq (config : Config) (hlogical : f.schema.logical = none) :
    (oracle config).columnType f
      = match f.listedPrecision? config.sink with
        | some precision => .ok ("TIMESTAMP(" ++ Digits.ofNat precision.digits ++ ")")
        | none =>
          match f.schema.kind.oracleType? with
          | some type => .ok type
          | none => .error (.unsupportedType f.schema.kind) := by
  have hown : (oracle config).vendor.columnType? f (oracle config).sink
      = f.oracleType? config.sink := rfl
  rw [columnType, hown, Field.oracleType?, hlogical]
  cases f.listedPrecision? config.sink with
  | some precision => rfl
  | none =>
    cases htype : f.schema.kind.oracleType? with
    | some type => rfl
    | none =>
      rw [Field.standardType, hlogical, Kind.standardType?_eq_none htype]

/-- Oracle has columns of instants with a precision for the listed fields and for no others. -/
theorem oracle_columnType_timestamp_iff {config : Config} (hlogical : f.schema.logical = none) :
    ((oracle config).columnType f = .ok "TIMESTAMP(6)" ∨
      (oracle config).columnType f = .ok "TIMESTAMP(9)") ↔
      ∃ precision, f.listedPrecision? config.sink = some precision := by
  rw [oracle_columnType_eq config hlogical]
  cases f.listedPrecision? config.sink with
  | some precision =>
    refine iff_of_true ?_ ⟨precision, rfl⟩
    cases precision with
    | microseconds => exact .inl rfl
    | nanoseconds => exact .inr rfl
  | none =>
    refine iff_of_false ?_ (fun ⟨precision, h⟩ => absurd h (Option.some_ne_none precision).symm)
    cases htype : f.schema.kind.oracleType? with
    | none => simp
    | some type =>
      have hhead := Kind.head?_oracleType htype
      rintro (h | h)
      · exact hhead (congrArg List.head? (Except.ok.inj h))
      · exact hhead (congrArg List.head? (Except.ok.inj h))

/-- **Oracle's columns agree with what is bound.** In a field without a logical type, a value of its
kind is taken for an instant if and only if the column of the field is one of instants with a
precision. That is so for the fields that the sink lists, if their values can be instants, and the
precision is that of the sink. -/
theorem oracle_takesForInstant_iff (config : Config) (s : Statement) (index : Nat) (f : Field)
    (v : Value) (column : Option Column) (hlogical : f.schema.logical = none)
    (hvalue : f.schema.kind.Holds v) (hcolumn : ∀ c ∈ column, c.sqlType = .timestamp)
    (hrefused : s.refusal? index = none) :
    ((oracle config).TakesForInstant s index f (some v) column ↔
      (oracle config).columnType f = .ok "TIMESTAMP(6)" ∨
        (oracle config).columnType f = .ok "TIMESTAMP(9)") ∧
    ((oracle config).TakesForInstant s index f (some v) column ↔
      f.schema.kind.canBeTimestamp = true ∧
        ∃ sink, config.sink = some sink ∧ f.name ∈ sink.timestampFields ∧
          (oracle config).columnType f
            = .ok ("TIMESTAMP(" ++ Digits.ofNat sink.timestampPrecision.digits ++ ")")) := by
  rw [takesForInstant_iff hlogical hrefused,
    oracle_standsForInstant_iff hlogical hvalue hcolumn, oracle_columnType_timestamp_iff hlogical]
  refine ⟨Iff.rfl, ?_⟩
  constructor
  · rintro ⟨precision, h⟩
    obtain ⟨hcan, sink, hsink, hlisted, rfl⟩ := Field.listedPrecision?_eq_some_iff.mp h
    exact ⟨hcan, sink, hsink, hlisted, by rw [oracle_columnType_eq config hlogical, h]⟩
  · rintro ⟨hcan, sink, hsink, hlisted, -⟩
    exact ⟨_, Field.listedPrecision?_eq_some_iff.mpr ⟨hcan, sink, hsink, hlisted, rfl⟩⟩

/-- In a column of nanoseconds a text is bound as its instant, and one that is no timestamp is
refused. -/
theorem oracle_takesForInstant_iff_noon :
    Kind.string.Holds (.string "noon") ∧
    (oracle { sink := some { timestampFields := ["seen"], timestampPrecision := .nanoseconds } }
      ).bindField {} 1 ⟨"seen", { kind := .string }, false⟩ (some (.string "noon"))
        (some { name := "SEEN", sqlType := .timestamp, typeName := "TIMESTAMP(9)" })
      = .error (.notATimestamp "seen" "noon") ∧
    (oracle { sink := some { timestampFields := ["seen"], timestampPrecision := .nanoseconds } }
      ).bindField {} 1 ⟨"seen", { kind := .string }, false⟩
        (some (.string "1970-01-01T12:00:00Z"))
        (some { name := "SEEN", sqlType := .timestamp, typeName := "TIMESTAMP(9)" })
      = .ok { bindings := [(1, .whole (.timestamp ⟨43200, 0, by decide⟩))] } ∧
    (oracle { sink := some { timestampFields := ["seen"], timestampPrecision := .nanoseconds } }
      ).columnType ⟨"seen", { kind := .string }, false⟩ = .ok "TIMESTAMP(9)" := by
  have hbind :
      (oracle { sink := some { timestampFields := ["seen"], timestampPrecision := .nanoseconds } }
        ).bindField {} 1 ⟨"seen", { kind := .string }, false⟩
          (some (.string "1970-01-01T12:00:00Z"))
          (some { name := "SEEN", sqlType := .timestamp, typeName := "TIMESTAMP(9)" })
        = .ok { bindings := [(1, .whole (.timestamp ⟨43200, 0, by decide⟩))] } := by rfl
  obtain ⟨-, sink, hsink, -, htype⟩ :=
    (oracle_takesForInstant_iff _ {} 1 _ _ _ rfl (.string _) (by
      intro c hc
      rw [← Option.some.inj hc]) rfl).2.mp (.inl ⟨_, hbind⟩)
  obtain rfl := Option.some.inj hsink
  exact ⟨.string _, rfl, hbind, htype⟩

/-! ### The generic dialect -/

/-- **The columns in which the generic dialect binds instants**, when the table is not known. A
logical type gives a column of instants. A listed field has none: its column is that of its kind. -/
theorem generic_columnType_of_instant (config : Config) (s : Statement) (index : Nat) (f : Field)
    (value : Option Value) (instant : Instant)
    (h : (generic config).bindField s index f value none
      = .ok { s with bindings := s.bindings ++ [(index, .whole (.timestamp instant))] }) :
    (f.schema.logical = some .timestamp ∧ (generic config).columnType f = .ok "TIMESTAMP") ∨
    (f.schema.logical = none ∧
      (∃ sink, config.sink = some sink ∧ f.name ∈ sink.timestampFields) ∧
      ((f.schema.kind = .int64 ∧ (generic config).columnType f = .ok "BIGINT") ∨
        (f.schema.kind = .string ∧ (generic config).columnType f = .ok "TEXT"))) := by
  have htype : (generic config).columnType f = f.standardType := rfl
  have hcall := (bindField_eq_timestamp_iff.mp h).1
  rw [htype, Field.standardType]
  cases value with
  | none => exact absurd hcall (by simp [chooseCall])
  | some v =>
    rcases instant_of_chooseValueCall hcall with hlogical | hstands
    · rw [hlogical]
      exact .inl ⟨rfl, rfl⟩
    · rw [hstands.logical]
      refine .inr ⟨rfl, hstands.listed, ?_⟩
      rcases hstands.kind with ⟨hkind, -⟩ | ⟨hkind, -⟩
      · rw [hkind]
        exact .inl ⟨rfl, rfl⟩
      · rw [hkind]
        exact .inr ⟨rfl, rfl⟩

/-- An instant in a column of texts. -/
theorem generic_columnType_of_instant_text :
    (generic { sink := some { timestampFields := ["seen"] } }).bindField {} 1
        ⟨"seen", { kind := .string }, false⟩ (some (.string "1970-01-01T00:00:00Z")) none
      = .ok { bindings := [(1, .whole (.timestamp (.ofNanos 0)))] } ∧
    (generic { sink := some { timestampFields := ["seen"] } }).columnType
      ⟨"seen", { kind := .string }, false⟩ = .ok "TEXT" := by
  have hbind : (generic { sink := some { timestampFields := ["seen"] } }).bindField {} 1
      ⟨"seen", { kind := .string }, false⟩ (some (.string "1970-01-01T00:00:00Z")) none
        = .ok { bindings := [(1, .whole (.timestamp (.ofNanos 0)))] } := by rfl
  rcases generic_columnType_of_instant _ {} 1 _ _ _ hbind with ⟨hlogical, -⟩ | ⟨-, -, h⟩
  · exact absurd hlogical (Option.some_ne_none _).symm
  · rcases h with ⟨hkind, -⟩ | ⟨-, htype⟩
    · exact absurd hkind (by decide)
    · exact ⟨hbind, htype⟩

/-- A column of the generic dialect in which instants are bound need not be one of instants. -/
theorem generic_columnType_ne_timestamp :
    ¬ ∀ config s index f value instant,
      (generic config).bindField s index f value none
          = .ok { s with bindings := s.bindings ++ [(index, .whole (.timestamp instant))] } →
        (generic config).columnType f = .ok "TIMESTAMP" := by
  intro hall
  have htype := hall { sink := some { timestampFields := ["seen"] } } {} 1
    ⟨"seen", { kind := .int64 }, false⟩ (some (.int64 0)) (.ofNanos 0) rfl
  exact absurd (Except.ok.inj htype) (by decide)

end Dialect

end SqlDialect
