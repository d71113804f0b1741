import SqlDialect.Proofs.Binding.Handlers

/-!
# What a field hands over

A value reaches the driver in many forms: as a whole or as a stream, in the common or in the
national character set, through a call every driver has or through one of the vendor's own. In every
form it is the same value. Two kinds of field are exceptions by design: a missing value is NULL, and
a listed field becomes an instant.

## Main definitions

* `Bound.carried?` — the value in what is bound
* `Value.owned` — a value without regard to who holds its bytes
* `Dialect.StandsForInstant` — the values that become instants
* `Dialect.Intact` — what must be bound for the value of a field

## Main results

* `Stream.text_ofText` — a stream of a text yields the text
* `Dialect.chooseValueCall_eq_ok` — the call that is chosen hands over the value
* `Dialect.bindField_intact` — one binding with the value in it, or none
-/

namespace SqlDialect

/-! ### Streams -/

/-- A stream of a text yields the text: nothing is lost on the way through UTF-8. -/
theorem Stream.text_ofText (text : Text) : (Stream.ofText text).text = .ok text := by
  have hbytes : (⟨(String.ofList text).toUTF8.data.toList.toArray⟩ : ByteArray)
      = (String.ofList text).toUTF8 := by
    rw [Array.toArray_toList]
  have hread : String.fromUTF8? (String.ofList text).toUTF8 = some (String.ofList text) := by
    rw [String.fromUTF8?, String.toUTF8_eq_toByteArray, dif_pos (String.ofList text).isValidUTF8]
    rfl
  rw [Stream.text, ofText]
  simp only [hbytes, hread, String.toList_ofList]

/-! ### Values in what is bound -/

/-- The value in what is bound. Two ways to bind one value are not told apart, such as a text and a
stream of its characters; there is no value in NULL. -/
def Bound.carried? : Bound → Option Value
  | .whole (.null _) => none
  | .whole (.boolean value) => some (.boolean value)
  | .whole (.int8 value) => some (.int8 value)
  | .whole (.int16 value) => some (.int16 value)
  | .whole (.int32 value) => some (.int32 value)
  | .whole (.int64 value) => some (.int64 value)
  | .whole (.float32 bits) | .binaryFloat bits => some (.float32 bits)
  | .whole (.float64 bits) | .binaryDouble bits => some (.float64 bits)
  | .whole (.string text) | .whole (.nationalString text) | .characterStream text _
  | .nationalCharacterStream text => some (.string text)
  | .whole (.bytes data) | .blob data => some (.bytes data)
  | .whole (.decimal value) => some (.decimal value)
  | .whole (.date value) => some (.date value)
  | .whole (.time value) => some (.time value)
  | .whole (.timestamp value) => some (.timestamp value)

/-- The value, its bytes its own. -/
def Value.owned : Value → Value
  | .buffer data => .bytes data
  | value => value

/-- A call hands over a value if every driver binds something with this value in it. -/
def BindCall.Carries (call : BindCall) (value : Value) : Prop :=
  ∀ nativeFloats, ∃ bound, call.run nativeFloats = .ok bound ∧ bound.carried? = some value.owned

variable {call : BindCall} {value : Value}

theorem LogicalType.carries_of_call? {logical : LogicalType} (h : logical.call? value = some call) :
    call.Carries value := by
  intro nativeFloats
  unfold call? at h
  split at h
  case h_5 => exact absurd h (Option.some_ne_none call).symm
  all_goals
    obtain rfl := Option.some.inj h
    exact ⟨_, rfl, rfl⟩

theorem Value.carries_of_plainCall? (h : value.plainCall? = some call) : call.Carries value := by
  intro nativeFloats
  cases value with
  | decimal _ | date _ | time _ | timestamp _ => exact absurd h (Option.some_ne_none call).symm
  | _ =>
    obtain rfl := Option.some.inj h
    exact ⟨_, rfl, rfl⟩

theorem carries_of_oracleCall? {profile : Profile} {config : Config} {kind : Kind}
    {sqlType : SqlType} (h : oracleCall? profile config kind sqlType value = some call) :
    call.Carries value := by
  intro nativeFloats
  unfold oracleCall? at h
  split at h
  case h_9 => exact absurd h (Option.some_ne_none call).symm
  all_goals obtain rfl := Option.some.inj h
  -- The streams of a text are read by the driver.
  case h_1 text =>
    exact ⟨.characterStream text _, by rw [BindCall.run, Stream.text_ofText], rfl⟩
  case h_2 text =>
    exact ⟨.nationalCharacterStream text, by rw [BindCall.run, Stream.text_ofText], rfl⟩
  -- The vendor's binary numbers are ordinary ones to other drivers.
  case h_7 bits => cases nativeFloats <;> exact ⟨_, rfl, rfl⟩
  case h_8 bits => cases nativeFloats <;> exact ⟨_, rfl, rfl⟩
  all_goals exact ⟨_, rfl, rfl⟩

theorem Dialect.carries_of_vendorCall? {d : Dialect} {f : Field} {column : Option Column}
    (h : d.vendorCall? f value column = some call) : call.Carries value := by
  unfold vendorCall? at h
  split at h
  · exact carries_of_oracleCall? h
  · exact absurd h (Option.some_ne_none call).symm

/-! ### Values that become instants -/

/-- The values that can become instants: integers of 64 bits and texts in fields of these kinds. -/
def Field.MayBeInstant (f : Field) (value : Value) : Prop :=
  (f.schema.kind = .int64 ∧ ∃ nanos, value = .int64 nanos) ∨
    (f.schema.kind = .string ∧ ∃ text, value = .string text)

theorem Field.instantOf?_eq_ok_none_iff {f : Field} :
    f.instantOf? value = .ok none ↔ ¬ f.MayBeInstant value := by
  cases value with
  | int64 nanos =>
    by_cases hkind : f.schema.kind = .int64
    · simp [instantOf?, MayBeInstant, hkind]
    · simp [instantOf?, MayBeInstant, hkind]
  | string text =>
    by_cases hkind : f.schema.kind = .string
    · cases hread : TimestampText.read? text with
      | none => simp [instantOf?, MayBeInstant, hkind, hread]
      | some instant => simp [instantOf?, MayBeInstant, hkind, hread]
    · simp [instantOf?, MayBeInstant, hkind]
  | _ => simp [instantOf?, MayBeInstant]

theorem Field.instantOf?_eq_error {f : Field} {e : Error} (h : f.instantOf? value = .error e) :
    ∃ text, value = .string text ∧ TimestampText.read? text = none ∧
      e = .notATimestamp f.name text := by
  cases value with
  | string text =>
    refine ⟨text, rfl, ?_⟩
    by_cases hkind : f.schema.kind = .string
    · cases hread : TimestampText.read? text with
      | none => exact ⟨rfl, by simpa [instantOf?, hkind, hread, eq_comm] using h⟩
      | some instant => simp [instantOf?, hkind, hread] at h
    · simp [instantOf?, hkind] at h
  | _ => simp [instantOf?] at h

theorem Field.mayBeInstant_of_instantOf? {f : Field} {instant : Instant}
    (h : f.instantOf? value = .ok (some instant)) : f.MayBeInstant value := by
  refine Classical.byContradiction fun hnot => ?_
  rw [instantOf?_eq_ok_none_iff.mpr hnot] at h
  exact absurd (Except.ok.inj h) (Option.some_ne_none instant).symm

/-- A field is listed if the sink names it and it has no logical type. -/
theorem Field.isListed_iff (f : Field) (sink? : Option SinkOptions) :
    f.isListed sink? = true ↔
      f.schema.logical = none ∧ ∃ sink, sink? = some sink ∧ f.name ∈ sink.timestampFields := by
  rw [isListed, Bool.and_eq_true, Option.isNone_iff_eq_none]
  refine and_congr_right fun _ => ?_
  cases sink? with
  | none => simp
  | some sink => simp [SinkOptions.precisionOf?]

namespace Dialect

/-- The values that become instants: those of a field without a logical type that the sink lists,
if the vendor has no call of its own for them. -/
structure StandsForInstant (d : Dialect) (f : Field) (value : Value) (column : Option Column) :
    Prop where
  /-- The field has no logical type. -/
  logical : f.schema.logical = none
  /-- The sink lists the field. -/
  listed : ∃ sink, d.sink = some sink ∧ f.name ∈ sink.timestampFields
  /-- The value is of the kind of the field. -/
  kind : f.MayBeInstant value
  /-- The vendor leaves it alone. -/
  vendor : d.vendorCall? f value column = none

/-- What must be bound for the value of a field: NULL if there is none, the instant for which it
stands if it stands for one, and the value itself otherwise. -/
def Intact (d : Dialect) (f : Field) (column : Option Column) (bound : Bound) :
    Option Value → Prop
  | none => bound = .whole (.null ((column.map Column.sqlType).or f.schema.nullType?))
  | some value =>
    (d.StandsForInstant f value column →
      ∃ instant, f.instantOf? value = .ok (some instant) ∧ bound = .whole (.timestamp instant)) ∧
    (¬ d.StandsForInstant f value column → bound.carried? = some value.owned)

/-! ### The call that is chosen -/

variable {d : Dialect} {f : Field} {column : Option Column} {nativeFloats : Bool} {bound : Bound}

/-- What the common handler calls the driver for: the instant for which a listed field stands, or
the value as it is. -/
theorem commonCall_eq_ok {sink : Option SinkOptions} (h : f.commonCall sink value = .ok call) :
    (f.isListed sink = true ∧ ∃ instant, f.instantOf? value = .ok (some instant) ∧
      call = .whole (.timestamp instant)) ∨
    ((f.isListed sink = false ∨ f.instantOf? value = .ok none) ∧
      value.plainCall? = some call) := by
  rw [Field.commonCall] at h
  cases hlisted : f.isListed sink with
  | false =>
    rw [hlisted] at h
    cases hplain : value.plainCall? with
    | none => simp [hplain] at h
    | some other => exact .inr ⟨.inl rfl, by simpa [hplain] using h⟩
  | true =>
    rw [hlisted, if_pos rfl] at h
    cases hinstant : f.instantOf? value with
    | error e => simp [hinstant] at h
    | ok instant? =>
      cases instant? with
      | some instant =>
        rw [hinstant] at h
        exact .inl ⟨rfl, instant, rfl, (Except.ok.inj h).symm⟩
      | none =>
        cases hplain : value.plainCall? with
        | none => simp [hinstant, hplain] at h
        | some other => exact .inr ⟨.inr rfl, by simpa [hinstant, hplain] using h⟩

/-- What the common handler does not take. -/
theorem commonCall_eq_error {sink : Option SinkOptions} {e : Error}
    (h : f.commonCall sink value = .error e) :
    (value.plainCall? = none ∧ e = .unsupportedValue f.schema.kind) ∨
    ∃ text, value = .string text ∧ TimestampText.read? text = none ∧
      e = .notATimestamp f.name text := by
  rw [Field.commonCall] at h
  cases hlisted : f.isListed sink with
  | false =>
    rw [hlisted] at h
    cases hplain : value.plainCall? with
    | none => exact .inl ⟨rfl, by simpa [hplain, eq_comm] using h⟩
    | some call => simp [hplain] at h
  | true =>
    rw [hlisted, if_pos rfl] at h
    cases hinstant : f.instantOf? value with
    | error e' =>
      rw [hinstant] at h
      obtain rfl := Except.error.inj h
      exact .inr (Field.instantOf?_eq_error hinstant)
    | ok instant? =>
      cases instant? with
      | some instant => simp [hinstant] at h
      | none =>
        cases hplain : value.plainCall? with
        | none => exact .inl ⟨rfl, by simpa [hinstant, hplain, eq_comm] using h⟩
        | some call => simp [hinstant, hplain] at h

/-- **The call that is chosen for a value** is for the instant for which it stands, or hands over
the value itself. -/
theorem chooseValueCall_eq_ok (h : d.chooseValueCall f value column = .ok call) :
    (d.StandsForInstant f value column ∧ ∃ instant, f.instantOf? value = .ok (some instant) ∧
      call = .whole (.timestamp instant)) ∨
    (¬ d.StandsForInstant f value column ∧ call.Carries value) := by
  rw [chooseValueCall] at h
  cases hlogical : f.schema.logical.bind (·.call? value) with
  | some other =>
    obtain rfl : other = call := by simpa [hlogical] using h
    obtain ⟨logical, hsome, hcall⟩ := Option.bind_eq_some_iff.mp hlogical
    refine .inr ⟨fun hstands => ?_, LogicalType.carries_of_call? hcall⟩
    rw [hstands.logical] at hsome
    exact absurd hsome (Option.some_ne_none logical).symm
  | none =>
    cases hvendor : d.vendorCall? f value column with
    | some other =>
      obtain rfl : other = call := by simpa [hlogical, hvendor] using h
      refine .inr ⟨fun hstands => ?_, carries_of_vendorCall? hvendor⟩
      exact absurd (hvendor.symm.trans hstands.vendor) (Option.some_ne_none other)
    | none =>
      rw [hlogical, hvendor] at h
      rcases commonCall_eq_ok h with ⟨hlisted, instant, hinstant, rfl⟩ | ⟨hnone, hplain⟩
      · obtain ⟨hfree, hsink⟩ := (f.isListed_iff d.sink).mp hlisted
        have hkind := Field.mayBeInstant_of_instantOf? hinstant
        exact .inl ⟨⟨hfree, hsink, hkind, hvendor⟩, instant, hinstant, rfl⟩
      · refine .inr ⟨fun hstands => ?_, Value.carries_of_plainCall? hplain⟩
        rcases hnone with hlisted | hinstant
        · have htrue := (f.isListed_iff d.sink).mpr ⟨hstands.logical, hstands.listed⟩
          exact absurd (hlisted.symm.trans htrue) Bool.false_ne_true
        · exact Field.instantOf?_eq_ok_none_iff.mp hinstant hstands.kind

/-- The only values for which no call is chosen: those that only a logical type explains, and texts
of a listed field that are no timestamps. -/
theorem chooseValueCall_eq_error {e : Error} (h : d.chooseValueCall f value column = .error e) :
    (value.plainCall? = none ∧ e = .unsupportedValue f.schema.kind) ∨
    ∃ text, value = .string text ∧ TimestampText.read? text = none ∧
      e = .notATimestamp f.name text := by
  rw [chooseValueCall] at h
  cases hcall : (f.schema.logical.bind (·.call? value)).or (d.vendorCall? f value column) with
  | some call => simp [hcall] at h
  | none =>
    rw [hcall] at h
    exact commonCall_eq_error h

/-- A call that was chosen never fails by itself. -/
theorem exists_run_of_chooseCall {value : Option Value}
    (h : d.chooseCall f value column = .ok call) (nativeFloats : Bool) :
    ∃ bound, call.run nativeFloats = .ok bound := by
  cases value with
  | none =>
    obtain rfl := Except.ok.inj h
    exact ⟨_, rfl⟩
  | some value =>
    rcases chooseValueCall_eq_ok h with ⟨-, instant, -, rfl⟩ | ⟨-, hcall⟩
    · exact ⟨_, rfl⟩
    · obtain ⟨bound, hrun, -⟩ := hcall nativeFloats
      exact ⟨bound, hrun⟩

/-- **Whatever call is chosen, what it binds is the value.** -/
theorem intact_of_chooseCall {value : Option Value} (h : d.chooseCall f value column = .ok call)
    (hrun : call.run nativeFloats = .ok bound) : d.Intact f column bound value := by
  cases value with
  | none =>
    obtain rfl := Except.ok.inj h
    obtain rfl := Except.ok.inj hrun
    cases column with
    | none => rfl
    | some column => rfl
  | some value =>
    rcases chooseValueCall_eq_ok h with ⟨hstands, instant, hinstant, rfl⟩ | ⟨hstands, hcall⟩
    · refine ⟨fun _ => ⟨instant, hinstant, (Except.ok.inj hrun).symm⟩, fun hnot => ?_⟩
      exact absurd hstands hnot
    · obtain ⟨other, hother, hcarried⟩ := hcall nativeFloats
      obtain rfl : other = bound := Except.ok.inj (hother.symm.trans hrun)
      exact ⟨fun h => absurd h hstands, fun _ => hcarried⟩

/-! ### One binding or none -/

/-- At a parameter that is not refused, only the value can fail. -/
theorem outcome_eq_error {s : Statement} {index : Nat} {value : Option Value} {e : Error}
    (hrefused : s.refusal? index = none) (h : d.outcome s index f value column = .error e) :
    ∃ v, value = some v ∧ ((v.plainCall? = none ∧ e = .unsupportedValue f.schema.kind) ∨
      ∃ text, v = .string text ∧ TimestampText.read? text = none ∧
        e = .notATimestamp f.name text) := by
  cases hcall : d.chooseCall f value column with
  | ok call =>
    obtain ⟨bound, hrun⟩ := exists_run_of_chooseCall hcall s.nativeFloats
    have hbound := outcome_eq_ok_iff.mpr ⟨call, hcall, hrun, hrefused⟩
    rw [h] at hbound
    exact absurd hbound (by simp)
  | error e' =>
    obtain rfl : e' = e := by simpa [outcome, hcall] using h
    cases value with
    | none => simp [chooseCall] at hcall
    | some value => exact ⟨value, rfl, chooseValueCall_eq_error hcall⟩

/-- **A field is bound once, and intact, or nothing is bound.** An error leaves the statement as it
was, and a parameter that is refused is an error. At any other parameter, only a value fails that
is not of the logical type of its field, or a text that is no timestamp. -/
theorem bindField_intact (d : Dialect) (s : Statement) (index : Nat) (f : Field)
    (value : Option Value) (column : Option Column) :
    (∀ e, d.bindField s index f value column = .error e →
      d.handlers index f value column s = .error e s) ∧
    (∀ e, s.refusal? index = some e →
      ∃ e', d.bindField s index f value column = .error e') ∧
    (∀ s', d.bindField s index f value column = .ok s' →
      d.handlers index f value column s = .ok () s' ∧
      ∃ bound, s' = { s with bindings := s.bindings ++ [(index, bound)] } ∧
        d.Intact f column bound value) ∧
    ∀ e, s.refusal? index = none → d.bindField s index f value column = .error e →
      ∃ v, value = some v ∧ ((v.plainCall? = none ∧ e = .unsupportedValue f.schema.kind) ∨
        ∃ text, v = .string text ∧ TimestampText.read? text = none ∧
          e = .notATimestamp f.name text) := by
  rw [handlers_eq]
  cases houtcome : d.outcome s index f value column with
  | error e =>
    rw [bindField_of_outcome_error houtcome]
    refine ⟨fun e' h => ?_, fun _ _ => ⟨e, rfl⟩, fun s' h => ?_, fun e' hrefused h => ?_⟩
    · rw [h]
      rfl
    · exact absurd h (by simp)
    · obtain rfl := Except.error.inj h
      exact outcome_eq_error hrefused houtcome
  | ok bound =>
    obtain ⟨call, hcall, hrun, hrefused⟩ := outcome_eq_ok_iff.mp houtcome
    rw [bindField_of_outcome_ok houtcome]
    refine ⟨fun e h => ?_, fun e h => ?_, fun s' h => ?_, fun e _ h => ?_⟩
    · exact absurd h (by simp)
    · rw [hrefused] at h
      exact absurd h (Option.some_ne_none e).symm
    · obtain rfl := Except.ok.inj h
      exact ⟨rfl, bound, rfl, intact_of_chooseCall hcall hrun⟩
    · exact absurd h (by simp)

end Dialect

end SqlDialect
