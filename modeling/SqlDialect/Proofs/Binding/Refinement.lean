import SqlDialect.Proofs.Binding.Payload

/-!
# Where Oracle binds in its own way

A vendor's rules come before the common ones, so what a dialect binds could differ anywhere. For
Oracle it differs in eight places, each of them a kind of field, a type of column and a sort of value
for which the driver has a call of its own. Everywhere else the two dialects are one: the same result
on every statement, whatever the configuration is.

## No table, no difference

All eight places need the type of the column. So a record whose table is not known is bound alike by
both dialects, and since a run is made of its fields, this needs no more than the same for each field.

## Main definitions

* `OwnCall` — the kinds, column types and values for which Oracle has a call of its own
* `Field.HasOwnCall` — whether a field is bound by such a call

## Main results

* `Dialect.chooseCall_oracle_eq_generic_iff` — where the two dialects choose the same call
* `RecordBinder.bind_congr` — runs over fields that are bound alike
* `Dialect.oracle_refines_generic` — the two dialects bind alike but for the eight places
-/

namespace SqlDialect

/-- The kinds of field, the types of column and the values for which Oracle has a call of its own. -/
inductive OwnCall : Kind → SqlType → Value → Prop
  /-- A large text. -/
  | characters (text : Text) : OwnCall .string .clob (.string text)
  /-- A large text in the national character set. -/
  | nationalCharacters (text : Text) : OwnCall .string .nClob (.string text)
  /-- A text of bounded length in the national character set. -/
  | nationalVarchar (text : Text) : OwnCall .string .nVarchar (.string text)
  /-- A text of fixed length in the national character set. -/
  | nationalChar (text : Text) : OwnCall .string .nChar (.string text)
  /-- A large row of bytes. -/
  | ownedBytes (data : List UInt8) : OwnCall .bytes .blob (.bytes data)
  /-- A large row of bytes that are shared. -/
  | sharedBytes (data : List UInt8) : OwnCall .bytes .blob (.buffer data)
  /-- A number of 32 bits in a column of the vendor's own. -/
  | binaryFloat (bits : UInt32) : OwnCall .float32 .binaryFloat (.float32 bits)
  /-- A number of 64 bits in a column of the vendor's own. -/
  | binaryDouble (bits : UInt64) : OwnCall .float64 .binaryDouble (.float64 bits)

theorem oracleCall?_eq_none_iff {profile : Profile} {config : Config} {kind : Kind}
    {sqlType : SqlType} {value : Value} :
    oracleCall? profile config kind sqlType value = none ↔ ¬ OwnCall kind sqlType value := by
  constructor
  · intro h hown
    cases hown <;> exact absurd h (Option.some_ne_none _)
  · intro h
    unfold oracleCall?
    split
    case h_1 text => exact absurd (.characters text) h
    case h_2 text => exact absurd (.nationalCharacters text) h
    case h_3 text => exact absurd (.nationalVarchar text) h
    case h_4 text => exact absurd (.nationalChar text) h
    case h_5 data => exact absurd (.sharedBytes data) h
    case h_6 data => exact absurd (.ownedBytes data) h
    case h_7 bits => exact absurd (.binaryFloat bits) h
    case h_8 bits => exact absurd (.binaryDouble bits) h
    case h_9 => rfl

/-- A call of Oracle's own is none that every driver has. -/
theorem Field.commonCall_ne_of_ownCall {profile : Profile} {config : Config} {f : Field}
    {sqlType : SqlType} {value : Value} {call : BindCall} {sink : Option SinkOptions}
    (h : oracleCall? profile config f.schema.kind sqlType value = some call) :
    f.commonCall sink value ≠ .ok call := by
  intro hcommon
  have hown : OwnCall f.schema.kind sqlType value := by
    refine Classical.byContradiction fun hnot => ?_
    exact absurd (h.symm.trans (oracleCall?_eq_none_iff.mpr hnot)) (Option.some_ne_none call)
  generalize f.schema.kind = kind at h hown
  rcases Dialect.commonCall_eq_ok hcommon with ⟨-, instant, -, rfl⟩ | ⟨-, hplain⟩
  · cases hown <;> simp [oracleCall?] at h
  · cases hown <;>
    · obtain rfl := Option.some.inj h
      simp [Value.plainCall?] at hplain

/-- A field is bound by a call of Oracle's own: the value is there and not what the logical type
says, and the column is known and of one of the types. -/
def Field.HasOwnCall (f : Field) (value : Option Value) (column : Option Column) : Prop :=
  ∃ v c, value = some v ∧ column = some c ∧ f.schema.logical.bind (·.call? v) = none ∧
    OwnCall f.schema.kind c.sqlType v

theorem Field.not_hasOwnCall_none {f : Field} {column : Option Column} :
    ¬ f.HasOwnCall none column := by
  rintro ⟨v, _, hv, -⟩
  exact absurd hv.symm (Option.some_ne_none v)

theorem Field.hasOwnCall_iff {f : Field} {v : Value} {column : Option Column} :
    f.HasOwnCall (some v) column ↔ ∃ c, column = some c ∧
      f.schema.logical.bind (·.call? v) = none ∧ OwnCall f.schema.kind c.sqlType v := by
  refine ⟨fun ⟨w, c, hw, h⟩ => ?_, fun ⟨c, h⟩ => ⟨v, c, rfl, h⟩⟩
  obtain rfl := Option.some.inj hw
  exact ⟨c, h⟩

namespace Dialect

variable {config : Config} {f : Field} {value : Option Value} {column : Option Column}

/-- **The two dialects choose the same call** but for the fields with a call of Oracle's own. -/
theorem chooseCall_oracle_eq_generic_iff (config : Config) (f : Field) (value : Option Value)
    (column : Option Column) :
    (oracle config).chooseCall f value column = (generic config).chooseCall f value column ↔
      ¬ f.HasOwnCall value column := by
  cases value with
  | none => exact ⟨fun _ => Field.not_hasOwnCall_none, fun _ => rfl⟩
  | some v =>
    rw [chooseCall, chooseCall, chooseValueCall, chooseValueCall, Field.hasOwnCall_iff]
    cases hlogical : f.schema.logical.bind (·.call? v) with
    | some call => simp
    | none =>
      cases column with
      | none => exact ⟨fun _ => by simp, fun _ => rfl⟩
      | some c =>
        have hgeneric : (generic config).vendorCall? f v (some c) = none := rfl
        have horacle : (oracle config).vendorCall? f v (some c)
            = oracleCall? .oracle config f.schema.kind c.sqlType v := rfl
        have hnone : oracleCall? .oracle config f.schema.kind c.sqlType v = none
            ↔ ¬ OwnCall f.schema.kind c.sqlType v := oracleCall?_eq_none_iff
        have hown : (∃ c', some c = some c' ∧ (none : Option BindCall) = none ∧
            OwnCall f.schema.kind c'.sqlType v) ↔ OwnCall f.schema.kind c.sqlType v := by simp
        rw [hown, ← hnone, hgeneric, horacle]
        cases hcall : oracleCall? .oracle config f.schema.kind c.sqlType v with
        | none => exact ⟨fun _ => rfl, fun _ => rfl⟩
        | some call =>
          refine ⟨fun h => ?_, fun h => absurd h (Option.some_ne_none call)⟩
          exact absurd h.symm (Field.commonCall_ne_of_ownCall hcall)

/-- A field without a call of Oracle's own is bound alike, on every statement. -/
theorem bindField_oracle_eq_generic (h : ¬ f.HasOwnCall value column) (s : Statement)
    (index : Nat) :
    (oracle config).bindField s index f value column
      = (generic config).bindField s index f value column := by
  rw [bindField, bindField, (chooseCall_oracle_eq_generic_iff config f value column).mpr h]

end Dialect

/-! ### Records -/

namespace RecordBinder

variable {b b' : RecordBinder} {record : Record}

theorem bind_congr (hfields : b.fields = b'.fields)
    (h : ∀ f ∈ b.fields, ∀ s index,
      b.dialect.bindField s index f (record.get? f.name) (b.column? f)
        = b'.dialect.bindField s index f (record.get? f.name) (b'.column? f))
    (s : Statement) : b.bind record s = b'.bind record s := by
  refine bind_congr_forall₂ ?_ s
  rw [← hfields]
  exact List.forall₂_same.mpr h

end RecordBinder

namespace Dialect

/-- **Oracle binds as the generic dialect does**, but for the fields with a call of its own. For all
others the result is the same on every statement, and so is the statement that the handlers leave,
failing or not; and a record whose table is not known is bound alike. For the fields with a call of
its own the call is another one. -/
theorem oracle_refines_generic (config : Config) :
    (∀ f value column, ¬ f.HasOwnCall value column → ∀ s index,
      (oracle config).bindField s index f value column
        = (generic config).bindField s index f value column ∧
      (oracle config).handlers index f value column s
        = (generic config).handlers index f value column s) ∧
    (∀ f value column, f.HasOwnCall value column →
      (oracle config).chooseCall f value column ≠ (generic config).chooseCall f value column) ∧
    ∀ mode keys others record s,
      (RecordBinder.mk (oracle config) mode keys others none).bind record s
        = (RecordBinder.mk (generic config) mode keys others none).bind record s := by
  refine ⟨fun f value column h s index => ⟨bindField_oracle_eq_generic h s index, ?_⟩,
    fun f value column h heq => ?_, fun mode keys others record s => ?_⟩
  · rw [handlers_eq, handlers_eq, bindField_oracle_eq_generic h]
  · exact (chooseCall_oracle_eq_generic_iff config f value column).mp heq h
  · have hfields : (RecordBinder.mk (oracle config) mode keys others none).fields
        = (RecordBinder.mk (generic config) mode keys others none).fields := rfl
    refine RecordBinder.bind_congr hfields (fun f _ s index => ?_) s
    refine bindField_oracle_eq_generic (fun ⟨_, c, _, hc, _⟩ => ?_) s index
    exact absurd hc.symm (Option.some_ne_none c)

/-- The text of a listed field is made an instant by both dialects, also for a column of texts. -/
theorem oracle_refines_generic_varchar :
    ¬ Field.HasOwnCall ⟨"seen", { kind := .string }, false⟩ (some (.string "2024-05-01T10:30:00"))
      (some { name := "SEEN", sqlType := .varchar, typeName := "VARCHAR2" }) ∧
    (oracle { sink := some { timestampFields := ["seen"] } }).bindField {} 1
        ⟨"seen", { kind := .string }, false⟩ (some (.string "2024-05-01T10:30:00"))
        (some { name := "SEEN", sqlType := .varchar, typeName := "VARCHAR2" })
      = (generic { sink := some { timestampFields := ["seen"] } }).bindField {} 1
        ⟨"seen", { kind := .string }, false⟩ (some (.string "2024-05-01T10:30:00"))
        (some { name := "SEEN", sqlType := .varchar, typeName := "VARCHAR2" }) := by
  have hnot : ¬ Field.HasOwnCall ⟨"seen", { kind := .string }, false⟩
      (some (.string "2024-05-01T10:30:00"))
      (some { name := "SEEN", sqlType := .varchar, typeName := "VARCHAR2" }) := by
    rintro ⟨v, c, hv, hc, -, hown⟩
    obtain rfl := Option.some.inj hv
    obtain rfl := Option.some.inj hc
    cases hown
  exact ⟨hnot, ((oracle_refines_generic _).1 _ _ _ hnot {} 1).1⟩

end Dialect

end SqlDialect
