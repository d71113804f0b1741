import SqlDialect.Proofs.Binding.ColumnLookup
import SqlDialect.Proofs.Text.Case

/-!
# The spelling of field names

Without quotes a database does not tell names apart that differ in case. A binder meets the name of
a field in three places: it looks for the column, it looks for the value in the record, and it looks
whether the field is listed as a timestamp. In a table whose names are all in the case of the
database the first of these depends on the folded name alone, and without a list there is nothing to
look for. So two records with the same values, one under each spelling, are bound alike.

## Main definitions

* `RecordBinder.Respelled` — two fields of two records that differ in the spelling of the name

## Main results

* `Dialect.chooseCall_congr` — the call for a field that is not listed does not depend on its name
* `RecordBinder.bind_respelled` — runs over fields that differ in the spelling of their names
-/

namespace SqlDialect

/-- Nothing is listed as a timestamp. -/
def Config.ListsNothing (c : Config) : Prop := ∀ o, c.sink = some o → o.timestampFields = []

theorem Config.ListsNothing.isListed {d : Dialect} (h : d.config.ListsNothing) (f : Field) :
    f.isListed d.sink = false := by
  rw [Field.isListed, Dialect.sink]
  cases hsink : d.config.sink with
  | none => simp
  | some o => simp [SinkOptions.precisionOf?, h o hsink]

namespace Dialect

variable {d : Dialect} {f g : Field}

/-- Where nothing is listed, the call for a field does not depend on its name. -/
theorem chooseCall_congr (hlisted : d.config.ListsNothing) (hschema : f.schema = g.schema)
    (value : Option Value) (column : Option Column) :
    d.chooseCall f value column = d.chooseCall g value column := by
  cases value with
  | none => simp only [chooseCall, hschema]
  | some v =>
    have hvendor : d.vendorCall? f v column = d.vendorCall? g v column := by
      simp only [vendorCall?, hschema]
    have hcommon : f.commonCall d.sink v = g.commonCall d.sink v := by
      rw [Field.commonCall, Field.commonCall, hlisted.isListed f, hlisted.isListed g, hschema]
      rfl
    simp only [chooseCall, chooseValueCall, hschema, hvendor, hcommon]

theorem bindField_congr (hlisted : d.config.ListsNothing) (hschema : f.schema = g.schema)
    (s : Statement) (index : Nat) (value : Option Value) (column : Option Column) :
    d.bindField s index f value column = d.bindField s index g value column := by
  rw [bindField, bindField, chooseCall_congr hlisted hschema]

end Dialect

namespace RecordBinder

/-- Two fields with one schema whose names are one in upper case, and which have the same value in
two records, or in neither. -/
structure Respelled (record record' : Record) (f g : Field) : Prop where
  /-- What the values are. -/
  schema : f.schema = g.schema
  /-- What the names are in upper case. -/
  name : Text.upper f.name = Text.upper g.name
  /-- What the values are in this record. -/
  value : record.get? f.name = record'.get? g.name

variable {d : Dialect} {t : Table} {mode : InsertMode} {keys keys' others others' : List Field}
  {record record' : Record}

/-- The order of the parameters depends on the mode alone. -/
theorem forall₂_fields {r : Field → Field → Prop} {table : Option Table}
    (hkeys : List.Forall₂ r keys keys') (hothers : List.Forall₂ r others others') :
    List.Forall₂ r (RecordBinder.mk d mode keys others table).fields
      (RecordBinder.mk d mode keys' others' table).fields := by
  cases mode with
  | update => exact List.rel_append hothers hkeys
  | insert | upsert => exact List.rel_append hkeys hothers

/-- **The spelling of names does not matter**, for a dialect that folds names to upper case, as
Oracle does without quotes, and lists no field as a timestamp, and for a table whose names are all in
upper case: two runs over fields that differ in the spelling of their names, with the same values
under them, leave the same statement and end in the same way. -/
theorem bind_respelled (d : Dialect) (hquoting : d.config.quoting = .never)
    (hcase : d.profile.canonicalCase = .upper) (hlisted : d.config.ListsNothing) (t : Table)
    (hupper : ∀ name ∈ t.columnNames, Text.upper name = name) (mode : InsertMode)
    (keys keys' others others' : List Field) (record record' : Record)
    (hkeys : List.Forall₂ (Respelled record record') keys keys')
    (hothers : List.Forall₂ (Respelled record record') others others') (s : Statement) :
    (RecordBinder.mk d mode keys others (some t)).bind record s
      = (RecordBinder.mk d mode keys' others' (some t)).bind record' s := by
  have hfold : d.policy.fold = .upper := by rw [Policy.fold, Dialect.policy, hquoting, hcase]
  have hfound (keys others : List Field) (f : Field) :
      (RecordBinder.mk d mode keys others (some t)).column? f = t.column? (Text.upper f.name) := by
    rw [column?_eq_foldedColumn? (fun t' ht' => ?_), foldedColumn?, foldedName, hfold]
    · rfl
    · obtain rfl := Option.some.inj ht'
      rw [hfold]
      exact hupper
  refine bind_congr_forall₂ ((forall₂_fields hkeys hothers).imp ?_) s
  intro f g hfg s index
  rw [hfound, hfound, hfg.name, hfg.value]
  exact Dialect.bindField_congr hlisted hfg.schema s index _ _

/-- A name whose capitals are more than its letters finds the column, and so does the name in
capitals. -/
theorem bind_respelled_sharpS :
    (RecordBinder.mk (.oracle { quoting := .never }) .update
        [⟨"id", { kind := .int64 }, true⟩] [⟨"straße", { kind := .string }, false⟩]
        (some (.ofColumns ⟨none, none, "PLACES"⟩
          [{ name := "ID", sqlType := .numeric, typeName := "NUMBER" },
            { name := "STRASSE", sqlType := .nVarchar, typeName := "NVARCHAR2" }]))).bind
        [("id", .int64 7), ("straße", .string "Am Markt")] {}
      = (RecordBinder.mk (.oracle { quoting := .never }) .update
        [⟨"Id", { kind := .int64 }, true⟩] [⟨"Strasse", { kind := .string }, false⟩]
        (some (.ofColumns ⟨none, none, "PLACES"⟩
          [{ name := "ID", sqlType := .numeric, typeName := "NUMBER" },
            { name := "STRASSE", sqlType := .nVarchar, typeName := "NVARCHAR2" }]))).bind
        [("Id", .int64 7), ("Strasse", .string "Am Markt")] {} := by
  refine bind_respelled _ rfl rfl ?_ _ ?_ _ _ _ _ _ _ _ ?_ ?_ _
  · rintro o ⟨⟩
  · decide +kernel
  · exact .cons ⟨rfl, by decide +kernel, by decide +kernel⟩ .nil
  · exact .cons ⟨rfl, by decide +kernel, by decide +kernel⟩ .nil

end RecordBinder

end SqlDialect
