import SqlDialect.Proofs.Binding.Instants

/-!
# Which fields fail

Four ways of binding decline values, each of them for reasons of its own: the logical type looks at
the sort of value, a vendor at the kind of field and the column, the list of timestamp fields at
the name. What is left over when all of them have declined is written down nowhere. Here it is, for
a parameter that is not refused.

## Two sorts of failure

A value that only a logical type explains fails in a field that has another one or none. Nobody else
takes such a value, whatever the vendor and the column are. All other values are bound as they are,
but for a text that is taken for an instant and is none.

## Main definitions

* `Field.Unexplained` — only a logical type explains the value, and it is not that of the field
* `Dialect.Unreadable` — the value is taken for an instant and is a text that is none

## Main results

* `Dialect.bindField_eq_error_iff` — at a parameter that is not refused, the choice alone can fail
* `Dialect.bindField_fails_iff` — a field fails in these two cases and in no others
-/

namespace SqlDialect

/-! ### Values that only a logical type explains -/

/-- The logical type that explains a value, if nothing else does. -/
def Value.logicalType? : Value → Option LogicalType
  | .decimal _ => some .decimal
  | .date _ => some .date
  | .time _ => some .time
  | .timestamp _ => some .timestamp
  | .int8 _ | .int16 _ | .int32 _ | .int64 _ | .float32 _ | .float64 _ | .boolean _ | .string _
  | .bytes _ | .buffer _ => none

variable {f : Field} {v : Value} {column : Option Column} {logical : LogicalType}

/-- A value without a call of its own is one that a logical type explains. -/
theorem Value.plainCall?_eq_none_iff :
    v.plainCall? = none ↔ ∃ logical, v.logicalType? = some logical := by
  cases v <;> simp [plainCall?, logicalType?]

/-- A logical type has a call for the values it explains and for no others. -/
theorem LogicalType.call?_eq_none_iff : logical.call? v = none ↔ v.logicalType? ≠ some logical := by
  cases logical <;> cases v <;> simp [call?, Value.logicalType?]

/-- Oracle has no call of its own for a value that a logical type explains. -/
theorem OwnCall.logicalType? {kind : Kind} {sqlType : SqlType} (h : OwnCall kind sqlType v) :
    v.logicalType? = none := by
  cases h <;> rfl

/-- A value that a logical type explains is an instant already or none at all. -/
theorem Field.MayBeInstant.logicalType? (h : f.MayBeInstant v) : v.logicalType? = none := by
  rcases h with ⟨-, nanos, rfl⟩ | ⟨-, text, rfl⟩
  · rfl
  · rfl

/-- A value that only a logical type explains, which is not that of the field. -/
def Field.Unexplained (f : Field) (value : Option Value) : Prop :=
  ∃ v logical, value = some v ∧ v.logicalType? = some logical ∧ f.schema.logical ≠ some logical

/-! ### Texts that are no timestamps -/

/-- The columns of texts for which Oracle has a call of its own. -/
theorem OwnCall.string_iff {sqlType : SqlType} {text : Text} :
    OwnCall .string sqlType (.string text) ↔ sqlType ∈ [.clob, .nClob, .nVarchar, .nChar] := by
  constructor
  · intro h
    cases h <;> decide
  · intro h
    simp only [List.mem_cons, List.not_mem_nil, or_false] at h
    rcases h with rfl | rfl | rfl | rfl
    · exact .characters text
    · exact .nationalCharacters text
    · exact .nationalVarchar text
    · exact .nationalChar text

namespace Dialect

variable {d : Dialect} {value : Option Value} {text : Text}

/-- The vendor has calls of its own for texts in this column. -/
def HasTextCall (d : Dialect) (column : Option Column) : Prop :=
  d.vendor = .oracle ∧ ∃ c, column = some c ∧ c.sqlType ∈ [.clob, .nClob, .nVarchar, .nChar]

/-- A text that is no timestamp, in a field of texts that the sink lists. The field has no logical
type, and the vendor has no call of its own. -/
structure Unreadable (d : Dialect) (f : Field) (value : Option Value) (column : Option Column)
    (text : Text) : Prop where
  /-- The field is one of texts. -/
  kind : f.schema.kind = .string
  /-- The field has no logical type. -/
  logical : f.schema.logical = none
  /-- The sink lists the field. -/
  listed : ∃ sink, d.sink = some sink ∧ f.name ∈ sink.timestampFields
  /-- The value is the text. -/
  value : value = some (.string text)
  /-- The text is no timestamp. -/
  read : TimestampText.read? text = none
  /-- The column leaves the text to the common calls. -/
  column : ¬ d.HasTextCall column

/-- A vendor's own call for a text depends on the column alone. -/
theorem vendorCall?_string_eq_none_iff (hkind : f.schema.kind = .string) :
    d.vendorCall? f (.string text) column = none ↔ ¬ d.HasTextCall column := by
  cases column with
  | none =>
    refine iff_of_true ?_ fun ⟨_, c, hc, _⟩ => absurd hc.symm (Option.some_ne_none c)
    cases hvendor : d.vendor <;> simp [vendorCall?, hvendor]
  | some c =>
    cases hvendor : d.vendor with
    | generic =>
      refine iff_of_true ?_ fun ⟨horacle, _⟩ => ?_
      · simp [vendorCall?, hvendor]
      · exact absurd (hvendor.symm.trans horacle) (by decide)
    | oracle =>
      have hcall : d.vendorCall? f (.string text) (some c)
          = oracleCall? d.profile d.config .string c.sqlType (.string text) := by
        simp only [vendorCall?, hvendor, hkind]
      rw [hcall, oracleCall?_eq_none_iff, OwnCall.string_iff]
      simp [HasTextCall, hvendor]

/-- A text stands for an instant if it is in a listed field of texts and the column is no reason to
bind it otherwise. -/
theorem standsForInstant_string_iff :
    d.StandsForInstant f (.string text) column ↔
      f.schema.kind = .string ∧ f.schema.logical = none ∧
        (∃ sink, d.sink = some sink ∧ f.name ∈ sink.timestampFields) ∧
        ¬ d.HasTextCall column := by
  constructor
  · intro h
    rcases h.kind with ⟨-, nanos, htext⟩ | ⟨hkind, -⟩
    · exact absurd htext (by simp)
    · exact ⟨hkind, h.logical, h.listed, (vendorCall?_string_eq_none_iff hkind).mp h.vendor⟩
  · rintro ⟨hkind, hlogical, hlisted, hcolumn⟩
    exact ⟨hlogical, hlisted, .inr ⟨hkind, text, rfl⟩,
      (vendorCall?_string_eq_none_iff hkind).mpr hcolumn⟩

/-! ### The choice -/

/-- No vendor has a call of its own for a value that a logical type explains. -/
theorem vendorCall?_of_logicalType? (h : v.logicalType? = some logical) :
    d.vendorCall? f v column = none := by
  unfold vendorCall?
  split
  · refine oracleCall?_eq_none_iff.mpr fun hown => ?_
    exact absurd (h.symm.trans hown.logicalType?) (Option.some_ne_none logical)
  · rfl

/-- No call is chosen for a value that a logical type explains, if the field has another. -/
theorem chooseValueCall_eq_unsupportedValue_iff {kind : Kind} :
    d.chooseValueCall f v column = .error (.unsupportedValue kind) ↔
      kind = f.schema.kind ∧ f.Unexplained (some v) := by
  constructor
  · intro h
    rcases chooseValueCall_eq_error h with ⟨hplain, he⟩ | ⟨text, -, -, he⟩
    · obtain ⟨logical, hexplained⟩ := Value.plainCall?_eq_none_iff.mp hplain
      refine ⟨by simpa using he, v, logical, rfl, hexplained, fun hlogical => ?_⟩
      -- If the field had this logical type, its call would have been chosen.
      have hcall : logical.call? v ≠ none := fun hnone =>
        LogicalType.call?_eq_none_iff.mp hnone hexplained
      obtain ⟨call, hcall⟩ := Option.ne_none_iff_exists'.mp hcall
      simp [chooseValueCall, hlogical, hcall] at h
    · exact absurd he (by simp)
  · rintro ⟨rfl, w, logical, hw, hexplained, hother⟩
    obtain rfl := Option.some.inj hw
    have hlogical : f.schema.logical.bind (·.call? v) = none := by
      refine Option.bind_eq_none_iff.mpr fun other hsome => ?_
      refine LogicalType.call?_eq_none_iff.mpr fun hboth => hother ?_
      rw [hsome, ← hboth, hexplained]
    have hinstant : f.instantOf? v = .ok none := Field.instantOf?_eq_ok_none_iff.mpr fun hmay =>
      absurd (hexplained.symm.trans hmay.logicalType?) (Option.some_ne_none logical)
    have hplain : v.plainCall? = none := Value.plainCall?_eq_none_iff.mpr ⟨logical, hexplained⟩
    rw [chooseValueCall, hlogical, vendorCall?_of_logicalType? hexplained, Option.or_none,
      Field.commonCall, hinstant, ite_self, hplain]

/-- No call is chosen for a text that stands for an instant and is none. -/
theorem chooseValueCall_eq_notATimestamp_iff {name : Text} :
    d.chooseValueCall f v column = .error (.notATimestamp name text) ↔
      name = f.name ∧ d.Unreadable f (some v) column text := by
  constructor
  · intro h
    rcases chooseValueCall_eq_error h with ⟨-, he⟩ | ⟨other, rfl, hread, he⟩
    · exact absurd he (by simp)
    · obtain ⟨rfl, rfl⟩ : name = f.name ∧ text = other := by simpa using he
      obtain ⟨hkind, hlogical, hlisted, hcolumn⟩ :=
        standsForInstant_string_iff.mp (standsForInstant_of_notATimestamp h)
      exact ⟨rfl, hkind, hlogical, hlisted, rfl, hread, hcolumn⟩
  · rintro ⟨rfl, h⟩
    obtain rfl := Option.some.inj h.value
    have hlisted : f.isListed d.sink = true := (f.isListed_iff d.sink).mpr ⟨h.logical, h.listed⟩
    have hvendor : d.vendorCall? f (.string text) column = none :=
      (vendorCall?_string_eq_none_iff h.kind).mpr h.column
    rw [chooseValueCall, h.logical, hvendor, Field.commonCall, hlisted]
    simp [Field.instantOf?, h.kind, h.read]

/-- The choice fails in the two ways and in no others. -/
theorem chooseCall_eq_error_iff {e : Error} :
    d.chooseCall f value column = .error e ↔
      (e = .unsupportedValue f.schema.kind ∧ f.Unexplained value) ∨
        ∃ text, e = .notATimestamp f.name text ∧ d.Unreadable f value column text := by
  cases value with
  | none =>
    refine iff_of_false (by simp [chooseCall]) ?_
    rintro (⟨-, v, -, hv, -⟩ | ⟨text, -, h⟩)
    · exact absurd hv.symm (Option.some_ne_none v)
    · exact absurd h.value.symm (Option.some_ne_none _)
  | some v =>
    constructor
    · intro h
      rcases chooseValueCall_eq_error h with ⟨-, rfl⟩ | ⟨text, -, -, rfl⟩
      · exact .inl ⟨rfl, (chooseValueCall_eq_unsupportedValue_iff.mp h).2⟩
      · exact .inr ⟨text, rfl, (chooseValueCall_eq_notATimestamp_iff.mp h).2⟩
    · rintro (⟨rfl, h⟩ | ⟨text, rfl, h⟩)
      · exact chooseValueCall_eq_unsupportedValue_iff.mpr ⟨rfl, h⟩
      · exact chooseValueCall_eq_notATimestamp_iff.mpr ⟨rfl, h⟩

/-! ### The binding -/

variable {s : Statement} {index : Nat}

/-- At a parameter that is not refused, a call that is chosen is made. -/
theorem exists_bindField_eq_ok {call : BindCall} (hrefused : s.refusal? index = none)
    (h : d.chooseCall f value column = .ok call) :
    ∃ s', d.bindField s index f value column = .ok s' := by
  obtain ⟨bound, hrun⟩ := exists_run_of_chooseCall h s.nativeFloats
  exact ⟨_, bindField_of_outcome_ok (outcome_eq_ok_iff.mpr ⟨call, h, hrun, hrefused⟩)⟩

/-- At a parameter that is not refused, only the choice can fail. -/
theorem bindField_eq_error_iff {e : Error} (hrefused : s.refusal? index = none) :
    d.bindField s index f value column = .error e ↔ d.chooseCall f value column = .error e := by
  cases hchoose : d.chooseCall f value column with
  | error e' =>
    have hbind : d.bindField s index f value column = .error e' := by rw [bindField, hchoose]
    rw [hbind, Except.error.injEq, Except.error.injEq]
  | ok call =>
    obtain ⟨s', hbind⟩ := exists_bindField_eq_ok hrefused hchoose
    rw [hbind]
    exact iff_of_false (by simp) (by simp)

/-- At a parameter that is not refused, a field is bound unless the choice fails. -/
theorem exists_bindField_eq_ok_iff (hrefused : s.refusal? index = none) :
    (∃ s', d.bindField s index f value column = .ok s') ↔
      ∀ e, d.chooseCall f value column ≠ .error e := by
  cases hchoose : d.chooseCall f value column with
  | ok call => exact iff_of_true (exists_bindField_eq_ok hrefused hchoose) (by simp)
  | error e =>
    rw [(bindField_eq_error_iff hrefused).mpr hchoose]
    exact iff_of_false (by simp) fun hnot => hnot e rfl

/-- **A field fails in two cases and in no others**, at a parameter that is not refused. The value
is one that only a logical type explains, and the field has another or none; or it is a text that is
no timestamp, in a listed field of texts without a logical type, and the vendor has no call for
texts in the column. A missing value is always bound. -/
theorem bindField_fails_iff (d : Dialect) (s : Statement) (index : Nat) (f : Field)
    (value : Option Value) (column : Option Column) (hrefused : s.refusal? index = none) :
    (∀ kind, d.bindField s index f value column = .error (.unsupportedValue kind) ↔
      kind = f.schema.kind ∧ f.Unexplained value) ∧
    (∀ name text, d.bindField s index f value column = .error (.notATimestamp name text) ↔
      name = f.name ∧ d.Unreadable f value column text) ∧
    ((∃ s', d.bindField s index f value column = .ok s') ↔
      ¬ f.Unexplained value ∧ ∀ text, ¬ d.Unreadable f value column text) ∧
    ∃ s', d.bindField s index f none column = .ok s' := by
  refine ⟨fun kind => ?_, fun name text => ?_, ?_, exists_bindField_eq_ok hrefused rfl⟩
  · rw [bindField_eq_error_iff hrefused, chooseCall_eq_error_iff]
    simp
  · rw [bindField_eq_error_iff hrefused, chooseCall_eq_error_iff]
    constructor
    · rintro (⟨he, -⟩ | ⟨other, he, h⟩)
      · exact absurd he (by simp)
      · obtain ⟨rfl, rfl⟩ := Error.notATimestamp.inj he
        exact ⟨rfl, h⟩
    · rintro ⟨rfl, h⟩
      exact .inr ⟨text, rfl, h⟩
  · rw [exists_bindField_eq_ok_iff hrefused]
    constructor
    · intro hnot
      exact ⟨fun h => hnot _ (chooseCall_eq_error_iff.mpr (.inl ⟨rfl, h⟩)),
        fun text h => hnot _ (chooseCall_eq_error_iff.mpr (.inr ⟨text, rfl, h⟩))⟩
    · rintro ⟨hexplained, hreadable⟩ e he
      rcases chooseCall_eq_error_iff.mp he with ⟨-, h⟩ | ⟨text, -, h⟩
      · exact hexplained h
      · exact hreadable text h

/-- A text that is no timestamp fails in a column of texts, but a large text takes it. -/
theorem bindField_fails_iff_noon :
    Statement.refusal? {} 1 = none ∧
    (oracle { sink := some { timestampFields := ["seen"] } }).bindField {} 1
        ⟨"seen", { kind := .string }, false⟩ (some (.string "noon"))
        (some { name := "SEEN", sqlType := .varchar, typeName := "VARCHAR2" })
      = .error (.notATimestamp "seen" "noon") ∧
    ∃ s', (oracle { sink := some { timestampFields := ["seen"] } }).bindField {} 1
        ⟨"seen", { kind := .string }, false⟩ (some (.string "noon"))
        (some { name := "SEEN", sqlType := .clob, typeName := "CLOB" }) = .ok s' := by
  have hread : TimestampText.read? "noon" = none := by rfl
  refine ⟨rfl, ?_, ?_⟩
  · refine ((bindField_fails_iff _ {} 1 _ _ _ rfl).2.1 "seen" "noon").mpr ⟨rfl, ?_⟩
    refine ⟨rfl, rfl, ⟨_, rfl, by simp⟩, rfl, hread, ?_⟩
    rintro ⟨-, c, hc, hmem⟩
    obtain rfl := Option.some.inj hc
    exact absurd hmem (by decide)
  · refine (bindField_fails_iff _ {} 1 _ _ _ rfl).2.2.1.mpr ⟨?_, fun text h => ?_⟩
    · rintro ⟨v, logical, hv, hexplained, -⟩
      obtain rfl := Option.some.inj hv
      exact absurd hexplained (Option.some_ne_none logical).symm
    · exact h.column ⟨rfl, _, rfl, by decide⟩

end Dialect

end SqlDialect
