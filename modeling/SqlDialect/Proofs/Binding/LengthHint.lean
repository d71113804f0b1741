import SqlDialect.Proofs.Binding.LargeText

/-!
# The length told with a large text

With a large text Oracle is told how long it is, unless rows are upserted and the text is a long
one. So the length depends on how rows are written, and that is said in two places.

## Two modes

A binder has a mode of its own, which decides the order of the parameters. The length is chosen by
the dialect, one field at a time, and a dialect knows of no binder: it looks at the mode of its
configuration. A binder made by `RecordBinder.ofDialect` has its mode from there, and the two are
one. Any other mode of a binder may change the order and leaves the length as it is. This can be
seen in long texts only, and only if one of the two modes is upsert and the other is not.

## Main definitions

* `InsertMode.toldLength` — the length that goes with a way of writing rows
* `RecordBinder.StreamsText` — a field of a record with a text for a column of large texts

## Main results

* `Dialect.oracle_chooseCall_eq_characterStream_iff` — the fields that Oracle streams, and how
* `RecordBinder.clob_length_iff` — the length told, and when it is that of the binder's mode
-/

namespace SqlDialect

/-! ### The length -/

/-- The length that goes with a way of writing rows: the characters of the text, but none from the
threshold upwards in upserts. -/
def InsertMode.toldLength (mode : InsertMode) (threshold : Nat) (text : Text) : Option Nat :=
  if mode = .upsert ∧ threshold ≤ text.length then none else some text.length

/-- Two ways of writing rows go with one length if the text is short, or if both or neither of them
are upserts. -/
theorem InsertMode.toldLength_eq_iff {mode other : InsertMode} {threshold : Nat} {text : Text} :
    mode.toldLength threshold text = other.toldLength threshold text ↔
      text.length < threshold ∨ (mode = .upsert ↔ other = .upsert) := by
  by_cases hlong : threshold ≤ text.length
  · have hshort : ¬ text.length < threshold := Nat.not_lt.mpr hlong
    simp only [toldLength, hlong, and_true, hshort, false_or]
    by_cases hmode : mode = .upsert <;> by_cases hother : other = .upsert <;> simp [hmode, hother]
  · simp [toldLength, hlong, Nat.not_le.mp hlong]

/-- The dialect looks at the mode of the configuration. -/
theorem lengthHint_eq_toldLength {profile : Profile} {threshold : Nat}
    (h : profile.streamThreshold = some threshold) (config : Config) (text : Text) :
    lengthHint profile config text = config.insertMode.toldLength threshold text := by
  by_cases hlong : config.insertMode = .upsert ∧ threshold ≤ text.length
  · rw [lengthHint_eq_none hlong.1 h hlong.2, InsertMode.toldLength, if_pos hlong]
  · rw [InsertMode.toldLength, if_neg hlong]
    refine lengthHint_eq_some fun ⟨hmode, other, hother, hreached⟩ => hlong ⟨hmode, ?_⟩
    obtain rfl : threshold = other := Option.some.inj (h.symm.trans hother)
    exact hreached

/-! ### One field -/

theorem BindCall.run_eq_characterStream_iff {call : BindCall} {nativeFloats : Bool} {text : Text}
    {length : Option Nat} :
    call.run nativeFloats = .ok (.characterStream text length) ↔
      ∃ source, call = .characterStream source length ∧ source.text = .ok text := by
  cases call with
  | whole value => simp [run]
  | characterStream source other =>
    constructor
    · intro h
      rw [run] at h
      cases hread : source.text with
      | error words => simp [hread] at h
      | ok read =>
        rw [hread] at h
        obtain ⟨rfl, rfl⟩ := Bound.characterStream.inj (Except.ok.inj h)
        exact ⟨source, rfl, hread⟩
    · rintro ⟨_, hcall, hread⟩
      obtain ⟨rfl, rfl⟩ := BindCall.characterStream.inj hcall
      rw [run, hread]
  | nationalCharacterStream source =>
    rw [run]
    cases source.text <;> simp
  | blob source =>
    rw [run]
    cases source.bytes <;> simp
  | binaryFloat bits => cases nativeFloats <;> simp [run]
  | binaryDouble bits => cases nativeFloats <;> simp [run]

theorem LogicalType.whole_of_call? {logical : LogicalType} {value : Value} {call : BindCall}
    (h : logical.call? value = some call) : ∃ whole, call = .whole whole := by
  unfold call? at h
  split at h
  case h_5 => exact absurd h (Option.some_ne_none call).symm
  all_goals exact ⟨_, (Option.some.inj h).symm⟩

/-- What every driver has a call for is handed over as a whole. -/
theorem Field.whole_of_commonCall {f : Field} {sink : Option SinkOptions} {value : Value}
    {call : BindCall} (h : f.commonCall sink value = .ok call) : ∃ whole, call = .whole whole := by
  rcases Dialect.commonCall_eq_ok h with ⟨-, instant, -, hcall⟩ | ⟨-, hplain⟩
  · exact ⟨_, hcall⟩
  · cases value
    case decimal | date | time | timestamp => exact absurd hplain (Option.some_ne_none call).symm
    all_goals exact ⟨_, (Option.some.inj hplain).symm⟩

/-- Of Oracle's own calls only one is for a large text in the ordinary character set. -/
theorem oracleCall?_eq_characterStream_iff {profile : Profile} {config : Config} {kind : Kind}
    {sqlType : SqlType} {value : Value} {source : Stream} {length : Option Nat} :
    oracleCall? profile config kind sqlType value = some (.characterStream source length) ↔
      ∃ text, kind = .string ∧ sqlType = .clob ∧ value = .string text ∧ source = .ofText text ∧
        length = lengthHint profile config text := by
  constructor
  · intro h
    unfold oracleCall? at h
    split at h
    case h_1 text =>
      obtain ⟨hsource, hlength⟩ := BindCall.characterStream.inj (Option.some.inj h)
      exact ⟨text, rfl, rfl, rfl, hsource.symm, hlength.symm⟩
    case h_9 => exact absurd h (Option.some_ne_none _).symm
    all_goals exact absurd (Option.some.inj h) (by simp)
  · rintro ⟨text, rfl, rfl, rfl, rfl, rfl⟩
    rfl

namespace Dialect

variable {config : Config} {s : Statement} {index : Nat} {f : Field} {value : Option Value}
  {column : Option Column} {text : Text} {length : Option Nat}

/-- What is not handed over as a whole is bound by a call of the vendor's own. -/
theorem vendorCall?_of_chooseValueCall {d : Dialect} {v : Value} {call : BindCall}
    (h : d.chooseValueCall f v column = .ok call) (hwhole : ∀ whole, call ≠ .whole whole) :
    d.vendorCall? f v column = some call := by
  rw [chooseValueCall] at h
  cases hlogical : f.schema.logical.bind (·.call? v) with
  | some other =>
    obtain rfl : other = call := by simpa [hlogical] using h
    obtain ⟨logical, -, hcall⟩ := Option.bind_eq_some_iff.mp hlogical
    obtain ⟨whole, hother⟩ := LogicalType.whole_of_call? hcall
    exact absurd hother (hwhole whole)
  | none =>
    cases hvendor : d.vendorCall? f v column with
    | some other => simpa [hlogical, hvendor] using h
    | none =>
      rw [hlogical, hvendor] at h
      obtain ⟨whole, hcall⟩ := Field.whole_of_commonCall h
      exact absurd hcall (hwhole whole)

/-- **The fields that Oracle streams**: those of texts with a text in them, for a column of large
texts that is known. No logical type says otherwise, and neither does the list of the sink. -/
theorem oracle_chooseCall_eq_characterStream_iff {source : Stream} :
    (oracle config).chooseCall f value column = .ok (.characterStream source length) ↔
      ∃ text c, f.schema.kind = .string ∧ value = some (.string text) ∧ column = some c ∧
        c.sqlType = .clob ∧ source = .ofText text ∧
        length = config.insertMode.toldLength 4000 text := by
  have hthreshold (text : Text) :
      lengthHint .oracle config text = config.insertMode.toldLength 4000 text :=
    lengthHint_eq_toldLength rfl config text
  constructor
  · intro h
    cases value with
    | none => exact absurd (Except.ok.inj h) (by simp)
    | some v =>
      have hvendor : (oracle config).vendorCall? f v column = some (.characterStream source length) :=
        vendorCall?_of_chooseValueCall h (by simp)
      cases column with
      | none => exact absurd hvendor (Option.some_ne_none _).symm
      | some c =>
        obtain ⟨text, hkind, hclob, rfl, hsource, hlength⟩ :=
          oracleCall?_eq_characterStream_iff.mp hvendor
        exact ⟨text, c, hkind, rfl, rfl, hclob, hsource, hlength.trans (hthreshold text)⟩
  · rintro ⟨text, c, hkind, rfl, rfl, hclob, rfl, rfl⟩
    refine chooseCall_of_oracleCall? rfl (oracleCall?_eq_characterStream_iff.mpr ?_)
    exact ⟨text, hkind, hclob, rfl, rfl, (hthreshold text).symm⟩

/-- Such a field is bound, if the parameter takes it, with the text and the length. -/
theorem oracle_outcome_eq_characterStream_iff (hrefused : s.refusal? index = none) :
    (oracle config).outcome s index f value column = .ok (.characterStream text length) ↔
      f.schema.kind = .string ∧ value = some (.string text) ∧
        (∃ c, column = some c ∧ c.sqlType = .clob) ∧
        length = config.insertMode.toldLength 4000 text := by
  rw [outcome_eq_ok_iff]
  constructor
  · rintro ⟨call, hcall, hrun, -⟩
    obtain ⟨source, rfl, hread⟩ := BindCall.run_eq_characterStream_iff.mp hrun
    obtain ⟨other, c, hkind, hvalue, hcolumn, hclob, rfl, hlength⟩ :=
      oracle_chooseCall_eq_characterStream_iff.mp hcall
    obtain rfl : other = text := by simpa [Stream.text_ofText] using hread
    exact ⟨hkind, hvalue, ⟨c, hcolumn, hclob⟩, hlength⟩
  · rintro ⟨hkind, hvalue, ⟨c, hcolumn, hclob⟩, hlength⟩
    refine ⟨.characterStream (.ofText text) length, ?_, ?_, hrefused⟩
    · exact oracle_chooseCall_eq_characterStream_iff.mpr
        ⟨text, c, hkind, hvalue, hcolumn, hclob, rfl, hlength⟩
    · exact BindCall.run_eq_characterStream_iff.mpr ⟨_, rfl, Stream.text_ofText text⟩

end Dialect

namespace RecordBinder

/-! ### A table of large texts -/

/-- A text as long as the threshold. -/
def longText : Text := List.replicate 4000 'x'

theorem length_longText : longText.length = 4000 := List.length_replicate

theorem toldLength_longText (mode : InsertMode) :
    mode.toldLength 4000 longText = if mode = .upsert then none else some 4000 := by
  rw [InsertMode.toldLength, length_longText]
  cases mode <;> rfl

/-- A binder for a table whose only column holds large texts. -/
def documents (config : Config) (mode : InsertMode) : RecordBinder where
  dialect := .oracle config
  mode := mode
  keys := []
  others := [{ name := "DOC", schema := { kind := .string } }]
  table := some (.ofColumns ⟨none, none, "DOCS"⟩
    [{ name := "DOC", sqlType := .clob, typeName := "CLOB" }])

theorem bind_documents (config : Config) (mode : InsertMode) (text : Text) :
    (documents config mode).bind [("DOC", .string text)] {}
      = (Statement.push {} 1 (.characterStream text (config.insertMode.toldLength 4000 text)),
        .ok 1) := by
  have houtcome : (documents config mode).outcome [("DOC", .string text)] {} 1
      { name := "DOC", schema := { kind := .string } }
        = .ok (.characterStream text (config.insertMode.toldLength 4000 text)) :=
    (Dialect.oracle_outcome_eq_characterStream_iff rfl).mpr ⟨rfl, rfl, ⟨_, rfl, rfl⟩, rfl⟩
  have hfields : (documents config mode).fields
      = [{ name := "DOC", schema := { kind := .string } }] := by
    cases mode <;> rfl
  rw [bind, hfields, bindFrom, Dialect.bindField_of_outcome_ok houtcome]
  rfl

/-! ### Records -/

/-- A field of a record with a text for a column of large texts. -/
def StreamsText (b : RecordBinder) (record : Record) (f : Field) (text : Text) : Prop :=
  f.schema.kind = .string ∧ record.get? f.name = some (.string text) ∧
    ∃ c, b.column? f = some c ∧ c.sqlType = .clob

/-- **The length told with a large text**, by a run that succeeds. A large text is bound for exactly
the fields with a text for such a column, in the place of the field, and with the length that goes
with the mode of the configuration. It is the length that goes with the mode of the binder if the
text is short, or if both or neither of the two modes are upsert. -/
theorem clob_length_iff (b : RecordBinder) (config : Config) (hdialect : b.dialect = .oracle config)
    (record : Record) (s : Statement) (n : Nat) (hok : (b.bind record s).2 = .ok n) (i : Nat)
    (f : Field) (hf : b.fields[i]? = some f) (text : Text) :
    (∀ length,
      (b.bind record s).1.bindings[s.bindings.length + i]?
          = some (i + 1, .characterStream text length) ↔
        b.StreamsText record f text ∧ length = config.insertMode.toldLength 4000 text) ∧
    (b.StreamsText record f text →
      ((b.bind record s).1.bindings[s.bindings.length + i]?
          = some (i + 1, .characterStream text (b.mode.toldLength 4000 text)) ↔
        text.length < 4000 ∨ (b.mode = .upsert ↔ config.insertMode = .upsert))) := by
  have hbound (length : Option Nat) :
      (b.bind record s).1.bindings[s.bindings.length + i]?
          = some (i + 1, .characterStream text length) ↔
        b.StreamsText record f text ∧ length = config.insertMode.toldLength 4000 text := by
    obtain ⟨bound, houtcome, hbinding⟩ := exists_outcome hok hf
    have hrefused : s.refusal? (i + 1) = none := by
      obtain ⟨-, -, -, hrefused⟩ := Dialect.outcome_eq_ok_iff.mp houtcome
      exact hrefused
    have hentry : (b.bind record s).1.bindings[s.bindings.length + i]?
          = some (i + 1, .characterStream text length) ↔
        b.outcome record s (i + 1) f = .ok (.characterStream text length) := by
      rw [hbinding, houtcome]
      simp
    rw [hentry, outcome, hdialect, Dialect.oracle_outcome_eq_characterStream_iff hrefused,
      StreamsText, and_assoc, and_assoc]
  refine ⟨hbound, fun hstreams => ?_⟩
  rw [hbound, and_iff_right hstreams, InsertMode.toldLength_eq_iff]

/-- A row is inserted as the binder says, and a long text in it is streamed without its length as
the configuration says. -/
theorem clob_length_iff_insert :
    ((documents { sink := some { insertMode := .upsert } } .insert).bind
        [("DOC", .string longText)] {}).1.bindings[0]?
      = some (1, .characterStream longText none) ∧
    ((documents { sink := some { insertMode := .upsert } } .insert).bind
        [("DOC", .string longText)] {}).1.bindings[0]?
      ≠ some (1, .characterStream longText (InsertMode.insert.toldLength 4000 longText)) := by
  have hstreams : (documents { sink := some { insertMode := .upsert } } .insert).StreamsText
      [("DOC", .string longText)] { name := "DOC", schema := { kind := .string } } longText :=
    ⟨rfl, rfl, _, rfl, rfl⟩
  obtain ⟨htold, hmode⟩ := clob_length_iff
    (documents { sink := some { insertMode := .upsert } } .insert) _ rfl
    [("DOC", .string longText)] {} 1 (by rw [bind_documents]) 0 _ rfl longText
  refine ⟨(htold none).mpr ⟨hstreams, ?_⟩, fun h => ?_⟩
  · exact (toldLength_longText .upsert).symm
  · rcases (hmode hstreams).mp h with hshort | hmodes
    · exact absurd hshort (by rw [length_longText]; exact Nat.lt_irrefl 4000)
    · exact absurd (hmodes.mpr rfl) (by decide)

/-- The length told need not go with the mode of the binder: here a row is upserted, and the driver
is told the length of a long text. -/
theorem clob_length_ne_toldLength :
    ¬ ∀ (b : RecordBinder) (config : Config) (record : Record) (s : Statement) (n i : Nat)
        (f : Field) (text : Text),
      b.dialect = .oracle config → (b.bind record s).2 = .ok n → b.fields[i]? = some f →
        b.StreamsText record f text →
        (b.bind record s).1.bindings[s.bindings.length + i]?
          = some (i + 1, .characterStream text (b.mode.toldLength 4000 text)) := by
  intro hall
  have htold := hall (documents {} .upsert) {} [("DOC", .string longText)] {} 1 0 _ longText rfl
    (by rw [bind_documents]) rfl ⟨rfl, rfl, _, rfl, rfl⟩
  have hmodes : (InsertMode.insert.toldLength 4000 longText)
      = InsertMode.upsert.toldLength 4000 longText := by
    rw [bind_documents] at htold
    exact (Bound.characterStream.inj (Prod.mk.inj (Option.some.inj htold)).2).2
  rw [toldLength_longText, toldLength_longText] at hmodes
  exact absurd hmodes (by decide)

end RecordBinder

end SqlDialect
