import Mathlib.Data.List.Forall2
import SqlDialect.Proofs.Lexing.Literal

/-!
# The structure of statements about tables

A statement that creates a table or adds columns to it is made from names and from defaults, and
anybody may have chosen either. Read from its text alone, with names in double quotes and literals
in single ones, it consists of exactly the names and the defaults that went in, in their order, and of
a text around them that is the same for all of them. So neither a name nor a default ends its own
quotes, opens others or adds a word to the statement.

## The three statements as one

The two styles of adding columns and the creation of a table differ in the words in front of the
columns and in what comes behind them. `Dialect.tableSql` is all three of them, and everything that
is said about the columns is said once.

## When there is no statement

The only thing that can fail is a column type, and the first field without one decides the error.
What an error is about is not part of the structure: it is the error of that field's type, unchanged.

## Main definitions

* `TableChange`, `Dialect.tableStatement` — the two statements with columns in them
* `Dialect.columnTokens`, `Dialect.tableTokens` — the tokens of a column and of a statement
* `Field.SameShape` — fields that differ in their texts only

## Main results

* `Dialect.tableStatement_eq_error_iff` — which error there is instead of a statement
* `Dialect.readable_tableTokens` — the tokens of a statement are read back from its text
* `Dialect.tableStatement_structure` — its names, its literals and the text around them
-/

namespace SqlDialect

open Token

/-! ### The two statements -/

/-- What is done with the columns. -/
inductive TableChange where
  /-- They make a new table. -/
  | create
  /-- They are added to a table that exists. -/
  | extend
  deriving DecidableEq

namespace Dialect

variable {d : Dialect} {change : TableChange} {table : TableId} {f : Field} {fields : List Field}

/-- The statements that bring the columns of fields into the database. -/
def tableStatement (d : Dialect) (change : TableChange) (table : TableId) (fields : List Field) :
    Except Error (List Text) :=
  match change with
  | .create => (d.createTable table fields).map fun text => [text]
  | .extend => d.addColumns table fields

/-- The words around the columns of a statement. -/
structure TableWords where
  /-- Before the name of the table. -/
  front : Text
  /-- Behind the name of the table. -/
  opening : Text
  /-- Before each column. -/
  lead : Text
  /-- At the end. -/
  closing : Text

/-- The words of a statement, which depend on the style of adding columns. -/
def tableWords (style : AddColumnsStyle) : TableChange → TableWords
  | .create => ⟨"CREATE TABLE ", " (", "\n", ")"⟩
  | .extend =>
    match style with
    | .parenthesized => ⟨"ALTER TABLE ", " ADD(", "\n", ")"⟩
    | .perColumn => ⟨"ALTER TABLE ", " ", "\nADD ", []⟩

/-- The fields of the primary key, as far as the statement sets one. -/
def keyFields (change : TableChange) (fields : List Field) : List Field :=
  match change with
  | .create => fields.filter (·.isKey)
  | .extend => []

/-- The clause with the primary key, if the statement has one. -/
def keyClause (change : TableChange) (fields : List Field) : Sql :=
  match change with
  | .create => primaryKeySql fields
  | .extend => []

/-- The fragments of the statement with the given columns. -/
def tableSql (d : Dialect) (change : TableChange) (table : TableId) (fields : List Field)
    (columns : List Sql) : Sql :=
  let words := tableWords d.profile.addColumns change
  [.raw words.front, .table table, .raw words.opening]
    ++ (Sql.list "," (columns.map (.raw words.lead :: ·))
      ++ (keyClause change fields ++ [.raw words.closing]))

theorem tableStatement_eq_map (d : Dialect) (change : TableChange) (table : TableId)
    (fields : List Field) :
    d.tableStatement change table fields
      = (d.columnSqls fields).map fun columns =>
          [(d.tableSql change table fields columns).render d.policy] := by
  cases change with
  | create =>
    rw [tableStatement, createTable, createTableSql]
    cases d.columnSqls fields with
    | error e => rfl
    | ok columns =>
      simp only [Except.map, List.flatten_cons, List.flatten_nil, List.append_nil]
      rfl
  | extend =>
    rw [tableStatement, addColumns, addColumnsSql]
    cases d.columnSqls fields with
    | error e => rfl
    | ok columns =>
      simp only [Except.map, tableSql]
      cases d.profile.addColumns with
      | perColumn =>
        rw [additionSql, keyClause, List.nil_append, ← List.append_assoc, Sql.render_append]
        exact congrArg (fun text => Except.ok [text]) (List.append_nil _).symm
      | parenthesized =>
        simp only [additionSql, List.flatten_cons, List.flatten_nil, List.append_nil]
        rfl

/-! ### Column types decide -/

/-- The error that a field has instead of a column type. -/
def typeError? (d : Dialect) (f : Field) : Option Error :=
  match d.columnType f with
  | .error e => some e
  | .ok _ => none

theorem typeError?_eq_some_iff {e : Error} : d.typeError? f = some e ↔ d.columnType f = .error e := by
  rw [typeError?]
  cases d.columnType f with
  | error other => simp
  | ok type => simp

theorem typeError?_eq_none_iff :
    d.typeError? f = none ↔ ∃ type, d.columnType f = .ok type := by
  rw [typeError?]
  cases d.columnType f with
  | error e => simp
  | ok type => simp

/-- The fragments of a column. -/
def columnFragments (d : Dialect) (f : Field) : Sql :=
  [.name f.name, " ", .raw (d.typeText f), .raw (absenceSql f)]

/-- The columns of fields are there if no field has an error, and otherwise the first error is. -/
theorem columnSqls_eq (d : Dialect) (fields : List Field) :
    d.columnSqls fields
      = match fields.findSome? d.typeError? with
        | some e => .error e
        | none => .ok (fields.map d.columnFragments) := by
  induction fields with
  | nil => rfl
  | cons f fields ih =>
    rw [columnSqls, columnSql, List.findSome?_cons]
    cases htype : d.columnType f with
    | error e =>
      rw [typeError?_eq_some_iff.mpr htype]
    | ok type =>
      rw [typeError?_eq_none_iff.mpr ⟨type, htype⟩, ih, ← typeText_eq htype]
      cases fields.findSome? d.typeError? with
      | some e => rfl
      | none => rfl

/-- **There is an error instead of a statement if a field has no column type**, and it is the error
of the first such field. -/
theorem tableStatement_eq_error_iff (d : Dialect) (change : TableChange) (table : TableId)
    (fields : List Field) (e : Error) :
    d.tableStatement change table fields = .error e ↔
      ∃ before f after, fields = before ++ f :: after ∧
        (∀ g ∈ before, ∃ type, d.columnType g = .ok type) ∧ d.columnType f = .error e := by
  have hfirst : d.tableStatement change table fields = .error e ↔
      fields.findSome? d.typeError? = some e := by
    rw [tableStatement_eq_map, columnSqls_eq]
    cases fields.findSome? d.typeError? with
    | some other => simp [Except.map]
    | none => simp [Except.map]
  rw [hfirst, List.findSome?_eq_some_iff]
  constructor
  · rintro ⟨before, f, after, hfields, herror, hbefore⟩
    exact ⟨before, f, after, hfields, fun g hg => typeError?_eq_none_iff.mp (hbefore g hg),
      typeError?_eq_some_iff.mp herror⟩
  · rintro ⟨before, f, after, hfields, hbefore, herror⟩
    exact ⟨before, f, after, hfields, typeError?_eq_some_iff.mpr herror,
      fun g hg => typeError?_eq_none_iff.mpr (hbefore g hg)⟩

/-! ### Tokens of a column -/

/-- What a row without a value gets, as tokens. -/
def absenceTokens (f : Field) : List Token :=
  match f.schema.default with
  | some value => plains " DEFAULT " ++ value.tokens
  | none => plains (if f.isOptional then " NULL" else " NOT NULL")

/-- The tokens of a column. -/
def columnTokens (d : Dialect) (f : Field) : List Token :=
  .quoted '"' f.name :: (plains (" " ++ d.typeText f) ++ absenceTokens f)

theorem writeAll_absenceTokens (f : Field) : writeAll (absenceTokens f) = absenceSql f := by
  rw [absenceTokens, absenceSql]
  cases f.schema.default with
  | some value =>
    show writeAll (plains " DEFAULT " ++ value.tokens) = _
    rw [writeAll_append, writeAll_plains, value.writeAll_tokens]
  | none => exact writeAll_plains _

/-- Outside its quotes the clause depends on the default without the characters of a text. -/
theorem plainText_absenceTokens (f : Field) :
    plainText (absenceTokens f)
      = match f.schema.default.map Value.blanked with
        | some value => " DEFAULT " ++ plainText value.tokens
        | none => if f.isOptional then " NULL" else " NOT NULL" := by
  rw [absenceTokens]
  cases f.schema.default with
  | some value =>
    show plainText (plains " DEFAULT " ++ value.tokens) = _
    rw [plainText_append, plainText_plains, ← value.plainText_tokens_blanked]
    rfl
  | none => exact plainText_plains _

theorem bare_plainText_absenceTokens (f : Field) : Bare reserved (plainText (absenceTokens f)) := by
  rw [plainText_absenceTokens]
  cases f.schema.default.map Value.blanked with
  | some value => exact .append (by decide) value.bare_plainText_tokens
  | none => cases f.isOptional <;> decide

theorem readable_absenceTokens (f : Field) : Readable sqlMarks (absenceTokens f) := by
  rw [absenceTokens]
  cases f.schema.default with
  | some value => exact .plains_append (by decide) value.readable_tokens
  | none => exact readable_plains (by cases f.isOptional <;> decide)

theorem quotedBy_name_absenceTokens (f : Field) : quotedBy '"' (absenceTokens f) = [] := by
  rw [absenceTokens]
  cases f.schema.default with
  | some value => rw [quotedBy_append, quotedBy_plains, value.quotedBy_name, List.nil_append]
  | none => exact quotedBy_plains _ _

theorem quotedBy_literal_absenceTokens (f : Field) :
    quotedBy '\'' (absenceTokens f) = (f.schema.default.bind Value.quotedText?).toList := by
  rw [absenceTokens]
  cases f.schema.default with
  | some value =>
    rw [quotedBy_append, quotedBy_plains, value.quotedBy_literal, List.nil_append,
      Option.bind_some]
  | none => exact quotedBy_plains _ _

theorem render_columnFragments (canonicalCase : CaseFold) (d : Dialect) (f : Field) :
    (d.columnFragments f).render ⟨.ansi, .always, canonicalCase⟩ = writeAll (d.columnTokens f) := by
  have hname : writeAll [.quoted '"' f.name]
      = Fragment.render ⟨.ansi, .always, canonicalCase⟩ (.name f.name) :=
    (Fragment.render_eq_writeAll canonicalCase (.name f.name)).symm
  rw [columnTokens, ← List.singleton_append, writeAll_append, writeAll_append, hname,
    writeAll_plains, writeAll_absenceTokens, columnFragments]
  simp only [Sql.render_cons, Sql.render_nil, Fragment.render, List.append_nil, List.append_assoc]

/-- The tokens of the statement. -/
def tableTokens (d : Dialect) (change : TableChange) (table : TableId) (fields : List Field) :
    List Token :=
  let words := tableWords d.profile.addColumns change
  plains words.front ++ (qualified table.parts ++ (plains words.opening ++
    ((plains ",").intercalate (fields.map fun f => plains words.lead ++ d.columnTokens f)
      ++ ((keyClause change fields).tokens ++ plains words.closing))))

theorem render_tableSql (canonicalCase : CaseFold) (d : Dialect) (change : TableChange)
    (table : TableId) (fields : List Field) :
    (d.tableSql change table fields (fields.map d.columnFragments)).render
        ⟨.ansi, .always, canonicalCase⟩
      = writeAll (d.tableTokens change table fields) := by
  have hcolumns : ∀ lead : Text,
      (Sql.list "," ((fields.map d.columnFragments).map (.raw lead :: ·))).render
          ⟨.ansi, .always, canonicalCase⟩
        = writeAll ((plains ",").intercalate (fields.map fun f => plains lead ++ d.columnTokens f)) := by
    intro lead
    rw [Sql.render_list, writeAll_intercalate, List.map_map, List.map_map, List.map_map]
    refine congrArg _ (List.map_congr_left fun f _ => ?_)
    show lead ++ (d.columnFragments f).render ⟨.ansi, .always, canonicalCase⟩ = _
    rw [render_columnFragments, Function.comp_apply, writeAll_append, writeAll_plains]
  have htable : Policy.quoteTable ⟨.ansi, .always, canonicalCase⟩ table
      = writeAll (qualified table.parts) := Fragment.render_eq_writeAll canonicalCase (.table table)
  simp only [tableSql, tableTokens, Sql.render_append, Sql.render_cons, Sql.render_nil,
    Sql.render_eq_writeAll canonicalCase (keyClause change fields), hcolumns, htable,
    writeAll_append, writeAll_plains, Fragment.render, List.append_assoc, List.append_nil]

/-- Quoted by the usual rules, the statement is its tokens, if every field has a column type. -/
theorem tableStatement_eq (hr : d.profile.rules = .ansi) (hq : d.config.quoting = .always)
    (h : ∀ f ∈ fields, ∃ type, d.columnType f = .ok type) :
    d.tableStatement change table fields
      = .ok [writeAll (d.tableTokens change table fields)] := by
  have hpolicy : d.policy = ⟨.ansi, .always, d.profile.canonicalCase⟩ := by
    rw [policy, hr, hq]
  have hnone : fields.findSome? d.typeError? = none :=
    List.findSome?_eq_none_iff.mpr fun f hf => typeError?_eq_none_iff.mpr (h f hf)
  rw [tableStatement_eq_map, columnSqls_eq, hnone, hpolicy]
  exact congrArg (fun text => Except.ok [text]) (render_tableSql _ d change table fields)

/-! ### The clause with the primary key -/

theorem tokens_keyClause (change : TableChange) (fields : List Field) :
    (keyClause change fields).tokens
      = if (keyFields change fields).isEmpty then []
        else plains ",\nPRIMARY KEY(" ++
          ((Sql.list "," ((keyFields change fields).map fun f => [.name f.name])).tokens
            ++ plains ")") := by
  cases change with
  | extend => rfl
  | create =>
    rw [keyClause, primaryKeySql, keyFields]
    cases fields.filter (·.isKey) with
    | nil => rfl
    | cons f keys =>
      simp only [List.isEmpty_cons, Bool.false_eq_true, if_false, List.flatten_cons,
        List.flatten_nil, Sql.tokens_append, Sql.tokens_cons, Sql.tokens_nil, Fragment.tokens,
        List.append_nil]

theorem readable_append_keyClause {a : List Token} (ha : Readable sqlMarks a) (change : TableChange)
    (fields : List Field) {closing : Text} (hclosing : Bare sqlMarks closing) :
    Readable sqlMarks (a ++ ((keyClause change fields).tokens ++ plains closing)) := by
  have hmark : '"' ∈ sqlMarks := by decide
  have hkeys : Readable sqlMarks
      (Sql.list "," ((keyFields change fields).map fun f => [.name f.name])).tokens :=
    Sql.readable_list (by decide) (by decide) fun f => .singleton hmark
  rw [tokens_keyClause]
  split
  · exact ha.append_text hclosing
  · rw [List.append_assoc, List.append_assoc, ← plains_append]
    exact ha.append_plains (by decide) (by decide)
      (hkeys.append_text (.append (by decide) hclosing))

theorem quotedBy_name_keyClause (change : TableChange) (fields : List Field) :
    quotedBy '"' (keyClause change fields).tokens = (keyFields change fields).map Field.name := by
  rw [tokens_keyClause]
  cases keyFields change fields with
  | nil => rfl
  | cons f keys =>
    simp only [List.isEmpty_cons, Bool.false_eq_true, if_false, quotedBy_append, quotedBy_plains,
      Sql.quotedBy_list, List.nil_append, List.append_nil]
    exact List.map_eq_flatMap.symm

theorem quotedBy_literal_keyClause (change : TableChange) (fields : List Field) :
    quotedBy '\'' (keyClause change fields).tokens = [] := by
  rw [tokens_keyClause]
  split
  · rfl
  · simp [Sql.quotedBy_list, Fragment.tokens, quotedBy_cons_of_ne]

theorem plainText_keyClause (change : TableChange) (fields : List Field) :
    plainText (keyClause change fields).tokens
      = if (keyFields change fields).length = 0 then []
        else (",\nPRIMARY KEY(" : Text) ++
          (Text.join "," (List.replicate (keyFields change fields).length []) ++ (")" : Text)) := by
  rw [tokens_keyClause]
  cases keyFields change fields with
  | nil => rfl
  | cons f keys =>
    have hnames : plainText (Sql.list "," ((f :: keys).map fun f => [.name f.name])).tokens
        = Text.join "," (List.replicate (f :: keys).length []) := by
      rw [Sql.plainText_list, ← List.map_const']
      exact congrArg _ (List.map_congr_left fun _ _ => rfl)
    simp only [List.isEmpty_cons, Bool.false_eq_true, if_false, List.length_cons,
      Nat.add_one_ne_zero, plainText_append, plainText_plains, hnames]

/-! ### The tokens are read back -/

theorem bare_tableWords (style : AddColumnsStyle) (change : TableChange) :
    Bare reserved (tableWords style change).front ∧ Bare reserved (tableWords style change).opening ∧
      Bare reserved (tableWords style change).lead ∧
      Bare reserved (tableWords style change).closing := by
  cases change <;> cases style <;> decide

theorem tableWords_opening_ne_nil (style : AddColumnsStyle) (change : TableChange) :
    (tableWords style change).opening ≠ [] := by
  cases change <;> cases style <;> decide

theorem readable_columnTokens (d : Dialect) (f : Field) : Readable sqlMarks (d.columnTokens f) := by
  have hmark : '"' ∈ sqlMarks := by decide
  have hname : Readable sqlMarks [.quoted '"' f.name] := .singleton hmark
  have htype : Bare sqlMarks (" " ++ d.typeText f) :=
    bare_sqlMarks (.append (by decide) (d.bare_typeText f))
  exact hname.append_plains (List.cons_ne_nil _ _) htype (readable_absenceTokens f)

/-- **The tokens of a statement are read back from its text**, whatever names and defaults are. -/
theorem readable_tableTokens (d : Dialect) (change : TableChange) (table : TableId)
    (fields : List Field) : Readable sqlMarks (d.tableTokens change table fields) := by
  obtain ⟨hfront, hopening, hlead, hclosing⟩ := bare_tableWords d.profile.addColumns change
  have htable : Readable sqlMarks (qualified table.parts) :=
    .qualified (by decide) (by decide) table.parts
  have hcolumns : Readable sqlMarks ((plains ",").intercalate (fields.map fun f =>
      plains (tableWords d.profile.addColumns change).lead ++ d.columnTokens f)) := by
    refine .intercalate (by decide) (by decide) fun piece hp => ?_
    obtain ⟨f, -, rfl⟩ := List.mem_map.mp hp
    exact .plains_append (bare_sqlMarks hlead) (d.readable_columnTokens f)
  exact .plains_append (bare_sqlMarks hfront)
    (htable.append_plains (tableWords_opening_ne_nil _ _) (bare_sqlMarks hopening)
      (readable_append_keyClause hcolumns change fields (bare_sqlMarks hclosing)))

/-! ### Names and literals -/

theorem quotedBy_tableTokens (mark : Char) (d : Dialect) (change : TableChange) (table : TableId)
    (fields : List Field) :
    quotedBy mark (d.tableTokens change table fields)
      = quotedBy mark (qualified table.parts)
        ++ (fields.flatMap (fun f => quotedBy mark (d.columnTokens f))
          ++ quotedBy mark (keyClause change fields).tokens) := by
  simp only [tableTokens, quotedBy_append, quotedBy_plains, quotedBy_intercalate, List.flatMap_map,
    List.nil_append, List.append_nil]

theorem quotedBy_name_columnTokens (d : Dialect) (f : Field) :
    quotedBy '"' (d.columnTokens f) = [f.name] := by
  rw [columnTokens, quotedBy_cons_self, quotedBy_append, quotedBy_plains,
    quotedBy_name_absenceTokens, List.nil_append]

theorem quotedBy_literal_columnTokens (d : Dialect) (f : Field) :
    quotedBy '\'' (d.columnTokens f) = (f.schema.default.bind Value.quotedText?).toList := by
  rw [columnTokens, quotedBy_cons_of_ne (by decide), quotedBy_append, quotedBy_plains,
    quotedBy_literal_absenceTokens, List.nil_append]

/-! ### The text around names and literals -/

theorem plainText_columnTokens (d : Dialect) (f : Field) :
    plainText (d.columnTokens f) = " " ++ d.typeText f ++ plainText (absenceTokens f) := by
  simp [columnTokens]

theorem plainText_tableTokens (d : Dialect) (change : TableChange) (table : TableId)
    (fields : List Field) :
    plainText (d.tableTokens change table fields)
      = (tableWords d.profile.addColumns change).front
        ++ (Text.join "." (List.replicate table.parts.length [])
        ++ ((tableWords d.profile.addColumns change).opening
        ++ (Text.join "," (fields.map fun f => (tableWords d.profile.addColumns change).lead
            ++ plainText (d.columnTokens f))
        ++ (plainText (keyClause change fields).tokens
        ++ (tableWords d.profile.addColumns change).closing)))) := by
  simp only [tableTokens, plainText_append, plainText_plains, plainText_qualified,
    plainText_intercalate, List.map_map, Function.comp_def]

/-- **The clause with the primary key is there if the statement sets a key.** Without one its K is
nowhere outside the quotes. -/
theorem primaryKey_infix_iff (d : Dialect) (change : TableChange) (table : TableId)
    (fields : List Field) :
    (",\nPRIMARY KEY(" : Text) <:+: plainText (d.tableTokens change table fields) ↔
      keyFields change fields ≠ [] := by
  rw [plainText_tableTokens, plainText_keyClause]
  constructor
  · intro hclause hnone
    obtain ⟨hfront, hopening, hlead, hclosing⟩ := bare_tableWords d.profile.addColumns change
    have hdots : Bare reserved (Text.join "." (List.replicate table.parts.length [])) :=
      .join_replicate (by decide) .nil _
    have hcolumns : Bare reserved (Text.join "," (fields.map fun f =>
        (tableWords d.profile.addColumns change).lead ++ plainText (d.columnTokens f))) := by
      refine .join (by decide) fun part hp => ?_
      obtain ⟨f, -, rfl⟩ := List.mem_map.mp hp
      rw [plainText_columnTokens]
      exact hlead.append (.append (.append (by decide) (d.bare_typeText f))
        (bare_plainText_absenceTokens f))
    rw [if_pos (by rw [hnone]; rfl), List.nil_append] at hclause
    have hk : 'K' ∈ (",\nPRIMARY KEY(" : Text) := by decide
    exact hfront.append (hdots.append (hopening.append (hcolumns.append hclosing))) 'K'
      (hclause.subset hk) (by decide)
  · intro hkeys
    rw [if_neg (by simpa using hkeys)]
    exact ⟨(tableWords d.profile.addColumns change).front
        ++ (Text.join "." (List.replicate table.parts.length [])
        ++ ((tableWords d.profile.addColumns change).opening
        ++ Text.join "," (fields.map fun f => (tableWords d.profile.addColumns change).lead
            ++ plainText (d.columnTokens f)))),
      Text.join "," (List.replicate (keyFields change fields).length []) ++ (")" : Text)
        ++ (tableWords d.profile.addColumns change).closing, by simp only [List.append_assoc]⟩

end Dialect

/-! ### Fields that differ in their texts only -/

/-- The column type without regard to errors: the vendor's, or else that of the standard. -/
theorem Dialect.toOption_columnType (d : Dialect) (f : Field) :
    (d.columnType f).toOption
      = (d.vendor.columnType? f d.sink).toOption.bind (·.or f.standardType.toOption) := by
  rw [columnType]
  cases d.vendor.columnType? f d.sink with
  | error e => rfl
  | ok own =>
    cases own with
    | none => rfl
    | some type => rfl

/-- The schema without the characters of a default that is a text. -/
def Schema.blanked (s : Schema) : Schema := { s with default := s.default.map Value.blanked }

/-- `g` is `f` up to its name and to the characters of its default. What the sink says of the two
names is the same; so it is when it lists neither. -/
structure Field.SameShape (sink : Option SinkOptions) (f g : Field) : Prop where
  /-- Only the default may differ, and it only in its characters. -/
  schema : g.schema.blanked = f.schema.blanked
  /-- Both are part of the key, or neither is. -/
  isKey : g.isKey = f.isKey
  /-- The sink keeps both as timestamps, or neither. -/
  listed : sink.bind (·.precisionOf? g.name) = sink.bind (·.precisionOf? f.name)

namespace Field.SameShape

variable {sink : Option SinkOptions} {f g : Field}

theorem kind (h : f.SameShape sink g) : g.schema.kind = f.schema.kind :=
  show g.schema.blanked.kind = f.schema.blanked.kind by rw [h.schema]

theorem logical (h : f.SameShape sink g) : g.schema.logical = f.schema.logical :=
  show g.schema.blanked.logical = f.schema.blanked.logical by rw [h.schema]

theorem parameters (h : f.SameShape sink g) : g.schema.parameters = f.schema.parameters :=
  show g.schema.blanked.parameters = f.schema.blanked.parameters by rw [h.schema]

theorem isOptional (h : f.SameShape sink g) : g.isOptional = f.isOptional := by
  have hoptional : g.schema.optional = f.schema.optional :=
    show g.schema.blanked.optional = f.schema.blanked.optional by rw [h.schema]
  rw [Field.isOptional, Field.isOptional, h.isKey, hoptional]

theorem default (h : f.SameShape sink g) :
    g.schema.default.map Value.blanked = f.schema.default.map Value.blanked :=
  show g.schema.blanked.default = f.schema.blanked.default by rw [h.schema]

theorem standardType (h : f.SameShape sink g) : g.standardType = f.standardType := by
  rw [Field.standardType, Field.standardType, h.kind, h.logical]

theorem decimalScale? (h : f.SameShape sink g) :
    g.schema.decimalScale? = f.schema.decimalScale? := by
  rw [Schema.decimalScale?, Schema.decimalScale?, h.parameters]

/-- Oracle's own type is the same. Errors are left out: a missing scale is reported by name. -/
theorem oracleType? (h : f.SameShape sink g) :
    (g.oracleType? sink).toOption = (f.oracleType? sink).toOption := by
  have hlisted : g.listedPrecision? sink = f.listedPrecision? sink := by
    rw [listedPrecision?, listedPrecision?, h.kind, h.listed]
  rw [Field.oracleType?, Field.oracleType?, h.logical, h.kind, hlisted]
  cases f.schema.logical with
  | none => rfl
  | some logical =>
    cases logical with
    | decimal =>
      simp only [oracleLogicalType, h.decimalScale?]
      cases f.schema.decimalScale? with
      | none => rfl
      | some scale => rfl
    | date | time | timestamp => rfl

/-- The column type is the same, if there is one. -/
theorem columnType {d : Dialect} (h : f.SameShape d.sink g) :
    (d.columnType g).toOption = (d.columnType f).toOption := by
  have hown : (d.vendor.columnType? g d.sink).toOption = (d.vendor.columnType? f d.sink).toOption := by
    cases d.vendor with
    | generic => rfl
    | oracle => exact h.oracleType?
  rw [Dialect.toOption_columnType, Dialect.toOption_columnType, hown, h.standardType]

theorem exists_columnType {d : Dialect} (h : f.SameShape d.sink g)
    (hf : ∃ type, d.columnType f = .ok type) : ∃ type, d.columnType g = .ok type := by
  obtain ⟨type, htype⟩ := hf
  have hsame := h.columnType
  rw [htype] at hsame
  cases hg : d.columnType g with
  | ok other => exact ⟨other, rfl⟩
  | error e =>
    rw [hg] at hsame
    exact absurd hsame.symm (Option.some_ne_none type)

/-- Around name and literal the column is the same. -/
theorem plainText_columnTokens {d : Dialect} (h : f.SameShape d.sink g) :
    plainText (d.columnTokens g) = plainText (d.columnTokens f) := by
  rw [Dialect.plainText_columnTokens, Dialect.plainText_columnTokens, Dialect.typeText,
    Dialect.typeText, h.columnType, Dialect.plainText_absenceTokens,
    Dialect.plainText_absenceTokens, h.default, h.isOptional]

/-! The same for lists of fields. -/

variable {fields others : List Field}

/-- What is the same for two fields of one shape is the same for their lists. -/
theorem map_eq {α : Type} {k : Field → α} (hk : ∀ f g, f.SameShape sink g → k g = k f)
    (h : List.Forall₂ (Field.SameShape sink) fields others) : others.map k = fields.map k := by
  induction h with
  | nil => rfl
  | cons hfg _ ih => rw [List.map_cons, List.map_cons, hk _ _ hfg, ih]

theorem forall_exists_columnType {d : Dialect}
    (h : List.Forall₂ (Field.SameShape d.sink) fields others)
    (hfields : ∀ f ∈ fields, ∃ type, d.columnType f = .ok type) :
    ∀ g ∈ others, ∃ type, d.columnType g = .ok type := by
  induction h with
  | nil => exact hfields
  | cons hfg _ ih =>
    rw [List.forall_mem_cons] at hfields ⊢
    exact ⟨hfg.exists_columnType hfields.1, ih hfields.2⟩

/-- As many of them are part of the key. -/
theorem length_keyFields (change : TableChange)
    (h : List.Forall₂ (Field.SameShape sink) fields others) :
    (Dialect.keyFields change others).length = (Dialect.keyFields change fields).length := by
  cases change with
  | extend => rfl
  | create =>
    have hcount : ∀ l : List Field,
        (Dialect.keyFields .create l).length = (l.map Field.isKey).countP id := by
      intro l
      rw [List.countP_map]
      exact List.countP_eq_length_filter.symm
    rw [hcount, hcount, map_eq (fun f g hfg => hfg.isKey) h]

end Field.SameShape

namespace Dialect

/-- The text around names and literals depends on the shape of the fields only. -/
theorem plainText_tableTokens_congr (d : Dialect) (change : TableChange) {table table' : TableId}
    {fields fields' : List Field} (htable : table'.parts.length = table.parts.length)
    (hfields : List.Forall₂ (Field.SameShape d.sink) fields fields') :
    plainText (d.tableTokens change table' fields')
      = plainText (d.tableTokens change table fields) := by
  have hcolumns := Field.SameShape.map_eq
    (fun f g h => congrArg ((tableWords d.profile.addColumns change).lead ++ ·)
      h.plainText_columnTokens) hfields
  rw [plainText_tableTokens, plainText_tableTokens, plainText_keyClause, plainText_keyClause, htable,
    hcolumns, Field.SameShape.length_keyFields change hfields]

/-! ### The structure of a statement -/

/-- **Neither names nor defaults can change the structure of a statement about a table.** There is a
statement if every field has a column type, and otherwise the first error. The text can be read:
the names in it are those of the table, of the fields and of the key, the literals in it are the
defaults, and the text around them is that of any statement of the same shape. -/
theorem tableStatement_structure (d : Dialect) (hr : d.profile.rules = .ansi)
    (hq : d.config.quoting = .always) (change : TableChange) (table : TableId)
    (fields : List Field) :
    (∀ e, d.tableStatement change table fields = .error e ↔
      ∃ before f after, fields = before ++ f :: after ∧
        (∀ g ∈ before, ∃ type, d.columnType g = .ok type) ∧ d.columnType f = .error e) ∧
    ((∀ f ∈ fields, ∃ type, d.columnType f = .ok type) →
      ∃ text tokens, d.tableStatement change table fields = .ok [text] ∧
        read sqlMarks text = some tokens ∧
        quotedBy '"' tokens
          = table.parts ++ fields.map Field.name ++ (keyFields change fields).map Field.name ∧
        quotedBy '\'' tokens = fields.filterMap (fun f => f.schema.default.bind Value.quotedText?) ∧
        ((",\nPRIMARY KEY(" : Text) <:+: plainText tokens ↔ keyFields change fields ≠ []) ∧
        ∀ table' fields', table'.parts.length = table.parts.length →
          List.Forall₂ (Field.SameShape d.sink) fields fields' →
          ∃ text' tokens', d.tableStatement change table' fields' = .ok [text'] ∧
            read sqlMarks text' = some tokens' ∧ plainText tokens' = plainText tokens) := by
  refine ⟨d.tableStatement_eq_error_iff change table fields, fun htypes => ?_⟩
  refine ⟨_, _, tableStatement_eq hr hq htypes,
    read_writeAll (d.readable_tableTokens change table fields), ?_, ?_,
    d.primaryKey_infix_iff change table fields, fun table' fields' htable hfields => ?_⟩
  · have hnames : (fields.flatMap fun f => quotedBy '"' (d.columnTokens f)) = fields.map Field.name := by
      simp only [quotedBy_name_columnTokens]
      exact List.map_eq_flatMap.symm
    rw [quotedBy_tableTokens, quotedBy_qualified, quotedBy_name_keyClause, hnames, List.append_assoc]
  · rw [quotedBy_tableTokens, quotedBy_qualified_of_ne (by decide), quotedBy_literal_keyClause,
      List.filterMap_eq_flatMap_toList, List.nil_append, List.append_nil]
    simp only [quotedBy_literal_columnTokens]
  · exact ⟨_, _, tableStatement_eq hr hq (Field.SameShape.forall_exists_columnType hfields htypes),
      read_writeAll (d.readable_tableTokens change table' fields'),
      d.plainText_tableTokens_congr change htable hfields⟩

/-- A name and a default that would end their quotes and go on as a statement stay one name and one
default, and around them the text is the one for a name and a default without any quotes. -/
theorem tableStatement_structure_create :
    (Dialect.oracle {}).profile.rules = .ansi ∧ (Dialect.oracle {}).config.quoting = .always ∧
    ∃ text tokens text' tokens',
      (Dialect.oracle {}).tableStatement .create ⟨none, some "s\"", "o'b"⟩
        [⟨"id", { kind := .int64 }, true⟩,
          ⟨"\" DATE); drop table t; --",
            { kind := .string, default := some (.string "'); drop table \"t\"; --") }, false⟩,
          ⟨"b", { kind := .bytes, default := some (.buffer [75, 39]) }, false⟩] = .ok [text] ∧
      read sqlMarks text = some tokens ∧
      quotedBy '"' tokens = ["s\"", "o'b", "id", "\" DATE); drop table t; --", "b", "id"] ∧
      quotedBy '\'' tokens = ["'); drop table \"t\"; --", "4B27"] ∧
      (Dialect.oracle {}).tableStatement .create ⟨some "c", none, "t"⟩
        [⟨"k", { kind := .int64 }, true⟩,
          ⟨"name", { kind := .string, default := some (.string []) }, false⟩,
          ⟨"b", { kind := .bytes, default := some (.buffer [75, 39]) }, false⟩] = .ok [text'] ∧
      read sqlMarks text' = some tokens' ∧ plainText tokens' = plainText tokens := by
  obtain ⟨-, hstructure⟩ :=
    tableStatement_structure (.oracle {}) rfl rfl .create ⟨none, some "s\"", "o'b"⟩
      [⟨"id", { kind := .int64 }, true⟩,
        ⟨"\" DATE); drop table t; --",
          { kind := .string, default := some (.string "'); drop table \"t\"; --") }, false⟩,
        ⟨"b", { kind := .bytes, default := some (.buffer [75, 39]) }, false⟩]
  obtain ⟨text, tokens, hstatement, hread, hnames, hliterals, -, hsame⟩ := hstructure (by
    simp only [List.forall_mem_cons, List.not_mem_nil, false_imp_iff, implies_true, and_true]
    exact ⟨⟨_, rfl⟩, ⟨_, rfl⟩, ⟨_, rfl⟩⟩)
  obtain ⟨text', tokens', hstatement', hread', hplain⟩ := hsame ⟨some "c", none, "t"⟩
    [⟨"k", { kind := .int64 }, true⟩,
      ⟨"name", { kind := .string, default := some (.string []) }, false⟩,
      ⟨"b", { kind := .bytes, default := some (.buffer [75, 39]) }, false⟩] rfl
    (.cons ⟨rfl, rfl, rfl⟩ (.cons ⟨rfl, rfl, rfl⟩ (.cons ⟨rfl, rfl, rfl⟩ .nil)))
  exact ⟨rfl, rfl, text, tokens, text', tokens', hstatement, hread, hnames.trans (by decide),
    hliterals.trans (by decide), hstatement', hread', hplain⟩

end Dialect

end SqlDialect
