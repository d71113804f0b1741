import SqlDialect.Proofs.Binding.Payload

/-!
# The column of a field

A statement names the column of a field by the name of the field. Written without quotes, that is
the name in the case of the database, so the column meant is the one whose name is the folded one;
written in quotes it is the name as it is spelled, and folding changes nothing.

## Two spellings in one table

A column made with quotes may differ from another in the case of its name alone. A binder looks for
the name as it is spelled before it looks for the folded one, and so of two such columns it may take
the one that the statement does not name. This needs both in the table: with one of the two missing,
or with a name that is folded already, the column found is the one named.

## Main definitions

* `RecordBinder.spelledColumn?`, `RecordBinder.foldedColumn?` — the columns of the two spellings
* `RecordBinder.namedColumn?` — the column that a statement names

## Main results

* `Table.column?_ofColumns` — what a table keeps under a name
* `RecordBinder.column?_eq_foldedColumn?` — the column found in a table whose names are all folded
* `RecordBinder.column?_eq_namedColumn?_iff` — when the column found is the one named
-/

namespace SqlDialect

namespace Table

/-- A table keeps each column under its own name; of two with one name the last. -/
theorem column?_ofColumns (id : TableId) (columns : List Column) (name : Text) :
    (ofColumns id columns).column? name = columns.reverse.find? fun c => c.name == name := by
  simp [column?, ofColumns, Keyed.get?_ofList, Keyed.last?, ← List.map_reverse, List.find?_map,
    Function.comp_def]

theorem name_of_column? {id : TableId} {columns : List Column} {name : Text} {c : Column}
    (h : (ofColumns id columns).column? name = some c) : c.name = name := by
  rw [column?_ofColumns] at h
  simpa using List.find?_some h

end Table

namespace RecordBinder

variable {b : RecordBinder} {f g : Field} {c c' : Column}

/-- The name of a field in the case in effect. -/
def foldedName (b : RecordBinder) (f : Field) : Text := b.dialect.policy.fold.apply f.name

/-- The column whose name is that of the field as it is spelled. -/
def spelledColumn? (b : RecordBinder) (f : Field) : Option Column :=
  b.table.bind (·.column? f.name)

/-- The column whose name is that of the field in the case in effect. -/
def foldedColumn? (b : RecordBinder) (f : Field) : Option Column :=
  b.table.bind (·.column? (b.foldedName f))

/-- The column that a statement names by the name of a field: the one of the folded name, and where
the table has none, the one of the name as it is spelled. -/
def namedColumn? (b : RecordBinder) (f : Field) : Option Column :=
  (b.foldedColumn? f).or (b.spelledColumn? f)

/-- The binder looks for the two spellings the other way round. -/
theorem column?_eq_or (b : RecordBinder) (f : Field) :
    b.column? f = (b.spelledColumn? f).or (b.foldedColumn? f) := by
  rw [column?, spelledColumn?, foldedColumn?, foldedName]
  cases b.table <;> rfl

theorem foldedColumn?_congr (h : b.foldedName f = b.foldedName g) :
    b.foldedColumn? f = b.foldedColumn? g := by
  rw [foldedColumn?, foldedColumn?, h]

theorem spelledColumn?_eq_foldedColumn? (h : b.foldedName f = f.name) :
    b.spelledColumn? f = b.foldedColumn? f := by
  rw [spelledColumn?, foldedColumn?, h]

/-- In a table whose names are all folded there is one spelling of each, and it is found. -/
theorem column?_eq_foldedColumn? (h : ∀ t, b.table = some t → ∀ name ∈ t.columnNames,
    b.dialect.policy.fold.apply name = name) (f : Field) : b.column? f = b.foldedColumn? f := by
  rw [column?_eq_or]
  cases hspelled : b.spelledColumn? f with
  | none => rfl
  | some c =>
    obtain ⟨t, htable, hcolumn⟩ := Option.bind_eq_some_iff.mp hspelled
    have hfolded : b.foldedName f = f.name := h t htable f.name (Keyed.mem_keys_of_get? hcolumn)
    rw [← spelledColumn?_eq_foldedColumn? hfolded, hspelled]
    rfl

theorem namedColumn?_of_folded (h : b.foldedColumn? f = some c) : b.namedColumn? f = some c := by
  rw [namedColumn?, h, Option.some_or]

section

variable {id : TableId} {columns : List Column}

theorem name_of_spelledColumn? (htable : b.table = some (.ofColumns id columns))
    (h : b.spelledColumn? f = some c) : c.name = f.name := by
  rw [spelledColumn?, htable] at h
  exact Table.name_of_column? h

theorem name_of_foldedColumn? (htable : b.table = some (.ofColumns id columns))
    (h : b.foldedColumn? f = some c) : c.name = b.foldedName f := by
  rw [foldedColumn?, htable] at h
  exact Table.name_of_column? h

/-- Two spellings of one column are one name. -/
theorem spelledColumn?_eq_foldedColumn?_iff (htable : b.table = some (.ofColumns id columns))
    (hspelled : b.spelledColumn? f = some c) (hfolded : b.foldedColumn? g = some c') :
    c = c' ↔ f.name = b.foldedName g := by
  constructor
  · intro hsame
    rw [← name_of_spelledColumn? htable hspelled, ← name_of_foldedColumn? htable hfolded, hsame]
  · intro hname
    rw [spelledColumn?, hname] at hspelled
    exact Option.some.inj (hspelled.symm.trans hfolded)

/-- The column found is the one named, unless the table has both spellings and they differ. -/
theorem eq_namedColumn?_iff (htable : b.table = some (.ofColumns id columns)) :
    b.column? f = b.namedColumn? f ↔
      b.foldedName f = f.name ∨ b.spelledColumn? f = none ∨ b.foldedColumn? f = none := by
  rw [column?_eq_or, namedColumn?]
  cases hspelled : b.spelledColumn? f with
  | none => simp
  | some c =>
    cases hfolded : b.foldedColumn? f with
    | none => simp
    | some c' =>
      have hsame : c = c' ↔ f.name = b.foldedName f :=
        spelledColumn?_eq_foldedColumn?_iff htable hspelled hfolded
      simpa [eq_comm] using hsame

end

/-- With quotes a name is folded already. -/
theorem foldedName_of_quoted (h : b.dialect.config.quoting = .always) (f : Field) :
    b.foldedName f = f.name := by
  rw [foldedName, Dialect.policy, Policy.fold, h]
  rfl

/-- Where there is a column of the folded name, it is found, or one of the name as it is spelled. -/
theorem column?_cases (hfolded : b.foldedColumn? f = some c') :
    b.column? f = some c' ∨ ∃ c, b.spelledColumn? f = some c ∧ b.column? f = some c := by
  rw [column?_eq_or, hfolded]
  cases b.spelledColumn? f with
  | none => exact .inl rfl
  | some c => exact .inr ⟨c, rfl, rfl⟩

/-- **When the column found is the one that the statement names**: the name is folded already, or
the table lacks one of the two spellings. Two fields whose names fold to that of a column get one
column if they have one name, or if each gets the column named. With quotes the column found is
always the one named. -/
theorem column?_eq_namedColumn?_iff (b : RecordBinder) (id : TableId) (columns : List Column)
    (htable : b.table = some (.ofColumns id columns)) (f : Field) :
    (b.column? f = b.namedColumn? f ↔
      b.foldedName f = f.name ∨ b.spelledColumn? f = none ∨ b.foldedColumn? f = none) ∧
    (∀ g, b.foldedName g = b.foldedName f → (b.foldedColumn? f).isSome →
      (b.column? f = b.column? g ↔
        f.name = g.name ∨ b.column? f = b.namedColumn? f ∧ b.column? g = b.namedColumn? g)) ∧
    (b.dialect.config.quoting = .always → b.column? f = b.namedColumn? f) := by
  refine ⟨eq_namedColumn?_iff htable, fun g hfold hsome => ?_, fun hquoted => ?_⟩
  · obtain ⟨named, hf⟩ := Option.isSome_iff_exists.mp hsome
    have hg : b.foldedColumn? g = some named := (foldedColumn?_congr hfold).trans hf
    rw [namedColumn?_of_folded hf, namedColumn?_of_folded hg]
    constructor
    · intro hsame
      rcases column?_cases hf with hnamed | ⟨c, hspelled, hfound⟩
      · exact .inr ⟨hnamed, hsame ▸ hnamed⟩
      rcases column?_cases hg with hnamed | ⟨c', hspelled', hfound'⟩
      · exact .inr ⟨hsame.trans hnamed, hnamed⟩
      -- Both are found as they are spelled, and a column has one name.
      obtain rfl : c = c' := Option.some.inj (hfound.symm.trans (hsame.trans hfound'))
      left
      rw [← name_of_spelledColumn? htable hspelled, name_of_spelledColumn? htable hspelled']
    · rintro (hname | ⟨hnamed, hnamed'⟩)
      · rw [column?, column?, hname]
      · rw [hnamed, hnamed']
  · exact (eq_namedColumn?_iff htable).mpr (.inl (foldedName_of_quoted hquoted f))

/-! ### A table with two spellings -/

/-- A binder without quotes for one text, and a table with two columns whose names differ in case.
One was made with quotes; without quotes only the other can be named. -/
def twoSpellings (name : Text) : RecordBinder where
  dialect := .oracle { quoting := .never }
  mode := .insert
  keys := []
  others := [{ name, schema := { kind := .string } }]
  table := some (.ofColumns ⟨none, none, "DOCS"⟩
    [{ name := "doc", sqlType := .varchar, typeName := "VARCHAR2" },
      { name := "DOC", sqlType := .nClob, typeName := "NCLOB" }])

/-- Of three fields that name one column, two get it and one gets the other. -/
theorem column?_eq_namedColumn?_iff_twoSpellings :
    (twoSpellings "Doc").column? ⟨"Doc", { kind := .string }, false⟩
      = (twoSpellings "Doc").column? ⟨"DOC", { kind := .string }, false⟩ ∧
    (twoSpellings "Doc").column? ⟨"Doc", { kind := .string }, false⟩
      ≠ (twoSpellings "Doc").column? ⟨"doc", { kind := .string }, false⟩ := by
  obtain ⟨hnamed, halike, -⟩ := column?_eq_namedColumn?_iff (twoSpellings "Doc") _ _ rfl
    ⟨"Doc", { kind := .string }, false⟩
  have hcapital : (twoSpellings "Doc").column? ⟨"Doc", { kind := .string }, false⟩
      = (twoSpellings "Doc").namedColumn? ⟨"Doc", { kind := .string }, false⟩ :=
    hnamed.mpr (.inr (.inl (by decide +kernel)))
  constructor
  · refine (halike _ (by decide +kernel) (by decide +kernel)).mpr (.inr ⟨hcapital, ?_⟩)
    decide +kernel
  · intro hsame
    rcases (halike _ (by decide +kernel) (by decide +kernel)).mp hsame with hname | ⟨-, hsmall⟩
    · exact absurd hname (by decide)
    · exact absurd hsmall (by decide +kernel)

/-- The column found need not be the one named: here the name of the field is in small letters, the
statement names the column in capitals, and the text is bound for the other. -/
theorem column?_ne_namedColumn? :
    ¬ (∀ (b : RecordBinder) (id : TableId) (columns : List Column) (f : Field),
      b.table = some (.ofColumns id columns) → b.column? f = b.namedColumn? f) ∧
    ((twoSpellings "doc").bind [("doc", .string "text")] {}).1.bindings
      = [(1, .whole (.string "text"))] ∧
    (twoSpellings "doc").dialect.outcome {} 1 ⟨"doc", { kind := .string }, false⟩
      (some (.string "text"))
      ((twoSpellings "doc").namedColumn? ⟨"doc", { kind := .string }, false⟩)
        = .ok (.nationalCharacterStream "text") := by
  refine ⟨fun hall => ?_, ?_, ?_⟩
  · have hnamed := hall (twoSpellings "doc") _ _ ⟨"doc", { kind := .string }, false⟩ rfl
    exact absurd hnamed (by decide +kernel)
  · decide +kernel
  · have hnamed : (twoSpellings "doc").namedColumn? ⟨"doc", { kind := .string }, false⟩
        = some { name := "DOC", sqlType := .nClob, typeName := "NCLOB" } := by decide +kernel
    rw [hnamed, Dialect.outcome_eq_ok_iff]
    exact ⟨.nationalCharacterStream (.ofText "text"), rfl,
      by rw [BindCall.run, Stream.text_ofText], rfl⟩

end RecordBinder

end SqlDialect
