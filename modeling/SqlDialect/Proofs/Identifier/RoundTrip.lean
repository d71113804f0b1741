import SqlDialect.Identifier.Policy

/-!
# Names in quotes are read back

Whatever a name is made of, quotes and separators included, it is read back from its quoted form,
alone or among the parts of a qualified name. What is asked of the rules is that the three marks are
not empty, that the close quote does not overlap itself, and that a close quote and a separator are
never taken for each other.

## Why the marks must not overlap

Writing looks for the close quote in the name, reading looks for it in the written text, which goes
on after the name. The two find the same places because an occurrence in the written text that is
not one of the name would have to begin in the name and end in a close quote, so that a beginning of
the close quote would be an end of it (`unclosed_append`).

## Main definitions

* `Text.Unbordered` — a mark that does not overlap itself
* `Rules.Distinct` — rules under which quoted names can be read back

## Main results

* `Rules.readQuoted_doubled` — a quoted part is read up to its own close quote
* `Rules.parseQualified_quote` — all parts of a name are read back
* `Policy.parse_quote` — and so are the names of tables and columns
-/

namespace SqlDialect

/-- A mark that does not overlap itself: nothing shorter is both a beginning and an end of it. -/
def Text.Unbordered (mark : Text) : Prop :=
  ∀ border : Text, border ≠ [] → border <+: mark → border <:+ mark → border = mark

/-- No beginning of the mark that is not empty and not the whole is an end of it. -/
theorem Text.unbordered_iff {mark : Text} :
    Text.Unbordered mark ↔ ∀ n < mark.length, n ≠ 0 → ¬ mark.take n <:+ mark := by
  constructor
  · intro hunbordered n hshort hpos hoverlap
    have hproper : (mark.take n).length = n := by
      rw [List.length_take]
      omega
    have hnonempty : mark.take n ≠ [] := fun hempty => hpos (by rw [← hproper, hempty]; rfl)
    have hsame := hunbordered (mark.take n) hnonempty (List.take_prefix n mark) hoverlap
    rw [hsame] at hproper
    omega
  · intro hapart border hnonempty hbeginning hending
    by_cases hsame : border.length = mark.length
    · exact hbeginning.eq_of_length hsame
    · have hshort : border.length < mark.length :=
        Nat.lt_of_le_of_ne hbeginning.length_le hsame
      rw [List.prefix_iff_eq_take.mp hbeginning] at hending
      exact absurd hending (hapart border.length hshort (by simpa using hnonempty))

instance (mark : Text) : Decidable (Text.Unbordered mark) :=
  decidable_of_iff _ Text.unbordered_iff.symm

namespace Rules

/-- Rules with three marks that cannot be taken for each other where a quoted part ends. -/
structure Distinct (rules : Rules) : Prop where
  /-- There is an open quote. -/
  open_ne_nil : rules.openQuote ≠ []
  /-- There is a close quote. -/
  close_ne_nil : rules.closeQuote ≠ []
  /-- There is a separator. -/
  separator_ne_nil : rules.separator ≠ []
  /-- The close quote does not overlap itself. -/
  unbordered : Text.Unbordered rules.closeQuote
  /-- A separator is not a close quote with something behind it. -/
  separator_not_closing : ¬ rules.closeQuote <+: rules.separator
  /-- A close quote is not a separator with something behind it. -/
  close_not_separating : ¬ rules.separator <+: rules.closeQuote

/-! ### One quoted part -/

variable {close : Text}

/-- The first close quote behind a beginning of the name is not found earlier: it would overlap
itself. -/
theorem unclosed_append {start : Text} (hunbordered : Text.Unbordered close) (h : start ≠ [])
    (hstart : ¬ close <+: start) (rest : Text) : ¬ close <+: start ++ (close ++ rest) := by
  intro hfound
  rcases List.prefix_or_prefix_of_prefix hfound (List.prefix_append start _) with hshort | hlong
  · exact hstart hshort
  · obtain ⟨border, rfl⟩ := hlong
    have hinside : border <+: start ++ border ++ rest :=
      (List.prefix_append_right_inj start).mp hfound
    have hshorter : border.length < (start ++ border).length := by
      have := List.length_pos_iff.mpr h
      rw [List.length_append]
      omega
    have hbeginning : border <+: start ++ border :=
      List.prefix_of_prefix_length_le hinside (List.prefix_append _ rest) (Nat.le_of_lt hshorter)
    by_cases hempty : border = []
    · subst hempty
      exact hstart (by simp)
    · have hsame := hunbordered border hempty hbeginning (List.suffix_append start border)
      rw [← hsame] at hshorter
      exact Nat.lt_irrefl _ hshorter

/-- Up to the first close quote, a name and its written form are the same text. -/
theorem exists_doubled_append_close (hne : close ≠ []) (name rest : Text) :
    ∃ start more, start <+: name ∧
      Text.doubled close name ++ (close ++ rest) = start ++ (close ++ more) := by
  induction name using Text.induction_on_mark hne with
  | nil => exact ⟨[], rest, List.nil_prefix, by simp⟩
  | occurrence name _ =>
    refine ⟨[], close ++ (Text.doubled close name ++ (close ++ rest)), List.nil_prefix, ?_⟩
    rw [Text.doubled_append]
    simp only [List.append_assoc, List.nil_append]
  | cons c name hstart ih =>
    obtain ⟨start, more, hwithin, hsame⟩ := ih
    refine ⟨c :: start, more, List.cons_prefix_cons.mpr ⟨rfl, hwithin⟩, ?_⟩
    rw [Text.doubled_cons_of_unmarked hstart, List.cons_append, hsame, List.cons_append]

/-- **A quoted part is read up to its own close quote**, if no other one follows. -/
theorem readQuoted_doubled (hne : close ≠ []) (hunbordered : Text.Unbordered close) {after : Text}
    (h : ¬ close <+: after) (name : Text) :
    readQuoted close 0 (Text.doubled close name ++ (close ++ after)) = some (name, after) := by
  induction name using Text.induction_on_mark hne with
  | nil => rw [Text.doubled_nil, List.nil_append, readQuoted_close hne h]
  | occurrence name ih =>
    rw [Text.doubled_append, List.append_assoc, readQuoted_pair hne, ih]
    rfl
  | cons c name hstart ih =>
    obtain ⟨start, more, hwithin, hsame⟩ := exists_doubled_append_close hne name after
    have hapart : ¬ close <+: c :: start := fun hfound =>
      hstart (hfound.trans (List.cons_prefix_cons.mpr ⟨rfl, hwithin⟩))
    have hunread : ¬ close <+: c :: (Text.doubled close name ++ (close ++ after)) := by
      rw [hsame]
      exact unclosed_append hunbordered (List.cons_ne_nil c start) hapart more
    rw [Text.doubled_cons_of_unmarked hstart, List.cons_append,
      readQuoted_cons_of_unclosed hunread, ih]
    rfl

/-! ### All parts -/

variable {rules : Rules}

theorem quote_ne_nil (h : rules.Distinct) (name : Text) : rules.quote name ≠ [] := by
  simp [quote, h.open_ne_nil]

/-- Where a separator comes there is no close quote. -/
theorem Distinct.unclosed_separator_append (h : rules.Distinct) (rest : Text) :
    ¬ rules.closeQuote <+: rules.separator ++ rest := by
  intro hfound
  rcases List.prefix_or_prefix_of_prefix hfound (List.prefix_append _ rest) with hclose | hseparator
  · exact h.separator_not_closing hclose
  · exact h.close_not_separating hseparator

/-- The last part is quoted. -/
theorem parts?_quote (h : rules.Distinct) (fuel : Nat) (name : Text) :
    rules.parts? (fuel + 1) (rules.quote name) = some [name] := by
  have hunclosed : ¬ rules.closeQuote <+: [] := by simpa using h.close_ne_nil
  have hread := readQuoted_doubled h.close_ne_nil h.unbordered hunclosed name
  rw [List.append_nil] at hread
  rw [quote, List.append_assoc, parts?_openQuote_append h.open_ne_nil, hread]
  rfl

/-- One of the other parts is quoted. -/
theorem parts?_quote_append (h : rules.Distinct) (fuel : Nat) (name : Text) {next : Text}
    (hnext : next ≠ []) :
    rules.parts? (fuel + 1) (rules.quote name ++ (rules.separator ++ next))
      = (rules.parts? fuel next).map (name :: ·) := by
  have hread := readQuoted_doubled h.close_ne_nil h.unbordered
    (h.unclosed_separator_append next) name
  have hleft : ¬ (rules.separator ++ next).isEmpty = true := by simp [h.separator_ne_nil]
  simp only [quote, List.append_assoc]
  rw [parts?_openQuote_append h.open_ne_nil, hread]
  simp only [Option.bind_some, if_neg hleft, afterSeparator?_append rules hnext]

/-- The written name is at least as long as it has parts, and not empty. -/
theorem length_le_length_join_quote (h : rules.Distinct) (names : List Text) :
    names.length ≤ (Text.join rules.separator (names.map rules.quote)).length := by
  induction names with
  | nil => simp
  | cons name names ih =>
    have := List.length_pos_iff.mpr (quote_ne_nil h name)
    cases names with
    | nil => simpa using Nat.succ_le_of_lt this
    | cons next names =>
      simp only [List.map_cons, List.length_cons, Text.join_cons_cons, List.length_append] at ih ⊢
      omega

/-- The parts of a written name, read one after the other. -/
theorem parts?_join_quote (h : rules.Distinct) {names : List Text} (hnames : names ≠ [])
    {fuel : Nat} (hfuel : names.length ≤ fuel) :
    rules.parts? fuel (Text.join rules.separator (names.map rules.quote)) = some names := by
  induction names generalizing fuel with
  | nil => exact absurd rfl hnames
  | cons name names ih =>
    obtain ⟨fuel, rfl⟩ : ∃ n, fuel = n + 1 := ⟨fuel - 1, by simp at hfuel; omega⟩
    cases names with
    | nil => simpa using parts?_quote h fuel name
    | cons next names =>
      have hwritten : Text.join rules.separator ((next :: names).map rules.quote) ≠ [] := by
        have := length_le_length_join_quote h (next :: names)
        intro hempty
        rw [hempty] at this
        simp at this
      have hrest : rules.parts? fuel (Text.join rules.separator ((next :: names).map rules.quote))
          = some (next :: names) :=
        ih (List.cons_ne_nil next names) (by simpa using hfuel)
      simp only [List.map_cons] at hrest hwritten ⊢
      rw [Text.join_cons_cons, List.append_assoc, parts?_quote_append h fuel name hwritten, hrest]
      rfl

/-- **All parts of a quoted name are read back.** -/
theorem parseQualified_quote (h : rules.Distinct) {names : List Text} (hnames : names ≠ []) :
    rules.parseQualified (Text.join rules.separator (names.map rules.quote)) = .ok names := by
  have hlong := length_le_length_join_quote h names
  have hwritten : (Text.join rules.separator (names.map rules.quote)).isEmpty = false := by
    have := List.length_pos_iff.mpr hnames
    simpa using List.length_pos_iff.mp (by omega)
  have hread := parts?_join_quote h hnames (Nat.le_succ_of_le hlong)
  simp only [parseQualified, hwritten, Bool.false_eq_true, if_false, hread]

end Rules

namespace Policy

variable {p : Policy}

theorem quote_eq (hq : p.quoting = .always) : p.quote = p.rules.quote := by
  funext name
  simp only [quote, hq]

/-- The parts of a table name make that name, unless a catalog stands without a schema. -/
theorem tableOfParts?_parts {table : TableId} (h : table.catalog = none ∨ table.schema.isSome) :
    tableOfParts? table.parts = some table := by
  obtain ⟨catalog, schema, name⟩ := table
  cases schema with
  | none =>
    obtain rfl : catalog = none := by simpa using h
    rfl
  | some schema => cases catalog <;> rfl

/-- **Reading undoes quoting.** Every list of names is read back from its quoted form, and so is
every table name, unless it has a catalog and no schema, and every column name. -/
theorem parse_quote (p : Policy) (hq : p.quoting = .always) (h : p.rules.Distinct) :
    (∀ names : List Text, names ≠ [] →
      p.rules.parseQualified (Text.join p.rules.separator (names.map p.quote)) = .ok names) ∧
    (∀ table : TableId, table.catalog = none ∨ table.schema.isSome →
      p.parseTable (p.quoteTable table) = .ok table) ∧
    ∀ column : ColumnId, p.rules.parseQualified (p.quoteColumn column) = .ok column.parts := by
  have hparts : ∀ names : List Text, names ≠ [] →
      p.rules.parseQualified (Text.join p.rules.separator (names.map p.quote)) = .ok names := by
    intro names hnames
    rw [quote_eq hq]
    exact Rules.parseQualified_quote h hnames
  refine ⟨hparts, ?_, ?_⟩
  · intro table htable
    have hread := hparts table.parts (by simp [TableId.parts])
    have hkept : p.normalize table = table := by simp [normalize, fold, hq, CaseFold.apply]
    simp [parseTable, quoteTable, hread, tableOfParts?_parts htable, hkept, bind, Except.bind]
  · intro column
    rw [quoteColumn_eq_join]
    exact hparts column.parts (by simp [ColumnId.parts])

/-- Marks of two characters, and names that hold a close quote and a separator. -/
theorem parse_quote_brackets :
    Rules.Distinct ⟨"::", "[<", "]>"⟩ ∧
      Policy.parseTable ⟨⟨"::", "[<", "]>"⟩, .always, .upper⟩ "[<my::schema]>::[<a]>]>b]>]>]>"
        = .ok { schema := some "my::schema", table := "a]>b]>" } := by
  have hdistinct : Rules.Distinct ⟨"::", "[<", "]>"⟩ :=
    ⟨by decide, by decide, by decide, by decide, by decide, by decide⟩
  have hwritten : Policy.quoteTable ⟨⟨"::", "[<", "]>"⟩, .always, .upper⟩
      { schema := some "my::schema", table := "a]>b]>" } = "[<my::schema]>::[<a]>]>b]>]>]>" := by
    decide
  refine ⟨hdistinct, ?_⟩
  rw [← hwritten]
  exact (parse_quote _ rfl hdistinct).2.1 _ (Or.inl rfl)

end Policy

end SqlDialect
