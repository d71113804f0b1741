import SqlDialect.Proofs.Binding.Run
import SqlDialect.Proofs.Statement.Structure

/-!
# The parameters of statements about rows

The text of a statement and the run that binds a record are made apart from each other, and only the
count of a parameter connects them. Here both are compared: the text says for each question mark
outside quotes which column it is for, and the run binds the field of this name there.

## Which column a question mark is for

A statement that inserts lists its columns, and the question marks follow in the order of the list.
One that changes a row names the column in front of each question mark, one that merges behind it.
So the column is found from what stands before the question mark and what stands behind it
(`InsertMode.owner?`), whatever else is in the text.

## Main definitions

* `InsertMode.inOrder` — the order of the parameters
* `InsertMode.owner?` — the column a question mark is for
* `InsertMode.owners` — the columns all question marks of some tokens are for

## Main results

* `RecordBinder.rowStatement_parameters` — question marks and bindings go together
-/

namespace SqlDialect

open Token

/-! ### The order of parameters -/

namespace InsertMode

variable {α β : Type} {mode : InsertMode}

/-- What goes with the key and what goes with the other columns, in the order of the parameters. -/
def inOrder (mode : InsertMode) (keys others : List α) : List α :=
  match mode with
  | .update => others ++ keys
  | .insert | .upsert => keys ++ others

theorem map_inOrder (f : α → β) (keys others : List α) :
    (mode.inOrder keys others).map f = mode.inOrder (keys.map f) (others.map f) := by
  cases mode <;> exact List.map_append

theorem length_inOrder (keys others : List α) :
    (mode.inOrder keys others).length = keys.length + others.length := by
  cases mode with
  | update => exact List.length_append.trans (Nat.add_comm _ _)
  | insert => exact List.length_append
  | upsert => exact List.length_append

end InsertMode

/-! ### The column a question mark is for -/

/-- The names in the first pair of parentheses. -/
def columnList (tokens : List Token) : List Text :=
  quotedTexts ((tokens.dropWhile (· ≠ .plain '(')).takeWhile (· ≠ .plain ')'))

/-- The name in front of ` = `, if tokens end so; the last token comes first. -/
def assignedName? : List Token → Option Text
  | .plain ' ' :: .plain '=' :: .plain ' ' :: .quoted _ name :: _ => some name
  | _ => none

/-- The name behind a blank, if tokens begin so. -/
def aliasName? : List Token → Option Text
  | .plain ' ' :: .quoted _ name :: _ => some name
  | _ => none

namespace InsertMode

/-- The column for which a question mark is, by the tokens in front of it, the nearest first, and
the tokens behind it. -/
def owner? (mode : InsertMode) (before after : List Token) : Option Text :=
  match mode with
  | .insert => (columnList before.reverse)[before.count (.plain '?')]?
  | .update => assignedName? before
  | .upsert => aliasName? after

/-- The columns for which the question marks in some tokens are, first to last. -/
def owners (mode : InsertMode) : List Token → List Token → List Token → List (Option Text)
  | _, [], _ => []
  | before, t :: tokens, after =>
    (if t = .plain '?' then [mode.owner? before (tokens ++ after)] else [])
      ++ mode.owners (t :: before) tokens after

variable {mode : InsertMode} {before after : List Token}

/-- What stands around two pieces stands around each, with the other one. -/
@[simp] theorem owners_append (mode : InsertMode) (before a b after : List Token) :
    mode.owners before (a ++ b) after
      = mode.owners before a (b ++ after) ++ mode.owners (a.reverse ++ before) b after := by
  induction a generalizing before with
  | nil => rfl
  | cons t a ih =>
    rw [List.cons_append, owners, owners, ih (t :: before), List.append_assoc a b after,
      List.append_assoc, List.reverse_cons, List.append_assoc]
    rfl

/-- There is one column for each question mark. -/
theorem length_owners (mode : InsertMode) (before tokens after : List Token) :
    (mode.owners before tokens after).length = tokens.count (.plain '?') := by
  induction tokens generalizing before with
  | nil => rfl
  | cons t tokens ih =>
    rw [owners, List.length_append, ih (t :: before), List.count_cons, Nat.add_comm]
    by_cases ht : t = .plain '?'
    · simp [ht]
    · simp [ht]

/-- Without a question mark outside quotes, there are no columns. -/
theorem owners_of_bare {tokens : List Token} (h : Bare ['?'] (plainText tokens)) :
    mode.owners before tokens after = [] := by
  induction tokens generalizing before with
  | nil => rfl
  | cons t tokens ih =>
    have ht : t ≠ .plain '?' := by
      rintro rfl
      exact h '?' List.mem_cons_self List.mem_cons_self
    have htokens : Bare ['?'] (plainText tokens) := by
      intro c hc
      refine h c ?_
      cases t with
      | plain d => exact List.mem_cons_of_mem d hc
      | quoted mark text => exact hc
    rw [owners, if_neg ht, List.nil_append, ih htokens]

theorem owners_plains {text : Text} (h : Bare ['?'] text) :
    mode.owners before (plains text) after = [] :=
  owners_of_bare (by rwa [plainText_plains])

/-- In a list in a statement, each piece has its own question marks. -/
theorem owners_list {delimiter : Text} {piece : ColumnId → Sql} (hdelimiter : Bare ['?'] delimiter)
    (h : ∀ c before after, mode.owners before (piece c).tokens after = [some c.name])
    (columns : List ColumnId) (before after : List Token) :
    mode.owners before (Sql.list delimiter (columns.map piece)).tokens after
      = columns.map fun c => some c.name := by
  rw [Sql.tokens_list]
  induction columns generalizing before with
  | nil => rfl
  | cons first columns ih =>
    cases columns with
    | nil =>
      rw [List.map_singleton, List.intercalate_singleton, h]
      rfl
    | cons second columns =>
      rw [List.map_cons] at ih
      rw [List.map_cons, List.map_cons, List.intercalate_cons_cons, owners_append, owners_append,
        h, owners_plains hdelimiter, ih]
      rfl

end InsertMode

/-! ### Texts without question marks -/

namespace Dialect

theorem bare_qualified {marks : List Char} (h : Bare marks ".") (parts : List Text) :
    Bare marks (plainText (qualified parts)) := by
  rw [plainText_qualified]
  exact .join_replicate h (by simp [Bare]) parts.length

theorem bare_leadNames {marks : List Char} {delimiter lead : Text}
    (hdelimiter : Bare marks delimiter) (hlead : Bare marks lead) (columns : List ColumnId) :
    Bare marks (plainText (Sql.leadNames delimiter lead columns).tokens) := by
  rw [plainText_leadNames]
  exact .join_replicate hdelimiter hlead columns.length

theorem bare_matchings (table : TableId) {delimiter : Text} (h : Bare ['?'] delimiter)
    (columns : List ColumnId) :
    Bare ['?'] (plainText (matchings table delimiter columns).tokens) := by
  rw [plainText_matchings]
  exact .join_replicate h
    (.append (.join_replicate (by decide) (by decide) table.parts.length) (by decide))
    columns.length

theorem bare_columns {delimiter : Text} (h : Bare ['?'] delimiter) (columns : List ColumnId) :
    Bare ['?'] (plainText (Sql.columns delimiter columns).tokens) := by
  rw [plainText_columns]
  refine .join h fun part hpart => ?_
  obtain ⟨count, -, rfl⟩ := List.mem_map.mp hpart
  exact .join_replicate (by decide) (by decide) count

/-! ### The columns of an insert -/

/-- The list goes from the first parenthesis that opens to the next one that closes. -/
theorem columnList_append {front names : List Token} (hfront : Bare ['('] (plainText front))
    (hnames : Bare [')'] (plainText names)) (rest : List Token) :
    columnList (front ++ .plain '(' :: (names ++ .plain ')' :: rest)) = quotedTexts names := by
  have hopen : ∀ t ∈ front, decide (t ≠ .plain '(') = true := by
    intro t ht
    rw [decide_eq_true_iff]
    rintro rfl
    exact hfront '(' (mem_plainText.mpr ht) List.mem_cons_self
  have hclose : ∀ t ∈ names, decide (t ≠ .plain ')') = true := by
    intro t ht
    rw [decide_eq_true_iff]
    rintro rfl
    exact hnames ')' (mem_plainText.mpr ht) List.mem_cons_self
  rw [columnList, List.dropWhile_append_of_pos hopen, List.dropWhile_cons_of_neg (by decide),
    List.takeWhile_cons_of_pos (by decide), List.takeWhile_append_of_pos hclose,
    List.takeWhile_cons_of_neg (by decide), List.append_nil]
  rfl

/-- A question mark behind a list of columns takes the one at its own place. -/
theorem owners_parameterMark {before : List Token} {names : List Text}
    (hlist : ∀ rest, columnList (before.reverse ++ rest) = names) (after : List Token) :
    InsertMode.insert.owners before [.plain '?'] after
      = [names[before.count (.plain '?')]?] := by
  rw [← hlist [], List.append_nil]
  rfl

/-- Question marks behind a list of columns take them one after the other. -/
theorem owners_parameterMarks {before after : List Token} {names : List Text}
    (hlist : ∀ rest, columnList (before.reverse ++ rest) = names) (count : Nat) :
    InsertMode.insert.owners before (plains (parameterMarks count)) after
      = (List.range' (before.count (.plain '?')) count).map fun i => names[i]? := by
  induction count generalizing before with
  | zero => rfl
  | succ count ih =>
    cases count with
    | zero => exact owners_parameterMark hlist after
    | succ count =>
      have hmarks : plains (parameterMarks (count + 1 + 1))
          = [.plain '?'] ++ (plains "," ++ plains (parameterMarks (count + 1))) := rfl
      have hnext : ∀ rest, columnList ((.plain ',' :: .plain '?' :: before).reverse ++ rest)
          = names := by
        intro rest
        rw [List.reverse_cons, List.reverse_cons, List.append_assoc, List.append_assoc]
        exact hlist _
      rw [hmarks, InsertMode.owners_append, InsertMode.owners_append, owners_parameterMark hlist,
        InsertMode.owners_plains (by decide), List.nil_append]
      refine congrArg (_ :: ·) ((ih hnext).trans ?_)
      rw [List.count_cons_of_ne (by decide), List.count_cons_self]

/-- What stands in front of the question marks of an insert. -/
def insertFront (table : TableId) (columns : List ColumnId) : List Token :=
  plains "INSERT INTO " ++ (qualified table.parts ++ (plains "(" ++
    ((Sql.leadNames "," [] columns).tokens ++ plains ") VALUES(")))

variable (table : TableId) (keys others columns : List ColumnId)

theorem bare_insertFront : Bare ['?'] (plainText (insertFront table columns)) := by
  simp only [insertFront, plainText_append, plainText_plains]
  exact .append (by decide) (.append (bare_qualified (by decide) _) (.append (by decide)
    (.append (bare_leadNames (by decide) (by decide) _) (by decide))))

theorem columnList_insertFront (rest : List Token) :
    columnList (insertFront table columns ++ rest) = columns.map ColumnId.name := by
  have hfront : Bare ['('] (plainText (plains "INSERT INTO " ++ qualified table.parts)) := by
    rw [plainText_append, plainText_plains]
    exact .append (by decide) (bare_qualified (by decide) _)
  have hnames : Bare [')'] (plainText (Sql.leadNames "," [] columns).tokens) :=
    bare_leadNames (by decide) (by decide) _
  rw [← quotedTexts_leadNames "," [], ← columnList_append hfront hnames]
  simp only [insertFront, List.append_assoc]
  rfl

/-- The question marks of an insert are for the columns in the order of their list. -/
theorem owners_insertSql :
    InsertMode.insert.owners [] (insertSql table keys others).tokens []
      = (keys ++ others).map fun c => some c.name := by
  have hbare := bare_insertFront table (keys ++ others)
  have htokens : (insertSql table keys others).tokens
      = insertFront table (keys ++ others)
        ++ (plains (parameterMarks (keys ++ others).length) ++ plains ")") := by
    rw [tokens_insertSql, insertFront, List.length_append]
    simp only [plains_append, List.append_assoc]
  have hlist : ∀ rest, columnList ((insertFront table (keys ++ others)).reverse.reverse ++ rest)
      = (keys ++ others).map ColumnId.name := by
    intro rest
    rw [List.reverse_reverse, columnList_insertFront]
  have hcount : (insertFront table (keys ++ others)).count (.plain '?') = 0 :=
    List.count_eq_zero.mpr fun h => hbare '?' (mem_plainText.mpr h) List.mem_cons_self
  have hclose : ∀ before after : List Token,
      InsertMode.insert.owners before (plains ")") after = [] :=
    fun _ _ => InsertMode.owners_plains (by decide)
  rw [htokens, InsertMode.owners_append, InsertMode.owners_append, InsertMode.owners_of_bare hbare,
    hclose, List.append_nil, List.append_nil, owners_parameterMarks hlist, List.count_reverse,
    hcount, List.nil_append]
  refine List.ext_getElem (by simp) fun i hi hj => ?_
  have hi' : i < (keys ++ others).length := by simpa using hi
  rw [List.getElem_map, List.getElem_map, List.getElem_range', Nat.zero_add, Nat.one_mul,
    List.getElem?_map, List.getElem?_eq_getElem hi']
  rfl

/-! ### The columns of an update -/

theorem owners_assignments {delimiter : Text} (h : Bare ['?'] delimiter)
    (before after : List Token) :
    InsertMode.update.owners before (assignments delimiter columns).tokens after
      = columns.map fun c => some c.name :=
  InsertMode.owners_list h (fun _ _ _ => rfl) columns before after

/-- The question marks of an update are for the other columns and then for those of the key. -/
theorem owners_updateSql :
    InsertMode.update.owners [] (updateSql table keys others).tokens []
      = (others ++ keys).map fun c => some c.name := by
  have htable : Bare ['?'] (plainText (qualified table.parts)) := bare_qualified (by decide) _
  rw [tokens_updateSql, InsertMode.owners_append, InsertMode.owners_append,
    InsertMode.owners_append, InsertMode.owners_append, InsertMode.owners_plains (by decide),
    InsertMode.owners_of_bare htable, InsertMode.owners_plains (by decide),
    owners_assignments others (by decide), List.map_append]
  refine congrArg (_ ++ ·) ?_
  cases keys with
  | nil => rfl
  | cons c keys =>
    rw [List.isEmpty_cons, if_neg Bool.false_ne_true, InsertMode.owners_append,
      InsertMode.owners_plains (by decide), owners_assignments (c :: keys) (by decide)]
    rfl

/-! ### The columns of a merge -/

/-- The question marks of a merge are for the columns that are selected. -/
theorem owners_mergeSql {suffix : Text} (hsuffix : Bare ['?'] suffix) :
    InsertMode.upsert.owners [] (mergeSql suffix table keys others).tokens []
      = (keys ++ others).map fun c => some c.name := by
  have htable : Bare ['?'] (plainText (qualified table.parts)) := bare_qualified (by decide) _
  have hwhen : Bare ['?'] (if others.isEmpty then [] else " when matched then update set ") := by
    split <;> decide
  have hselect : ∀ before after : List Token,
      InsertMode.upsert.owners before (Sql.leadNames ", " "? " (keys ++ others)).tokens after
        = (keys ++ others).map fun c => some c.name :=
    InsertMode.owners_list (by decide) (fun _ _ _ => rfl) (keys ++ others)
  rw [tokens_mergeSql, InsertMode.owners_append, InsertMode.owners_append,
    InsertMode.owners_append, InsertMode.owners_append, InsertMode.owners_plains (by decide),
    InsertMode.owners_of_bare htable, InsertMode.owners_plains (by decide), hselect]
  -- Behind the select, no question mark is outside quotes.
  refine (congrArg (_ ++ ·) (InsertMode.owners_of_bare ?_)).trans (List.append_nil _)
  simp only [plainText_append, plainText_plains]
  exact (hsuffix.append (by decide)).append ((bare_matchings table (by decide) keys).append
    (.append (by decide) (hwhen.append ((bare_matchings table (by decide) others).append
      (.append (by decide) ((bare_columns (by decide) _).append (.append (by decide)
        ((bare_leadNames (by decide) (by decide) _).append (by decide)))))))))

/-! ### Statements and records -/

/-- The question marks of a statement are for the columns in the order of the parameters. -/
theorem owners_rowSql {suffix : Text} (hsuffix : Bare ['?'] suffix) (mode : InsertMode) :
    mode.owners [] (rowSql suffix mode table keys others).tokens []
      = (mode.inOrder keys others).map fun c => some c.name := by
  cases mode with
  | insert => exact owners_insertSql table keys others
  | update => exact owners_updateSql table keys others
  | upsert => exact owners_mergeSql table keys others hsuffix

end Dialect

namespace RecordBinder

variable {b : RecordBinder} {keys others : List ColumnId}

theorem fields_eq_inOrder (b : RecordBinder) : b.fields = b.mode.inOrder b.keys b.others := by
  rw [fields]
  cases b.mode <;> rfl

theorem length_fields (b : RecordBinder) : b.fields.length = b.keys.length + b.others.length := by
  rw [fields_eq_inOrder, InsertMode.length_inOrder]

/-- Columns and fields of the same names come in the same order. -/
theorem map_name_inOrder (hkeys : keys.map ColumnId.name = b.keys.map Field.name)
    (hothers : others.map ColumnId.name = b.others.map Field.name) :
    (b.mode.inOrder keys others).map (fun c => some c.name)
      = b.fields.map fun f => some f.name := by
  have hnames : (b.mode.inOrder keys others).map ColumnId.name = b.fields.map Field.name := by
    rw [fields_eq_inOrder, InsertMode.map_inOrder, InsertMode.map_inOrder, hkeys, hothers]
  have hsome := congrArg (List.map some) hnames
  rwa [List.map_map, List.map_map] at hsome

/-- **Statement and record agree on every parameter.** The text has one question mark outside quotes
for each field, and the column it is for is the field that is bound there. A run that succeeds binds
all of them, in this order; one that fails has bound those in front of the field that failed. -/
theorem rowStatement_parameters (b : RecordBinder) (hr : b.dialect.profile.rules = .ansi)
    (hq : b.dialect.config.quoting = .always) (table : TableId) (keys others : List ColumnId)
    (hkeys : keys.map ColumnId.name = b.keys.map Field.name)
    (hothers : others.map ColumnId.name = b.others.map Field.name)
    (hm : b.mode = .upsert → keys ≠ [] ∧
      ∃ suffix, b.dialect.profile.upsert = .merge suffix ∧ '?' ∉ suffix ∧ '"' ∉ suffix) :
    ∃ text tokens, b.dialect.rowStatement b.mode table keys others = .ok text ∧
      read ['"'] text = some tokens ∧
      tokens.count (.plain '?') = b.keys.length + b.others.length ∧
      b.mode.owners [] tokens [] = b.fields.map (fun f => some f.name) ∧
      ∀ record s, ∃ bounds : List Bound, (b.bind record s).1 = s.pushAll 1 bounds ∧
        (∀ i f bound, b.fields[i]? = some f → bounds[i]? = some bound →
          b.dialect.bindField s (1 + i) f (record.get? f.name) (b.column? f)
            = .ok (s.push (1 + i) bound)) ∧
        (∀ n, (b.bind record s).2 = .ok n →
          n = b.keys.length + b.others.length ∧ bounds.length = n) ∧
        ∀ e, (b.bind record s).2 = .error e → ∃ f, b.fields[bounds.length]? = some f ∧
          b.dialect.bindField s (1 + bounds.length) f (record.get? f.name) (b.column? f)
            = .error e := by
  have hnil : '?' ∉ ([] : Text) ∧ '"' ∉ ([] : Text) := ⟨List.not_mem_nil, List.not_mem_nil⟩
  obtain ⟨suffix, ⟨hmark, hquote⟩, hstatement⟩ :=
    Dialect.rowStatement_eq (p := fun suffix => '?' ∉ suffix ∧ '"' ∉ suffix) hr hq hnil hm
  have howners := (Dialect.owners_rowSql table keys others (bare_singleton hmark) b.mode).trans
    (map_name_inOrder hkeys hothers)
  refine ⟨_, _, hstatement table keys others rfl,
    read_writeAll (Dialect.readable_rowSql hquote b.mode table keys others), ?_, howners,
    fun record s => ?_⟩
  · rw [← InsertMode.length_owners b.mode [] _ [], howners, List.length_map, length_fields]
  · obtain ⟨bounds, hpush, hbounds, hend⟩ := b.bind_spec record s
    refine ⟨bounds, hpush, fun i f bound hf hbound => ?_, fun n hn => ?_, fun e he => ?_⟩
    · exact Dialect.bindField_of_outcome_ok (hbounds i f bound hf hbound)
    · rw [hn] at hend
      obtain ⟨hlen, rfl⟩ := hend
      exact ⟨b.length_fields, hlen⟩
    · rw [he] at hend
      obtain ⟨f, hf, hfail⟩ := hend
      exact ⟨f, hf, Dialect.bindField_of_outcome_error hfail⟩

/-- Question marks and quotes in names are not taken for those of the statement. -/
theorem rowStatement_parameters_merge :
    ∃ text tokens,
      (Dialect.oracle {}).rowStatement .upsert ⟨none, some "?", "t\" ("⟩ [⟨none, "k = ?"⟩]
        [⟨none, "\"? \", ?"⟩] = .ok text ∧
      read ['"'] text = some tokens ∧
      tokens.count (.plain '?') = 2 ∧
      InsertMode.upsert.owners [] tokens [] = [some ("k = ?" : Text), some ("\"? \", ?" : Text)] ∧
      ∃ bounds : List Bound, bounds.length = 2 ∧
        (RecordBinder.bind
          { dialect := .oracle {}, mode := .upsert
            keys := [{ name := "k = ?", schema := .date }]
            others := [{ name := "\"? \", ?", schema := { kind := .string } }] } [] {}).1
          = Statement.pushAll {} 1 bounds := by
  obtain ⟨text, tokens, hstatement, hread, hcount, howners, hbind⟩ :=
    rowStatement_parameters
      { dialect := .oracle {}, mode := .upsert
        keys := [{ name := "k = ?", schema := .date }]
        others := [{ name := "\"? \", ?", schema := { kind := .string } }] }
      rfl rfl ⟨none, some "?", "t\" ("⟩ [⟨none, "k = ?"⟩] [⟨none, "\"? \", ?"⟩]
      rfl rfl fun _ => ⟨by decide, " FROM dual", rfl, by decide, by decide⟩
  obtain ⟨bounds, hpush, -, hend, -⟩ := hbind [] {}
  exact ⟨text, tokens, hstatement, hread, hcount, howners, bounds, (hend 2 rfl).2, hpush⟩

end RecordBinder

end SqlDialect
