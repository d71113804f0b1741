import SqlDialect.Config.Options
import SqlDialect.Dialect.RowStatement
import SqlDialect.Proofs.Lexing.Sql

/-!
# The structure of statements about rows

A statement about a row is made from names that anybody may have chosen. Read from its text alone,
with names in double quotes, it consists of exactly the names that went in, in a fixed order, and of
a text around them that is the same for all names. So no name, whatever characters are in it, ends
its own quotes, opens others or adds a word to the statement.

## The three statements as one

`Dialect.rowStatement` is the statement that goes with a way of writing records, `Dialect.rowSql` its
fragments. The suffix of a merge is the only part of them that a profile chooses, and the only text
about which something has to be assumed: that it has no quote in it.

## Main definitions

* `Dialect.rowStatement`, `Dialect.rowSql` — the statement for an insert mode
* `Dialect.rowNames` — the names in it, first to last
* `Dialect.rowShape` — what its text outside the names may depend on

## Main results

* `Dialect.readable_rowSql` — its tokens are read back from its text
* `Dialect.rowStatement_structure` — its names, and the text around them
-/

namespace SqlDialect

open Token

namespace Dialect

/-! ### The statement for an insert mode -/

/-- The statement that writes a record in the given way. -/
def rowStatement (d : Dialect) (mode : InsertMode) (table : TableId) (keys others : List ColumnId) :
    Except Error Text :=
  match mode with
  | .insert => .ok (d.insert table keys others)
  | .update => .ok (d.update table keys others)
  | .upsert => d.upsert table keys others

/-- The fragments of that statement; `suffix` closes the select of a merge. -/
def rowSql (suffix : Text) (mode : InsertMode) (table : TableId) (keys others : List ColumnId) :
    Sql :=
  match mode with
  | .insert => insertSql table keys others
  | .update => updateSql table keys others
  | .upsert => mergeSql suffix table keys others

variable {d : Dialect} {mode : InsertMode} {keys others : List ColumnId} {p : Text → Prop}

/-- Quoted by the usual rules, the statement is the tokens of its fragments. A merge needs a profile
that merges, by a suffix of which `p` holds, and a key. -/
theorem rowStatement_eq (hr : d.profile.rules = .ansi) (hq : d.config.quoting = .always)
    (hp : p [])
    (h : mode = .upsert → keys ≠ [] ∧ ∃ suffix, d.profile.upsert = .merge suffix ∧ p suffix) :
    ∃ suffix, p suffix ∧ ∀ table (keys' others : List ColumnId), keys'.length = keys.length →
      d.rowStatement mode table keys' others
        = .ok (writeAll (rowSql suffix mode table keys' others).tokens) := by
  have hpolicy : d.policy = ⟨.ansi, .always, d.profile.canonicalCase⟩ := by
    rw [policy, hr, hq]
  cases mode with
  | insert =>
    refine ⟨[], hp, fun table keys' others _ => ?_⟩
    rw [rowStatement, insert, hpolicy, Sql.render_eq_writeAll]
    rfl
  | update =>
    refine ⟨[], hp, fun table keys' others _ => ?_⟩
    rw [rowStatement, update, hpolicy, Sql.render_eq_writeAll]
    rfl
  | upsert =>
    obtain ⟨hkeys, suffix, hmerge, hsuffix⟩ := h rfl
    refine ⟨suffix, hsuffix, fun table keys' others hlen => ?_⟩
    have hkeys' : ¬ keys'.isEmpty = true := by
      rw [List.isEmpty_iff_length_eq_zero, hlen]
      simpa using hkeys
    rw [rowStatement, upsert, hmerge]
    simp only [if_neg hkeys']
    rw [hpolicy, Sql.render_eq_writeAll]
    rfl

/-! ### Tokens of the statements -/

theorem tokens_insertSql (table : TableId) (keys others : List ColumnId) :
    (insertSql table keys others).tokens
      = plains "INSERT INTO " ++ (qualified table.parts ++ (plains "(" ++
          ((Sql.leadNames "," [] (keys ++ others)).tokens ++ (plains ") VALUES(" ++
            plains (parameterMarks (keys.length + others.length) ++ ")"))))) := by
  simp only [insertSql, List.flatten_cons, List.flatten_nil, Sql.tokens_append, Sql.tokens_cons,
    Sql.tokens_nil, Fragment.tokens, plains_append, List.append_assoc, List.append_nil]

theorem tokens_updateSql (table : TableId) (keys others : List ColumnId) :
    (updateSql table keys others).tokens
      = plains "UPDATE " ++ (qualified table.parts ++ (plains " SET " ++
          ((assignments ", " others).tokens ++
            if keys.isEmpty then []
            else plains " WHERE " ++ (assignments " AND " keys).tokens))) := by
  cases keys with
  | nil =>
    simp [updateSql, assignments, Sql.list, Fragment.tokens]
  | cons c keys =>
    simp only [updateSql, List.flatten_cons, List.flatten_nil, Sql.tokens_append, Sql.tokens_cons,
      Sql.tokens_nil, Fragment.tokens, List.append_assoc, List.append_nil, List.isEmpty_cons,
      Bool.false_eq_true, if_false]

theorem tokens_mergeSql (suffix : Text) (table : TableId) (keys others : List ColumnId) :
    (mergeSql suffix table keys others).tokens
      = plains "merge into " ++ (qualified table.parts ++ (plains " using (select " ++
          ((Sql.leadNames ", " "? " (keys ++ others)).tokens ++
          (plains (suffix ++ ") incoming on(") ++ ((matchings table " and " keys).tokens ++
          (plains ")" ++
          (plains (if others.isEmpty then [] else " when matched then update set ") ++
          ((matchings table "," others).tokens ++ (plains " when not matched then insert(" ++
          ((Sql.columns "," (others ++ keys)).tokens ++ (plains ") values(" ++
          ((Sql.leadNames "," "incoming." (others ++ keys)).tokens ++ plains ")")))))))))))) := by
  cases others with
  | nil =>
    simp only [mergeSql, List.flatten_cons, List.flatten_nil, Sql.tokens_append, Sql.tokens_cons,
      Sql.tokens_nil, Fragment.tokens, plains_append, List.append_assoc, List.append_nil,
      List.isEmpty_nil, if_true, plains_nil, List.nil_append]
  | cons c others =>
    simp only [mergeSql, List.flatten_cons, List.flatten_nil, Sql.tokens_append, Sql.tokens_cons,
      Sql.tokens_nil, Fragment.tokens, plains_append, List.append_assoc, List.append_nil,
      List.isEmpty_cons, Bool.false_eq_true, if_false]

/-! ### Lists of columns -/

theorem readable_leadNames {delimiter lead : Text} (hne : delimiter ≠ [])
    (hdelimiter : Bare ['"'] delimiter) (hlead : Bare ['"'] lead)
    (columns : List ColumnId) :
    Readable ['"'] (Sql.leadNames delimiter lead columns).tokens :=
  Sql.readable_list hne hdelimiter fun c => .plains_append hlead (readable_name c.name)

theorem readable_columns {delimiter : Text} (hne : delimiter ≠ [])
    (hdelimiter : Bare ['"'] delimiter) (columns : List ColumnId) :
    Readable ['"'] (Sql.columns delimiter columns).tokens := by
  refine Sql.readable_list hne hdelimiter fun c => ?_
  rw [Sql.tokens_cons, Sql.tokens_nil, List.append_nil]
  exact readable_qualified c.parts

theorem readable_assignments {delimiter : Text} (hne : delimiter ≠ [])
    (hdelimiter : Bare ['"'] delimiter) (columns : List ColumnId) :
    Readable ['"'] (assignments delimiter columns).tokens :=
  Sql.readable_list hne hdelimiter fun c =>
    (readable_name c.name).append_plains (by decide) (by decide) .nil

theorem readable_matchings (table : TableId) {delimiter : Text} (hne : delimiter ≠ [])
    (hdelimiter : Bare ['"'] delimiter) (columns : List ColumnId) :
    Readable ['"'] (matchings table delimiter columns).tokens :=
  Sql.readable_list hne hdelimiter fun c =>
    (readable_qualified table.parts).append_plains (by decide) (by decide)
      ((readable_name c.name).append_plains (by decide) (by decide) (readable_name c.name))

theorem bare_parameterMarks (count : Nat) : Bare ['"'] (parameterMarks count) :=
  .join_replicate (by decide) (by decide) count

theorem readable_insertSql (table : TableId) (keys others : List ColumnId) :
    Readable ['"'] (insertSql table keys others).tokens := by
  have htable : Readable ['"'] (qualified table.parts) := readable_qualified table.parts
  have hnames : Readable ['"'] (Sql.leadNames "," [] (keys ++ others)).tokens :=
    readable_leadNames (by decide) (by decide) (by decide) _
  rw [tokens_insertSql]
  exact .plains_append (by decide) (htable.append_plains (by decide) (by decide)
    (hnames.append_plains (by decide) (by decide)
      (readable_plains ((bare_parameterMarks _).append (by decide)))))

theorem readable_updateSql (table : TableId) (keys others : List ColumnId) :
    Readable ['"'] (updateSql table keys others).tokens := by
  have htable : Readable ['"'] (qualified table.parts) := readable_qualified table.parts
  have hset : Readable ['"'] (assignments ", " others).tokens :=
    readable_assignments (by decide) (by decide) others
  have hwhere : Readable ['"'] (assignments " AND " keys).tokens :=
    readable_assignments (by decide) (by decide) keys
  rw [tokens_updateSql]
  refine .plains_append (by decide) (htable.append_plains (by decide) (by decide) ?_)
  cases keys with
  | nil => simpa using hset
  | cons c keys => exact hset.append_plains (by decide) (by decide) hwhere

theorem readable_mergeSql {suffix : Text} (hsuffix : '"' ∉ suffix) (table : TableId)
    (keys others : List ColumnId) : Readable ['"'] (mergeSql suffix table keys others).tokens := by
  have htable : Readable ['"'] (qualified table.parts) := readable_qualified table.parts
  have hselect : Readable ['"'] (Sql.leadNames ", " "? " (keys ++ others)).tokens :=
    readable_leadNames (by decide) (by decide) (by decide) _
  have hon : Readable ['"'] (matchings table " and " keys).tokens :=
    readable_matchings table (by decide) (by decide) keys
  have hset : Readable ['"'] (matchings table "," others).tokens :=
    readable_matchings table (by decide) (by decide) others
  have hinto : Readable ['"'] (Sql.columns "," (others ++ keys)).tokens :=
    readable_columns (by decide) (by decide) _
  have hvalues : Readable ['"'] (Sql.leadNames "," "incoming." (others ++ keys)).tokens :=
    readable_leadNames (by decide) (by decide) (by decide) _
  have hclose : Bare ['"'] (suffix ++ ") incoming on(") :=
    (bare_singleton hsuffix).append (by decide)
  have hwhen : Bare ['"'] (if others.isEmpty then [] else " when matched then update set ") := by
    split <;> decide
  rw [tokens_mergeSql]
  refine .plains_append (by decide) (htable.append_plains (by decide) (by decide)
    (hselect.append_plains (by simp) hclose (hon.append_plains (by decide) (by decide)
      (.plains_append hwhen (hset.append_plains (by decide) (by decide)
        (hinto.append_plains (by decide) (by decide) ?_))))))
  simpa using hvalues.append_plains (by decide) (by decide) .nil

/-- **The tokens of a statement are read back from its text**, whatever the names are. -/
theorem readable_rowSql {suffix : Text} (hsuffix : '"' ∉ suffix) (mode : InsertMode)
    (table : TableId) (keys others : List ColumnId) :
    Readable ['"'] (rowSql suffix mode table keys others).tokens := by
  cases mode with
  | insert => exact readable_insertSql table keys others
  | update => exact readable_updateSql table keys others
  | upsert => exact readable_mergeSql hsuffix table keys others

/-! ### Names -/

theorem quotedTexts_leadNames (delimiter lead : Text) (columns : List ColumnId) :
    quotedTexts (Sql.leadNames delimiter lead columns).tokens = columns.map ColumnId.name := by
  rw [Sql.leadNames, Sql.quotedTexts_list, ← List.flatMap_singleton' (columns.map ColumnId.name),
    List.flatMap_map]
  simp [Fragment.tokens]

theorem quotedTexts_assignments (delimiter : Text) (columns : List ColumnId) :
    quotedTexts (assignments delimiter columns).tokens = columns.map ColumnId.name := by
  rw [assignments, Sql.quotedTexts_list, ← List.flatMap_singleton' (columns.map ColumnId.name),
    List.flatMap_map]
  simp [Fragment.tokens]

theorem quotedTexts_matchings (table : TableId) (delimiter : Text) (columns : List ColumnId) :
    quotedTexts (matchings table delimiter columns).tokens
      = columns.flatMap fun c => table.parts ++ [c.name, c.name] := by
  rw [matchings, Sql.quotedTexts_list]
  simp [Fragment.tokens]

theorem quotedTexts_columns (delimiter : Text) (columns : List ColumnId) :
    quotedTexts (Sql.columns delimiter columns).tokens = columns.flatMap ColumnId.parts := by
  rw [Sql.columns, Sql.quotedTexts_list]
  simp [Fragment.tokens]

/-- The names in the statement, first to last. -/
def rowNames (mode : InsertMode) (table : TableId) (keys others : List ColumnId) : List Text :=
  match mode with
  | .insert => table.parts ++ keys.map ColumnId.name ++ others.map ColumnId.name
  | .update => table.parts ++ others.map ColumnId.name ++ keys.map ColumnId.name
  | .upsert =>
    table.parts ++ keys.map ColumnId.name ++ others.map ColumnId.name
      ++ keys.flatMap (fun c => table.parts ++ [c.name, c.name])
      ++ others.flatMap (fun c => table.parts ++ [c.name, c.name])
      ++ (others ++ keys).flatMap ColumnId.parts
      ++ others.map ColumnId.name ++ keys.map ColumnId.name

theorem quotedTexts_rowSql (suffix : Text) (mode : InsertMode) (table : TableId)
    (keys others : List ColumnId) :
    quotedTexts (rowSql suffix mode table keys others).tokens
      = rowNames mode table keys others := by
  cases mode with
  | insert =>
    rw [rowSql, tokens_insertSql]
    simp only [quotedTexts_append, quotedTexts_plains, quotedTexts_qualified,
      quotedTexts_leadNames, rowNames, List.map_append, List.nil_append, List.append_nil,
      List.append_assoc]
  | update =>
    have hwhere : quotedTexts (if keys.isEmpty then []
        else plains " WHERE " ++ (assignments " AND " keys).tokens) = keys.map ColumnId.name := by
      cases keys with
      | nil => rfl
      | cons c keys => simp [quotedTexts_assignments]
    rw [rowSql, tokens_updateSql]
    simp only [quotedTexts_append, quotedTexts_plains, quotedTexts_qualified,
      quotedTexts_assignments, hwhere, rowNames, List.nil_append, List.append_assoc]
  | upsert =>
    rw [rowSql, tokens_mergeSql]
    simp only [quotedTexts_append, quotedTexts_plains, quotedTexts_qualified,
      quotedTexts_leadNames, quotedTexts_matchings, quotedTexts_columns, rowNames,
      List.map_append, List.nil_append, List.append_nil, List.append_assoc]

/-! ### The text around the names -/

theorem plainText_leadNames (delimiter lead : Text) (columns : List ColumnId) :
    plainText (Sql.leadNames delimiter lead columns).tokens
      = Text.join delimiter (List.replicate columns.length lead) := by
  rw [Sql.leadNames, Sql.plainText_list, ← List.map_const']
  simp [Fragment.tokens]

theorem plainText_assignments (delimiter : Text) (columns : List ColumnId) :
    plainText (assignments delimiter columns).tokens
      = Text.join delimiter (List.replicate columns.length " = ?") := by
  rw [assignments, Sql.plainText_list, ← List.map_const']
  simp [Fragment.tokens]

theorem plainText_matchings (table : TableId) (delimiter : Text) (columns : List ColumnId) :
    plainText (matchings table delimiter columns).tokens
      = Text.join delimiter (List.replicate columns.length
          (Text.join "." (List.replicate table.parts.length []) ++ ".=incoming.")) := by
  rw [matchings, Sql.plainText_list, ← List.map_const']
  simp [Fragment.tokens, plainText_qualified]

theorem plainText_columns (delimiter : Text) (columns : List ColumnId) :
    plainText (Sql.columns delimiter columns).tokens
      = Text.join delimiter ((columns.map (·.parts.length)).map fun count =>
          Text.join "." (List.replicate count [])) := by
  rw [Sql.columns, Sql.plainText_list, List.map_map]
  simp [Fragment.tokens, plainText_qualified, Function.comp_def]

/-- What a statement may show of its names outside quotes: of how many parts the name of the table
is, and the name of each column. -/
def rowShape (table : TableId) (keys others : List ColumnId) : Nat × List Nat × List Nat :=
  (table.parts.length, keys.map (·.parts.length), others.map (·.parts.length))

/-- The text around the names depends on their shape only. -/
theorem plainText_rowSql_congr (suffix : Text) (mode : InsertMode) {table table' : TableId}
    {keys others keys' others' : List ColumnId}
    (h : rowShape table keys others = rowShape table' keys' others') :
    plainText (rowSql suffix mode table keys others).tokens
      = plainText (rowSql suffix mode table' keys' others').tokens := by
  simp only [rowShape, Prod.mk.injEq] at h
  obtain ⟨htable, hkeys, hothers⟩ := h
  have hklen : keys.length = keys'.length := by simpa using congrArg List.length hkeys
  have holen : others.length = others'.length := by simpa using congrArg List.length hothers
  have hkempty : keys.isEmpty = keys'.isEmpty := by
    rw [Bool.eq_iff_iff, List.isEmpty_iff_length_eq_zero, List.isEmpty_iff_length_eq_zero, hklen]
  have hoempty : others.isEmpty = others'.isEmpty := by
    rw [Bool.eq_iff_iff, List.isEmpty_iff_length_eq_zero, List.isEmpty_iff_length_eq_zero, holen]
  cases mode with
  | insert =>
    simp only [rowSql, tokens_insertSql, plainText_append, plainText_plains, plainText_qualified,
      plainText_leadNames, List.length_append, htable, hklen, holen]
  | update =>
    simp only [rowSql, tokens_updateSql, plainText_append, plainText_plains, plainText_qualified,
      plainText_assignments, htable, holen, apply_ite plainText, hklen, hkempty]
  | upsert =>
    simp only [rowSql, tokens_mergeSql, plainText_append, plainText_plains, plainText_qualified,
      plainText_leadNames, plainText_matchings, plainText_columns, List.map_append,
      List.length_append, htable, hkeys, hothers, hklen, holen, hoempty]

/-! ### The structure of a statement -/

/-- **Names cannot change the structure of a statement.** Its text can be read, the names in it are
the ones that went in, and the text around them is that of any statement of the same shape. -/
theorem rowStatement_structure (d : Dialect) (hr : d.profile.rules = .ansi)
    (hq : d.config.quoting = .always) (mode : InsertMode) (table : TableId)
    (keys others : List ColumnId)
    (hm : mode = .upsert →
      keys ≠ [] ∧ ∃ suffix, d.profile.upsert = .merge suffix ∧ '"' ∉ suffix) :
    ∃ text tokens, d.rowStatement mode table keys others = .ok text ∧
      read ['"'] text = some tokens ∧
      quotedTexts tokens = rowNames mode table keys others ∧
      ∀ table' keys' others',
        rowShape table' keys' others' = rowShape table keys others →
        ∃ text' tokens', d.rowStatement mode table' keys' others' = .ok text' ∧
          read ['"'] text' = some tokens' ∧ plainText tokens' = plainText tokens := by
  obtain ⟨suffix, hsuffix, hstatement⟩ := rowStatement_eq hr hq (by simp) hm
  refine ⟨_, _, hstatement table keys others rfl,
    read_writeAll (readable_rowSql hsuffix mode table keys others),
    quotedTexts_rowSql suffix mode table keys others, fun table' keys' others' hshape => ?_⟩
  have hlen : keys'.length = keys.length := by
    simpa [rowShape] using congrArg (fun shape => shape.2.1.length) hshape
  exact ⟨_, _, hstatement table' keys' others' hlen,
    read_writeAll (readable_rowSql hsuffix mode table' keys' others'),
    plainText_rowSql_congr suffix mode hshape⟩

/-- A name that would end its quotes and go on as a statement stays one name. -/
theorem rowStatement_structure_merge :
    (Dialect.oracle {}).profile.rules = .ansi ∧ (Dialect.oracle {}).config.quoting = .always ∧
    ∃ text tokens,
      (Dialect.oracle {}).rowStatement .upsert ⟨none, some "s\"", "t.t"⟩
        [⟨none, "\" = 1); drop table t; --"⟩] [⟨some ⟨none, none, "t.t"⟩, "\""⟩] = .ok text ∧
      read ['"'] text = some tokens ∧
      quotedTexts tokens = ["s\"", "t.t", "\" = 1); drop table t; --", "\"",
        "s\"", "t.t", "\" = 1); drop table t; --", "\" = 1); drop table t; --",
        "s\"", "t.t", "\"", "\"", "t.t", "\"", "\" = 1); drop table t; --",
        "\"", "\" = 1); drop table t; --"] := by
  obtain ⟨text, tokens, hstatement, hread, hnames, -⟩ :=
    rowStatement_structure (.oracle {}) rfl rfl .upsert ⟨none, some "s\"", "t.t"⟩
      [⟨none, "\" = 1); drop table t; --"⟩] [⟨some ⟨none, none, "t.t"⟩, "\""⟩]
      fun _ => ⟨by decide, " FROM dual", rfl, by decide⟩
  exact ⟨rfl, rfl, text, tokens, hstatement, hread, hnames.trans (by decide)⟩

end Dialect

end SqlDialect
