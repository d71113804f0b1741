import Mathlib.Algebra.Order.BigOperators.Group.List
import Mathlib.Algebra.Order.Group.Nat
import Mathlib.Logic.Function.Iterate
import SqlDialect.Proofs.Identifier.Grammar
import SqlDialect.Proofs.Text.Case

/-!
# Names without quotes

A policy that quotes nothing writes the parts of a table name as they are, with dots between them.
Such a text can be read back exactly if no part has a dot in it or starts with a quote, and the
table has a name at all; schema and catalog may be empty. What is read back is the name in the case
of the database.

## Why nothing else can be read back

A part with a dot, or one that starts with a quote, is read as something else, but it takes an
argument that the parts do not come out right by accident: a quoted segment may hold dots, and the
case of the table is changed while it is read. The argument counts quotes. A quoted segment has two
quotes more than the name it stands for, and those inside the name twice, a bare one has those of
its name, and neither dots nor a change of case bring quotes or take them away. So the text can have
as many quotes as the names that are read from it only if all its segments are bare, and then the
parts are those that were written.

## Reading again

Reading changes the case of the table once and for all. A text without quotes is therefore read as a
name that stays the same however often it is written and read.

## Main definitions

* `TableId.qualifiers` — the parts in front of the table
* `Policy.reread` — what is read of a name that was read and written

## Main results

* `Policy.parseTable_eq_ok_iff` — the texts that are read as a table name
* `Policy.parse_unquoted_iff` — when a name without quotes is read back
* `Policy.parse_stable` — reading again changes nothing
-/

namespace SqlDialect

/-- Between the parts there are only separators. -/
theorem Text.count_join {separator : Text} {mark : Char} (h : mark ∉ separator)
    (parts : List Text) :
    (Text.join separator parts).count mark = (parts.map (List.count mark)).sum := by
  induction parts with
  | nil => rfl
  | cons first parts ih =>
    cases parts with
    | nil => simp
    | cons second parts =>
      rw [Text.join_cons_cons, List.count_append, List.count_append, ih,
        List.count_eq_zero_of_not_mem h]
      simp

/-! ### Parts of a table name -/

namespace TableId

variable {t t' : TableId}

/-- The names in front of the table. -/
def qualifiers (t : TableId) : List Text := t.catalog.toList ++ t.schema.toList

theorem parts_eq (t : TableId) : t.parts = t.qualifiers ++ [t.table] := rfl

@[simp] theorem qualifiers_normalize (p : Policy) (t : TableId) :
    (p.normalize t).qualifiers = t.qualifiers := rfl

/-- With the same names in front, the whole text determines the table. -/
theorem eq_of_join_parts_eq {separator : Text} (hqualifiers : t.qualifiers = t'.qualifiers)
    (hjoin : Text.join separator t.parts = Text.join separator t'.parts) : t.table = t'.table := by
  rw [parts_eq, parts_eq, ← hqualifiers] at hjoin
  by_cases hnone : t.qualifiers = []
  · simpa [hnone] using hjoin
  · rw [Text.join_concat _ _ hnone, Text.join_concat _ _ hnone] at hjoin
    exact List.append_cancel_left hjoin

end TableId

namespace Policy

/-- The parts of a table name are one to three, and a catalog needs a schema. -/
theorem tableOfParts?_eq_some_iff {names : List Text} {t : TableId} :
    tableOfParts? names = some t ↔
      (t.catalog = none ∨ t.schema.isSome) ∧ t.parts = names := by
  constructor
  · intro h
    unfold tableOfParts? at h
    split at h
    · obtain rfl := Option.some.inj h
      exact ⟨.inl rfl, rfl⟩
    · obtain rfl := Option.some.inj h
      exact ⟨.inl rfl, rfl⟩
    · obtain rfl := Option.some.inj h
      exact ⟨.inr rfl, rfl⟩
    · exact absurd h (Option.some_ne_none t).symm
  · rintro ⟨ht, rfl⟩
    exact tableOfParts?_parts ht

end Policy

/-! ### Quotes of a written name -/

namespace Rules

variable {segment : Segment} {segments : List Segment} {names : List Text} {text : Text}

theorem count_doubled (mark : Char) (name : Text) :
    (Text.doubled [mark] name).count mark = 2 * name.count mark := by
  induction name with
  | nil => rfl
  | cons c name ih =>
    rw [Text.doubled_singleton, List.flatMap_cons, List.count_append, ← Text.doubled_singleton, ih]
    by_cases hc : c = mark
    · subst hc
      simp only [if_true, List.count_cons_self, List.count_nil]
      omega
    · rw [if_neg hc, List.count_cons_of_ne hc, List.count_cons_of_ne hc, List.count_nil,
        Nat.zero_add]

/-- A quoted segment has more quotes than the name it stands for. -/
theorem count_quote (name : Text) : (ansi.quote name).count '"' = 2 * name.count '"' + 2 := by
  have hquote : ansi.quote name = ['"'] ++ Text.doubled ['"'] name ++ ['"'] := rfl
  rw [hquote, List.count_append, List.count_append, count_doubled]
  simp only [List.count_singleton_self]
  omega

theorem Segment.count_name_le (segment : Segment) :
    segment.name.count '"' ≤ (segment.write ansi).count '"' := by
  cases segment with
  | quoted name =>
    rw [write, count_quote]
    exact Nat.le_add_right_of_le (Nat.le_mul_of_pos_left _ (by decide))
  | bare text => exact Nat.le_refl _

theorem Segment.eq_bare_of_count_le
    (h : (segment.write ansi).count '"' ≤ segment.name.count '"') :
    segment = .bare segment.name := by
  cases segment with
  | quoted name =>
    rw [write, count_quote, Segment.name] at h
    omega
  | bare text => rfl

/-- **A text with no more quotes than its names have is made of bare segments.** -/
theorem eq_map_bare_of_sum_le
    (h : (segments.map fun segment => (segment.write ansi).count '"').sum
      ≤ (segments.map fun segment => segment.name.count '"').sum) :
    segments = (segments.map Segment.name).map .bare := by
  induction segments with
  | nil => rfl
  | cons segment segments ih =>
    have hrest : (segments.map fun segment => segment.name.count '"').sum
        ≤ (segments.map fun segment => (segment.write ansi).count '"').sum :=
      List.sum_le_sum fun other _ => other.count_name_le
    have hfirst := segment.count_name_le
    simp only [List.map_cons, List.sum_cons] at h
    rw [List.map_cons, List.map_cons, ← ih (by omega),
      ← Segment.eq_bare_of_count_le (by omega)]

/-- The quotes of a text are those of its segments. -/
theorem Reading.count_eq (h : Reading ansi text segments) :
    text.count '"' = (segments.map fun segment => (segment.write ansi).count '"').sum := by
  have hseparator : '"' ∉ ansi.separator := by decide
  rw [← h.written, Text.count_join hseparator, List.map_map]
  rfl

/-- The texts that are read as bare segments. -/
theorem reading_bare_iff : Reading ansi text (names.map .bare) ↔
    names ≠ [] ∧ (∀ name ∈ names, '.' ∉ name ∧ ¬ ['"'] <+: name) ∧ names.getLast? ≠ some [] ∧
      Text.join "." names = text := by
  have hallowed : (∀ segment ∈ names.map Segment.bare, segment.Allowed ansi) ↔
      ∀ name ∈ names, '.' ∉ name ∧ ¬ ['"'] <+: name := by
    rw [List.forall_mem_map]
    exact forall₂_congr fun name _ => allowed_bare_iff
  have hlast : (names.map Segment.bare).getLast? ≠ some (.bare []) ↔ names.getLast? ≠ some [] := by
    rw [List.getLast?_map, ne_eq, Option.map_eq_some_iff]
    simp
  have hwritten : (names.map Segment.bare).map (Segment.write ansi) = names := by
    rw [List.map_map]
    exact List.map_id names
  rw [reading_iff, hallowed, hlast, hwritten, ne_eq, List.map_eq_nil_iff]
  rfl

/-- A name is read if its text has a reading. -/
theorem parseQualified_ansi_eq_ok_iff : ansi.parseQualified text = .ok names ↔
    ∃ segments, Reading ansi text segments ∧ segments.map Segment.name = names := by
  rw [ansi_eq_single]
  constructor
  · intro h
    rcases parseQualified_eq_error_or_exists_reading '.' '"' '"' text with
      herror | ⟨segments, hreading⟩
    · simp [herror] at h
    · rw [hreading.parseQualified_eq (by decide) (by decide)] at h
      exact ⟨segments, hreading, Except.ok.inj h⟩
  · rintro ⟨segments, hreading, rfl⟩
    exact hreading.parseQualified_eq (by decide) (by decide)

end Rules

namespace Policy

open Rules

variable {p : Policy} {t t' : TableId} {text : Text}

/-! ### Reading a table name -/

/-- **The texts that are read as a table name**: they have a reading with the parts of a name, of
which the table is put in the case in effect. -/
theorem parseTable_eq_ok_iff (hrules : p.rules = ansi) : p.parseTable text = .ok t ↔
    ∃ segments t', Reading ansi text segments ∧ segments.map Segment.name = t'.parts ∧
      (t'.catalog = none ∨ t'.schema.isSome) ∧ p.normalize t' = t := by
  rw [parseTable, hrules]
  constructor
  · intro h
    cases hnames : ansi.parseQualified text with
    | error e => simp [hnames, bind, Except.bind] at h
    | ok names =>
      obtain ⟨segments, hreading, rfl⟩ := parseQualified_ansi_eq_ok_iff.mp hnames
      cases htable : tableOfParts? (segments.map Segment.name) with
      | none => simp [hnames, htable, bind, Except.bind] at h
      | some t' =>
        obtain ⟨ht', hparts⟩ := tableOfParts?_eq_some_iff.mp htable
        refine ⟨segments, t', hreading, hparts.symm, ht', ?_⟩
        simpa [hnames, htable, bind, Except.bind] using h
  · rintro ⟨segments, t', hreading, hparts, ht', rfl⟩
    have hnames := parseQualified_ansi_eq_ok_iff.mpr ⟨segments, hreading, hparts⟩
    simp only [hnames, bind, Except.bind, tableOfParts?_parts ht']

theorem quoteTable_unquoted (hrules : p.rules = ansi) (hq : p.quoting = .never) (t : TableId) :
    p.quoteTable t = Text.join "." t.parts := by
  have hquote : p.quote = id := by
    funext name
    simp only [quote, hq, id]
  rw [quoteTable, hquote, List.map_id, hrules]
  rfl

/-- A name is read back if none of its parts can be taken for something else. -/
theorem parseTable_quoteTable (hrules : p.rules = ansi) (hq : p.quoting = .never)
    (ht : t.catalog = none ∨ t.schema.isSome) (hne : t.table ≠ [])
    (hparts : ∀ part ∈ t.parts, '.' ∉ part ∧ ¬ ['"'] <+: part) :
    p.parseTable (p.quoteTable t) = .ok (p.normalize t) := by
  have hreading : Reading ansi (Text.join "." t.parts) (t.parts.map .bare) := by
    refine reading_bare_iff.mpr ⟨?_, hparts, ?_, rfl⟩
    · simp [TableId.parts_eq]
    · simpa [TableId.parts_eq] using hne
  have hnames : (t.parts.map Segment.bare).map Segment.name = t.parts := by
    rw [List.map_map]
    exact List.map_id t.parts
  rw [quoteTable_unquoted hrules hq]
  exact (parseTable_eq_ok_iff hrules).mpr ⟨_, t, hreading, hnames, ht, rfl⟩

/-! ### Reading back -/

/-- The case in effect leaves the quotes of a name. -/
theorem sum_count_parts_normalize (p : Policy) (t : TableId) :
    ((p.normalize t).parts.map (List.count '"')).sum = (t.parts.map (List.count '"')).sum := by
  have htable : (p.normalize t).table = p.fold.apply t.table := rfl
  rw [TableId.parts_eq, TableId.parts_eq, TableId.qualifiers_normalize, List.map_append,
    List.map_append, List.map_singleton, List.map_singleton, htable,
    CaseFold.count_apply (by decide)]

/-- **When a name without quotes is read back.** A table name that is written as it is, is read as
itself in the case of the database if and only if the table has a name and no part has a dot in it
or starts with a quote. -/
theorem parse_unquoted_iff (p : Policy) (hrules : p.rules = ansi) (hq : p.quoting = .never)
    (t : TableId) (ht : t.catalog = none ∨ t.schema.isSome) :
    p.parseTable (p.quoteTable t) = .ok (p.normalize t) ↔
      t.table ≠ [] ∧ (∀ part ∈ t.parts, '.' ∉ part) ∧ ∀ part ∈ t.parts, ¬ ['"'] <+: part := by
  constructor
  · intro h
    obtain ⟨segments, t', hreading, hnames, -, hnormal⟩ := (parseTable_eq_ok_iff hrules).mp h
    rw [quoteTable_unquoted hrules hq] at hreading
    -- The names that are read have as many quotes as those that were written.
    have hquotes : (t'.parts.map (List.count '"')).sum = (t.parts.map (List.count '"')).sum := by
      rw [← sum_count_parts_normalize p t', hnormal, sum_count_parts_normalize]
    have hbare : segments = t'.parts.map .bare := by
      rw [← hnames]
      refine eq_map_bare_of_sum_le (Nat.le_of_eq ?_)
      rw [← hreading.count_eq, Text.count_join (by decide), ← hquotes, ← hnames, List.map_map]
      rfl
    obtain ⟨-, hallowed, hlast, hjoin⟩ := reading_bare_iff.mp (hbare ▸ hreading)
    have hqualifiers : t'.qualifiers = t.qualifiers := by
      rw [← TableId.qualifiers_normalize p, hnormal, TableId.qualifiers_normalize]
    have htable : t'.table = t.table := TableId.eq_of_join_parts_eq hqualifiers hjoin
    have hparts : t'.parts = t.parts := by
      rw [TableId.parts_eq, TableId.parts_eq, hqualifiers, htable]
    rw [hparts] at hallowed hlast
    refine ⟨?_, fun part hpart => (hallowed part hpart).1, fun part hpart => (hallowed part hpart).2⟩
    simpa [TableId.parts_eq] using hlast
  · rintro ⟨hne, hdots, hquotes⟩
    exact parseTable_quoteTable hrules hq ht hne fun part hpart =>
      ⟨hdots part hpart, hquotes part hpart⟩

/-- A quote inside a part is read back, and so is a table whose name grows in upper case; a schema
in quotes is not. -/
theorem parse_unquoted_iff_upper :
    Policy.parseTable ⟨ansi, .never, .upper⟩ "a\"b.straße"
        = .ok { schema := some "a\"b", table := "STRASSE" } ∧
      Policy.parseTable ⟨ansi, .never, .upper⟩ "\"a\".b"
        ≠ .ok { schema := some "\"a\"", table := "B" } := by
  have hread := (parse_unquoted_iff ⟨ansi, .never, .upper⟩ rfl rfl
    { schema := some "a\"b", table := "straße" } (.inl rfl)).mpr
      ⟨by decide, by decide, by decide⟩
  have hrefused := (parse_unquoted_iff ⟨ansi, .never, .upper⟩ rfl rfl
    { schema := some "\"a\"", table := "b" } (.inl rfl)).not.mpr (by decide)
  have hupper : Policy.normalize ⟨ansi, .never, .upper⟩
      { schema := some "a\"b", table := "straße" }
        = { schema := some "a\"b", table := "STRASSE" } := by
    decide +kernel
  have hupper' : Policy.normalize ⟨ansi, .never, .upper⟩ { schema := some "\"a\"", table := "b" }
      = { schema := some "\"a\"", table := "B" } := by
    decide +kernel
  exact ⟨hupper ▸ hread, hupper' ▸ hrefused⟩

/-! ### Reading again -/

/-- The case in effect is the same after a second change. -/
theorem normalize_normalize (p : Policy) (t : TableId) :
    p.normalize (p.normalize t) = p.normalize t := by
  simp [normalize]

/-- What is read of a name that was read and written. -/
def reread (p : Policy) (parsed : Except Error TableId) : Except Error TableId :=
  parsed.bind fun t => p.parseTable (p.quoteTable t)

/-- A text without quotes is read as a name that is read back as it is. -/
theorem parseTable_quoteTable_of_parsed (hrules : p.rules = ansi) (hq : p.quoting = .never)
    (htext : '"' ∉ text) (h : p.parseTable text = .ok t) :
    p.parseTable (p.quoteTable t) = .ok (p.normalize t) := by
  obtain ⟨segments, t', hreading, hnames, ht', rfl⟩ := (parseTable_eq_ok_iff hrules).mp h
  have hnone : (segments.map fun segment => (segment.write ansi).count '"').sum = 0 := by
    rw [← hreading.count_eq, List.count_eq_zero_of_not_mem htext]
  have hbare : segments = t'.parts.map .bare := by
    rw [← hnames]
    exact eq_map_bare_of_sum_le (by omega)
  obtain ⟨-, hallowed, hlast, rfl⟩ := reading_bare_iff.mp (hbare ▸ hreading)
  have hname : t'.table ≠ [] := by simpa [TableId.parts_eq] using hlast
  have htable : '"' ∉ t'.table := by
    intro hmem
    refine htext (List.count_pos_iff.mp ?_)
    have hpositive := List.count_pos_iff.mpr hmem
    rw [Text.count_join (by decide), TableId.parts_eq, List.map_append, List.sum_append]
    simp only [List.map_singleton, List.sum_singleton]
    omega
  have hdot : '.' ∉ t'.table := (hallowed t'.table (by simp [TableId.parts_eq])).1
  refine parseTable_quoteTable hrules hq ht' ?_ ?_
  · exact fun hempty => hname (CaseFold.apply_eq_nil_iff.mp hempty)
  · intro part hpart
    rw [TableId.parts_eq, TableId.qualifiers_normalize, List.mem_append,
      List.mem_singleton] at hpart
    rcases hpart with hpart | rfl
    · exact hallowed part (List.mem_append_left _ hpart)
    · have hfolded : '"' ∉ (p.normalize t').table := (CaseFold.mem_apply_iff (by decide)).not.mpr htable
      exact ⟨(CaseFold.mem_apply_iff (by decide)).not.mpr hdot,
        fun hstart => hfolded (hstart.subset List.mem_cons_self)⟩

/-- **Reading again changes nothing.** What is read from a text without quotes is in the case of the
database, is read back from what is written for it, and so stays the same any number of times. The
case of a database is the same after a second change whatever the name. -/
theorem parse_stable :
    (∀ (fold : CaseFold) (name : Text), fold.apply (fold.apply name) = fold.apply name) ∧
    ∀ p : Policy, p.rules = ansi → p.quoting = .never →
      ∀ (text : Text) (t : TableId), '"' ∉ text → p.parseTable text = .ok t →
        p.normalize t = t ∧ p.parseTable (p.quoteTable t) = .ok t ∧
          ∀ n : ℕ, p.reread^[n] (p.parseTable text) = .ok t := by
  refine ⟨CaseFold.apply_apply, fun p hrules hq text t htext h => ?_⟩
  have hnormal : p.normalize t = t := by
    obtain ⟨-, t', -, -, -, rfl⟩ := (parseTable_eq_ok_iff hrules).mp h
    exact p.normalize_normalize t'
  have hread : p.parseTable (p.quoteTable t) = .ok t := by
    rw [parseTable_quoteTable_of_parsed hrules hq htext h, hnormal]
  refine ⟨hnormal, hread, fun n => ?_⟩
  rw [h]
  exact Function.iterate_fixed hread n

/-- A final sigma in lower case, read, written and read three times. -/
theorem parse_stable_lower :
    Policy.parseTable ⟨ansi, .never, .lower⟩ "App.ΟΔΟΣ"
        = .ok { schema := some "App", table := "οδος" } ∧
      (Policy.reread ⟨ansi, .never, .lower⟩)^[3] (.ok { schema := some "App", table := "οδος" })
        = .ok { schema := some "App", table := "οδος" } := by
  have hread : Policy.parseTable ⟨ansi, .never, .lower⟩ "App.ΟΔΟΣ"
      = .ok { schema := some "App", table := "οδος" } := by
    decide +kernel
  obtain ⟨-, -, hagain⟩ := parse_stable.2 ⟨ansi, .never, .lower⟩ rfl rfl _ _ (by decide) hread
  have hthrice := hagain 3
  rw [hread] at hthrice
  exact ⟨hread, hthrice⟩

end Policy

end SqlDialect
