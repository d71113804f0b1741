import SqlDialect.Catalog
import SqlDialect.Proofs.Identifier.Unquoted

/-!
# Looking up synonyms

The table behind a synonym is looked up by the last part of its written name. A policy that quotes
nothing has put that part in upper case while reading it, one that quotes everything has kept it. In
front of the query it is put in upper case in any case, and doing this twice is doing it once. So
quoting has no part in what is asked and in what comes back.

## What is asked

Reading the name comes first, so a text that is no name is refused before anything is asked. Then
the database is asked who is logged in, and if it answers, it is asked for the rows: two questions
at most, and the second one is known from the answer to the first and from the text.

## Main results

* `Policy.parseTable_of_reading`, `Policy.parseTable_of_no_reading` — the table of a written name
* `CaseFold.upper_apply` — upper case after the case of the database
* `Dialect.resolveSynonym_quoting` — what is asked and what comes back, whatever is quoted
-/

namespace SqlDialect

/-! ### The table of a written name -/

namespace Policy

open Rules

variable {p : Policy} {text : Text} {names : List Text} {segment : Segment}
  {segments : List Segment}

/-- One to three parts are those of a table name, and the last one is the table. -/
theorem exists_tableOfParts? (hne : names ≠ []) (hlength : names.length ≤ 3) :
    ∃ t, tableOfParts? names = some t ∧ names.getLast? = some t.table := by
  match names, hne, hlength with
  | [table], _, _ => exact ⟨_, rfl, rfl⟩
  | [schema, table], _, _ => exact ⟨_, rfl, rfl⟩
  | [catalog, schema, table], _, _ => exact ⟨_, rfl, rfl⟩
  | _ :: _ :: _ :: _ :: _, _, hlength =>
    simp only [List.length_cons] at hlength
    omega

theorem length_of_tableOfParts? {t : TableId} (h : tableOfParts? names = some t) :
    names.length ≤ 3 := by
  obtain ⟨-, rfl⟩ := tableOfParts?_eq_some_iff.mp h
  obtain ⟨catalog, schema, table⟩ := t
  cases catalog <;> cases schema <;> simp [TableId.parts]

/-- The table of a text with one to three parts is the last one, in the case in effect. -/
theorem parseTable_of_reading (hrules : p.rules = ansi) (h : Reading ansi text segments)
    (hlength : segments.length ≤ 3) (hlast : segments.getLast? = some segment) :
    ∃ t, p.parseTable text = .ok t ∧ t.table = p.fold.apply segment.name := by
  have hne : segments.map Segment.name ≠ [] := List.map_eq_nil_iff.not.mpr h.ne_nil
  obtain ⟨t, htable, hname⟩ := exists_tableOfParts? hne (by simpa using hlength)
  have hsame : segment.name = t.table := by simpa [hlast] using hname
  obtain ⟨ht, hparts⟩ := tableOfParts?_eq_some_iff.mp htable
  have hread := (parseTable_eq_ok_iff hrules).mpr ⟨segments, t, h, hparts.symm, ht, rfl⟩
  exact ⟨p.normalize t, hread, congrArg p.fold.apply hsame.symm⟩

/-- Every other text is refused as a whole. -/
theorem parseTable_of_no_reading (hrules : p.rules = ansi)
    (h : ¬ ∃ segments, Reading ansi text segments ∧ segments.length ≤ 3) :
    p.parseTable text = .error (.invalidIdentifier text) := by
  rw [parseTable, hrules]
  rcases parseQualified_eq_error_or_exists_reading '.' '"' '"' text with
    herror | ⟨segments, hreading⟩
  · rw [ansi_eq_single, herror]
    rfl
  · have hnames := parseQualified_ansi_eq_ok_iff.mpr ⟨segments, hreading, rfl⟩
    cases htable : tableOfParts? (segments.map Segment.name) with
    | none => simp only [hnames, htable, bind, Except.bind]
    | some t =>
      have hlength := length_of_tableOfParts? htable
      exact absurd ⟨segments, hreading, by simpa using hlength⟩ h

end Policy

/-- **Upper case hides the case in effect**, unless that is lower case. -/
theorem CaseFold.upper_apply {fold : CaseFold} (h : fold ≠ .lower) (name : Text) :
    Text.upper (fold.apply name) = Text.upper name := by
  cases fold with
  | upper => exact Text.upper_upper name
  | lower => exact absurd rfl h
  | preserve => rfl

namespace Dialect

open Rules

variable {p p' : Policy} {c : Catalog} {synonym user : Text} {segment : Segment}
  {segments : List Segment} {e : DriverError}

/-! ### One lookup -/

theorem oracleSynonym_of_no_reading (hrules : p.rules = ansi)
    (h : ¬ ∃ segments, Reading ansi synonym segments ∧ segments.length ≤ 3) (c : Catalog) :
    oracleSynonym p c synonym = ([], .error (.invalidIdentifier synonym)) := by
  rw [oracleSynonym, Policy.parseTable_of_no_reading hrules h]

/-- Nothing else is asked if it is not known who is logged in. -/
theorem oracleSynonym_of_sessionUser_error (hrules : p.rules = ansi)
    (h : Reading ansi synonym segments) (hlength : segments.length ≤ 3)
    (hlast : segments.getLast? = some segment) (hc : c.sessionUser = .error e) :
    oracleSynonym p c synonym = ([.sessionUser], .error (.driver e)) := by
  obtain ⟨t, hread, -⟩ := Policy.parseTable_of_reading hrules h hlength hlast
  rw [oracleSynonym, hread, hc]

/-- The rows are asked for in upper case, whatever has been done to the name while it was read. -/
theorem oracleSynonym_of_sessionUser_ok (hrules : p.rules = ansi) (hfold : p.fold ≠ .lower)
    (h : Reading ansi synonym segments) (hlength : segments.length ≤ 3)
    (hlast : segments.getLast? = some segment) (hc : c.sessionUser = .ok user) :
    oracleSynonym p c synonym
      = ([.sessionUser, .query synonymQuery [Text.upper user, Text.upper segment.name]],
          ((c.query synonymQuery [Text.upper user, Text.upper segment.name]).map
            firstTableName).mapError .driver) := by
  obtain ⟨t, hread, htable⟩ := Policy.parseTable_of_reading hrules h hlength hlast
  have hname : Text.upper t.table = Text.upper segment.name := by
    rw [htable, CaseFold.upper_apply hfold]
  rw [oracleSynonym, hread, hc]
  simp only [hname]
  cases c.query synonymQuery [Text.upper user, Text.upper segment.name] <;> rfl

/-! ### Two ways of quoting -/

/-- Two policies that read the same names ask the same, and the same comes back. -/
theorem oracleSynonym_congr (hrules : p.rules = ansi) (hfold : p.fold ≠ .lower)
    (hrules' : p'.rules = ansi) (hfold' : p'.fold ≠ .lower) (c : Catalog) (synonym : Text) :
    oracleSynonym p' c synonym = oracleSynonym p c synonym := by
  by_cases h : ∃ segments, Reading ansi synonym segments ∧ segments.length ≤ 3
  · obtain ⟨segments, hreading, hlength⟩ := h
    have hlast := List.getLast?_eq_some_getLast hreading.ne_nil
    cases hc : c.sessionUser with
    | error e =>
      rw [oracleSynonym_of_sessionUser_error hrules' hreading hlength hlast hc,
        oracleSynonym_of_sessionUser_error hrules hreading hlength hlast hc]
    | ok user =>
      rw [oracleSynonym_of_sessionUser_ok hrules' hfold' hreading hlength hlast hc,
        oracleSynonym_of_sessionUser_ok hrules hfold hreading hlength hlast hc]
  · rw [oracleSynonym_of_no_reading hrules' h, oracleSynonym_of_no_reading hrules h]

/-- Names without quotes are in upper case in the Oracle database. -/
theorem fold_policy_oracle_ne_lower (config : Config) : (oracle config).policy.fold ≠ .lower := by
  obtain ⟨quoting, sink⟩ := config
  cases quoting with
  | always => exact (by decide : CaseFold.preserve ≠ .lower)
  | never => exact (by decide : CaseFold.upper ≠ .lower)

/-- **Quoting has no part in looking up a synonym.** Two configurations ask the same, with the same
parameters, and the same comes back, whatever the connection answers. A text that is not a name of
one to three parts is refused and nothing is asked. For a name, it is asked who is logged in, and
where this fails nothing else; otherwise the rows are asked for, with the user and the last part of
the name in upper case. -/
theorem resolveSynonym_quoting (config config' : Config) (c : Catalog) (synonym : Text) :
    (oracle config').resolveSynonym c synonym = (oracle config).resolveSynonym c synonym ∧
    ((¬ ∃ segments, Reading ansi synonym segments ∧ segments.length ≤ 3) →
      (oracle config).resolveSynonym c synonym = ([], .error (.invalidIdentifier synonym))) ∧
    ∀ segments segment, Reading ansi synonym segments → segments.length ≤ 3 →
      segments.getLast? = some segment →
        (∀ e, c.sessionUser = .error e →
          (oracle config).resolveSynonym c synonym = ([.sessionUser], .error (.driver e))) ∧
        ∀ user, c.sessionUser = .ok user →
          (oracle config).resolveSynonym c synonym
            = ([.sessionUser, .query synonymQuery [Text.upper user, Text.upper segment.name]],
                ((c.query synonymQuery [Text.upper user, Text.upper segment.name]).map
                  firstTableName).mapError .driver) := by
  have hfold := fold_policy_oracle_ne_lower config
  refine ⟨?_, fun h => ?_, fun segments segment hreading hlength hlast => ⟨fun e hc => ?_,
    fun user hc => ?_⟩⟩
  · exact oracleSynonym_congr rfl hfold rfl (fold_policy_oracle_ne_lower config') c synonym
  · exact oracleSynonym_of_no_reading rfl h c
  · exact oracleSynonym_of_sessionUser_error rfl hreading hlength hlast hc
  · exact oracleSynonym_of_sessionUser_ok rfl hfold hreading hlength hlast hc

/-- A connection that answers with the name it was asked for. -/
def scottsCatalog : Catalog where
  sessionUser := .ok "scott"
  query _ parameters := .ok [[("TABLE_NAME", parameters.getLast?)]]

/-- A name in quotes that grows in upper case. -/
theorem resolveSynonym_quoting_sharpS :
    (oracle { quoting := .never }).resolveSynonym scottsCatalog "app.\"straße\""
        = ([.sessionUser, .query synonymQuery ["SCOTT", "STRASSE"]], .ok (some "STRASSE")) ∧
      (oracle { quoting := .always }).resolveSynonym scottsCatalog "app.\"straße\""
        = ([.sessionUser, .query synonymQuery ["SCOTT", "STRASSE"]], .ok (some "STRASSE")) := by
  obtain ⟨hsame, -, hread⟩ := resolveSynonym_quoting { quoting := .never } { quoting := .always }
    scottsCatalog "app.\"straße\""
  have hreading : Reading ansi "app.\"straße\"" [.bare "app", .quoted "straße"] := by decide
  have hupper : Text.upper "scott" = "SCOTT" ∧ Text.upper "straße" = "STRASSE" := by decide
  have hasked := (hread _ (.quoted "straße") hreading (by decide) rfl).2 "scott" rfl
  simp only [Segment.name, hupper] at hasked
  exact ⟨hasked, hsame.trans hasked⟩

end Dialect

end SqlDialect
