import SqlDialect.Dialect.TableStatement
import SqlDialect.Proofs.Lexing.Sql
import SqlDialect.Proofs.Number.Digits

/-!
# Literals and column types as tokens

In a statement about a table two kinds of quotes meet: names stand in double quotes, and the default
of a column may be a literal in single quotes. Everything else in such a statement is a number, a
truth value or the name of a type, and none of these has a quote in it.

## Numbers and types are words apart

That they have no quote in them is not all that is needed. The clause with the primary key is told
from the columns before it because no type and no number has the letter K, so both are shown to have
no `reserved` character at all. Exact digits do not matter for it: a number is written with digits,
a point and a minus sign, whatever the digits are.

## Main definitions

* `Token.sqlMarks` — the quotes of a statement
* `Token.reserved` — the quotes, and the letter that tells the primary key apart
* `Value.quotedText?` — what a literal has in its quotes, if it has quotes
* `Value.tokens` — a literal as tokens
* `Value.blanked` — a value without the characters of its text
* `Dialect.typeText` — the type of a column, nothing if it has none

## Main results

* `Value.writeAll_tokens`, `Value.readable_tokens` — a literal is read back
* `Value.bare_literal` — a literal without quotes has no reserved character
* `Dialect.bare_typeText` — neither has a column type
-/

namespace SqlDialect

open Token

/-- The quotes of a statement: around names, and around literals. -/
def Token.sqlMarks : List Char := ['"', '\'']

/-- Characters that neither a number nor a type has. -/
def Token.reserved : List Char := ['"', '\'', 'K']

/-! ### Texts without reserved characters -/

section Bare

variable {marks : List Char} {a b : Text}

theorem Token.Bare.nil : Bare marks [] := by simp [Bare]

theorem Token.Bare.cons {c : Char} (hc : c ∉ marks) (h : Bare marks b) : Bare marks (c :: b) := by
  intro d hd
  rcases List.mem_cons.mp hd with rfl | hd
  · exact hc
  · exact h d hd

/-- A part of a bare text is bare. -/
theorem Token.Bare.of_subset (hsub : a ⊆ b) (h : Bare marks b) : Bare marks a :=
  fun c hc => h c (hsub hc)

theorem Token.Bare.replicate {c : Char} (hc : c ∉ marks) (count : Nat) :
    Bare marks (List.replicate count c) := by
  intro d hd
  rw [(List.mem_replicate.mp hd).2]
  exact hc

/-- Digits are bare of everything else. -/
theorem Token.Bare.of_isDigit (hmarks : ∀ m ∈ marks, m.isDigit = false)
    (h : ∀ c ∈ a, c.isDigit = true) : Bare marks a :=
  fun _ hc hmark => Digits.not_mem_of_isDigit h (hmarks _ hmark) hc

/-- What has no reserved character has no quotes. -/
theorem Token.bare_sqlMarks (h : Bare reserved a) : Bare sqlMarks a := by
  intro c hc hmark
  refine h c hc ?_
  rcases List.mem_cons.mp hmark with rfl | hmark
  · decide
  · rw [List.mem_singleton.mp hmark]
    decide

end Bare

/-! ### Numbers -/

/-- A number with its sign. -/
theorem Token.Bare.signed {magnitude : Text} (h : Bare reserved magnitude) (negative : Prop)
    [Decidable negative] : Bare reserved (if negative then '-' :: magnitude else magnitude) := by
  split
  · exact .cons (by decide) h
  · exact h

/-- Digits with a point among them. -/
theorem Token.Bare.pointed {digits : Text} (h : Bare reserved digits) (places : Nat) :
    Bare reserved (digits.take places ++ '.' :: digits.drop places) :=
  .append (h.of_subset (List.take_subset _ _))
    (.cons (by decide) (h.of_subset (List.drop_subset _ _)))

theorem Token.isDigit_reserved : ∀ m ∈ reserved, m.isDigit = false := by
  simp only [reserved, List.forall_mem_cons]
  exact ⟨rfl, rfl, rfl, nofun⟩

theorem Digits.bare_ofNat (n : Nat) : Bare reserved (Digits.ofNat n) :=
  .of_isDigit isDigit_reserved fun _ => Digits.isDigit_of_mem_ofNat

theorem Digits.bare_ofInt (n : Int) : Bare reserved (Digits.ofInt n) :=
  (bare_ofNat n.natAbs).signed _

theorem Digits.bare_padded (width n : Nat) : Bare reserved (Digits.padded width n) :=
  .of_isDigit isDigit_reserved fun _ => Digits.isDigit_of_mem_padded

theorem Decimal.bare_text (d : Decimal) : Bare reserved d.text := by
  have hall : Bare reserved (Digits.padded (d.scale + 1) d.mantissa.natAbs) :=
    Digits.bare_padded _ _
  refine Bare.signed ?_ _
  split
  · exact hall
  · exact hall.pointed _

theorem Shortest.bare_positional (significand : Nat) (power : Int) :
    Bare reserved (Shortest.positional significand power) := by
  rw [positional]
  split
  · exact .append (Digits.bare_ofNat _) (.replicate (by decide) _)
  · exact (Digits.bare_padded _ _).pointed _

theorem BinaryNumber.bare_plainText (format : BinaryFormat) (number : BinaryNumber) :
    Bare reserved (number.plainText format) := by
  cases number with
  | nan =>
    have hnan : Bare reserved "NaN" := by decide
    exact hnan
  | infinite negative =>
    have hinf : Bare reserved "inf" := by decide
    exact hinf.signed (negative = true)
  | finite negative significand exponent =>
    refine Bare.signed ?_ (negative = true)
    split
    · decide
    · exact Shortest.bare_positional _ _

/-! ### Literals -/

namespace Value

/-- What the literal of a value has in its quotes; nothing if it has no quotes. -/
def quotedText? : Value → Option Text
  | .string text => some text
  | .bytes data | .buffer data => some (data.flatMap Digits.hexUpper)
  | .date d => some d.text
  | .time t => some t.text
  | .timestamp i => some i.text
  | _ => none

/-- The literal as tokens. -/
def tokens (v : Value) : List Token :=
  match v.quotedText? with
  | some text => plains (if v.bytes?.isSome then "x" else []) ++ [.quoted '\'' text]
  | none => plains v.literal

/-- A value that is a text, without its characters; any other value as it is. -/
def blanked : Value → Value
  | .string _ => .string []
  | v => v

theorem writeAll_tokens (v : Value) : writeAll v.tokens = v.literal := by
  cases v with
  | string _ | bytes _ | buffer _ | date _ | time _ | timestamp _ =>
    simp [tokens, quotedText?, bytes?, writeAll, plains, write, literal, quoted]
  | _ => exact writeAll_plains _

/-- A literal without quotes has no reserved character. -/
theorem bare_literal {v : Value} (h : v.quotedText? = none) : Bare reserved v.literal := by
  cases v with
  | int8 n | int16 n | int32 n | int64 n => exact Digits.bare_ofInt _
  | float32 bits | float64 bits => exact BinaryNumber.bare_plainText _ _
  | boolean b => cases b <;> decide
  | decimal d => exact d.bare_text
  | string _ | bytes _ | buffer _ | date _ | time _ | timestamp _ => simp [quotedText?] at h

/-- Neither has what stands outside the quotes of a literal. -/
theorem bare_plainText_tokens (v : Value) : Bare reserved (plainText v.tokens) := by
  cases h : v.quotedText? with
  | none =>
    rw [tokens, h, plainText_plains]
    exact bare_literal h
  | some text =>
    rw [tokens, h, plainText_append, plainText_plains, plainText_cons_quoted, plainText_nil,
      List.append_nil]
    split <;> decide

theorem readable_tokens (v : Value) : Readable sqlMarks v.tokens := by
  have hplain := bare_sqlMarks v.bare_plainText_tokens
  cases h : v.quotedText? with
  | none =>
    rw [tokens, h, plainText_plains] at hplain
    rw [tokens, h]
    exact readable_plains hplain
  | some text =>
    rw [tokens, h]
    have hmark : '\'' ∈ sqlMarks := by decide
    exact .plains_append (by split <;> decide) (.singleton hmark)

theorem quotedBy_literal (v : Value) : quotedBy '\'' v.tokens = v.quotedText?.toList := by
  cases h : v.quotedText? with
  | none => simp [tokens, h]
  | some text => simp [tokens, h]

theorem quotedBy_name (v : Value) : quotedBy '"' v.tokens = [] := by
  cases h : v.quotedText? with
  | none => simp [tokens, h]
  | some text => simp [tokens, h, quotedBy_cons_of_ne]

/-- Outside its quotes a literal shows nothing of the characters of a text. -/
theorem plainText_tokens_blanked (v : Value) : plainText v.blanked.tokens = plainText v.tokens := by
  cases v <;> rfl

end Value

/-! ### Column types -/

theorem LogicalType.bare_standardType (logical : LogicalType) :
    Bare reserved logical.standardType := by
  cases logical <;> decide

theorem Kind.bare_standardType {kind : Kind} {type : Text} (h : kind.standardType? = some type) :
    Bare reserved type := by
  cases kind with
  | array | map | struct => simp [standardType?] at h
  | _ =>
    obtain rfl := Option.some.inj h
    decide

theorem Kind.bare_oracleType {kind : Kind} {type : Text} (h : kind.oracleType? = some type) :
    Bare reserved type := by
  cases kind with
  | array | map | struct => simp [oracleType?] at h
  | _ =>
    obtain rfl := Option.some.inj h
    decide

theorem Field.bare_standardType {f : Field} {type : Text} (h : f.standardType = .ok type) :
    Bare reserved type := by
  rw [standardType] at h
  cases hlogical : f.schema.logical with
  | some logical =>
    rw [hlogical] at h
    obtain rfl := Except.ok.inj h
    exact logical.bare_standardType
  | none =>
    rw [hlogical] at h
    cases hkind : f.schema.kind.standardType? with
    | none => simp [hkind] at h
    | some other =>
      simp only [hkind] at h
      obtain rfl := Except.ok.inj h
      exact Kind.bare_standardType hkind

theorem Field.bare_oracleLogicalType {f : Field} {logical : LogicalType} {type : Text}
    (h : f.oracleLogicalType logical = .ok type) : Bare reserved type := by
  cases logical with
  | decimal =>
    rw [oracleLogicalType] at h
    cases hscale : f.schema.decimalScale? with
    | none => simp [hscale] at h
    | some scale =>
      simp only [hscale] at h
      obtain rfl := Except.ok.inj h
      exact .append (.append (by decide) (Digits.bare_ofNat scale)) (by decide)
  | date | time | timestamp =>
    obtain rfl := Except.ok.inj h
    decide

theorem Field.bare_oracleType {f : Field} {sink : Option SinkOptions} {type : Text}
    (h : f.oracleType? sink = .ok (some type)) : Bare reserved type := by
  rw [oracleType?] at h
  cases hlogical : f.schema.logical with
  | some logical =>
    simp only [hlogical] at h
    cases htype : f.oracleLogicalType logical with
    | error e => simp [htype, Except.map] at h
    | ok other =>
      obtain rfl : other = type := by simpa [htype, Except.map] using h
      exact bare_oracleLogicalType htype
  | none =>
    simp only [hlogical] at h
    cases hlisted : f.listedPrecision? sink with
    | some precision =>
      simp only [hlisted] at h
      obtain rfl := Option.some.inj (Except.ok.inj h)
      exact .append (.append (by decide) (Digits.bare_ofNat precision.digits)) (by decide)
    | none =>
      simp only [hlisted] at h
      exact Kind.bare_oracleType (Except.ok.inj h)

namespace Dialect

theorem bare_columnType {d : Dialect} {f : Field} {type : Text} (h : d.columnType f = .ok type) :
    Bare reserved type := by
  rw [columnType] at h
  cases hvendor : d.vendor.columnType? f d.sink with
  | error e => simp [hvendor] at h
  | ok own =>
    cases own with
    | none =>
      simp only [hvendor] at h
      exact Field.bare_standardType h
    | some other =>
      simp only [hvendor] at h
      obtain rfl := Except.ok.inj h
      cases hv : d.vendor with
      | generic => simp [hv, Vendor.columnType?] at hvendor
      | oracle =>
        rw [hv] at hvendor
        exact Field.bare_oracleType hvendor

/-- The type of the column of a field; nothing if it has none. -/
def typeText (d : Dialect) (f : Field) : Text := (d.columnType f).toOption.getD []

theorem typeText_eq {d : Dialect} {f : Field} {type : Text} (h : d.columnType f = .ok type) :
    d.typeText f = type := by
  rw [typeText, h]
  rfl

/-- **No column type has a reserved character.** -/
theorem bare_typeText (d : Dialect) (f : Field) : Bare reserved (d.typeText f) := by
  cases h : d.columnType f with
  | ok type =>
    rw [typeText_eq h]
    exact bare_columnType h
  | error e =>
    rw [typeText, h]
    exact .nil

end Dialect

end SqlDialect
