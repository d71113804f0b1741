import SqlDialect.Dialect.ColumnType
import SqlDialect.Proofs.Number.Digits

/-!
# The scale of a decimal

The scale of a decimal field is a parameter of its schema, and so any text at all. Oracle's type for
the field has the scale in it as a number, written without a sign and without zeros in front. So the
text is read and the number is written again, and the two texts are not the same in general: `+007`
is a scale, and the type has a 7 in it.

## What is read

The spellings of a scale are said apart from the reader. A plus may stand in front, and behind it
come digits and nothing else. Zeros in front are digits like others, so there is no longest
spelling; it is the number that has to fit into 32 bits.

## Parameters set again

A schema is built by setting parameters one after the other, and a parameter may be set more than
once. Only the last setting of the scale is read: an earlier one does not help if the last one is no
number, and does no harm if it is.

## Main definitions

* `Schema.SpellsScale` — the texts that are scales, and which
* `Schema.withParameters` — a schema with parameters set one after the other

## Main results

* `Schema.natOfText?_eq_some_iff` — reading a scale
* `Schema.get?_withParameters` — the parameters of a schema that was built
* `Dialect.columnType_decimal_iff` — Oracle's type for a decimal field
-/

namespace SqlDialect

namespace Schema

variable {s : Schema} {text digits : Text} {scale : Nat}

/-! ### Reading a scale -/

/-- `text` spells `scale`: digits, at least one, behind a plus or nothing, and the number fits into
32 bits. -/
def SpellsScale (text : Text) (scale : Nat) : Prop :=
  ∃ digits, (text = digits ∨ text = '+' :: digits) ∧ digits ≠ [] ∧
    (∀ c ∈ digits, c.isDigit = true) ∧ Digits.value digits = scale ∧ scale ≤ 4294967295

/-- A row of digits is read as its value, if that fits. -/
theorem valueOfRow_eq_some_iff :
    (if !digits.isEmpty && digits.all Char.isDigit && Digits.value digits < Nat.pow 2 32 then
        some (Digits.value digits) else none) = some scale ↔
      digits ≠ [] ∧ (∀ c ∈ digits, c.isDigit = true) ∧ Digits.value digits = scale ∧
        scale ≤ 4294967295 := by
  have hbound (n : Nat) : n < Nat.pow 2 32 ↔ n ≤ 4294967295 := Nat.lt_succ_iff
  simp only [hbound, Bool.and_eq_true, Bool.not_eq_true', List.isEmpty_eq_false_iff,
    List.all_eq_true, decide_eq_true_eq, and_assoc]
  constructor
  · intro h
    split at h
    · next hrow =>
      obtain rfl := Option.some.inj h
      exact ⟨hrow.1, hrow.2.1, rfl, hrow.2.2⟩
    · exact absurd h (Option.some_ne_none scale).symm
  · rintro ⟨hne, hdigits, rfl, hfits⟩
    rw [if_pos ⟨hne, hdigits, hfits⟩]

/-- **Reading a scale**: the texts that are read are the spellings. -/
theorem natOfText?_eq_some_iff : natOfText? text = some scale ↔ SpellsScale text scale := by
  unfold natOfText?
  split
  · next rest =>
    refine valueOfRow_eq_some_iff.trans ⟨fun h => ⟨rest, .inr rfl, h⟩, ?_⟩
    rintro ⟨digits, rfl | hrest, h⟩
    · -- A plus is no digit.
      exact absurd (h.2.1 '+' List.mem_cons_self) (by decide)
    · rw [(List.cons.inj hrest).2]
      exact h
  · next hplus =>
    refine valueOfRow_eq_some_iff.trans ⟨fun h => ⟨text, .inl rfl, h⟩, ?_⟩
    rintro ⟨digits, rfl | rfl, h⟩
    · exact h
    · exact absurd rfl (hplus digits)

/-- What is written for a scale spells it. -/
theorem spellsScale_ofNat (h : scale ≤ 4294967295) : SpellsScale (Digits.ofNat scale) scale :=
  ⟨_, .inl rfl, Digits.ofNat_ne_nil scale, fun _ => Digits.isDigit_of_mem_ofNat,
    Digits.value_ofNat scale, h⟩

theorem decimalScale?_eq_some_iff : s.decimalScale? = some scale ↔
    ∃ text, s.parameters.get? scaleKey = some text ∧ SpellsScale text scale := by
  simp only [decimalScale?, Option.bind_eq_some_iff, natOfText?_eq_some_iff]

theorem decimalScale?_decimal (h : scale ≤ 4294967295) :
    (decimal scale).decimalScale? = some scale :=
  decimalScale?_eq_some_iff.mpr ⟨Digits.ofNat scale, rfl, spellsScale_ofNat h⟩

/-! ### Building a schema -/

/-- The schema with parameters set one after the other. -/
def withParameters (s : Schema) (settings : List (Text × Text)) : Schema :=
  settings.foldl (fun s (key, value) => s.withParameter key value) s

/-- Setting parameters changes nothing else. -/
theorem withParameters_eq (s : Schema) (settings : List (Text × Text)) :
    s.withParameters settings
      = { s with
          parameters := settings.foldl (fun entries (key, value) => Keyed.insert key value entries)
            s.parameters } := by
  induction settings generalizing s with
  | nil => rfl
  | cons setting settings ih => exact ih (s.withParameter setting.1 setting.2)

/-- **The last setting of a parameter counts**, and without one what was set before. -/
theorem get?_withParameters (s : Schema) (settings : List (Text × Text)) (key : Text) :
    (s.withParameters settings).parameters.get? key
      = (Keyed.last? settings key).or (s.parameters.get? key) := by
  rw [withParameters_eq]
  exact Keyed.get?_foldl_insert settings s.parameters key

/-- Settings of the scale before the last one are not read. -/
theorem decimalScale?_withParameters {settings : List (Text × Text)}
    (h : Keyed.last? settings scaleKey = some text) (s : Schema) :
    (s.withParameters settings).decimalScale?
      = (s.withParameter scaleKey text).decimalScale? := by
  have honly : (s.withParameter scaleKey text).parameters.get? scaleKey = some text :=
    Keyed.get?_insert_self s.parameters scaleKey text
  rw [decimalScale?, decimalScale?, get?_withParameters, h, honly, Option.some_or]

end Schema

namespace Dialect

open Schema

variable {d : Dialect} {f : Field}

/-! ### The type of the column -/

/-- Oracle's type for a decimal field has the scale in it, and there is none without. -/
theorem columnType_decimal (hvendor : d.vendor = .oracle)
    (hdecimal : f.schema.logical = some .decimal) :
    d.columnType f = match f.schema.decimalScale? with
      | some scale => .ok ("NUMBER(*," ++ Digits.ofNat scale ++ ")")
      | none => .error (.scaleMissing f.name) := by
  rw [columnType, hvendor, Vendor.columnType?, Field.oracleType?, hdecimal]
  simp only [Field.oracleLogicalType]
  cases f.schema.decimalScale? with
  | some scale => rfl
  | none => rfl

/-- **Oracle's type for a decimal field.** There is a type if and only if the parameter spells a
scale, and then the scale is in it, without zeros in front; otherwise the error names the field, and
so it does without the parameter. Of several settings of the parameter the last one decides. The
schema of decimals of a given scale has the type with that scale. -/
theorem columnType_decimal_iff (hvendor : d.vendor = .oracle) (f : Field)
    (hdecimal : f.schema.logical = some .decimal) :
    (∀ type, d.columnType f = .ok type ↔
      ∃ text scale digits, f.schema.parameters.get? scaleKey = some text ∧
        SpellsScale text scale ∧ Digits.Canonical digits ∧ Digits.value digits = scale ∧
        type = "NUMBER(*," ++ digits ++ ")") ∧
    (∀ e, d.columnType f = .error e ↔
      e = .scaleMissing f.name ∧ ¬ ∃ text scale, f.schema.parameters.get? scaleKey = some text ∧
        SpellsScale text scale) ∧
    (∀ settings text, Keyed.last? settings scaleKey = some text →
      d.columnType { f with schema := f.schema.withParameters settings }
        = d.columnType { f with schema := f.schema.withParameter scaleKey text }) ∧
    ∀ scale ≤ 4294967295, d.columnType { f with schema := .decimal scale }
      = .ok ("NUMBER(*," ++ Digits.ofNat scale ++ ")") := by
  have htype := columnType_decimal hvendor hdecimal
  refine ⟨fun type => ?_, fun e => ?_, fun settings text hlast => ?_, fun scale hscale => ?_⟩
  · rw [htype]
    constructor
    · intro h
      cases hscale : f.schema.decimalScale? with
      | none => simp [hscale] at h
      | some scale =>
        obtain ⟨text, htext, hspells⟩ := decimalScale?_eq_some_iff.mp hscale
        rw [hscale] at h
        exact ⟨text, scale, Digits.ofNat scale, htext, hspells, Digits.canonical_ofNat scale,
          Digits.value_ofNat scale, (Except.ok.inj h).symm⟩
    · rintro ⟨text, scale, digits, htext, hspells, hcanonical, hvalue, rfl⟩
      rw [decimalScale?_eq_some_iff.mpr ⟨text, htext, hspells⟩]
      simp only [Digits.ofNat_eq_iff.mpr ⟨hcanonical, hvalue⟩]
  · have hspelled : (∃ text scale, f.schema.parameters.get? scaleKey = some text ∧
        SpellsScale text scale) ↔ ∃ scale, f.schema.decimalScale? = some scale := by
      simp only [decimalScale?_eq_some_iff]
      exact exists_comm
    rw [htype, hspelled]
    cases f.schema.decimalScale? with
    | some scale => simp
    | none => simp [eq_comm]
  · have hset : (f.schema.withParameters settings).logical = some .decimal := by
      rw [withParameters_eq]
      exact hdecimal
    have honly : (f.schema.withParameter scaleKey text).logical = some .decimal := hdecimal
    have hall := columnType_decimal (f := ⟨f.name, f.schema.withParameters settings, f.isKey⟩)
      hvendor hset
    have hone := columnType_decimal (f := ⟨f.name, f.schema.withParameter scaleKey text, f.isKey⟩)
      hvendor honly
    rw [hall, hone, decimalScale?_withParameters hlast]
  · rw [columnType_decimal hvendor rfl, decimalScale?_decimal hscale]

/-- A plus and zeros in front are passed over, a number of 33 bits that is set last is refused, and
the largest of 32 bits is not. -/
theorem columnType_decimal_iff_amount :
    (oracle {}).columnType ⟨"amount",
        { kind := .bytes, logical := some .decimal, parameters := [("scale", "+007")] }, false⟩
      = .ok "NUMBER(*,7)" ∧
    (oracle {}).columnType ⟨"amount",
        Schema.withParameters { kind := .bytes, logical := some .decimal }
          [("scale", "2"), ("unit", "EUR"), ("scale", "4294967296")], false⟩
      = .error (.scaleMissing "amount") ∧
    (oracle {}).columnType ⟨"amount", .decimal 4294967295, false⟩ = .ok "NUMBER(*,4294967295)" := by
  obtain ⟨htype, -, -, -⟩ := columnType_decimal_iff (d := oracle {}) rfl ⟨"amount",
    { kind := .bytes, logical := some .decimal, parameters := [("scale", "+007")] }, false⟩ rfl
  obtain ⟨-, -, hlast, hdecimal⟩ := columnType_decimal_iff (d := oracle {}) rfl
    ⟨"amount", { kind := .bytes, logical := some .decimal }, false⟩ rfl
  obtain ⟨-, herror, -, -⟩ := columnType_decimal_iff (d := oracle {}) rfl ⟨"amount",
    Schema.withParameter { kind := .bytes, logical := some .decimal } scaleKey "4294967296",
    false⟩ rfl
  refine ⟨(htype _).mpr ⟨"+007", 7, "7", rfl, ?_, ⟨by decide, by simp, by decide⟩, rfl, rfl⟩,
    ?_, hdecimal 4294967295 (by decide)⟩
  · exact ⟨"007", .inr rfl, by decide, by simp, rfl, by decide⟩
  · refine (hlast _ "4294967296" rfl).trans ((herror _).mpr ⟨rfl, ?_⟩)
    rintro ⟨text, scale, htext, hspells⟩
    obtain rfl : "4294967296" = text := Option.some.inj htext
    have hnone : natOfText? "4294967296" = none := by decide
    exact absurd (hnone.symm.trans (natOfText?_eq_some_iff.mpr hspells)) (by simp)

end Dialect

end SqlDialect
