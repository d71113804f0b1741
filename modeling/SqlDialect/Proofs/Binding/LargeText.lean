import SqlDialect.Proofs.Binding.Payload

/-!
# Large texts

A text for a column of large texts is handed to Oracle as a stream. On the way it becomes bytes, and
what is bound is what the driver reads from them; the length that goes with it was counted before,
on the text. The two fit together because reading gives the text back, whatever characters are in
it: what is counted are characters, and not the bytes they take.

## No threshold

A profile may have no threshold, and only upserts look at it: in the other modes there is none. Then
every text goes with its length. The same could be had with a threshold so high that no text gets
there, and for shorter texts it makes no difference which of the two it is.

A column in the national character set takes the same stream, and no length in any mode.

## Main definitions

* `Profile.thresholdFor?` — the threshold of a mode

## Main results

* `lengthHint_of_lt` — a limit that no text reaches in the place of no threshold
* `Dialect.bindField_largeText` — what is bound for a text in a column of large texts
-/

namespace SqlDialect

/-! ### The length -/

/-- The length from which on texts go without a length, when rows are written in a mode. -/
def Profile.thresholdFor? (profile : Profile) : InsertMode → Option Nat
  | .upsert => profile.streamThreshold
  | .insert | .update => none

theorem Profile.thresholdFor?_eq_some_iff {profile : Profile} {mode : InsertMode}
    {threshold : Nat} :
    profile.thresholdFor? mode = some threshold ↔
      mode = .upsert ∧ profile.streamThreshold = some threshold := by
  cases mode <;> simp [thresholdFor?]

variable {profile : Profile} {config : Config} {text : Text}

/-- Without a threshold, and below it, the length is told. -/
theorem lengthHint_eq (profile : Profile) (config : Config) (text : Text) :
    lengthHint profile config text
      = match profile.thresholdFor? config.insertMode with
        | some threshold => if text.length < threshold then some text.length else none
        | none => some text.length := by
  rw [lengthHint]
  cases config.insertMode with
  | upsert =>
    cases hthreshold : profile.streamThreshold <;> simp [Profile.thresholdFor?, hthreshold]
  | insert => rfl
  | update => rfl

/-- **A limit that no text reaches does in the place of no threshold.** -/
theorem lengthHint_of_lt {limit : Nat} (h : text.length < limit) :
    lengthHint profile config text
      = if text.length < (profile.thresholdFor? config.insertMode).getD limit
        then some text.length else none := by
  rw [lengthHint_eq]
  cases profile.thresholdFor? config.insertMode with
  | some threshold => rfl
  | none => rw [Option.getD_none, if_pos h]

theorem lengthHint_eq_none (hmode : config.insertMode = .upsert) {threshold : Nat}
    (hthreshold : profile.streamThreshold = some threshold) (hlong : threshold ≤ text.length) :
    lengthHint profile config text = none := by
  rw [lengthHint_eq, Profile.thresholdFor?_eq_some_iff.mpr ⟨hmode, hthreshold⟩]
  exact if_neg (Nat.not_lt.mpr hlong)

theorem lengthHint_eq_some (h : ¬ (config.insertMode = .upsert ∧
      ∃ threshold, profile.streamThreshold = some threshold ∧ threshold ≤ text.length)) :
    lengthHint profile config text = some text.length := by
  rw [lengthHint_eq]
  cases heffect : profile.thresholdFor? config.insertMode with
  | none => rfl
  | some threshold =>
    obtain ⟨hmode, hthreshold⟩ := Profile.thresholdFor?_eq_some_iff.mp heffect
    exact if_pos (Nat.not_le.mp fun hlong => h ⟨hmode, threshold, hthreshold, hlong⟩)

/-! ### The call -/

/-- What is read from a stream of a text is the text. -/
theorem BindCall.run_characterStream_ofText (text : Text) (length : Option Nat)
    (nativeFloats : Bool) :
    (characterStream (.ofText text) length).run nativeFloats
      = .ok (.characterStream text length) := by
  rw [run, Stream.text_ofText]

theorem BindCall.run_nationalCharacterStream_ofText (text : Text) (nativeFloats : Bool) :
    (nationalCharacterStream (.ofText text)).run nativeFloats
      = .ok (.nationalCharacterStream text) := by
  rw [run, Stream.text_ofText]

namespace Dialect

variable {d : Dialect} {f : Field} {s : Statement} {index : Nat} {c : Column} {call : BindCall}

/-- A text is not what a logical type says, so Oracle's own call comes first. -/
theorem chooseCall_of_oracleCall? (hvendor : d.vendor = .oracle)
    (hcall : oracleCall? d.profile d.config f.schema.kind c.sqlType (.string text) = some call) :
    d.chooseCall f (some (.string text)) (some c) = .ok call := by
  have hlogical : f.schema.logical.bind (·.call? (.string text)) = none := by
    cases f.schema.logical with
    | none => rfl
    | some logical => cases logical <;> rfl
  have hown : d.vendorCall? f (.string text) (some c) = some call := by
    unfold vendorCall?
    rw [hvendor]
    exact hcall
  rw [chooseCall, chooseValueCall, hlogical, hown, Option.none_or]

/-- Such a call binds once, at a parameter that is not refused. -/
theorem bindField_of_oracleCall? (hvendor : d.vendor = .oracle) (hfree : s.refusal? index = none)
    {bound : Bound}
    (hcall : oracleCall? d.profile d.config f.schema.kind c.sqlType (.string text) = some call)
    (hrun : call.run s.nativeFloats = .ok bound) :
    d.bindField s index f (some (.string text)) (some c) = .ok (s.push index bound) :=
  bindField_of_outcome_ok
    (outcome_eq_ok_iff.mpr ⟨call, chooseCall_of_oracleCall? hvendor hcall, hrun, hfree⟩)

/-- **What is bound for a text in a column of large texts** is the text that was read from the
stream. It goes with the count of its characters, unless the mode is upsert, the profile has a
threshold and the text reaches it: then it goes without. In the national character set there is
never a length. -/
theorem bindField_largeText (hvendor : d.vendor = .oracle) (hfree : s.refusal? index = none)
    (hkind : f.schema.kind = .string) (c : Column) (text : Text) :
    (c.sqlType = .clob → ∃ length,
      d.bindField s index f (some (.string text)) (some c)
        = .ok { s with bindings := s.bindings ++ [(index, .characterStream text length)] } ∧
      (d.config.insertMode = .upsert ∧
          (∃ threshold, d.profile.streamThreshold = some threshold ∧ threshold ≤ text.length) →
        length = none) ∧
      (¬ (d.config.insertMode = .upsert ∧
          ∃ threshold, d.profile.streamThreshold = some threshold ∧ threshold ≤ text.length) →
        length = some text.length)) ∧
    (c.sqlType = .nClob →
      d.bindField s index f (some (.string text)) (some c)
        = .ok { s with bindings := s.bindings ++ [(index, .nationalCharacterStream text)] }) := by
  refine ⟨fun hclob => ⟨lengthHint d.profile d.config text, ?_, ?_, lengthHint_eq_some⟩,
    fun hnClob => ?_⟩
  · have hcall : oracleCall? d.profile d.config f.schema.kind c.sqlType (.string text)
        = some (.characterStream (.ofText text) (lengthHint d.profile d.config text)) := by
      rw [hkind, hclob]
      rfl
    exact bindField_of_oracleCall? hvendor hfree hcall
      (BindCall.run_characterStream_ofText text _ _)
  · rintro ⟨hmode, threshold, hthreshold, hlong⟩
    exact lengthHint_eq_none hmode hthreshold hlong
  · have hcall : oracleCall? d.profile d.config f.schema.kind c.sqlType (.string text)
        = some (.nationalCharacterStream (.ofText text)) := by
      rw [hkind, hnClob]
      rfl
    exact bindField_of_oracleCall? hvendor hfree hcall
      (BindCall.run_nationalCharacterStream_ofText text _)

/-- A dialect with Oracle's own rules and a threshold of four characters. -/
def withShortThreshold (mode : InsertMode) : Dialect where
  profile := { Profile.oracle with streamThreshold := some 4 }
  vendor := .oracle
  config := { sink := some { insertMode := mode } }

/-- In upserts three characters go with their length and four go without, however many bytes they
take; in inserts four go with it, and in the national character set none do. -/
theorem bindField_largeText_umlauts :
    (withShortThreshold .upsert).bindField {} 1 ⟨"DOC", { kind := .string }, false⟩
        (some (.string "äöü")) (some { name := "DOC", sqlType := .clob, typeName := "CLOB" })
      = .ok { bindings := [(1, .characterStream "äöü" (some 3))] } ∧
    (withShortThreshold .upsert).bindField {} 1 ⟨"DOC", { kind := .string }, false⟩
        (some (.string "äöüß")) (some { name := "DOC", sqlType := .clob, typeName := "CLOB" })
      = .ok { bindings := [(1, .characterStream "äöüß" none)] } ∧
    (withShortThreshold .insert).bindField {} 1 ⟨"DOC", { kind := .string }, false⟩
        (some (.string "äöüß")) (some { name := "DOC", sqlType := .clob, typeName := "CLOB" })
      = .ok { bindings := [(1, .characterStream "äöüß" (some 4))] } ∧
    (withShortThreshold .upsert).bindField {} 1 ⟨"DOC", { kind := .string }, false⟩
        (some (.string "äöüß")) (some { name := "DOC", sqlType := .nClob, typeName := "NCLOB" })
      = .ok { bindings := [(1, .nationalCharacterStream "äöüß")] } := by
  have hclob (mode : InsertMode) (text : Text) :=
    (@bindField_largeText (withShortThreshold mode) ⟨"DOC", { kind := .string }, false⟩ {} 1 rfl rfl
      rfl { name := "DOC", sqlType := .clob, typeName := "CLOB" } text).1 rfl
  have hreached : ∃ threshold,
      (withShortThreshold .upsert).profile.streamThreshold = some threshold ∧
        threshold ≤ ("äöüß" : Text).length := ⟨4, rfl, by decide⟩
  have hbelow : ¬ ∃ threshold,
      (withShortThreshold .upsert).profile.streamThreshold = some threshold ∧
        threshold ≤ ("äöü" : Text).length := by
    rintro ⟨threshold, hthreshold, hlong⟩
    obtain rfl : 4 = threshold := Option.some.inj hthreshold
    exact absurd hlong (by decide)
  refine ⟨?_, ?_, ?_, (bindField_largeText rfl rfl rfl _ _).2 rfl⟩
  · obtain ⟨length, hbind, -, htold⟩ := hclob .upsert "äöü"
    exact htold (fun h => hbelow h.2) ▸ hbind
  · obtain ⟨length, hbind, hnone, -⟩ := hclob .upsert "äöüß"
    exact hnone ⟨rfl, hreached⟩ ▸ hbind
  · obtain ⟨length, hbind, -, htold⟩ := hclob .insert "äöüß"
    exact htold (fun h => absurd h.1 (by decide)) ▸ hbind

end Dialect

end SqlDialect
