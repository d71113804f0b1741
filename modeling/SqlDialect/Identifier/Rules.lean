import SqlDialect.Error

/-!
# Rules for written names

A written name is made of parts with a separator between them. A part is bare, the text up to the
next separator, or quoted. Inside quotes everything is allowed, and the close quote itself is
written twice. The three marks are any texts; open and close quote may be equal.

## Reading

`Rules.readQuoted` reads the inside of a quoted part. Where the close quote comes it looks once
more: a second one makes a literal quote, anything else ends the part. `pending` counts characters
of a quote that was already recognised and only has to be passed.

`Rules.parts?` reads one part after the other. What is left gets shorter with each part, so the
length of the text bounds the number of parts.

## Main definitions

* `Rules` — separator, open quote and close quote; `Rules.ansi` the usual ones
* `Rules.quote` — one name in quotes
* `Rules.parseQualified` — the parts of a written name
-/

namespace SqlDialect

/-- How names are written. -/
structure Rules where
  /-- The mark between the parts of a name. -/
  separator : Text
  /-- The mark that opens a quoted part. -/
  openQuote : Text
  /-- The mark that closes a quoted part. -/
  closeQuote : Text
  deriving DecidableEq

namespace Rules

/-- A dot between parts, double quotes around them. -/
def ansi : Rules := ⟨".", "\"", "\""⟩

/-! ### Writing -/

/-- `name` in quotes, each close quote in it written twice. -/
def quote (rules : Rules) (name : Text) : Text :=
  rules.openQuote ++ Text.doubled rules.closeQuote name ++ rules.closeQuote

/-! ### Reading -/

/-- The name inside quotes and the text after the close quote; nothing if it does not come.
`pending` characters in front belong to a quote that was already recognised. -/
def readQuoted (close : Text) : (pending : Nat) → Text → Option (Text × Text)
  | _, [] => none
  | pending + 1, _ :: rest => readQuoted close pending rest
  | 0, c :: rest =>
    match Text.after? close (c :: rest) with
    | none => (readQuoted close 0 rest).map fun (name, after) => (c :: name, after)
    | some after =>
      if close.isPrefixOf after then
        (readQuoted close (2 * close.length - 1) rest).map fun (name, after) =>
          (close ++ name, after)
      else some ([], after)

/-- The characters of a recognised quote are passed. -/
theorem readQuoted_append (close recognised rest : Text) :
    readQuoted close recognised.length (recognised ++ rest) = readQuoted close 0 rest := by
  induction recognised with
  | nil => rfl
  | cons c recognised ih => exact ih

/-- A character with which no close quote starts belongs to the name. -/
theorem readQuoted_cons_of_unclosed {close rest : Text} {c : Char} (h : ¬ close <+: c :: rest) :
    readQuoted close 0 (c :: rest)
      = (readQuoted close 0 rest).map fun (name, after) => (c :: name, after) := by
  have elsewhere : Text.after? close (c :: rest) = none := by
    cases found : Text.after? close (c :: rest) with
    | none => rfl
    | some after => exact absurd ⟨after, (Text.after?_eq_some_iff.mp found).symm⟩ h
  simp only [readQuoted, elsewhere]

/-- Two close quotes are one literal quote. -/
theorem readQuoted_pair {close : Text} (marked : close ≠ []) (rest : Text) :
    readQuoted close 0 (close ++ close ++ rest)
      = (readQuoted close 0 rest).map fun (name, after) => (close ++ name, after) := by
  cases close with
  | nil => exact absurd rfl marked
  | cons m close =>
    have pair : 2 * (m :: close).length - 1 = (close ++ m :: close).length := by
      simp only [List.length_cons, List.length_append]
      omega
    have first : Text.after? (m :: close) (m :: (close ++ m :: close ++ rest))
        = some (m :: close ++ rest) :=
      Text.after?_eq_some_iff.mpr (by simp)
    have second : (m :: close).isPrefixOf (m :: (close ++ rest)) = true := by simp
    simp only [List.cons_append, readQuoted, first, second, if_true, pair]
    rw [readQuoted_append]

/-- A single close quote ends the name. -/
theorem readQuoted_close {close after : Text} (marked : close ≠ []) (h : ¬ close <+: after) :
    readQuoted close 0 (close ++ after) = some ([], after) := by
  cases close with
  | nil => exact absurd rfl marked
  | cons m close =>
    have first : Text.after? (m :: close) (m :: (close ++ after)) = some after :=
      Text.after?_eq_some_iff.mpr (by simp)
    have single : ¬ (m :: close).isPrefixOf after = true := by simpa using h
    simp only [List.cons_append, readQuoted, first, if_neg single]

/-- The rest of a name after a separator, which may not be empty. -/
def afterSeparator? (rules : Rules) (text : Text) : Option Text :=
  match Text.after? rules.separator text with
  | some [] => none
  | other => other

theorem afterSeparator?_eq_some_iff {rules : Rules} {text next : Text} :
    rules.afterSeparator? text = some next ↔ text = rules.separator ++ next ∧ next ≠ [] := by
  rw [← Text.after?_eq_some_iff, afterSeparator?]
  cases Text.after? rules.separator text with
  | none => simp
  | some found =>
    cases found with
    | nil => simp
    | cons c found => simpa using fun h => h ▸ List.cons_ne_nil c found

@[simp] theorem afterSeparator?_append (rules : Rules) {next : Text} (h : next ≠ []) :
    rules.afterSeparator? (rules.separator ++ next) = some next :=
  afterSeparator?_eq_some_iff.mpr ⟨rfl, h⟩

/-- The parts of a text that is not empty, of which there are fewer than `fuel`. -/
def parts? (rules : Rules) : (fuel : Nat) → Text → Option (List Text)
  | 0, _ => none
  | fuel + 1, text =>
    match (if rules.openQuote.isEmpty then none else Text.after? rules.openQuote text) with
    | some body => do
      let (name, after) ← readQuoted rules.closeQuote 0 body
      if after.isEmpty then some [name]
      else
        let next ← rules.afterSeparator? after
        let names ← parts? rules fuel next
        some (name :: names)
    | none =>
      match Text.splitOnce rules.separator text with
      | none => some [text]
      | some (_, []) => none
      | some (name, next) => (parts? rules fuel next).map (name :: ·)

/-- A text that starts with an open quote starts with a quoted part. -/
theorem parts?_openQuote_append {rules : Rules} (h : rules.openQuote ≠ []) (fuel : Nat)
    (body : Text) :
    rules.parts? (fuel + 1) (rules.openQuote ++ body)
      = (readQuoted rules.closeQuote 0 body).bind fun (name, after) =>
          if after.isEmpty then some [name]
          else (rules.afterSeparator? after).bind fun next =>
            (rules.parts? fuel next).map (name :: ·) := by
  have opened : rules.openQuote.isEmpty = false := by simpa using h
  simp only [parts?, opened, Bool.false_eq_true, if_false, Text.after?_append, Option.map_eq_bind]
  rfl

/-- The parts of a written name. A text is refused that is empty, leaves a quote open, goes on after
a close quote without a separator, or ends in a separator. -/
def parseQualified (rules : Rules) (text : Text) : Except Error (List Text) :=
  match (if text.isEmpty then none else rules.parts? (text.length + 1) text) with
  | some names => .ok names
  | none => .error (.invalidIdentifier text)

example : ansi.quote "a\"b" = "\"a\"\"b\"" := by decide

example : ansi.parseQualified "\"my.schema\".orders"
    = .ok ["my.schema", "orders"] := rfl

end Rules

end SqlDialect
