import SqlDialect.Json.Number

/-!
# Reading JSON

A value is read from the front of a text and given with the rest of it. Reading is strict: no
control characters in texts, no commas before a closing bracket, no halves of surrogate pairs.
Brackets may be nested `maxDepth` deep.

`fuel` bounds how deep the readers call each other. Every bracket is paid for by the bracket that
closes it and every further item by its comma, so a value of `n` characters never needs more than
`n`: a reader started with the length of the text never runs out on a text that can be read.

## Main definitions

* `Json.string?` — a text behind its opening quote
* `Json.value?` — any value
* `Json.members?` — the members of an object behind its bracket
* `Json.glimpse?` — what a message says of a value that is not read to its end
-/

namespace SqlDialect

namespace Json

/-- How deep brackets may be nested. -/
def maxDepth : Nat := 127

/-- Whether `c` may stand between the parts of a value. -/
def isSpace (c : Char) : Bool := c == ' ' || c == '\n' || c == '\t' || c == '\r'

/-- `text` without the space it starts with. -/
def skipSpace (text : Text) : Text := text.dropWhile isSpace

/-! ### Texts -/

/-- The number of one hexadecimal digit. -/
def hexValue? (c : Char) : Option Nat :=
  if c.isDigit then some (c.toNat - '0'.toNat)
  else if 'a' ≤ c ∧ c ≤ 'f' then some (c.toNat - 'a'.toNat + 10)
  else if 'A' ≤ c ∧ c ≤ 'F' then some (c.toNat - 'A'.toNat + 10)
  else none

/-- The number of four hexadecimal digits. -/
def hexUnit? (a b c d : Char) : Option Nat := do
  let a ← hexValue? a
  let b ← hexValue? b
  let c ← hexValue? c
  let d ← hexValue? d
  return 4096 * a + 256 * b + 16 * c + d

/-- The character behind a backslash, other than by number. -/
def escaped? : Char → Option Char
  | '"' => some '"'
  | '\\' => some '\\'
  | '/' => some '/'
  | 'b' => some '\x08'
  | 'f' => some '\x0c'
  | 'n' => some '\n'
  | 'r' => some '\r'
  | 't' => some '\t'
  | _ => none

/-- Whether a unit is the first half of a pair. -/
def isLeading (unit : Nat) : Bool := 0xD800 ≤ unit && unit < 0xDC00

/-- Whether a unit is the second half of a pair. -/
def isTrailing (unit : Nat) : Bool := 0xDC00 ≤ unit && unit < 0xE000

/-- A text up to its closing quote, and what follows the quote. -/
def string? : Text → Option (Text × Text)
  | '"' :: rest => some ([], rest)
  | '\\' :: 'u' :: a :: b :: c :: d :: rest => do
    let unit ← hexUnit? a b c d
    if isTrailing unit then none
    else if isLeading unit then
      match rest with
      | '\\' :: 'u' :: a :: b :: c :: d :: rest => do
        let second ← hexUnit? a b c d
        if isTrailing second then
          let (text, after) ← string? rest
          some (Char.ofNat (0x10000 + 1024 * (unit - 0xD800) + (second - 0xDC00)) :: text, after)
        else none
      | _ => none
    else
      let (text, after) ← string? rest
      some (Char.ofNat unit :: text, after)
  | '\\' :: c :: rest => do
    let character ← escaped? c
    let (text, after) ← string? rest
    some (character :: text, after)
  | c :: rest =>
    if c.toNat < 0x20 then none
    else (string? rest).map fun (text, after) => (c :: text, after)
  | [] => none

/-! ### Values -/

/-- The word `word` in front of a text, read as `value`. -/
def word? (word : Text) (value : Json) (text : Text) : Option (Json × Text) :=
  (Text.after? word text).map (value, ·)

/-- A key and the colon behind it. -/
def key? (text : Text) : Option (Text × Text) :=
  match text with
  | '"' :: rest => do
    let (key, rest) ← string? rest
    let rest ← Text.after? ":" (skipSpace rest)
    some (key, skipSpace rest)
  | _ => none

mutual

/-- A value that starts the text, with brackets nested at most `depth` deep. -/
def value? : (fuel depth : Nat) → Text → Option (Json × Text)
  | 0, _, _ => none
  | _, _, [] => none
  | fuel + 1, depth, c :: rest =>
    match c with
    | 'n' => word? "null" .null (c :: rest)
    | 't' => word? "true" (.boolean true) (c :: rest)
    | 'f' => word? "false" (.boolean false) (c :: rest)
    | '"' => (string? rest).map fun (text, after) => (.string text, after)
    | '[' =>
      match depth, skipSpace rest with
      | 0, _ => none
      | _ + 1, ']' :: after => some (.array [], after)
      | depth + 1, rest => (items? fuel depth rest).map fun (items, after) => (.array items, after)
    | '\x7b' =>
      match depth with
      | 0 => none
      | depth + 1 => (members? fuel depth rest).map fun (members, after) => (.object members, after)
    | _ => number? (c :: rest)

/-- The items of a list that is not empty, up to its closing bracket. -/
def items? : (fuel depth : Nat) → Text → Option (List Json × Text)
  | 0, _, _ => none
  | fuel + 1, depth, text => do
    let (item, rest) ← value? fuel depth text
    match skipSpace rest with
    | ']' :: after => some ([item], after)
    | ',' :: rest =>
      let (items, after) ← items? fuel depth (skipSpace rest)
      some (item :: items, after)
    | _ => none

/-- The members of an object behind its opening bracket, up to the closing one; of members with
one key the last stays. -/
def members? : (fuel depth : Nat) → Text → Option (Keyed Json × Text)
  | 0, _, _ => none
  | fuel + 1, depth, text =>
    match skipSpace text with
    | '\x7d' :: after => some ([], after)
    | text => (pairs? fuel depth text).map fun (pairs, after) => (Keyed.ofList pairs, after)

/-- The pairs of an object that is not empty, up to its closing bracket, as they are written. -/
def pairs? : (fuel depth : Nat) → Text → Option (List (Text × Json) × Text)
  | 0, _, _ => none
  | fuel + 1, depth, text => do
    let (key, rest) ← key? text
    let (value, rest) ← value? fuel depth rest
    match skipSpace rest with
    | '\x7d' :: after => some ([(key, value)], after)
    | ',' :: rest =>
      let (pairs, after) ← pairs? fuel depth (skipSpace rest)
      some ((key, value) :: pairs, after)
    | _ => none

end

/-- What a message says of the value that starts the text: a list and an object are known by their
bracket, everything else is read. -/
def glimpse? (text : Text) : Option Shape :=
  match text with
  | '[' :: _ => some .array
  | '\x7b' :: _ => some .object
  | _ => (value? (text.length + 1) maxDepth text).map fun (value, _) => value.shape

end Json

end SqlDialect
