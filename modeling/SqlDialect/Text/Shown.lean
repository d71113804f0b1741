import SqlDialect.Number.Digits
import SqlDialect.Text.Hidden

/-!
# A text shown to a reader

In messages a text can be shown so that every character of it is visible: in double quotes, with
the quote and the backslash escaped, and with the hidden characters as numbers in braces.

## Main definitions

* `Text.shown` — a text in quotes with its escapes
-/

namespace SqlDialect

namespace Text

/-- The hexadecimal digits of a number, in lower case. -/
def hexDigits (n : Nat) : Text := Nat.toDigits 16 n

/-- One character as it is shown inside double quotes. -/
def shownChar (c : Char) : Text :=
  if c = '\x00' then "\\0"
  else if c = '\t' then "\\t"
  else if c = '\r' then "\\r"
  else if c = '\n' then "\\n"
  else if c = '"' ∨ c = '\\' then ['\\', c]
  else if isHidden c then '\\' :: 'u' :: '\x7b' :: hexDigits c.toNat ++ ['\x7d']
  else [c]

/-- `text` in double quotes, every character visible. -/
def shown (text : Text) : Text := '"' :: text.flatMap shownChar ++ ['"']

example : shown "a\"\n" = "\"a\\\"\\n\"" := by decide

end Text

end SqlDialect
