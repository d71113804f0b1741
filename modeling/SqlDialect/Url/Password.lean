import SqlDialect.Text.Basic

/-!
# Passwords in parameters

The parameters of an address stand behind a question mark, an ampersand or a semicolon. A parameter
whose key contains the word *password*, in whatever case, has its value replaced by four stars, so
that not even the length of a password is seen. The long s counts as an s.

## One pass

A value ends at the next ampersand or semicolon. The address is passed once, and at each character
it is known whether it stands in the key or in the value of such a parameter, or elsewhere. The
decision falls at the character before the key: it looks ahead to the equals sign.

What the pass carries out is a replacement. From left to right, every match of
`([?&;][^=&;]*password[^=&;]*=)[^&;]*`, in whatever case, becomes what is in parentheses and four
stars.

## Main definitions

* `PasswordMask.apply` — an address with its passwords masked
-/

namespace SqlDialect

/-- What stands in the place of a password. -/
def stars : Text := "****"

namespace PasswordMask

/-- Where a character stands. -/
inductive Place where
  /-- In no parameter with a password. -/
  | elsewhere
  /-- In the key of one. -/
  | key
  /-- In the value of one. -/
  | value
  deriving DecidableEq

/-- Whether a parameter starts behind `c`. -/
def opens (c : Char) : Bool := c == '?' || c == '&' || c == ';'

/-- Whether `c` ends the value of a parameter. -/
def closes (c : Char) : Bool := c == '&' || c == ';'

/-- A letter in lower case; the long s is an s. -/
def foldLetter (c : Char) : Char := if c = 'ſ' then 's' else c.toLower

/-- Whether the word is in a key. -/
def namesPassword (key : Text) : Bool := Text.occursIn "password" (key.map foldLetter)

/-- Whether a text starts with the key of a password and an equals sign. -/
def secretAhead (text : Text) : Bool :=
  let inKey := fun c => c != '=' && !closes c
  namesPassword (text.takeWhile inKey) && (text.dropWhile inKey).head? == some '='

/-- The rest of an address when its first character stands at `place`. -/
def applyFrom : Place → Text → Text
  | _, [] => []
  | .key, c :: rest =>
    if c = '=' then c :: stars ++ applyFrom .value rest else c :: applyFrom .key rest
  | .value, c :: rest =>
    if closes c then c :: applyFrom (if secretAhead rest then .key else .elsewhere) rest
    else applyFrom .value rest
  | .elsewhere, c :: rest =>
    c :: applyFrom (if opens c && secretAhead rest then .key else .elsewhere) rest

/-- `url` with its passwords masked: every match of `([?&;][^=&;]*password[^=&;]*=)[^&;]*`, in
whatever case, is replaced by what is in parentheses and four stars. -/
def apply (url : Text) : Text := applyFrom .elsewhere url

example : apply "db/app?trustStorePassword=x&a=1" = "db/app?trustStorePassword=****&a=1" := by
  decide

end PasswordMask

end SqlDialect
