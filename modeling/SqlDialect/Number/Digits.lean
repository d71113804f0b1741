import SqlDialect.Text.Basic

/-!
# Decimal digits

Whole numbers as decimal text and back. Writing gives no sign for zero and above, no leading
zero and at least one digit; `padded` adds zeros on the left up to a width.

## Main definitions

* `Digits.ofNat`, `Digits.ofInt` — a number as text
* `Digits.padded` — a number with at least a given count of digits
* `Digits.value` — the number a row of digits stands for
* `Digits.hex` — a byte as two hexadecimal digits
-/

namespace SqlDialect

namespace Digits

/-! ### Writing -/

/-- `n` in decimal. -/
def ofNat (n : Nat) : Text := Nat.toDigits 10 n

/-- `n` in decimal, with `-` in front when it is negative. -/
def ofInt (n : Int) : Text :=
  if n < 0 then '-' :: ofNat n.natAbs else ofNat n.natAbs

/-- `n` in decimal, with zeros in front up to `width` digits. -/
def padded (width n : Nat) : Text :=
  List.replicate (width - (ofNat n).length) '0' ++ ofNat n

/-- The hexadecimal digit of a number below sixteen; `letterBase` is the code of the letter that
stands for ten. -/
def hexDigit (letterBase n : Nat) : Char :=
  if n < 10 then Char.ofNat ('0'.toNat + n) else Char.ofNat (letterBase + (n - 10))

/-- The two upper-case hexadecimal digits of a byte, high half first. -/
def hexUpper (byte : UInt8) : Text :=
  [hexDigit 'A'.toNat (byte.toNat / 16), hexDigit 'A'.toNat (byte.toNat % 16)]

/-! ### Reading -/

/-- The number one digit stands for. -/
def digitValue (c : Char) : Nat := c.toNat - '0'.toNat

/-- The number a row of digits stands for; zero for none. -/
def value (digits : Text) : Nat := digits.foldl (fun n c => 10 * n + digitValue c) 0

@[simp] theorem value_nil : value [] = 0 := rfl

/-- The digits a text starts with, at most `limit` of them, and the rest. -/
def takeUpTo : Nat → Text → Text × Text
  | 0, text => ([], text)
  | _, [] => ([], [])
  | limit + 1, c :: rest =>
    if c.isDigit then
      let (digits, after) := takeUpTo limit rest
      (c :: digits, after)
    else ([], c :: rest)

/-- Taking digits loses nothing. -/
theorem takeUpTo_append (limit : Nat) (text : Text) :
    (takeUpTo limit text).1 ++ (takeUpTo limit text).2 = text := by
  induction limit generalizing text with
  | zero => rfl
  | succ limit ih =>
    cases text with
    | nil => rfl
    | cons c rest =>
      by_cases h : c.isDigit <;> simp [takeUpTo, h, ih]

end Digits

end SqlDialect
