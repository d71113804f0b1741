import SqlDialect.Json.Value

/-!
# Reading JSON numbers

A number without a fraction and an exponent that fits 64 bits is a whole number; so is a negative
one down to the least signed number. Every other number is floating, and so is minus zero.

## Floating numbers

The digits are gathered into a significand of 64 bits, the point only lowering a decimal exponent.
Digits that no longer fit are dropped, and before the point each raises the exponent. The
significand is rounded to the floating format and then multiplied or divided once by the power of
ten, itself rounded. Powers beyond `10 ^ 308` are divided out in steps of that size. So a number is
rounded up to three times, and the last digit may differ from the nearest floating number.

A number too large for the format is refused; one too small is zero.

## Main definitions

* `Json.number?` — a number and the rest of the text
-/

namespace SqlDialect

namespace Json

/-! ### Arithmetic of floating numbers

A floating number without its sign is a significand and an exponent of two. -/

/-- A number of the double format without its sign. -/
abbrev Magnitude := Nat × Int

/-- The number of the double format nearest to a fraction. -/
def roundFraction (num den : Nat) : Magnitude := BinaryFormat.double.nearest num den

/-- The significand over the denominator of a magnitude. -/
def asFraction (x : Magnitude) : Nat × Nat := BinaryFormat.scaled x.1 1 x.2

/-- The rounded product. -/
def timesRounded (x y : Magnitude) : Magnitude :=
  let (a, b) := asFraction x
  let (c, d) := asFraction y
  roundFraction (a * c) (b * d)

/-- The rounded quotient. -/
def overRounded (x y : Magnitude) : Magnitude :=
  let (a, b) := asFraction x
  let (c, d) := asFraction y
  roundFraction (a * d) (b * c)

/-- The bits of a magnitude that does not overflow, with a sign. -/
def bitsOf (negative : Bool) (x : Magnitude) : UInt64 :=
  let (significand, exponent) := x
  let format := BinaryFormat.double
  let hidden := Nat.pow 2 format.fractionBits
  let magnitude :=
    if significand < hidden then significand
    else (exponent - format.leastExponent + 1).toNat * hidden + (significand - hidden)
  UInt64.ofNat (magnitude + if negative then Nat.pow 2 63 else 0)

/-- `significand` times a power of ten from `10 ^ 308` downwards, in steps of that size; nothing if
it is too large. `fuel` bounds the steps and is never used up before the number is zero. -/
def scaleByTen (x : Magnitude) : (fuel : Nat) → Int → Option Magnitude
  | 0, _ => some x
  | fuel + 1, power =>
    if 0 ≤ power then
      if power ≤ 308 then
        let product := timesRounded x (roundFraction (Nat.pow 10 power.toNat) 1)
        if BinaryFormat.double.overflows product.1 product.2 then none else some product
      else if x.1 = 0 then some x
      else none
    else if -308 ≤ power then
      some (overRounded x (roundFraction (Nat.pow 10 (-power).toNat) 1))
    else if x.1 = 0 then some x
    else scaleByTen (overRounded x (roundFraction (Nat.pow 10 308) 1)) fuel (power + 308)

/-- The floating number of a significand and a power of ten. -/
def floatingOf? (negative : Bool) (significand : Nat) (power : Int) : Option Json :=
  (scaleByTen (roundFraction significand 1) 4 power).map fun x => .floating (bitsOf negative x)

/-! ### Digits -/

/-- The largest significand. -/
def maxSignificand : Nat := Nat.pow 2 64 - 1

/-- The largest exponent that is not cut off. -/
def maxExponent : Nat := Nat.pow 2 31 - 1

/-- Digits gathered behind `n` as long as the number stays within `limit`: the number, how many
digits were taken and the rest. -/
def gather (limit n : Nat) : Text → Nat × Nat × Text
  | [] => (n, 0, [])
  | c :: rest =>
    if c.isDigit && 10 * n + Digits.digitValue c ≤ limit then
      let (m, count, after) := gather limit (10 * n + Digits.digitValue c) rest
      (m, count + 1, after)
    else (n, 0, c :: rest)

/-- Whether the sign in front of an exponent puts it below zero, and the text behind the sign. -/
def exponentSign : Text → Bool × Text
  | '+' :: rest => (false, rest)
  | '-' :: rest => (true, rest)
  | text => (false, text)

/-- A number with the exponent whose digits start the text; the point has contributed `power`. A
zero stays zero under every exponent, and a negative exponent that is cut off gives zero. -/
def withExponentDigits? (negative : Bool) (significand : Nat) (power : Int) (below : Bool)
    (text : Text) : Option (Json × Text) :=
  let (exponent, count, after) := gather maxExponent 0 text
  if count = 0 then none
  else if (after.head?.map Char.isDigit).getD false then
    if significand = 0 ∨ below then
      some (.floating (bitsOf negative (0, 0)), after.dropWhile Char.isDigit)
    else none
  else
    let power := if below then power - exponent else power + exponent
    (floatingOf? negative significand power).map (·, after)

/-- A number with the exponent behind its mark, if the text starts with one. -/
def withExponent? (negative : Bool) (significand : Nat) (power : Int) (text : Text) :
    Option (Json × Text) :=
  match text with
  | mark :: rest =>
    if mark = 'e' ∨ mark = 'E' then
      let (below, rest) := exponentSign rest
      withExponentDigits? negative significand power below rest
    else (floatingOf? negative significand power).map (·, text)
  | [] => (floatingOf? negative significand power).map (·, text)

/-- The fraction and exponent of a number behind its point. -/
def withFraction? (negative : Bool) (significand : Nat) (power : Int) (text : Text) :
    Option (Json × Text) :=
  if (text.head?.map Char.isDigit).getD false then
    let (m, count, after) := gather maxSignificand significand text
    withExponent? negative m (power - count) (after.dropWhile Char.isDigit)
  else none

/-- A number behind its whole digits, of which `dropped` did not fit. -/
def withWhole? (negative : Bool) (n dropped : Nat) (text : Text) : Option (Json × Text) :=
  match text with
  | '.' :: rest => withFraction? negative n dropped rest
  | _ =>
    if text.head? = some 'e' ∨ text.head? = some 'E' ∨ 0 < dropped then
      withExponent? negative n dropped text
    else if !negative then some (.integer n, text)
    else if 0 < n ∧ n ≤ Nat.pow 2 63 then some (.integer (-(n : Int)), text)
    else (floatingOf? negative n 0).map (·, text)

/-- A number behind its sign. -/
def unsignedNumber? (negative : Bool) (text : Text) : Option (Json × Text) :=
  let leadingZero := text.head? == some '0'
  let (n, count, rest) := gather (if leadingZero then 0 else maxSignificand) 0 text
  if count = 0 ∨ (leadingZero ∧ 1 < count) then none
  else
    let dropped := (rest.takeWhile Char.isDigit).length
    if leadingZero ∧ 0 < dropped then none
    else withWhole? negative n dropped (rest.dropWhile Char.isDigit)

/-- A number and the rest of the text. -/
def number? (text : Text) : Option (Json × Text) :=
  match text with
  | '-' :: rest => unsignedNumber? true rest
  | _ => unsignedNumber? false text

end Json

end SqlDialect
