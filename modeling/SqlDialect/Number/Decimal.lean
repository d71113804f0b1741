import SqlDialect.Number.Digits

/-!
# Decimal numbers

A decimal number is a whole number and a count of decimal places. The count is part of the
number: one and a half with one place and with two places are different values with different
texts.

## Main definitions

* `Decimal` — mantissa and scale
* `Decimal.text` — the number with exactly `scale` places
-/

namespace SqlDialect

/-- The number `mantissa / 10 ^ scale`, with `scale` decimal places. The sign is that of the
mantissa, so there is one zero for each scale: the negative zero of a type that keeps the sign apart
from the digits is not represented. -/
structure Decimal where
  /-- All digits, as a whole number. -/
  mantissa : Int
  /-- How many of the digits stand after the point. -/
  scale : Nat
  deriving DecidableEq

namespace Decimal

/-- The number with exactly `scale` places, and at least one digit before the point. -/
def text (d : Decimal) : Text :=
  let all := Digits.padded (d.scale + 1) d.mantissa.natAbs
  let whole := all.take (all.length - d.scale)
  let fraction := all.drop (all.length - d.scale)
  let magnitude := if d.scale = 0 then all else whole ++ '.' :: fraction
  if d.mantissa < 0 then '-' :: magnitude else magnitude

example : text ⟨12345, 2⟩ = "123.45" := by decide

example : text ⟨-5, 3⟩ = "-0.005" := by decide

end Decimal

end SqlDialect
