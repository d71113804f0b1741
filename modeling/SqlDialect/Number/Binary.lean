/-!
# Binary floating-point numbers

A floating-point number is kept as the bits of its interchange format, so that no value is
changed by being carried: every NaN keeps its payload and zero its sign. What the bits stand for
is read off them exactly, as a whole number of some power of two.

## Rounding

`BinaryFormat.nearest` goes the other way: of all numbers of the format it gives the one nearest
to a given fraction, and of two equally near ones the one with the even last bit. It works on the
significand as a whole number of units in the last place, so that nothing is approximated.

## Main definitions

* `BinaryFormat` — the widths of a format; `BinaryFormat.single`, `BinaryFormat.double`
* `BinaryNumber` — what a bit pattern stands for
* `BinaryFormat.decode` — the number behind the bits
* `BinaryFormat.nearest` — rounding a fraction to the format
-/

namespace SqlDialect

/-- The widths of a binary interchange format. -/
structure BinaryFormat where
  /-- Bits of the fraction, without the hidden one. -/
  fractionBits : Nat
  /-- Bits of the exponent. -/
  exponentBits : Nat

/-- What a bit pattern stands for. -/
inductive BinaryNumber where
  /-- Not a number. -/
  | nan
  /-- An infinity. -/
  | infinite (negative : Bool)
  /-- The number `significand · 2 ^ exponent`, with its sign. -/
  | finite (negative : Bool) (significand : Nat) (exponent : Int)
  deriving DecidableEq

namespace BinaryFormat

/-- The format of 32 bits. -/
def single : BinaryFormat := ⟨23, 8⟩

/-- The format of 64 bits. -/
def double : BinaryFormat := ⟨52, 11⟩

/-- What the stored exponent exceeds the exponent of a number between one and two by. -/
def bias (format : BinaryFormat) : Nat := Nat.pow 2 (format.exponentBits - 1) - 1

/-- The exponent of the last place of the smallest numbers of the format. -/
def leastExponent (format : BinaryFormat) : Int := 1 - (format.bias : Int) - format.fractionBits

/-- What the bits stand for. -/
def decode (format : BinaryFormat) (bits : Nat) : BinaryNumber :=
  let fraction := bits % Nat.pow 2 format.fractionBits
  let stored := bits / Nat.pow 2 format.fractionBits % Nat.pow 2 format.exponentBits
  let negative := bits / Nat.pow 2 (format.fractionBits + format.exponentBits) % 2 == 1
  if stored = Nat.pow 2 format.exponentBits - 1 then
    if fraction = 0 then .infinite negative else .nan
  else if stored = 0 then
    .finite negative fraction format.leastExponent
  else
    .finite negative (fraction + Nat.pow 2 format.fractionBits) (format.leastExponent + stored - 1)

/-! ### Rounding -/

/-- `num / den` as a whole number, a half going to the even neighbour. -/
def roundHalfEven (num den : Nat) : Nat :=
  let quotient := num / den
  let twice := 2 * (num % den)
  if twice < den then quotient
  else if den < twice then quotient + 1
  else quotient + quotient % 2

/-- The fraction `num / den` times `2 ^ shift`, as a fraction. -/
def scaled (num den : Nat) (shift : Int) : Nat × Nat :=
  if 0 ≤ shift then (num * Nat.pow 2 shift.toNat, den) else (num, den * Nat.pow 2 (-shift).toNat)

/-- The exponent of the last place for a positive fraction: small enough that no bit the format
can hold is lost, and not below the least one. -/
def lastPlace (format : BinaryFormat) (num den : Nat) : Int :=
  let guess : Int := (num.log2 : Int) - den.log2 - format.fractionBits - 1
  let (num', den') := scaled num den (-guess)
  let exponent := if num' / den' < Nat.pow 2 (format.fractionBits + 1) then guess else guess + 1
  max exponent format.leastExponent

/-- The significand and exponent of the number of the format nearest to `num / den`, the exponent
not bounded above. -/
def nearest (format : BinaryFormat) (num den : Nat) : Nat × Int :=
  if num = 0 then (0, format.leastExponent)
  else
    let exponent := format.lastPlace num den
    let (num', den') := scaled num den (-exponent)
    let significand := roundHalfEven num' den'
    if significand = Nat.pow 2 (format.fractionBits + 1) then
      (Nat.pow 2 format.fractionBits, exponent + 1)
    else
      (significand, exponent)

/-- Whether `significand · 2 ^ exponent` is above every finite number of the format. -/
def overflows (format : BinaryFormat) (significand : Nat) (exponent : Int) : Bool :=
  0 < significand && (format.bias : Int) < exponent + significand.log2

end BinaryFormat

end SqlDialect
