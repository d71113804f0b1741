import SqlDialect.Number.Binary
import SqlDialect.Number.Digits

/-!
# Shortest decimal text of a binary number

A floating-point number is written with the fewest digits that read back to it, and of those
digit strings with the one nearest to the number.

## The interval that reads back

Around a number lies the interval of reals that round to it. Its upper end is half a unit of the
last place away; so is the lower one, except below a power of two, where the numbers are twice as
dense. The ends belong to the interval when the significand is even. All of it is measured in
quarters of the last place, so that both ends are whole numbers.

## The search

A decimal grid is the set of multiples of one power of ten. Going from coarse grids to fine ones,
the first grid with a point in the interval gives the fewest digits. A grid that has a point in
the interval has one next to the number, so only the two neighbours are looked at.

## Main definitions

* `Shortest.Tie` — which neighbour is taken when both are equally near
* `Shortest.digits` — the digits and the power of ten they count
* `Shortest.positional` — a number without an exponent
* `Shortest.scientific` — a number that turns to an exponent far away from one
-/

namespace SqlDialect

namespace Shortest

/-- Which of two grid points is taken when the number lies in the middle between them. -/
inductive Tie where
  /-- The one further from zero. -/
  | away
  /-- The one with the even last digit. -/
  | even
  deriving DecidableEq

/-- The interval that reads back to a number, as numerators over one denominator. -/
structure Interval where
  /-- The lower end. -/
  low : Nat
  /-- The number itself. -/
  mid : Nat
  /-- The upper end. -/
  high : Nat
  /-- The common denominator. -/
  den : Nat
  /-- Whether the ends themselves read back to the number. -/
  closed : Bool

/-- The interval of `significand · 2 ^ exponent` in `format`. -/
def interval (format : BinaryFormat) (significand : Nat) (exponent : Int) : Interval :=
  let denserBelow :=
    significand == Nat.pow 2 format.fractionBits && format.leastExponent < exponent
  let unit := if 0 ≤ exponent then Nat.pow 2 exponent.toNat else 1
  { low := (4 * significand - if denserBelow then 1 else 2) * unit
    mid := 4 * significand * unit
    high := (4 * significand + 2) * unit
    den := 4 * if 0 ≤ exponent then 1 else Nat.pow 2 (-exponent).toNat
    closed := significand % 2 == 0 }

/-- Whether `point / den`, a point of a grid, reads back. -/
def Interval.holds (i : Interval) (point : Nat) : Bool :=
  (i.low < point && point < i.high) || (i.closed && (point == i.low || point == i.high))

/-- The same interval measured in units of `10 ^ power`. -/
def Interval.inUnits (i : Interval) (power : Int) : Interval :=
  if 0 ≤ power then { i with den := i.den * Nat.pow 10 power.toNat }
  else
    let factor := Nat.pow 10 (-power).toNat
    { i with low := i.low * factor, mid := i.mid * factor, high := i.high * factor }

/-- The whole number nearest to the middle of the interval among those that read back. -/
def Interval.best? (i : Interval) (tie : Tie) : Option Nat :=
  let below := i.mid / i.den
  let above := below + 1
  match i.holds (below * i.den), i.holds (above * i.den) with
  | false, false => none
  | true, false => some below
  | false, true => some above
  | true, true =>
    let toBelow := i.mid - below * i.den
    let toAbove := above * i.den - i.mid
    if toBelow < toAbove then some below
    else if toAbove < toBelow then some above
    else match tie with
      | .away => some above
      | .even => some (if below % 2 = 0 then below else above)

/-- The first grid with a hit, from `10 ^ power` downwards. -/
def search (i : Interval) (tie : Tie) : Nat → Int → Nat × Int
  | 0, power => (0, power)
  | fuel + 1, power =>
    match (i.inUnits power).best? tie with
    | some n => (n, power)
    | none => search i tie fuel (power - 1)

/-- The shortest digits of a positive number and the power of ten they count. -/
def digits (format : BinaryFormat) (tie : Tie) (significand : Nat) (exponent : Int) : Nat × Int :=
  let i := interval format significand exponent
  let top := (Digits.ofNat (i.mid / i.den)).length
  -- A grid as fine as the power of ten of the least exponent is much finer than the interval.
  search i tie (top + (-format.leastExponent).toNat + 1) top

/-! ### Writing the digits down -/

/-- `significand` counted in units of `10 ^ power`, without an exponent. -/
def positional (significand : Nat) (power : Int) : Text :=
  if 0 ≤ power then
    Digits.ofNat significand ++ List.replicate power.toNat '0'
  else
    let places := (-power).toNat
    let all := Digits.padded (places + 1) significand
    all.take (all.length - places) ++ '.' :: all.drop (all.length - places)

/-- An exponent behind its mark, with a sign in any case. -/
def exponentText (exponent : Int) : Text :=
  'e' :: (if exponent < 0 then [] else ['+']) ++ Digits.ofInt exponent

/-- `significand` counted in units of `10 ^ power`, with an exponent from `10 ^ 16` upwards and
below `10 ^ -5`, and with a point everywhere else. -/
def scientific (significand : Nat) (power : Int) : Text :=
  let all := Digits.ofNat significand
  let magnitude := power + all.length
  if 0 ≤ power ∧ magnitude ≤ 16 then positional significand power ++ ".0"
  else if -5 < magnitude ∧ magnitude ≤ 16 then positional significand power
  else
    let fraction := all.drop 1
    all.take 1 ++ (if fraction.isEmpty then [] else '.' :: fraction) ++ exponentText (magnitude - 1)

end Shortest

namespace BinaryNumber

/-- A number without an exponent and without a point where it is whole. -/
def plainText (format : BinaryFormat) : BinaryNumber → Text
  | .nan => "NaN"
  | .infinite negative => if negative then "-inf" else "inf"
  | .finite negative significand exponent =>
    let magnitude : Text :=
      if significand = 0 then "0"
      else
        let (n, power) := Shortest.digits format .away significand exponent
        Shortest.positional n power
    if negative then '-' :: magnitude else magnitude

/-- A number with a point or an exponent always. -/
def pointedText (format : BinaryFormat) : BinaryNumber → Text
  | .nan => "NaN"
  | .infinite negative => if negative then "-inf" else "inf"
  | .finite negative significand exponent =>
    let magnitude : Text :=
      if significand = 0 then "0.0"
      else
        let (n, power) := Shortest.digits format .even significand exponent
        Shortest.scientific n power
    if negative then '-' :: magnitude else magnitude

example : (BinaryFormat.double.decode 0x3FD3333333333334).plainText .double
    = "0.30000000000000004" := by decide

example : (BinaryFormat.double.decode 0x43B0000000000000).plainText .double
    = "1152921504606847000" := by decide

example : (BinaryFormat.double.decode 0x3E7AD7F29ABCAF48).pointedText .double = "1e-7" := by
  decide

example : (BinaryFormat.double.decode 0x4341C37937E08000).pointedText .double = "1e+16" := by
  decide

end BinaryNumber

end SqlDialect
