import Stencil.Number.Binary64

/-!
# `Stencil.Number.Shortest` — the shortest decimal text of a number

A number is written with the fewest digits that read back as the same number, and of those digits
with the ones nearest to it.  For one digit, two digits and so on up to seventeen the two neighbours
of the number on that decimal grid are tested against the interval of reals that round to it.

## Contents
- **`decimalExponent`**, the power of ten of the leading digit.
- **`RoundingInterval`**, the reals that round to a number, as integers over one denominator.
- **`shortestDigits`**, the digits and the power of ten of the last of them.
- **`Binary64.toText`**, the text: positional from a ten-thousandth up to ten to the sixteenth,
  otherwise with an exponent of two digits at least.
-/

namespace Stencil

/-- The greatest power of ten that is at most a quotient of positive integers. -/
def decimalExponent (numerator denominator : Nat) : Int :=
  let guess : Int := ((Text.ofNat numerator).length : Int) - (Text.ofNat denominator).length
  let reaches :=
    if 0 ≤ guess then denominator * Text.tenTo guess.toNat ≤ numerator
    else denominator ≤ numerator * Text.tenTo (-guess).toNat
  if reaches then guess else guess - 1

/-- The reals that round to a number: those between `low` and `high` over `unit`, the ends too if
`closed` is set.  The number itself is `value` over `unit`. -/
structure RoundingInterval where
  low : Nat
  value : Nat
  high : Nat
  unit : Nat
  closed : Bool

/-- The reals that round to `mantissa * 2 ^ exponent`.  The gap below the least mantissa of full
precision is half as wide as the gap above. -/
def roundingInterval (mantissa : Nat) (exponent : Int) : RoundingInterval :=
  let narrow :=
    mantissa = Binary64.twoTo (Binary64.precision - 1) ∧ Binary64.leastExponent < exponent
  let up := Binary64.twoTo exponent.toNat
  { low := (4 * mantissa - if narrow then 1 else 2) * up
    value := 4 * mantissa * up
    high := (4 * mantissa + 2) * up
    unit := 4 * Binary64.twoTo (-exponent).toNat
    closed := mantissa % 2 = 0 }

/-- Whether `digits * 10 ^ scale` lies in the interval. -/
def RoundingInterval.holds (interval : RoundingInterval) (digits : Nat) (scale : Int) : Bool :=
  let point := digits * Text.tenTo scale.toNat * interval.unit
  let ten := Text.tenTo (-scale).toNat
  if interval.closed then interval.low * ten ≤ point && point ≤ interval.high * ten
  else interval.low * ten < point && point < interval.high * ten

/-- Of the two neighbours of the number on the grid of `10 ^ scale` the one that lies in the
interval; of both the nearer, of two equally near the even one. -/
def RoundingInterval.onGrid? (interval : RoundingInterval) (scale : Int) : Option Nat :=
  let numerator := interval.value * Text.tenTo (-scale).toNat
  let denominator := interval.unit * Text.tenTo scale.toNat
  let down := numerator / denominator
  match interval.holds down scale, interval.holds (down + 1) scale with
  | true, true => some (roundDiv numerator denominator)
  | true, false => some down
  | false, true => some (down + 1)
  | false, false => none

/-- The fewest digits that read back as `mantissa * 2 ^ exponent`, with the power of ten of the last
digit. -/
def shortestDigits (mantissa : Nat) (exponent : Int) : Nat × Int :=
  let interval := roundingInterval mantissa exponent
  let leading := decimalExponent interval.value interval.unit
  let found := (List.range 17).findSome? fun (n : Nat) =>
    (interval.onGrid? (leading - n)).map fun digits => (digits, leading - n)
  found.getD (interval.value / interval.unit, 0)

/-! ## The text -/

/-- Digits without the zeros at their end. -/
def withoutEndZeros (digits : Text) : Text :=
  (digits.reverse.dropWhile (· = '0')).reverse

/-- The text of a positive number, given its digits and the power of ten of the leading one. -/
def showDecimal (digits : Text) (leading : Int) : Text :=
  if -4 ≤ leading ∧ leading < 16 then
    if leading < 0 then
      Text.of "0." ++ List.replicate (-leading - 1).toNat '0' ++ digits
    else
      let whole := leading.toNat + 1
      let before := digits.take whole ++ List.replicate (whole - digits.length) '0'
      let after := digits.drop whole
      before ++ ['.'] ++ if after = [] then ['0'] else after
  else
    let after := digits.drop 1
    digits.take 1 ++ (if after = [] then [] else '.' :: after) ++ ['e'] ++
      (if leading < 0 then ['-'] else ['+']) ++ Text.padded 2 leading.natAbs

/-- The text of a number of the 64-bit binary format. -/
def Binary64.toText : Binary64 → Text
  | .nan => Text.of "nan"
  | .infinite negative => (if negative then ['-'] else []) ++ Text.of "inf"
  | .finite negative mantissa exponent =>
    let sign := if negative then ['-'] else []
    if mantissa = 0 then sign ++ Text.of "0.0"
    else
      let (digits, scale) := shortestDigits mantissa exponent
      let written := Text.ofNat digits
      sign ++ showDecimal (withoutEndZeros written) (scale + written.length - 1)

end Stencil
