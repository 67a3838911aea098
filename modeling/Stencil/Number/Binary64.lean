import Stencil.Text.Decimal

/-!
# `Stencil.Number.Binary64` — numbers of the 64-bit binary format, exactly

A finite number is a mantissa times a power of two, so values compare, round and print by integer
arithmetic alone.

## Contents
- **`Binary64`**: finite, infinite, not a number.
- **`roundDiv`**, a quotient rounded to the nearest integer, a tie to the even one.
- **`Binary64.twoTo`**, a power of two.
- **`Binary64.ofRatio`** and **`Binary64.ofDecimal`**, the nearest number of the format.
-/

namespace Stencil

/-- A number of the 64-bit binary format.  A finite one is `mantissa * 2 ^ exponent`, negated if
`negative` is set. -/
inductive Binary64 where
  | finite (negative : Bool) (mantissa : Nat) (exponent : Int)
  | infinite (negative : Bool)
  | nan
deriving DecidableEq, Repr

/-- The integer nearest to a quotient; of two that are equally near, the even one. -/
def roundDiv (numerator denominator : Nat) : Nat :=
  let down := numerator / denominator
  let twice := 2 * (numerator % denominator)
  if twice < denominator then down
  else if denominator < twice then down + 1
  else if down % 2 = 0 then down
  else down + 1

namespace Binary64

/-- The least exponent of the format. -/
def leastExponent : Int := -1074

/-- The greatest exponent of the format. -/
def greatestExponent : Int := 971

/-- The number of binary digits of a mantissa. -/
def precision : Nat := 53

/-- A power of two. -/
def twoTo (n : Nat) : Nat :=
  Nat.pow 2 n

@[simp] theorem twoTo_zero : twoTo 0 = 1 := rfl

theorem twoTo_succ (n : Nat) : twoTo (n + 1) = twoTo n * 2 := rfl

/-- Zero, with a sign. -/
def zero (negative : Bool) : Binary64 :=
  .finite negative 0 leastExponent

/-- The exponent for which the quotient has a mantissa of full precision, or the least one. -/
def exponentOfRatio (numerator denominator : Nat) : Int :=
  let guess : Int := (Nat.log2 numerator : Int) - Nat.log2 denominator
  let reaches :=
    if 0 ≤ guess then denominator * twoTo guess.toNat ≤ numerator
    else denominator ≤ numerator * twoTo (-guess).toNat
  let whole := if reaches then guess else guess - 1
  max (whole - (precision - 1)) leastExponent

/-- The number of the format nearest to a quotient of positive integers, ties to the even mantissa;
infinite beyond the greatest finite one. -/
def ofRatio (negative : Bool) (numerator denominator : Nat) : Binary64 :=
  if numerator = 0 then zero negative
  else
    let exponent := exponentOfRatio numerator denominator
    let mantissa :=
      if 0 ≤ exponent then roundDiv numerator (denominator * twoTo exponent.toNat)
      else roundDiv (numerator * twoTo (-exponent).toNat) denominator
    let (mantissa, exponent) :=
      if mantissa = twoTo precision then (twoTo (precision - 1), exponent + 1) else (mantissa, exponent)
    if greatestExponent < exponent then .infinite negative
    else .finite negative mantissa exponent

/-- The number of the format nearest to `digits * 10 ^ scale`.  Beyond 310 digits before the point
the number is infinite, below 330 zeros after it zero, whatever the digits. -/
def ofDecimal (negative : Bool) (digits : Nat) (scale : Int) : Binary64 :=
  let size : Int := (Text.ofNat digits).length + scale
  if digits = 0 ∨ size < -330 then zero negative
  else if 310 < size then .infinite negative
  else if 0 ≤ scale then ofRatio negative (digits * Text.tenTo scale.toNat) 1
  else ofRatio negative digits (Text.tenTo (-scale).toNat)

/-- The same number with the other sign. -/
def negate : Binary64 → Binary64
  | .finite negative mantissa exponent => .finite (!negative) mantissa exponent
  | .infinite negative => .infinite (!negative)
  | .nan => .nan

@[simp] theorem negate_negate (x : Binary64) : x.negate.negate = x := by
  cases x <;> simp [negate]

end Binary64

end Stencil
