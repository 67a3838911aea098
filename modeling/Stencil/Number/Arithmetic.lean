import Stencil.Number.Binary64

/-!
# `Stencil.Number.Arithmetic` — sums and products of 64-bit binary numbers

A sum or a product is the exact one, rounded once.

## Contents
- **`Binary64.ofNat`**, the number nearest to an integer.
- **`Binary64.mul`** and **`Binary64.add`**; **`mul_comm`** and **`add_comm`**.
-/

namespace Stencil.Binary64

/-- The number nearest to `mantissa * 2 ^ exponent`. -/
def ofScaled (negative : Bool) (mantissa : Nat) (exponent : Int) : Binary64 :=
  if 0 ≤ exponent then ofRatio negative (mantissa * twoTo exponent.toNat) 1
  else ofRatio negative mantissa (twoTo (-exponent).toNat)

/-- The number nearest to an integer. -/
def ofNat (n : Nat) : Binary64 :=
  ofScaled false n 0

/-- The product of two numbers; that of zero and an infinity is not a number. -/
def mul : Binary64 → Binary64 → Binary64
  | .nan, _ => .nan
  | _, .nan => .nan
  | .infinite n, .infinite m => .infinite (n != m)
  | .infinite n, .finite m k _ => if k = 0 then .nan else .infinite (n != m)
  | .finite n k _, .infinite m => if k = 0 then .nan else .infinite (n != m)
  | .finite n k i, .finite m l j => ofScaled (n != m) (k * l) (i + j)

/-- A mantissa with its sign, for a lower exponent. -/
def aligned (negative : Bool) (mantissa : Nat) (exponent least : Int) : Int :=
  let magnitude : Int := mantissa * twoTo (exponent - least).toNat
  if negative then -magnitude else magnitude

/-- The sum of two numbers; that of two unlike infinities is not a number, and that of a number and its
opposite is the positive zero. -/
def add : Binary64 → Binary64 → Binary64
  | .nan, _ => .nan
  | _, .nan => .nan
  | .infinite n, .infinite m => if n = m then .infinite n else .nan
  | .infinite n, .finite .. => .infinite n
  | .finite .., .infinite m => .infinite m
  | .finite n k i, .finite m l j =>
    let least := min i j
    let sum := aligned n k i least + aligned m l j least
    if sum = 0 then zero (n && m) else ofScaled (sum < 0) sum.natAbs least

theorem mul_comm (a b : Binary64) : a.mul b = b.mul a := by
  have signs (n m : Bool) : (n != m) = (m != n) := by cases n <;> cases m <;> rfl
  cases a <;> cases b <;> simp only [mul]
  case finite.finite n k i m l j => rw [signs n m, Nat.mul_comm k l, Int.add_comm i j]
  case finite.infinite n k i m => rw [signs n m]
  case infinite.finite n m k i => rw [signs n m]
  case infinite.infinite n m => rw [signs n m]

theorem add_comm (a b : Binary64) : a.add b = b.add a := by
  cases a <;> cases b <;> simp only [add]
  case finite.finite n k i m l j =>
    rw [Int.min_comm i j, Int.add_comm (aligned n k i _), Bool.and_comm n m]
  case infinite.infinite n m => cases n <;> cases m <;> rfl

end Stencil.Binary64
