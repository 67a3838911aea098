import Stencil.Text.Basic

/-!
# `Stencil.Text.Decimal` — integers in decimal

## Contents
- **`ofNat`**, the digits of a natural number, which give it back (`ofNat_injective`); **`ofInt`**, with a
  minus sign in front if negative.
- **`padded`**, at least so many digits, filled up with zeros.
- **`tenTo`**, a power of ten.
- **`digitLimit`** and **`isWritable`**: an integer of more digits has no text.
-/

namespace Stencil.Text

/-- The decimal digits of a natural number. -/
def ofNat (n : Nat) : Text :=
  Nat.toDigits 10 n

theorem ofNat_ne_nil (n : Nat) : ofNat n ≠ [] :=
  Nat.toDigits_ne_nil

theorem isDigit_of_mem_ofNat {n : Nat} {c : Char} (h : c ∈ ofNat n) : c.isDigit = true :=
  Nat.isDigit_of_mem_toDigits (by decide) (by decide) h

/-- The digits give the number back. -/
theorem ofDigitChars_ofNat (n : Nat) : Nat.ofDigitChars 10 (ofNat n) 0 = n :=
  Nat.ofDigitChars_ten_toDigits

theorem ofNat_injective {m n : Nat} (h : ofNat m = ofNat n) : m = n := by
  rw [← ofDigitChars_ofNat m, h, ofDigitChars_ofNat]

/-- The decimal digits of an integer, after a minus sign if it is negative. -/
def ofInt : Int → Text
  | .ofNat n => ofNat n
  | .negSucc n => '-' :: ofNat (n + 1)

/-- A power of ten. -/
def tenTo (n : Nat) : Nat :=
  Nat.pow 10 n

@[simp] theorem tenTo_zero : tenTo 0 = 1 := rfl

theorem tenTo_succ (n : Nat) : tenTo (n + 1) = tenTo n * 10 := rfl

/-- The greatest number of digits of an integer that is written or read. -/
def digitLimit : Nat := 4300

/-- Whether an integer has few enough digits to be written. -/
def isWritable (n : Int) : Bool :=
  n.natAbs < tenTo digitLimit

/-- What is said where an integer with too many digits should be written. -/
def notWritableMessage : Text :=
  Text.of "Exceeds the limit (4300 digits) for integer string conversion; use " ++
    Text.of "sys.set_int_max_str_digits() to increase the limit"

/-- What is said where an integer with so many digits, too many, should be read. -/
def notReadableMessage (digits : Nat) : Text :=
  Text.of "Exceeds the limit (4300 digits) for integer string conversion: value has " ++
    ofNat digits ++ Text.of " digits; use sys.set_int_max_str_digits() to increase the limit"

/-- The decimal digits of a natural number, zeros put in front up to the given width. -/
def padded (width n : Nat) : Text :=
  let digits := ofNat n
  List.replicate (width - digits.length) '0' ++ digits

end Stencil.Text
