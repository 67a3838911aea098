import Stencil.Text.Basic

/-!
# `Stencil.Proofs.Text.Hexadecimal` — codes of characters read back

A character that is not written as it is stands there by its code, in a fixed number of hexadecimal digits.
So many digits give the number back, unless it has more of them.

## Contents
- **`hexDigitValue?`** and **`hexValue?`**, the number that digits of either case make.
- **`hexValue?_hexDigits`**, and **`readCode?`**, a character by its code: `readCode?_hexDigits`.
-/

namespace Stencil.Text

/-- The value of a hexadecimal digit of either case. -/
def hexDigitValue? (c : Char) : Option Nat :=
  if 48 ≤ c.toNat ∧ c.toNat ≤ 57 then some (c.toNat - 48)
  else if 97 ≤ c.toNat ∧ c.toNat ≤ 102 then some (c.toNat - 87)
  else if 65 ≤ c.toNat ∧ c.toNat ≤ 70 then some (c.toNat - 55)
  else none

/-- The number with some hexadecimal digits, the highest first. -/
def hexValue? (digits : Text) : Option Nat :=
  digits.foldlM (fun value c => (hexDigitValue? c).map (16 * value + ·)) 0

theorem hexDigitValue?_hexDigit {n : Nat} (h : n < 16) : hexDigitValue? (hexDigit n) = some n := by
  revert n
  decide

/-- Enough digits give the number back. -/
theorem hexValue?_hexDigits (width : Nat) {n : Nat} (h : n < Nat.pow 16 width) :
    hexValue? (hexDigits width n) = some n := by
  induction width generalizing n with
  | zero =>
    have hzero : n = 0 := Nat.lt_one_iff.1 h
    rw [hzero]
    rfl
  | succ width ih =>
    have hwidth : n < Nat.pow 16 width * 16 := h
    have hhigh := ih (Nat.div_lt_of_lt_mul (Nat.mul_comm _ 16 ▸ hwidth))
    have hlow := hexDigitValue?_hexDigit (Nat.mod_lt n (by decide : 16 > 0))
    unfold hexValue? at hhigh ⊢
    rw [hexDigits, List.foldlM_append, hhigh]
    show ((hexDigitValue? (hexDigit (n % 16))).map (16 * (n / 16) + ·)).bind some = some n
    rw [hlow, Option.map_some, Option.bind_some, Nat.div_add_mod]

/-- The character whose code stands first, in so many digits, and what is behind it.  The halves of a
surrogate pair are no characters. -/
def readCode? (width : Nat) (s : Text) : Option (Char × Text) := do
  let n ← hexValue? (s.take width)
  if n = (Char.ofNat n).toNat then some (Char.ofNat n, s.drop width) else none

/-- The first digits are the code of a character. -/
theorem readCode?_eq {width : Nat} {c : Char} {s : Text} (h : hexValue? (s.take width) = some c.toNat) :
    readCode? width s = some (c, s.drop width) := by
  rw [readCode?, h]
  simp [Char.ofNat_toNat]

/-- A character is read back from its code. -/
theorem readCode?_hexDigits (width : Nat) {c : Char} (h : c.toNat < Nat.pow 16 width) (rest : Text) :
    readCode? width (hexDigits width c.toNat ++ rest) = some (c, rest) := by
  have hlength := length_hexDigits width c.toNat
  have htake : (hexDigits width c.toNat ++ rest).take width = hexDigits width c.toNat :=
    List.take_left' hlength
  have hdrop : (hexDigits width c.toNat ++ rest).drop width = rest := List.drop_left' hlength
  have hvalue : hexValue? ((hexDigits width c.toNat ++ rest).take width) = some c.toNat :=
    htake.symm ▸ hexValue?_hexDigits width h
  rw [readCode?_eq hvalue, hdrop]

end Stencil.Text
