import Stencil.Number.Binary64
import Stencil.Text.Blank
import Stencil.Text.Digit

/-!
# `Stencil.Number.Literal` — reading numbers

Digits of all scripts count, blanks around a number are ignored, and an underscore may stand between two
digits.

## Contents
- **`readDigits?`**, digits of a base, and **`plainDigits?`**, a run of them without its underscores.
- **`plainNumeral`**, a digit or a blank in its ASCII form.
- **`readInt`**, an integer in a given base, with or without a sign and a base mark, or why the text is
  none: an **`IntFault`**.
- **`readBinary64?`**, a decimal number with or without point and exponent, an infinity, or not a
  number.
-/

namespace Stencil

/-! ## Runs of digits -/

/-- The value of a digit in the bases up to sixteen. -/
def digitValue? (c : Char) : Option Nat :=
  if '0' ≤ c ∧ c ≤ '9' then some (c.toNat - 48)
  else if 'a' ≤ c ∧ c ≤ 'f' then some (c.toNat - 87)
  else if 'A' ≤ c ∧ c ≤ 'F' then some (c.toNat - 55)
  else none

/-- Whether a character is a decimal digit. -/
def isDecimalDigit (c : Char) : Bool :=
  '0' ≤ c && c ≤ '9'

/-- Whether a character is a digit of a base. -/
def isDigitOf (base : Nat) (c : Char) : Bool :=
  (digitValue? c).any (· < base)

/-- The value of some digits in a base. -/
def valueOfDigits (base : Nat) (digits : Text) : Nat :=
  digits.foldl (fun value c => value * base + (digitValue? c).getD 0) 0

/-- One or more digits of a base. -/
def readDigits? (base : Nat) (digits : Text) : Option Nat :=
  if digits ≠ [] ∧ digits.all (isDigitOf base) then some (valueOfDigits base digits) else none

/-- The digits of a run without its underscores; nothing if one stands at an end or twice. -/
def plainDigits? : Text → Option Text
  | [] => some []
  | '_' :: _ => none
  | c :: rest => go c rest
where
  /-- The rest of a run after a digit. -/
  go (last : Char) : Text → Option Text
    | [] => some [last]
    | '_' :: c :: rest => if c = '_' then none else (go c rest).map (last :: ·)
    | ['_'] => none
    | c :: rest => (go c rest).map (last :: ·)

/-! ## What stands around digits -/

/-- A digit of any script, or a blank beyond ASCII, in its ASCII form. -/
def plainNumeral (c : Char) : Char :=
  if c.toNat < 127 then c
  else if isBlank c then ' '
  else
    match scriptDigit? c with
    | some d => Char.ofNat (48 + d)
    | none => c

/-- A blank of ASCII around a number. -/
def isNumberBlank (c : Char) : Bool :=
  c = ' ' || (9 ≤ c.toNat && c.toNat ≤ 13)

/-- The sign in front of a number, if there is one, and what follows it. -/
def splitSign : Text → Bool × Text
  | '-' :: rest => (true, rest)
  | '+' :: rest => (false, rest)
  | rest => (false, rest)

/-- The letter that marks a base. -/
def baseMark? : Nat → Option Char
  | 2 => some 'b'
  | 8 => some 'o'
  | 16 => some 'x'
  | _ => none

/-- What follows the mark of the base, a zero and a letter, if that stands in front. -/
def withoutBaseMark (base : Nat) (digits : Text) : Text :=
  match digits with
  | '0' :: letter :: rest =>
    if baseMark? base = some letter.toLower then
      match rest with
      | '_' :: more => more
      | _ => rest
    else digits
  | _ => digits

/-! ## Integers -/

/-- Why a text is no integer. -/
inductive IntFault where
  /-- It is not written like one. -/
  | malformed
  /-- It has so many digits, more than are read. -/
  | tooLong (digits : Nat)
deriving DecidableEq, Repr

/-- An integer in a base.  The number of digits is limited only where the base is no power of two. -/
def readInt (base : Nat) (text : Text) : Except IntFault Int :=
  let (negative, digits) := splitSign ((text.map plainNumeral).dropWhile isNumberBlank)
  let digits := withoutBaseMark base digits
  let inRun c := c = '_' || isDigitOf base c
  let rest := digits.dropWhile inRun
  match plainDigits? (digits.takeWhile inRun) with
  | none | some [] => .error .malformed
  | some digits =>
    if base = 10 ∧ Text.digitLimit < digits.length then .error (.tooLong digits.length)
    else if rest.all isNumberBlank then
      let n := valueOfDigits base digits
      .ok (if negative then -n else n)
    else .error .malformed

/-! ## Decimal numbers -/

/-- Whether a character may stand in a run of digits. -/
def inDigitRun (c : Char) : Bool :=
  isDecimalDigit c || c = '_'

/-- The exponent after a mantissa: nothing, or a letter and an integer. -/
def readExponent? : Text → Option Int
  | [] => some 0
  | c :: rest =>
    if c = 'e' ∨ c = 'E' then
      let (negative, digits) := splitSign rest
      (plainDigits? digits >>= readDigits? 10).map fun n => if negative then -(n : Int) else n
    else none

/-- A decimal number without sign. -/
def readMagnitude? (negative : Bool) (text : Text) : Option Binary64 := do
  let whole := text.takeWhile inDigitRun
  let rest := text.dropWhile inDigitRun
  let (fraction, rest) :=
    match rest with
    | '.' :: more => (more.takeWhile inDigitRun, more.dropWhile inDigitRun)
    | _ => ([], rest)
  let whole ← plainDigits? whole
  let fraction ← plainDigits? fraction
  let exponent ← readExponent? rest
  let digits ← readDigits? 10 (whole ++ fraction)
  return Binary64.ofDecimal negative digits (exponent - fraction.length)

/-- A decimal number, an infinity, or not a number. -/
def readBinary64? (text : Text) : Option Binary64 :=
  let plain := (text.map plainNumeral).dropWhile isNumberBlank
  let (negative, magnitude) := splitSign (plain.reverse.dropWhile isNumberBlank).reverse
  let word := magnitude.map Char.toLower
  if word = Text.of "inf" ∨ word = Text.of "infinity" then some (.infinite negative)
  else if word = Text.of "nan" then some .nan
  else readMagnitude? negative magnitude

end Stencil
