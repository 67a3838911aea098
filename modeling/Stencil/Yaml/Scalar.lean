import Stencil.Number.Arithmetic
import Stencil.Text.Lines
import Stencil.Text.Lowercase
import Stencil.Yaml.Schema

/-!
# `Stencil.Yaml.Scalar` — what scalars mean

A scalar is read as its tag says.  How it looks does not matter any more, so it may have no value.

## Contents
- **`intValue`**, **`floatValue`** and **`boolValue`**, and how the old version reads numbers with
  sixtieths.
- **`scalarValue`**, the value of a scalar with a tag, or why it has none.
-/

namespace Stencil.Yaml

/-! ## Integers -/

/-- An integer in a base. -/
def integerIn (base : Nat) (digits : Text) : Except Fault Int :=
  match readInt base digits with
  | .ok n => .ok n
  | .error .malformed => .error (.integer base digits)
  | .error (.tooLong count) => .error (.longInteger count)

/-- The pieces between colons. -/
def colonPieces (s : Text) : List Text :=
  Text.splitOn ':' s

/-- A decimal integer, or a whole with its sixtieths. -/
def sexagesimalInt (s : Text) : Except Fault Int :=
  ((colonPieces s).mapM (integerIn 10)).map (List.foldl (fun value part => value * 60 + part) 0)

/-- An integer without sign in the old version: after a zero its digits are octal. -/
def oldInt (magnitude : Text) : Except Fault Int :=
  match magnitude with
  | [] => .error .emptyNumber
  | '0' :: _ => integerIn 8 magnitude
  | _ => sexagesimalInt magnitude

/-- An integer as a scalar writes it, underscores anywhere. -/
def intValue (version : Version) (s : Text) : Except Fault Scalar :=
  let s := s.filter (· ≠ '_')
  if s = [] then .error .emptyNumber
  else
    let (negative, magnitude) := splitSign s
    let read : Except Fault Int :=
      match magnitude with
      | '0' :: 'b' :: digits => integerIn 2 digits
      | '0' :: 'o' :: digits => integerIn 8 digits
      | '0' :: 'x' :: digits => integerIn 16 digits
      | _ => if version = .old then oldInt magnitude else integerIn 10 magnitude
    read.map fun n => .int (if negative then -n else n)

/-! ## Numbers -/

/-- A decimal number. -/
def numberOf (s : Text) : Except Fault Binary64 :=
  match readBinary64? s with
  | some x => .ok x
  | none => .error (.number s)

/-- The sum of a whole and its sixtieths, the last first; `unit` is the number of the first of them in
the last one of all. -/
def sumOfSixtieths (unit : Nat) (sum : Binary64) : List Binary64 → Binary64
  | [] => sum
  | part :: rest => sumOfSixtieths (unit * 60) (sum.add (part.mul (.ofNat unit))) rest

/-- A number with sixtieths, all of it taken in the last of them. -/
def sexagesimalFloat (s : Text) : Except Fault Binary64 :=
  ((colonPieces s).mapM numberOf).map fun parts =>
    sumOfSixtieths 1 (.zero false) parts.reverse

/-- A scalar that should be a number, as it is read: in small letters, without underscores. -/
def numberText (s : Text) : Text :=
  Text.lowercase (s.filter (· ≠ '_'))

/-- Whether a scalar is the word for not-a-number. -/
def isNanWord (s : Text) : Bool :=
  unsigned (numberText s) = Text.of ".nan"

/-- A number as a scalar writes it, underscores anywhere.  In other versions than the usual one it may
have sixtieths, and may not have two exponents. -/
def floatValue (version : Version) (s : Text) : Except Fault Scalar :=
  let s := numberText s
  if s = [] then .error .emptyNumber
  else
    let (negative, magnitude) := splitSign s
    let read : Except Fault Binary64 :=
      if magnitude = Text.of ".inf" then .ok (.infinite false)
      else if magnitude = Text.of ".nan" then .ok .nan
      else if version ≠ .usual ∧ magnitude.contains ':' then sexagesimalFloat magnitude
      else if version ≠ .usual ∧ 1 < magnitude.count 'e' then .error .exponents
      else numberOf magnitude
    read.map fun x => .float (if negative then x.negate else x)

/-! ## Truth values -/

/-- The words for the truth values, in small letters. -/
def truthValues : List (Text × Bool) :=
  [ (Text.of "yes", true), (Text.of "no", false), (Text.of "y", true), (Text.of "n", false),
    (Text.of "true", true), (Text.of "false", false), (Text.of "on", true),
    (Text.of "off", false) ]

/-- A truth value, in letters of any size. -/
def boolValue (s : Text) : Except Fault Scalar :=
  let word := Text.lowercase s
  match truthValues.lookup word with
  | some b => .ok (.bool b)
  | none => .error (.truthValue word)

/-! ## All scalars -/

/-- Octets in base 64. -/
def binaryValue (s : Text) : Except Fault Scalar :=
  if s.all fun c => c.toNat < 128 then
    match Octets.ofBase64? s with
    | some octets => .ok (.octets octets)
    | none => .error .malformed
  else .error .malformed

/-- The value of a scalar with a tag. -/
def scalarValue (version : Version) (tag : Tag) (s : Text) : Except Fault Scalar :=
  match tag with
  | .null => .ok .null
  | .bool => boolValue s
  | .int => intValue version s
  | .float => floatValue version s
  | .text => .ok (.text s)
  | .binary => binaryValue s
  | .timestamp =>
    match readTimestamp? s with
    | some t => t.value.mapError .calendar
    | none => .error .malformed
  | .merge | .default | .sequence | .mapping | .set | .orderedMapping | .pairs | .unknown =>
    .error .malformed

end Stencil.Yaml
