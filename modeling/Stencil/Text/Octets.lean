import Stencil.Text.Quoted

/-!
# `Stencil.Text.Octets` — octets as they are written

## Contents
- **`Octets.quoted`**: octets between quotes, after the letter b.  Those of ASCII are shown as characters;
  the others, and the controls, by two hexadecimal digits.
- **`Octets.ofBase64?`**: octets written in base 64, four characters for three of them.  Characters that
  do not belong there are passed over.
-/

namespace Stencil.Octets

/-! ## Between quotes -/

/-- One octet, as it is written between the given quotes. -/
def escape (quote : Char) (octet : UInt8) : Text :=
  let c := Char.ofNat octet.toNat
  if c = quote ∨ c = '\\' then ['\\', c]
  else if c = '\n' then ['\\', 'n']
  else if c = '\r' then ['\\', 'r']
  else if c = '\t' then ['\\', 't']
  else if 0x20 ≤ octet.toNat ∧ octet.toNat < 0x7f then [c]
  else '\\' :: 'x' :: Text.hexDigits 2 octet.toNat

/-- The octets between quotes. -/
def quoted (octets : List UInt8) : Text :=
  let quote := Text.quoteMark (octets.map fun octet => Char.ofNat octet.toNat)
  'b' :: quote :: octets.flatMap (escape quote) ++ [quote]

/-! ## Base 64 -/

/-- The six bits that a character stands for. -/
def bitsOf? (c : Char) : Option Nat :=
  if 'A' ≤ c ∧ c ≤ 'Z' then some (c.toNat - 65)
  else if 'a' ≤ c ∧ c ≤ 'z' then some (c.toNat - 71)
  else if '0' ≤ c ∧ c ≤ '9' then some (c.toNat + 4)
  else if c = '+' then some 62
  else if c = '/' then some 63
  else none

/-- A group of four characters being read: how many there are, the bits not used yet, and the number of
equals signs since the last of them. -/
structure Group where
  size : Nat
  bits : Nat
  padding : Nat
deriving DecidableEq, Repr

/-- One character more of a group: the octet that it completes, if any. -/
def Group.add (group : Group) (bits : Nat) : Option UInt8 × Group :=
  let all := group.bits * 64 + bits
  match group.size with
  | 0 => (none, ⟨1, bits, 0⟩)
  | 1 => (some (UInt8.ofNat (all / 16)), ⟨2, bits % 16, 0⟩)
  | 2 => (some (UInt8.ofNat (all / 4)), ⟨3, bits % 4, 0⟩)
  | _ => (some (UInt8.ofNat all), ⟨0, 0, 0⟩)

/-- The octets of the characters from here on.  Equals signs fill up the last group and end the octets;
without them a group that is begun has to be full. -/
def ofBase64From? (group : Group) : Text → Option (List UInt8)
  | [] => if group.size = 0 then some [] else none
  | c :: rest =>
    if c = '=' then
      if group.size < 2 then ofBase64From? group rest
      else if 4 ≤ group.size + group.padding + 1 then some []
      else ofBase64From? { group with padding := group.padding + 1 } rest
    else
      match bitsOf? c with
      | none => ofBase64From? group rest
      | some bits =>
        let (octet?, group) := group.add bits
        (ofBase64From? group rest).map (octet?.toList ++ ·)

/-- The octets that a text in base 64 stands for. -/
def ofBase64? (text : Text) : Option (List UInt8) :=
  ofBase64From? ⟨0, 0, 0⟩ text

end Stencil.Octets
