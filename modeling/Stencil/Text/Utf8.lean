import Stencil.Text.Decimal

/-!
# `Stencil.Text.Utf8` — reading UTF-8

Octets are read strictly: no overlong forms, no surrogates, nothing above U+10FFFF.  What stops the
reading is told with the octets concerned: the lead octet and the continuation octets that fit it.

## Contents
- **`Utf8.Fault`**, with its **`message`**.
- **`Utf8.decode`**, the text of a list of octets.
- **`Utf8.length`**, the number of octets of a text.
-/

namespace Stencil.Utf8

/-- Why octets are not UTF-8. -/
inductive Reason where
  /-- No character starts with this octet. -/
  | start
  /-- An octet does not continue the character. -/
  | continuation
  /-- The octets end inside a character. -/
  | ending
deriving DecidableEq, Repr

/-- Where the reading stops, with the octets of the character begun there. -/
structure Fault where
  position : Nat
  octets : List UInt8
  reason : Reason
deriving DecidableEq, Repr

/-- A reason in words. -/
def Reason.message : Reason → Text
  | .start => Text.of "invalid start byte"
  | .continuation => Text.of "invalid continuation byte"
  | .ending => Text.of "unexpected end of data"

/-- What is said of a fault: a single octet is shown, of several their positions are given. -/
def Fault.message (fault : Fault) : Text :=
  let octets :=
    match fault.octets with
    | [octet] =>
      Text.of "byte 0x" ++ Text.hexDigits 2 octet.toNat ++ Text.of " in position " ++
        Text.ofNat fault.position
    | octets =>
      Text.of "bytes in position " ++ Text.ofNat fault.position ++ ['-'] ++
        Text.ofNat (fault.position + octets.length - 1)
  Text.of "'utf-8' codec can't decode " ++ octets ++ Text.of ": " ++ fault.reason.message

/-- The number of octets of a character that starts with the given one, and the bounds of its second
octet. -/
def lead? (octet : UInt8) : Option (Nat × UInt8 × UInt8) :=
  if octet < 0x80 then some (1, 0x80, 0xbf)
  else if octet < 0xc2 then none
  else if octet < 0xe0 then some (2, 0x80, 0xbf)
  else if octet = 0xe0 then some (3, 0xa0, 0xbf)
  else if octet = 0xed then some (3, 0x80, 0x9f)
  else if octet < 0xf0 then some (3, 0x80, 0xbf)
  else if octet = 0xf0 then some (4, 0x90, 0xbf)
  else if octet < 0xf4 then some (4, 0x80, 0xbf)
  else if octet = 0xf4 then some (4, 0x80, 0x8f)
  else none

/-- The bits that a lead octet adds to the code point. -/
def leadBits (size : Nat) (octet : UInt8) : Nat :=
  if size = 1 then octet.toNat
  else if size = 2 then octet.toNat % 0x20
  else if size = 3 then octet.toNat % 0x10
  else octet.toNat % 0x08

/-- The continuation octets of a character, so many of them, the first within bounds: the code point,
or the octets that fit and why there are no more. -/
def continueWith (low high : UInt8) (value : Nat) : Nat → List UInt8 → Except (List UInt8 × Reason) Nat
  | 0, _ => .ok value
  | _ + 1, [] => .error ([], .ending)
  | owed + 1, octet :: rest =>
    if low ≤ octet ∧ octet ≤ high then
      match continueWith 0x80 0xbf (value * 0x40 + octet.toNat % 0x40) owed rest with
      | .ok value => .ok value
      | .error (fitting, reason) => .error (octet :: fitting, reason)
    else .error ([], .continuation)

/-- The text of octets that stand at a position. -/
def decodeFrom (position : Nat) (octets : List UInt8) : Except Fault Text :=
  match octets with
  | [] => .ok []
  | octet :: rest =>
    match lead? octet with
    | none => .error ⟨position, [octet], .start⟩
    | some (size, low, high) =>
      match continueWith low high (leadBits size octet) (size - 1) rest with
      | .error (fitting, reason) => .error ⟨position, octet :: fitting, reason⟩
      | .ok value =>
        (decodeFrom (position + size) (rest.drop (size - 1))).map (Char.ofNat value :: ·)
termination_by octets.length
decreasing_by
  rw [List.length_drop, List.length_cons]
  omega

/-- The text of a list of octets. -/
def decode (octets : List UInt8) : Except Fault Text :=
  decodeFrom 0 octets

/-- The number of octets of a text. -/
def length (s : Text) : Nat :=
  s.foldr (fun c octets => c.utf8Size + octets) 0

end Stencil.Utf8
