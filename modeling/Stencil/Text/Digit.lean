import Stencil.Text.Basic

/-!
# `Stencil.Text.Digit` — decimal digits of all scripts

The decimal digits stand in rows of ten, zero first, as of version 14 of the Unicode character
database.

## Contents
- **`digitRows`**, the zeros of all rows, and **`isScriptDigit`**, the class; **`scriptDigit?`**, the value.
- **`isScriptDigit_of_isDigit`**: it holds all of core's class.
- **`isNumeral`**: digits, or a dot with digits behind it.
-/

namespace Stencil

/-- The code points of the zeros. -/
def digitRows : List Nat := [
  0x30, 0x660, 0x6f0, 0x7c0, 0x966, 0x9e6, 0xa66, 0xae6, 0xb66, 0xbe6, 0xc66, 0xce6, 0xd66, 0xde6,
  0xe50, 0xed0, 0xf20, 0x1040, 0x1090, 0x17e0, 0x1810, 0x1946, 0x19d0, 0x1a80, 0x1a90, 0x1b50,
  0x1bb0, 0x1c40, 0x1c50, 0xa620, 0xa8d0, 0xa900, 0xa9d0, 0xa9f0, 0xaa50, 0xabf0, 0xff10, 0x104a0,
  0x10d30, 0x11066, 0x110f0, 0x11136, 0x111d0, 0x112f0, 0x11450, 0x114d0, 0x11650, 0x116c0, 0x11730,
  0x118e0, 0x11950, 0x11c50, 0x11d50, 0x11da0, 0x16a60, 0x16ac0, 0x16b50, 0x1d7ce, 0x1d7d8, 0x1d7e2,
  0x1d7ec, 0x1d7f6, 0x1e140, 0x1e2f0, 0x1e950, 0x1fbf0]

/-- A decimal digit of any script. -/
def isScriptDigit (c : Char) : Bool :=
  digitRows.any fun first => first ≤ c.toNat && c.toNat < first + 10

/-- The value of a decimal digit of any script. -/
def scriptDigit? (c : Char) : Option Nat :=
  (digitRows.find? fun first => first ≤ c.toNat && c.toNat < first + 10).map (c.toNat - ·)

theorem isSome_scriptDigit? (c : Char) : (scriptDigit? c).isSome = isScriptDigit c := by
  simp [scriptDigit?, isScriptDigit, List.isSome_find?]

theorem isScriptDigit_of_isDigit {c : Char} (h : c.isDigit = true) : isScriptDigit c = true := by
  simp only [Char.isDigit, Bool.and_eq_true, decide_eq_true_eq, ge_iff_le] at h
  have first : 0x30 ≤ c.toNat := h.1
  have last : c.toNat ≤ 0x39 := h.2
  refine List.any_eq_true.2 ⟨0x30, by simp [digitRows], ?_⟩
  simp only [Bool.and_eq_true, decide_eq_true_eq]
  omega

namespace Text

/-- Whether a text is digits with at most one dot in it, and a digit behind the dot or at the end. -/
def isNumeral (s : Text) : Bool :=
  match s.dropWhile isScriptDigit with
  | [] => !s.isEmpty
  | '.' :: fraction => !fraction.isEmpty && fraction.all isScriptDigit
  | _ => false

end Text

end Stencil
