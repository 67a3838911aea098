import Stencil.Text.Basic

/-!
# `Stencil.Text.Blank` — white space

The Unicode notion of white space: the characters whose bidirectional class is a separator or white
space, or whose category is a space separator.  Markers, assignments and number literals use it.

## Contents
- **`isBlank`**, the class, and **`isBlank_of_isWhitespace`**: it holds all of core's class.
- **`trim`**, a text without its blank ends, and **`trimEnd`**, without the blanks at its end.
-/

namespace Stencil

/-- White space in the sense of the Unicode character database. -/
def isBlank (c : Char) : Bool :=
  let n := c.toNat
  (9 ≤ n && n ≤ 13) || (0x1c ≤ n && n ≤ 0x20) || n == 0x85 || n == 0xa0 || n == 0x1680 ||
    (0x2000 ≤ n && n ≤ 0x200a) || n == 0x2028 || n == 0x2029 || n == 0x202f || n == 0x205f ||
    n == 0x3000

/-- Space, tab and the line breaks are blank. -/
theorem isBlank_of_isWhitespace {c : Char} (h : c.isWhitespace = true) : isBlank c = true := by
  simp only [Char.isWhitespace, Bool.or_eq_true, decide_eq_true_eq] at h
  rcases h with ((h | h) | h) | h <;> subst h <;> decide

theorem not_isBlank_brace : isBlank '{' = false ∧ isBlank '}' = false := by decide

namespace Text

/-- The text without the blanks at its two ends. -/
def trim (s : Text) : Text :=
  ((s.dropWhile isBlank).reverse.dropWhile isBlank).reverse

/-- The text without the blanks at its end. -/
def trimEnd (s : Text) : Text :=
  (s.reverse.dropWhile isBlank).reverse

end Text

end Stencil
