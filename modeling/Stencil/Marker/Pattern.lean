import Stencil.Text.Basic

/-!
# `Stencil.Marker.Pattern` — patterns over whole texts

A pattern is a list of items: a given character, or one or more characters of a class, which may be
kept.  An item of the second kind takes as many characters as it can and gives them back one by one
until the rest of the pattern matches.

## Contents
- **`Pattern.Item`** and **`Pattern.wholeMatch?`**, the kept characters of a match of the whole text.
-/

namespace Stencil.Pattern

/-- One item of a pattern. -/
inductive Item where
  /-- This very character. -/
  | char (c : Char)
  /-- One or more characters of a class; they are kept if `kept` is set. -/
  | many (allowed : Char → Bool) (kept : Bool)

/-- The characters kept by the first match of the whole text, where an item takes more characters
before it takes fewer. -/
def wholeMatch? : List Item → Text → Option Text
  | [], [] => some []
  | [], _ :: _ => none
  | .char _ :: _, [] => none
  | .char c :: items, x :: rest => if x = c then wholeMatch? items rest else none
  | .many allowed kept :: items, text =>
    let most := (text.takeWhile allowed).length
    (List.range most).reverse.findSome? fun k =>
      (wholeMatch? items (text.drop (k + 1))).map fun found =>
        if kept then text.take (k + 1) ++ found else found

end Stencil.Pattern
