import Stencil.Text.Basic
import Stencil.Text.Casing

/-!
# `Stencil.Text.Lowercase` — a text in small letters

Each letter is replaced by its small form, whatever its script.  Two capitals have more than one: the
dotted capital I becomes an i with its dot kept apart, and a capital sigma becomes a final sigma at the
end of a word, that is after a letter and before none.

## Contents
- **`smallForm`**, the small form of a character by itself.
- **`Text.meetsLetter`**, whether a letter comes next; it tells where a sigma is final.
- **`lowercase`**, the whole text.
-/

namespace Stencil

/-- The capital sigma. -/
def capitalSigma : Char := 'Σ'

/-- The distance from a code point to its small form. -/
def smallDistance (n : Nat) : List SmallForms → Int
  | [] => 0
  | row :: more =>
    if n < row.first then 0
    else if n ≤ row.last ∧ (n - row.first) % row.step = 0 then row.distance
    else smallDistance n more

/-- The small form of a character by itself. -/
def smallForm (c : Char) : Char :=
  Char.ofNat (c.toNat + smallDistance c.toNat smallForms).toNat

namespace Text

/-- Whether the next character that counts has a case. -/
def meetsLetter (s : Text) : Bool :=
  (s.dropWhile isCaseIgnorable).head?.any isCased

/-- The small forms of a text; `before` holds what stands in front of it, the nearest first. -/
def lowercaseFrom (before : Text) : Text → Text
  | [] => []
  | c :: rest =>
    let small :=
      if c = capitalSigma then
        -- at the end of a word the sigma is final
        if meetsLetter before && !meetsLetter rest then ['ς'] else ['σ']
      else if c = 'İ' then ['i', '\u0307']
      else [smallForm c]
    small ++ lowercaseFrom (c :: before) rest

/-- The text in small letters. -/
def lowercase (s : Text) : Text :=
  lowercaseFrom [] s

end Text

end Stencil
