import Stencil.Text.Basic

/-!
# `Stencil.Yaml.Cursor` — a place in a document, and the characters that matter there

## Contents
- The character classes: **`isBreak`**, **`isLineEnd`**, **`endsWord`**, **`endsHeader`** and
  **`isAllowed`**.
- **`Cursor`**: what lies ahead, how much it is, and the index, line and column reached;
  **`Cursor.skip`**.
- **`lineBreak?`**, one line break; **`atDocumentMark`**, the three characters between documents.
-/

namespace Stencil.Yaml

/-! ## Characters -/

/-- The line and paragraph separators, which break lines but do not start new ones in the count. -/
def isSeparator (c : Char) : Bool :=
  c = '\u2028' || c = '\u2029'

/-- The characters that break a line. -/
def isBreak (c : Char) : Bool :=
  c = '\n' || c = '\u0085' || isSeparator c

/-- Whether a line ends here; nothing stands for the end of the text. -/
def isLineEnd : Option Char → Bool
  | none => true
  | some c => isBreak c

/-- Whether a word ends here: at the end of a line, a space or a tab. -/
def endsWord : Option Char → Bool
  | some c => c = ' ' || c = '\t' || isBreak c
  | none => true

/-- Whether a header or a tag ends here: at the end of a line or a space. -/
def endsHeader : Option Char → Bool
  | some c => c = ' ' || isBreak c
  | none => true

/-- The characters that a document may hold. -/
def isAllowed (c : Char) : Bool :=
  let n := c.toNat
  n = 0x09 || n = 0x0a || n = 0x0d || (0x20 ≤ n && n ≤ 0x7e) || n = 0x85 ||
    (0xa0 ≤ n && n ≤ 0xfffd) || 0x10000 ≤ n

/-- The letters and digits of ASCII, the hyphen and the underscore. -/
def isWordChar (c : Char) : Bool :=
  c.isAlphanum || c = '-' || c = '_'

/-! ## Places -/

/-- A place in a document. -/
structure Cursor where
  ahead : Text
  /-- The number of characters ahead. -/
  left : Nat
  index : Nat
  line : Nat
  column : Nat
deriving DecidableEq, Repr

namespace Cursor

/-- At the beginning of a text. -/
def start (text : Text) : Cursor :=
  ⟨text, text.length, 0, 0, 0⟩

/-- The character at so many characters from here. -/
def peek (cursor : Cursor) (n : Nat) : Option Char :=
  cursor.ahead[n]?

/-- One character further.  Only a line feed starts a new line; a byte order mark takes no column. -/
def next (cursor : Cursor) : Cursor :=
  match cursor.ahead with
  | [] => cursor
  | c :: rest =>
    let left := cursor.left - 1
    let index := cursor.index + 1
    if c = '\n' then ⟨rest, left, index, cursor.line + 1, 0⟩
    else if c = '\ufeff' then ⟨rest, left, index, cursor.line, cursor.column⟩
    else ⟨rest, left, index, cursor.line, cursor.column + 1⟩

/-- So many characters further. -/
def skip : Nat → Cursor → Cursor
  | 0, cursor => cursor
  | n + 1, cursor => skip n cursor.next

/-- The characters of a class from here on, and the place after them. -/
def takeWhile (cursor : Cursor) (p : Char → Bool) : Text × Cursor :=
  let taken := cursor.ahead.takeWhile p
  (taken, skip taken.length cursor)

/-- The place after the spaces from here on. -/
def skipSpaces (cursor : Cursor) : Cursor :=
  (cursor.takeWhile (· = ' ')).2

/-- The place after the rest of the line, before what ends it. -/
def skipLine (cursor : Cursor) : Cursor :=
  (cursor.takeWhile fun c => !isBreak c).2

/-- The place after the spaces from here on, but only up to a column. -/
def skipSpacesTo (cursor : Cursor) (column : Int) : Cursor :=
  let spaces := (cursor.ahead.takeWhile (· = ' ')).length
  skip (min spaces (column - cursor.column).toNat) cursor

end Cursor

/-- The line break here, if there is one, as it counts in a scalar, and the place after it. -/
def lineBreak? (cursor : Cursor) : Option (Char × Cursor) :=
  match cursor.ahead with
  | c :: _ => if isBreak c then some (if isSeparator c then c else '\n', cursor.next) else none
  | [] => none

/-- Whether three hyphens or three points stand here as a word. -/
def atMark (mark : Char) (cursor : Cursor) : Bool :=
  (List.replicate 3 mark).isPrefixOf cursor.ahead && endsWord (cursor.peek 3)

/-- Whether a mark between documents stands here. -/
def atDocumentMark (cursor : Cursor) : Bool :=
  atMark '-' cursor || atMark '.' cursor

end Stencil.Yaml
