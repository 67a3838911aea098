import Stencil.Number.Literal
import Stencil.Yaml.Cursor
import Stencil.Yaml.Fault

/-!
# `Stencil.Yaml.Quoted` — scalars between quotes

Between single quotes a quote is written twice and nothing else is special.  Between double quotes a
backslash starts an escape.  In both a line break counts as a space, of several the first does not
count, and white space around line breaks does not count.

## Contents
- **`escapeOf?`** and **`escapeLength?`**, the escapes of one character and those with a code;
  **`codedChar`**, the character of a code, or of two that are its halves.
- **`quotedScalar`**, the scalar after an opening quote and the place after the closing one.
-/

namespace Stencil.Yaml

/-- The character that an escape of one character stands for. -/
def escapeOf? (c : Char) : Option Char :=
  [ ('0', '\x00'), ('a', '\x07'), ('b', '\x08'), ('t', '\t'), ('\t', '\t'), ('n', '\n'),
    ('v', '\x0b'), ('f', '\x0c'), ('r', '\r'), ('e', '\x1b'), (' ', ' '), ('"', '"'), ('/', '/'),
    ('\\', '\\'), ('N', '\u0085'), ('_', '\u00a0'), ('L', '\u2028'), ('P', '\u2029') ].lookup c

/-- The number of hexadecimal digits after the letter of an escape. -/
def escapeLength? (c : Char) : Option Nat :=
  [('x', 2), ('u', 4), ('U', 8)].lookup c

/-- The code that an escape names, and the place after it; the cursor stands after the backslash. -/
def code? (cursor : Cursor) : Option (Nat × Cursor) := do
  let letter ← cursor.peek 0
  let length ← escapeLength? letter
  let digits := cursor.next.ahead.take length
  if digits.length = length ∧ digits.all (digitValue? · |>.isSome) then
    (readDigits? 16 digits).map fun code => (code, cursor.skip (length + 1))
  else none

/-- The code that an escape names, with the backslash in front of it. -/
def escapedCode? (cursor : Cursor) : Option (Nat × Cursor) :=
  if cursor.peek 0 = some '\\' then code? cursor.next else none

/-- The character that two codes stand for together, each of them half of it. -/
def joined? (high low : Nat) : Option Char :=
  if 0xd800 ≤ high ∧ high < 0xdc00 ∧ 0xdc00 ≤ low ∧ low < 0xe000 then
    some (Char.ofNat (0x10000 + (high - 0xd800) * 0x400 + (low - 0xdc00)))
  else none

/-- The character of a code.  Half of a character is none by itself. -/
def charOfCode (code : Nat) : Except Fault Char :=
  if 0x7fffffff < code then .error .codeSize
  else if 0x10ffff < code then .error .codePoint
  else if code.isValidChar then .ok (Char.ofNat code)
  else .error .malformed

/-- The character of a code, or of that code and the one after it, and the place after them. -/
def codedChar (code : Nat) (after : Cursor) : Except Fault (Char × Cursor) :=
  let pair := do
    let (low, last) ← escapedCode? after
    (joined? code low).map fun c => (c, last)
  match pair with
  | some (c, last) => .ok (c, last)
  | none => (charOfCode code).map fun c => (c, after)

/-- The line breaks from here on, with white space between them. -/
def quotedBreaks : Nat → Cursor → Except Fault (Text × Cursor)
  | 0, cursor => .ok ([], cursor)
  | fuel + 1, cursor =>
    if atDocumentMark cursor then .error .malformed
    else
      let cursor := (cursor.takeWhile fun c => c = ' ' || c = '\t').2
      match lineBreak? cursor with
      | none => .ok ([], cursor)
      | some (c, after) => (quotedBreaks fuel after).map fun (more, last) => (c :: more, last)

/-- The white space from here on as it counts in the scalar. -/
def quotedGap (cursor : Cursor) : Except Fault (Text × Cursor) :=
  let (spaces, cursor) := cursor.takeWhile fun c => c = ' ' || c = '\t'
  match lineBreak? cursor with
  | none => .ok (spaces, cursor)
  | some (c, after) =>
    (quotedBreaks after.left.succ after).map fun (breaks, last) =>
      (if c ≠ '\n' then c :: breaks else if breaks = [] then [' '] else breaks, last)

/-- What an escape stands for; the cursor stands after the backslash. -/
def escape (cursor : Cursor) : Except Fault (Text × Cursor) :=
  match (cursor.peek 0).bind escapeOf?, code? cursor, lineBreak? cursor with
  | some plain, _, _ => .ok ([plain], cursor.next)
  | none, some (code, after), _ => (codedChar code after).map fun (c, last) => ([c], last)
  | none, none, some (_, after) => quotedBreaks after.left.succ after
  | none, none, none => .error .malformed

/-- The scalar from here on, up to the closing quote. -/
def quotedFrom (quote : Char) : Nat → Cursor → Except Fault (Text × Cursor)
  | 0, _ => .error .malformed
  | fuel + 1, cursor => do
    let (piece, after) ←
      match cursor.ahead with
      | [] => .error .malformed
      | c :: rest =>
        if c = quote then
          if quote = '\'' ∧ rest.head? = some '\'' then .ok (['\''], cursor.skip 2)
          else return ([], cursor.next)
        else if quote = '"' ∧ c = '\\' then escape cursor.next
        else if c = ' ' || c = '\t' || isBreak c then quotedGap cursor
        else .ok ([c], cursor.next)
    let (more, last) ← quotedFrom quote fuel after
    return (piece ++ more, last)

/-- The scalar after an opening quote, and the place after the closing one. -/
def quotedScalar (quote : Char) (cursor : Cursor) : Except Fault (Text × Cursor) :=
  quotedFrom quote cursor.left.succ cursor

end Stencil.Yaml
