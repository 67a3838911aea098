import Stencil.Yaml.Cursor
import Stencil.Yaml.Version

/-!
# `Stencil.Yaml.Plain` — scalars without quotes

A plain scalar is made of words with spaces between them.  It goes on over a line break as long as the
lines are indented far enough; a single break counts as a space, of several the first does not count.

## Contents
- **`PlainContext`**; **`startsPlain`**, whether a plain scalar starts here; **`wordLength`**, the length of
  a word.
- **`plainGap`**, the white space between two words.
- **`plainScalar`**, the scalar, the place after it, and whether a line break came last.
-/

namespace Stencil.Yaml

/-- The indicators that do not start a plain scalar by themselves. -/
def isIndicator (c : Char) : Bool :=
  ("-?:,[]\x7b\x7d#&*!|>'\"%@".toList ++ [Char.ofNat 0x60]).contains c

/-- Where a plain scalar stands: whether between brackets, and in which version of the format. -/
structure PlainContext where
  inFlow : Bool
  version : Version

/-- Whether a plain scalar starts here.  A hyphen, and outside of brackets also a question mark or a
colon, may start one if a word goes on after it.  Between brackets a colon may start one if there is
anything after it, save for the old version. -/
def startsPlain (context : PlainContext) (cursor : Cursor) : Bool :=
  match cursor.ahead with
  | [] => false
  | c :: rest =>
    let next := rest.head?
    if !(isIndicator c || endsWord (some c)) then true
    else if c = '-' then !endsWord next
    else if c = ':' && context.inFlow && context.version ≠ .old then
      next != some ' ' && next != some '\t'
    else !endsWord next && !context.inFlow && (c = '?' || c = ':')

/-- The brackets and the comma, which end a word inside brackets. -/
def isFlowIndicator (c : Char) : Bool :=
  c = ',' || c = '[' || c = ']' || c = '\x7b' || c = '\x7d'

/-- The number of characters up to the end of a word. -/
def wordLength (context : PlainContext) : Text → Nat
  | [] => 0
  | c :: rest =>
    let ends :=
      if c = ':' then endsWord rest.head?
      else endsWord (some c) ||
        (context.inFlow && (isFlowIndicator c || (c = '?' && context.version = .old)))
    if ends then 0 else wordLength context rest + 1

/-- The line breaks after the first one, with spaces between them; nothing if a mark between documents
follows one of them. -/
def plainBreaks : Nat → Cursor → Option Text × Cursor
  | 0, cursor => (some [], cursor)
  | fuel + 1, cursor =>
    let cursor := cursor.skipSpaces
    match lineBreak? cursor with
    | none => (some [], cursor)
    | some (c, after) =>
      if atDocumentMark after then (none, after)
      else
        let (more, last) := plainBreaks fuel after
        (more.map (c :: ·), last)

/-- The white space before the next word as it counts in the scalar, the place after it, and whether
there was a line break; no white space at all, or a mark between documents, ends the scalar. -/
def plainGap (cursor : Cursor) : Option Text × Cursor × Bool :=
  let (spaces, cursor) := cursor.takeWhile (· = ' ')
  match lineBreak? cursor with
  | none => (if spaces = [] then none else some spaces, cursor, false)
  | some (c, after) =>
    if atDocumentMark after then (none, after, true)
    else
      let (breaks, last) := plainBreaks after.left.succ after
      let gap := breaks.map fun breaks =>
        if c ≠ '\n' then c :: breaks else if breaks = [] then [' '] else breaks
      (gap, last, true)

/-- The words from here on; lines have to be indented to `indent`, unless inside brackets. -/
def plainFrom (context : PlainContext) (indent : Int) : Nat → Cursor → Bool → Text × Cursor × Bool
  | 0, cursor, broken => ([], cursor, broken)
  | fuel + 1, cursor, broken =>
    let length := if cursor.peek 0 = some '#' then 0 else wordLength context cursor.ahead
    if length = 0 then ([], cursor, broken)
    else
      let word := cursor.ahead.take length
      match plainGap (cursor.skip length) with
      | (none, after, broken) => (word, after, broken)
      | (some gap, after, broken) =>
        if after.peek 0 = some '#' || (!context.inFlow && after.column < indent) then (word, after, broken)
        else
          let (more, last, broken) := plainFrom context indent fuel after broken
          (if more = [] then word else word ++ gap ++ more, last, broken)

/-- The plain scalar that starts here, the place after it, and whether a line break came last. -/
def plainScalar (context : PlainContext) (indent : Int) (cursor : Cursor) :
    Text × Cursor × Bool :=
  plainFrom context indent cursor.left.succ cursor false

end Stencil.Yaml
