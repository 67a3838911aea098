import Stencil.Number.Literal
import Stencil.Yaml.Cursor
import Stencil.Yaml.Fault

/-!
# `Stencil.Yaml.Block` — scalars by indentation

A block scalar holds the lines below its header that are indented as far as its first line with text,
or by the step that the header gives.  A literal one keeps its line breaks.  In a folded one a break
between two lines that start with text counts as a space.  The header says what becomes of the breaks
at the end.

## Contents
- **`Chomping`** and **`BlockHeader`**; **`blockHeader`** reads the line of the header.
- **`blockScalar`**, the scalar after the indicator, and the place after it.
-/

namespace Stencil.Yaml

/-- What becomes of the line breaks at the end of a block scalar. -/
inductive Chomping where
  /-- None is kept. -/
  | strip
  /-- One is kept. -/
  | clip
  /-- All are kept. -/
  | keep
deriving DecidableEq, Repr

/-- What the header of a block scalar says. -/
structure BlockHeader where
  chomping : Chomping
  /-- The indentation relative to the parent, if it is given. -/
  step : Option Nat
deriving DecidableEq, Repr

/-- The chomping that a sign stands for. -/
def chompingOf? (c : Option Char) : Option Chomping :=
  match c with
  | some '+' => some .keep
  | some '-' => some .strip
  | _ => none

/-- The step that a digit stands for; zero is refused. -/
def stepOf? (c : Option Char) : Except Fault (Option Nat) :=
  match c with
  | some c =>
    if isDecimalDigit c then
      if c = '0' then .error .malformed else .ok (digitValue? c)
    else .ok none
  | none => .ok none

/-- The header of a block scalar, up to the end of its line: a sign and a digit in either order, then
maybe a comment. -/
def blockHeader (cursor : Cursor) : Except Fault (BlockHeader × Cursor) := do
  let (header, cursor) ←
    match chompingOf? (cursor.peek 0) with
    | some chomping => do
      let cursor := cursor.next
      match ← stepOf? (cursor.peek 0) with
      | some step => .ok (⟨chomping, some step⟩, cursor.next)
      | none => .ok (⟨chomping, none⟩, cursor)
    | none =>
      match ← stepOf? (cursor.peek 0) with
      | some step =>
        let cursor := cursor.next
        match chompingOf? (cursor.peek 0) with
        | some chomping => .ok (BlockHeader.mk chomping (some step), cursor.next)
        | none => .ok (⟨.clip, some step⟩, cursor)
      | none => .ok (⟨.clip, none⟩, cursor)
  if !endsHeader (cursor.peek 0) then .error .malformed
  else
    let cursor := cursor.skipSpaces
    let cursor := if cursor.peek 0 = some '#' then cursor.skipLine else cursor
    if !isLineEnd (cursor.peek 0) then .error .malformed
    else .ok (header, ((lineBreak? cursor).map Prod.snd).getD cursor)

/-- What stands before the first line with text. -/
structure BlockLead where
  breaks : Text
  /-- The furthest column reached by spaces. -/
  furthest : Nat
  /-- The column of the first line break, if there is one. -/
  first : Option Nat
  cursor : Cursor

/-- The spaces and line breaks before the first line with text. -/
def blockLead : Nat → BlockLead → BlockLead
  | 0, lead => lead
  | fuel + 1, lead =>
    if lead.cursor.peek 0 = some ' ' then
      let cursor := lead.cursor.next
      blockLead fuel { lead with cursor, furthest := max lead.furthest cursor.column }
    else
      match lineBreak? lead.cursor with
      | none => lead
      | some (c, after) =>
        blockLead fuel
          { breaks := lead.breaks ++ [c], furthest := lead.furthest,
            first := lead.first.or (some lead.cursor.column), cursor := after }

/-- The empty lines from here on, with spaces up to the indentation in each. -/
def blockBreaks (indent : Int) : Nat → Cursor → Text × Cursor
  | 0, cursor => ([], cursor)
  | fuel + 1, cursor =>
    let cursor := cursor.skipSpacesTo indent
    match lineBreak? cursor with
    | none => ([], cursor)
    | some (c, after) =>
      let (more, last) := blockBreaks indent fuel after
      (c :: more, last)

/-- How a block scalar is read. -/
structure BlockStyle where
  folded : Bool
  indent : Int
  /-- The scalar is not indented, so that a mark between documents ends it. -/
  atMargin : Bool

/-- Whether a line starts with text. -/
def startsWithText (cursor : Cursor) : Bool :=
  cursor.peek 0 != some ' ' && cursor.peek 0 != some '\t'

/-- The lines from here on, `breaks` being the empty lines before them: their text, the last line
break, the empty lines after it, and the place reached. -/
def blockLines (style : BlockStyle) :
    Nat → Text → Option Char → Cursor → Text × Option Char × Text × Cursor
  | 0, breaks, last, cursor => ([], last, breaks, cursor)
  | fuel + 1, breaks, last, cursor =>
    if (cursor.column : Int) ≠ style.indent ∨ cursor.ahead = [] then ([], last, breaks, cursor)
    else
      let startsText := startsWithText cursor
      let (line, ended) := cursor.takeWhile fun c => !isBreak c
      let (lineBreak, after) :=
        match lineBreak? ended with
        | some (c, after) => (some c, after)
        | none => (none, ended)
      let (empty, after) := blockBreaks style.indent after.left.succ after
      let goesOn :=
        !(style.atMargin && after.column = 0 && atDocumentMark after) &&
          (after.column : Int) = style.indent && !after.ahead.isEmpty
      if !goesOn then (breaks ++ line, lineBreak, empty, after)
      else
        let folds :=
          style.folded && lineBreak = some '\n' && startsText && startsWithText after
        let joint :=
          if folds then if empty = [] then [' '] else [] else lineBreak.toList
        let (more, lineBreak, trailing, last) := blockLines style fuel empty lineBreak after
        (breaks ++ line ++ joint ++ more, lineBreak, trailing, last)

/-- The scalar after its indicator; `indent` is the indentation of its parent. -/
def blockScalar (folded : Bool) (indent : Int) (cursor : Cursor) :
    Except Fault (Text × Cursor) := do
  let (header, cursor) ← blockHeader cursor
  let fuel := cursor.left.succ
  let (breaks, style, cursor) ←
    match header.step with
    | some step =>
      let indent := max (indent + 1) 1 + step - 1
      let (breaks, cursor) := blockBreaks indent fuel cursor
      .ok (breaks, BlockStyle.mk folded indent false, cursor)
    | none =>
      let lead := blockLead fuel ⟨[], 0, none, cursor⟩
      if 0 < lead.first.getD 0 ∧ lead.first.getD 0 < lead.furthest then .error .malformed
      else .ok (lead.breaks, ⟨folded, max (indent + 1) lead.furthest, indent + 1 = 0⟩, lead.cursor)
  let (text, lineBreak, trailing, cursor) := blockLines style fuel breaks none cursor
  let ending :=
    match header.chomping with
    | .strip => []
    | .clip => lineBreak.toList
    | .keep => lineBreak.toList ++ trailing
  return (text ++ ending, cursor)

end Stencil.Yaml
