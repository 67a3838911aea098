import Stencil.Text.Basic

/-!
# `Stencil.Place` — offsets, lines and columns

A place is an offset into a text together with its line and column, both counted from one.  The
line is one more than the number of line feeds before the offset, the column counts from the last
of them; past the end of the text the column goes on counting on the last line.

## Contents
- **`Place.at`** says this of a text and an offset, without any history.
- **`LineCount`** counts on from the offset last asked for, a whole stretch at once, and starts again where
  an offset lies further back.
-/

namespace Stencil

/-- An offset with the line and the column it falls on. -/
structure Place where
  offset : Int
  line : Int
  column : Int
deriving DecidableEq, Repr

/-- The offset just after the last line feed of a text; zero if there is none. -/
def lastLineStart (s : Text) : Nat :=
  match Text.lastIndexOf? '\n' s with
  | some k => k + 1
  | none => 0

/-- The place of an offset in a text. -/
def Place.at (text : Text) (offset : Nat) : Place :=
  let before := text.take offset
  { offset := offset
    line := 1 + before.count '\n'
    column := (offset : Int) - lastLineStart before + 1 }

/-! ## Counting -/

/-- How far the lines of a text have been counted: up to an offset, with its line and the offset where
that line starts. -/
structure LineCount where
  offset : Nat
  line : Nat
  lineStart : Nat
deriving DecidableEq, Repr

namespace LineCount

/-- Nothing counted yet. -/
def start : LineCount :=
  ⟨0, 1, 0⟩

/-- Count on to an offset.  The line feeds of the stretch up to there are counted at once, and the last of
them is looked up if there are any. -/
def forward (text : Text) (c : LineCount) (offset : Nat) : LineCount :=
  let stretch := (text.take offset).drop c.offset
  let feeds := stretch.count '\n'
  if feeds = 0 then { c with offset := offset }
  else ⟨offset, c.line + feeds, c.offset + lastLineStart stretch⟩

/-- Count on to an offset, or again from the beginning if it lies behind. -/
def goTo (text : Text) (c : LineCount) (offset : Nat) : LineCount :=
  if offset < c.offset then start.forward text offset else c.forward text offset

/-- The place counted up to. -/
def place (c : LineCount) : Place :=
  ⟨c.offset, c.line, (c.offset : Int) - c.lineStart + 1⟩

/-- The places of some offsets, one asked for after the other. -/
def places (text : Text) (c : LineCount) : List Nat → List Place
  | [] => []
  | offset :: more =>
    let next := c.goTo text offset
    next.place :: next.places text more

@[simp] theorem offset_forward (text : Text) (c : LineCount) (offset : Nat) :
    (c.forward text offset).offset = offset := by
  unfold forward
  dsimp only
  split <;> rfl

/-- Lines are counted up to where it was asked for. -/
@[simp] theorem offset_goTo (text : Text) (c : LineCount) (offset : Nat) :
    (c.goTo text offset).offset = offset := by
  unfold goTo
  split <;> exact offset_forward text _ offset

end LineCount

end Stencil
