import Stencil.Diagnostic
import Stencil.Marker.Form
import Stencil.Marker.Span
import Stencil.Token

/-!
# `Stencil.Lexer` — from a text to its tokens

The markers of a text cut it into segments.  Every segment gives one token, save the markers of no
known form: they are reported and leave no token.  Lines are counted on from one segment to the next, since
segments come in ascending order.

## Contents
- **`Segment`** and **`segments`**, the text cut along its markers.
- **`Segment.read`**, the token or the report that a segment gives at its place.
- **`Lexer`**, a text being read: it remembers how far lines have been counted and all its reports.
- **`tokenize`**, the tokens and the reports of a text.
-/

namespace Stencil

/-- A stretch of a template: literal text or one marker. -/
inductive Segment where
  | literal (start : Nat) (text : Text)
  | marker (start : Nat) (text : Text)
deriving DecidableEq, Repr

namespace Segment

/-- Where the segment starts. -/
def start : Segment → Nat
  | .literal start _ => start
  | .marker start _ => start

/-- The text that the segment covers. -/
def text : Segment → Text
  | .literal _ text => text
  | .marker _ text => text

/-- The token that a segment gives, or the report that there is none. -/
def read (segment : Segment) (place : Place) : Token ⊕ Diagnostic :=
  match segment with
  | .literal _ text => .inl ⟨.text, text, place⟩
  | .marker _ text =>
    match classifyMarker text with
    | some (kind, value) => .inl ⟨kind, value, place⟩
    | none => .inr (Diagnostic.unknownMarker text place)

end Segment

/-- The segments of `ahead`, which stands at `offset`, along the spans of its markers. -/
def segmentsFrom (offset : Nat) (ahead : Text) : List Span → List Segment
  | [] => if ahead = [] then [] else [.literal offset ahead]
  | span :: spans =>
    -- an empty stretch before a marker gives no segment
    let before := ahead.take (span.start - offset)
    let marker := (ahead.drop (span.start - offset)).take (span.stop - span.start)
    let after := ahead.drop (span.stop - offset)
    let rest := .marker span.start marker :: segmentsFrom span.stop after spans
    if before = [] then rest else .literal offset before :: rest

/-- The segments of a text. -/
def segments (text : Text) : List Segment :=
  segmentsFrom 0 text (markerSpans text)

/-! ## Reading -/

/-- A text that is being read. -/
structure Lexer where
  text : Text
  counted : LineCount
  diagnostics : List Diagnostic
deriving DecidableEq, Repr

namespace Lexer

/-- A text, with nothing read of it yet. -/
def ofText (text : Text) : Lexer :=
  ⟨text, .start, []⟩

/-- The place of an offset. -/
def locate (lexer : Lexer) (offset : Nat) : Place × Lexer :=
  let counted := lexer.counted.goTo lexer.text offset
  (counted.place, { lexer with counted })

/-- Read the segments in order; the tokens come back, the reports are added to those so far. -/
def readSegments (lexer : Lexer) : List Segment → List Token × Lexer
  | [] => ([], lexer)
  | segment :: more =>
    let (place, lexer) := lexer.locate segment.start
    match segment.read place with
    | .inl token =>
      let (tokens, lexer) := lexer.readSegments more
      (token :: tokens, lexer)
    | .inr diagnostic =>
      readSegments { lexer with diagnostics := lexer.diagnostics ++ [diagnostic] } more

/-- Read the whole text. -/
def tokenize (lexer : Lexer) : List Token × Lexer :=
  lexer.readSegments (segments lexer.text)

end Lexer

/-- The tokens of a text, and what is reported about its markers. -/
def tokenize (text : Text) : List Token × List Diagnostic :=
  let (tokens, lexer) := (Lexer.ofText text).tokenize
  (tokens, lexer.diagnostics)

end Stencil
