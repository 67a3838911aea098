import Stencil.Marker.Pattern
import Stencil.Text.Blank
import Stencil.Token

/-!
# `Stencil.Marker.Form` — what a marker says

A marker opens a condition when its body is the word *if*, then blanks, then a condition; it closes
one when its body is the word *endif*; it names a variable when its body has no blank in it.  The
forms overlap, so they are tried in this order.

## Contents
- **`markerForms`**, the forms as patterns over the whole marker, in the order they are tried.
- **`classifyMarker`**, the kind and the value of a marker, or nothing.
-/

namespace Stencil

open Pattern

/-- The pattern items of a fixed word. -/
def Pattern.word (s : String) : List Item :=
  s.toList.map .char

/-- The forms of a marker, in the order they are tried. -/
def markerForms : List (TokenKind × List Item) :=
  [ (.ifOpen, word "\x7b\x7bif" ++ [.many isBlank false, .many (· != '}') true] ++
      word "\x7d\x7d"),
    (.endif, word "\x7b\x7bendif\x7d\x7d"),
    (.variable, word "\x7b\x7b" ++ [.many (fun c => c != '}' && !isBlank c) true] ++
      word "\x7d\x7d") ]

/-- The kind of token that a marker is, with its value; nothing if it is of no known form. -/
def classifyMarker (marker : Text) : Option (TokenKind × Text) :=
  markerForms.findSome? fun (kind, pattern) =>
    (wholeMatch? pattern marker).map fun value => (kind, value)

end Stencil
