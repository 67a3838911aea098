import Stencil.Text.Basic

/-!
# `Stencil.Marker.Span` — where the markers of a text stand

A marker is two opening braces, a body that is not empty and holds no opening brace, and the nearest
two closing braces.  All else, loose braces included, is literal text.

## Contents
- **`Span`**, a stretch of a text.
- **`markerSpans`** scans from left to right.  After a start whose body holds an opening brace it goes
  on one code point before the last of them, since no start in between can have a better body.
- **`markerSpansPlain`** is the plain form of the scan: after any start that fails it goes on one code
  point further.
-/

namespace Stencil

/-- A stretch of a text, from `start` up to but not including `stop`. -/
structure Span where
  start : Nat
  stop : Nat
deriving DecidableEq, Repr

/-- The part of a text that a span covers. -/
def Span.slice (span : Span) (text : Text) : Text :=
  (text.take span.stop).drop span.start

/-- The spans of the markers in `ahead`, which stands at `offset`. -/
def markerSpansFrom (offset : Nat) (ahead : Text) : List Span :=
  match _opened : Text.splitAtPair '{' ahead with
  | none => []
  | some (before, inside) =>
    match _closed : Text.splitAtPair '}' inside with
    | none => []
    | some (body, after) =>
      let start := offset + before.length
      if body = [] then markerSpansFrom (start + 1) ('{' :: inside)
      else
        match Text.lastIndexOf? '{' body with
        | some k => markerSpansFrom (start + 1 + k) (('{' :: inside).drop k)
        | none =>
          let stop := start + body.length + 4
          ⟨start, stop⟩ :: markerSpansFrom stop after
termination_by ahead.length
decreasing_by
  all_goals
    have whole := Text.length_of_splitAtPair _opened
    have part := Text.length_of_splitAtPair _closed
  · rw [List.length_cons]
    omega
  · rw [List.length_drop, List.length_cons]
    omega
  · omega

/-- The spans of the markers of a text, from left to right. -/
def markerSpans (text : Text) : List Span :=
  markerSpansFrom 0 text

/-- The plain scan of `ahead`, which stands at `offset`. -/
def markerSpansPlainFrom (offset : Nat) (ahead : Text) : List Span :=
  match _opened : Text.splitAtPair '{' ahead with
  | none => []
  | some (before, inside) =>
    match _closed : Text.splitAtPair '}' inside with
    | none => []
    | some (body, after) =>
      let start := offset + before.length
      if body = [] ∨ '{' ∈ body then markerSpansPlainFrom (start + 1) ('{' :: inside)
      else
        let stop := start + body.length + 4
        ⟨start, stop⟩ :: markerSpansPlainFrom stop after
termination_by ahead.length
decreasing_by
  all_goals
    have whole := Text.length_of_splitAtPair _opened
    have part := Text.length_of_splitAtPair _closed
  · rw [List.length_cons]
    omega
  · omega

/-- The spans of the markers of a text, by the plain scan. -/
def markerSpansPlain (text : Text) : List Span :=
  markerSpansPlainFrom 0 text

end Stencil
