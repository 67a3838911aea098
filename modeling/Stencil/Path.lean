import Stencil.Text.Lines

/-!
# `Stencil.Path` — names of files

A path is written with slashes.  Empty parts and parts that are a single dot do not count; two dots
stay, since they are only resolved on the way through the folders.

## Contents
- **`Path`**, with **`ofText`**, **`toText`** and **`join`**: an absolute path replaces what stands
  before it.
- **`templatePath`**, where the file of a template lies.
-/

namespace Stencil

/-- A path: where it starts from, and its parts. -/
structure Path where
  /-- Nothing for a relative path, otherwise one slash or two. -/
  root : Text
  parts : List Text
deriving DecidableEq, Repr

namespace Path

/-- The slashes that a path starts from: exactly two are kept, more are one. -/
def rootOf : Text → Text
  | '/' :: '/' :: '/' :: _ => ['/']
  | '/' :: '/' :: _ => ['/', '/']
  | '/' :: _ => ['/']
  | _ => []

/-- The path that a text names. -/
def ofText (s : Text) : Path :=
  ⟨rootOf s, (Text.splitOn '/' s).filter fun part => part ≠ [] && part ≠ ['.']⟩

/-- A path as text; the empty relative path is a dot. -/
def toText (p : Path) : Text :=
  if p.root = [] ∧ p.parts = [] then ['.'] else p.root ++ Text.joinWith ['/'] p.parts

/-- The second path as seen from the first. -/
def join (p q : Path) : Path :=
  if q.root = [] then ⟨p.root, p.parts ++ q.parts⟩ else q

end Path

/-- Where the file of a template lies: in the templates folder of the root folder. -/
def templatePath (rootFolder templatesFolder file : Text) : Path :=
  ((Path.ofText rootFolder).join (.ofText templatesFolder)).join (.ofText file)

end Stencil
