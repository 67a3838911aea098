import Stencil.Disk.Basic

/-!
# `Stencil.Disk.Tree` — a folder tree in memory

A tree is given by the files and folders in it, each at the names that lead to it from the working
folder; the folders on the way need not be given.  Outside of the working folder there is nothing
but folders without names.

## Contents
- **`Tree`** and **`Tree.put`**.
- **`Tree.read`**, the walk along the parts of a path, and **`Tree.toDisk`**.
-/

namespace Stencil

/-- What a tree holds at some names; no octets for a folder. -/
structure Tree.Entry where
  names : List Text
  octets : Option (List UInt8)
deriving Repr

/-- The files and folders of a tree, the latest first. -/
structure Tree where
  entries : List Tree.Entry
deriving Repr

namespace Tree

/-- The longest name of a file or folder, in octets. -/
def longestName : Nat := 255

/-- The longest path, in octets. -/
def longestPath : Nat := 4095

/-- The tree with one more file or folder. -/
def put (tree : Tree) (path : Path) (octets : Option (List UInt8)) : Tree :=
  ⟨⟨path.parts, octets⟩ :: tree.entries⟩

/-- What lies at some names. -/
def find (tree : Tree) (names : List Text) : Reading :=
  match tree.entries.find? fun entry => entry.names = names with
  | some ⟨_, some octets⟩ => .file octets
  | some ⟨_, none⟩ => .folder
  | none =>
    if tree.entries.any fun entry => names.isPrefixOf entry.names then .folder else .missing

/-- Walk on along the parts of a path.  The folder reached is given by its names, the last first, or
by nothing if it lies outside of the working folder. -/
def walk (tree : Tree) : Option (List Text) → List Text → Reading
  | _, [] => .folder
  | here, part :: rest =>
    if longestName < Utf8.length part then .nameTooLong
    else if part = ['.', '.'] then
      -- above the working folder nothing is known
      match here with
      | some (_ :: above) => walk tree (some above) rest
      | _ => walk tree none rest
    else
      match here with
      | none => .missing
      | some names =>
        match tree.find (part :: names).reverse with
        | .file octets => if rest = [] then .file octets else .notFolder
        | .folder => walk tree (some (part :: names)) rest
        | reading => reading

/-- What there is at a path, seen from the working folder. -/
def toDisk (tree : Tree) : Disk := fun path =>
  if path.toText.contains '\x00' then .nullCharacter
  else if longestPath < Utf8.length path.toText then .nameTooLong
  else tree.walk (if path.root = [] then some [] else none) path.parts

end Tree

end Stencil
