/-!
# `Stencil.Mapping` — ordered mappings

A mapping keeps its keys in the order in which they were first put in.  Keys are compared by `==`,
which need not be equality: of keys that compare equal, the first stays and the last value wins.

## Contents
- **`Mapping`** with `insert`, `find?`, `contains`, `ofList` and `update`.

What is found after `insert` is the matter of `Stencil.Proofs.Mapping`: it depends on how a key compares
with the others.
-/

namespace Stencil

/-- A mapping that keeps its keys in order. -/
structure Mapping (κ ν : Type) where
  entries : List (κ × ν)
deriving DecidableEq, Repr

namespace Mapping

variable {κ ν : Type} [BEq κ]

/-- The mapping without keys. -/
def empty : Mapping κ ν :=
  ⟨[]⟩

instance : EmptyCollection (Mapping κ ν) := ⟨empty⟩

instance : Inhabited (Mapping κ ν) := ⟨empty⟩

/-- Put a value at a key of a list of entries. -/
def insertEntry (key : κ) (value : ν) : List (κ × ν) → List (κ × ν)
  | [] => [(key, value)]
  | (k, v) :: rest =>
    if k == key then (k, value) :: rest else (k, v) :: insertEntry key value rest

/-- Put a value at a key; a new key comes last. -/
def insert (m : Mapping κ ν) (key : κ) (value : ν) : Mapping κ ν :=
  ⟨insertEntry key value m.entries⟩

/-- The value at a key. -/
def find? (m : Mapping κ ν) (key : κ) : Option ν :=
  (m.entries.find? fun (k, _) => k == key).map Prod.snd

/-- Whether there is such a key. -/
def contains (m : Mapping κ ν) (key : κ) : Bool :=
  m.entries.any fun (k, _) => k == key

/-- The keys in order. -/
def keys (m : Mapping κ ν) : List κ :=
  m.entries.map Prod.fst

/-- Put in all entries of a list, from left to right. -/
def insertAll (m : Mapping κ ν) (entries : List (κ × ν)) : Mapping κ ν :=
  entries.foldl (fun m (key, value) => m.insert key value) m

/-- The mapping that a list of entries makes. -/
def ofList (entries : List (κ × ν)) : Mapping κ ν :=
  empty.insertAll entries

/-- The first mapping, with all entries of the second put in. -/
def update (m other : Mapping κ ν) : Mapping κ ν :=
  m.insertAll other.entries

/-! ## Looking up -/

@[simp] theorem find?_empty (key : κ) : (empty : Mapping κ ν).find? key = none := rfl

/-- A key is there exactly if it has a value. -/
theorem contains_eq_isSome_find? (m : Mapping κ ν) (key : κ) :
    m.contains key = (m.find? key).isSome := by
  simp [contains, find?, List.isSome_find?]

end Mapping

end Stencil
