import Stencil.Value

/-!
# `Stencil.Yaml.Datum` — the data that a document is made into

Lists, mappings and sets are kept in a store and told by their numbers there, since they are made before
they are filled and may hold themselves.  A tuple is made out of what a list holds at that moment.

## Contents
- **`Datum`**, **`Container`** and **`Store`**.
- **`Datum.same`**, when two keys are the same; **`Store.hashFault?`**, the kind of container that keeps a
  datum from being a key.
- **`Store.isWritable`**, whether a datum has a text, with all that it holds.
- **`Datum.key`**, a datum as a key, and **`Store.value`**, a datum as a value, up to a depth.
-/

namespace Stencil.Yaml

/-- The number of a container. -/
abbrev ContainerId := Nat

/-- A single datum, a container in the store, or a tuple. -/
inductive Datum where
  /-- A single value.  The origin tells numbers apart that are the same as nothing else. -/
  | scalar (s : Scalar) (origin : Option Nat)
  | container (id : ContainerId)
  | tuple (items : List Datum)
deriving Repr

instance : Inhabited Datum := ⟨.scalar .null none⟩

mutual

/-- Whether two data are the same key.  Not-a-number is the same as itself if it comes from the same
origin. -/
def Datum.same : Datum → Datum → Bool
  | .scalar a i, .scalar b j =>
    if a = .float .nan ∧ b = .float .nan then i == j else a.same b
  | .container i, .container j => i == j
  | .tuple as, .tuple bs => sameData as bs
  | _, _ => false

/-- Whether two tuples hold the same. -/
def sameData : List Datum → List Datum → Bool
  | [], [] => true
  | a :: as, b :: bs => a.same b && sameData as bs
  | _, _ => false

end

instance : BEq Datum := ⟨Datum.same⟩

mutual

/-- The containers of a datum. -/
def Datum.containers : Datum → List ContainerId
  | .scalar .. => []
  | .container id => [id]
  | .tuple items => containersIn items

/-- The containers of some data. -/
def containersIn : List Datum → List ContainerId
  | [] => []
  | datum :: rest => datum.containers ++ containersIn rest

end

mutual

/-- Whether a datum has a text, containers apart. -/
def Datum.isWritable : Datum → Bool
  | .scalar s _ => s.isWritable
  | .container _ => true
  | .tuple items => dataWritable items

/-- Whether some data have a text, containers apart. -/
def dataWritable : List Datum → Bool
  | [] => true
  | datum :: rest => datum.isWritable && dataWritable rest

end

mutual

/-- A datum as a key. -/
def Datum.key : Datum → Key
  | .scalar s _ => .scalar s
  | .container _ => .tuple []
  | .tuple items => .tuple (keysOf items)

/-- Some data as keys. -/
def keysOf : List Datum → List Key
  | [] => []
  | datum :: rest => datum.key :: keysOf rest

end

/-! ## Containers -/

/-- What a container holds. -/
inductive Container where
  | list (items : List Datum)
  | set (elements : List Datum)
  /-- A mapping; an ordered one has a name of its own. -/
  | mapping (entries : Mapping Datum Datum) (ordered : Bool)

instance : Inhabited Container := ⟨.list []⟩

/-- What a container is called. -/
def Container.kind : Container → Text
  | .list _ => Text.of "list"
  | .set _ => Text.of "set"
  | .mapping _ ordered => if ordered then Text.of "ordereddict" else Text.of "dict"

/-- All data in a container. -/
def Container.data : Container → List Datum
  | .list items => items
  | .set elements => elements
  | .mapping entries _ => entries.entries.flatMap fun (key, value) => [key, value]

/-- The containers by their numbers. -/
abbrev Store := Array Container

namespace Store

/-- The container of a number. -/
def container (store : Store) (id : ContainerId) : Container :=
  store.getD id default

/-- The kind of the first container in a datum, which keeps it from being a key. -/
def hashFault? (store : Store) (datum : Datum) : Option Text :=
  datum.containers.head?.map fun id => (store.container id).kind

/-- All containers that can be reached from some in so many steps, and those. -/
def reachable (store : Store) : Nat → List ContainerId → List ContainerId
  | 0, known => known
  | steps + 1, known =>
    let next := known.flatMap fun id => containersIn (store.container id).data
    let more := next.eraseDups.filter fun id => !known.contains id
    if more.isEmpty then known else reachable store steps (known ++ more)

/-- Whether a datum has a text, with all that it holds. -/
def isWritable (store : Store) (datum : Datum) : Bool :=
  datum.isWritable &&
    (store.reachable store.size datum.containers.eraseDups).all fun id =>
      dataWritable (store.container id).data

/-- A datum as a value.  Lists and mappings are empty beyond the depth, since they may hold
themselves. -/
def value (store : Store) : Nat → Datum → Value
  | _, .scalar s _ => .scalar s
  | 0, .tuple _ => .list []
  | depth + 1, .tuple items => .list (items.map (store.value depth))
  | depth, .container id =>
    match store.container id, depth with
    | .set elements, _ => .set (keysOf elements)
    | .list _, 0 => .list []
    | .list items, depth + 1 => .list (items.map (store.value depth))
    | .mapping .., 0 => .mapping []
    | .mapping entries _, depth + 1 =>
      .mapping (entries.entries.map fun (key, item) => (key.key, store.value depth item))

end Store

end Stencil.Yaml
