import Stencil.Yaml.Datum
import Stencil.Yaml.Graph
import Stencil.Yaml.Scalar

/-!
# `Stencil.Yaml.Builder` — data made out of nodes

Each node is made into one datum.  A list, a mapping or a set is made empty first and filled later, all
containers of a level before those inside of them, so that a fault further out is told before one further
in.  Keys, though, are filled at once, down to the ground.  Where a node is needed while it is being made,
it counts as nothing.

## Contents
- **`Builder`**, the data made so far, and **`Build`**, a step of the making.
- **`Build.scalarText`**, the text of a scalar, or of a mapping with a default value.
- **`Build.entriesOf`**, the entries of a mapping, and **`Build.fill`**, which fills any container.
- **`Build.datum`**, the datum of a node, and **`Build.fillAll`**, which fills what is left.
-/

namespace Stencil.Yaml

/-- Data being made out of the nodes of a document. -/
structure Builder where
  graph : Graph
  version : Version
  /-- Steps enough to merge any mapping. -/
  mergeFuel : Nat
  /-- The data of the nodes that are done. -/
  made : Array (Option Datum)
  /-- The nodes that are being made. -/
  underway : List NodeId
  store : Store
  /-- The containers to be filled, with their nodes, the last first. -/
  waiting : List (NodeId × ContainerId)
  /-- Whether containers are filled at once. -/
  atOnce : Bool

/-- Nothing made yet. -/
def Builder.start (graph : Graph) (version : Version) : Builder :=
  { graph, version
    mergeFuel := graph.mergeFuel
    made := Array.replicate graph.size none
    underway := []
    store := #[]
    waiting := []
    atOnce := false }

/-- A step of the making; it fails where a node has no value. -/
abbrev Build := StateT Builder (Except Fault)

namespace Build

/-- A node does not fit. -/
def refuse {α : Type} : Build α :=
  throw .malformed

/-- The node of a number. -/
def node (id : NodeId) : Build Node := do
  return (← get).graph.node id

/-! ## Containers -/

/-- A container more. -/
def addContainer (container : Container) : Build ContainerId :=
  modifyGet fun b => (b.store.size, { b with store := b.store.push container })

/-- Let a container hold something else. -/
def setContainer (id : ContainerId) (container : Container) : Build Unit :=
  modify fun b => { b with store := b.store.setIfInBounds id container }

/-- The container of a number. -/
def container (id : ContainerId) : Build Container := do
  return (← get).store.container id

/-- The kind of container that the tag of a collection asks for; none for other tags. -/
def containerOf? : Tag → Option Container
  | .sequence | .pairs => some (.list [])
  | .mapping => some (.mapping {} false)
  | .orderedMapping => some (.mapping {} true)
  | .set => some (.set [])
  | _ => none

/-! ## Scalars -/

/-- The text of a scalar.  A mapping may stand for one, if it has a default value; that it is its own one
shows where the steps are at an end. -/
def scalarText : Nat → NodeId → Build Text
  | 0, _ => throw .endless
  | fuel + 1, id => do
    match (← node id).content with
    | .scalar text => return text
    | .sequence _ => refuse
    | .mapping entries =>
      let graph := (← get).graph
      match entries.find? fun (key, _) => (graph.node key).tag = .default with
      | some (_, value) => scalarText fuel value
      | none => refuse

/-- The datum of a scalar with a tag.  The word for not-a-number always means the same one; any other that
is read is one of its own. -/
def scalarDatum (id : NodeId) (tag : Tag) : Build Datum := do
  if !tag.isSingle then refuse
  -- a date or a time cannot be the default value of a mapping
  if tag = .timestamp then
    if let .mapping _ := (← node id).content then
      refuse
  let b ← get
  let text ← scalarText (b.graph.size + 1) id
  let scalar ← scalarValue b.version tag text
  return .scalar scalar (if isNanWord text then none else some id)

/-! ## Entries -/

/-- A datum as a key: a list counts as a tuple, other containers are none. -/
def keyDatum (datum : Datum) : Build Datum := do
  match datum with
  | .container id =>
    match ← container id with
    | .list items => return .tuple items
    | .set _ | .mapping .. => refuse
  | .scalar .. | .tuple _ => return datum

/-- The key has to be without containers. -/
def checkHash (key : Datum) : Build Unit := do
  match (← get).store.hashFault? key with
  | some kind => throw (.unhashable kind)
  | none => return ()

/-- A key is there twice.  The key and its two values are told, which has to be possible. -/
def repeated {α : Type} (key value old : Datum) : Build α := do
  let store := (← get).store
  if [key, value, old].all store.isWritable then refuse else throw .notWritable

/-- The datum of an entry put in; `make` makes a datum, at once if that is asked for.  If `once` is set the
key must not have been there. -/
def addEntry (make : NodeId → Bool → Build Datum) (once : Bool) (entries : Mapping Datum Datum)
    (entry : Entry) : Build (Mapping Datum Datum) := do
  let key ← keyDatum (← make entry.1 true)
  let value ← make entry.2 false
  checkHash key
  match if once then entries.find? key else none with
  | some old => repeated key value old
  | none => return entries.insert key value

/-- The entries of a mapping.  Where entries were merged in, keys may come again. -/
def entriesOf (make : NodeId → Bool → Build Datum) (id : NodeId) :
    Build (Mapping Datum Datum) := do
  let b ← get
  match (b.graph.node id).content with
  | .scalar _ | .sequence _ => refuse
  | .mapping _ =>
    match b.graph.merge b.mergeFuel id with
    | none => refuse
    | some graph =>
      modify fun b => { b with graph }
      let merged := (graph.node id).merged
      if merged.isEmpty then (graph.entries id).foldlM (addEntry make true) {}
      else
        let first ← merged.foldlM (addEntry make false) {}
        return first.update (← (graph.entries id).foldlM (addEntry make false) {})

/-- The only entry of a mapping that is an item. -/
def singleEntry (id : NodeId) : Build Entry := do
  match (← node id).content with
  | .mapping [entry] => return entry
  | _ => refuse

/-! ## Filling -/

/-- The nodes of the items of a sequence. -/
def items (id : NodeId) : Build (List NodeId) := do
  match (← node id).content with
  | .sequence items => return items
  | .scalar _ | .mapping _ => refuse

/-- Put an entry into an ordered mapping, where it must not be yet. -/
def addOrdered (make : NodeId → Bool → Build Datum) (target : ContainerId) (item : NodeId) :
    Build Unit := do
  let (keyNode, valueNode) ← singleEntry item
  let key ← make keyNode false
  checkHash key
  if let .mapping entries _ := ← container target then
    if entries.contains key then
      throw .repeatedKey
  let value ← make valueNode false
  if let .mapping entries ordered := ← container target then
    setContainer target (.mapping (entries.insert key value) ordered)

/-- Put a pair at the end of a list. -/
def addPair (make : NodeId → Bool → Build Datum) (target : ContainerId) (item : NodeId) :
    Build Unit := do
  let (keyNode, valueNode) ← singleEntry item
  let key ← make keyNode false
  let value ← make valueNode false
  if let .list pairs := ← container target then
    setContainer target (.list (pairs ++ [.tuple [key, value]]))

/-- Fill the container of a node. -/
def fill (make : NodeId → Bool → Build Datum) (id : NodeId) (target : ContainerId) : Build Unit := do
  match (← node id).tag with
  | .sequence =>
    let data ← (← items id).mapM fun item => make item false
    setContainer target (.list data)
  | .pairs => (← items id).forM (addPair make target)
  | .orderedMapping => (← items id).forM (addOrdered make target)
  | .set => setContainer target (.set (← entriesOf make id).keys)
  | _ => setContainer target (.mapping (← entriesOf make id) false)

/-! ## Making -/

/-- The datum of a node that is not made yet. -/
def newDatum (make : NodeId → Bool → Build Datum) (id : NodeId) : Build Datum := do
  let tag := (← node id).tag
  match containerOf? tag with
  | none => scalarDatum id tag
  | some container =>
    let target ← addContainer container
    if (← get).atOnce then fill make id target
    else modify fun b => { b with waiting := (id, target) :: b.waiting }
    return .container target

/-- The datum of a node.  If `atOnce` is set it is filled down to the ground, unless it was made before. -/
def datum : Nat → NodeId → Bool → Build Datum
  | 0, _, _ => refuse
  | fuel + 1, id, atOnce => do
    let b ← get
    match b.made.getD id none with
    | some datum => return datum
    | none =>
      let before := b.atOnce
      if atOnce then
        modify fun b => { b with atOnce := true }
      if b.underway.contains id then return .scalar .null none
      modify fun b => { b with underway := id :: b.underway }
      let datum ← newDatum (datum fuel) id
      modify fun b => { b with
        made := b.made.setIfInBounds id (some datum)
        underway := b.underway.erase id
        atOnce := if atOnce then before else b.atOnce }
      return datum

/-- Fill all containers that wait, then those that wait by then, and so on. -/
def fillAll (make : NodeId → Bool → Build Datum) : Nat → Build Unit
  | 0 => return ()
  | levels + 1 => do
    let waiting := (← get).waiting.reverse
    if waiting.isEmpty then return ()
    modify fun b => { b with waiting := [] }
    waiting.forM fun (id, target) => fill make id target
    fillAll make levels

/-- The datum of the outermost node, with all that it holds.  A node can be underway only once, so there
are no more steps than nodes, and no more levels. -/
def root (id : NodeId) : Build Datum := do
  let size := (← get).graph.size
  let make := datum (size + 2)
  let root ← make id false
  fillAll make (size + 1)
  return root

end Build

end Stencil.Yaml
