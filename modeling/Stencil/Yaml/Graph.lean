import Stencil.Yaml.Schema

/-!
# `Stencil.Yaml.Graph` — the nodes of a document

Nodes are told by their numbers, so that an alias is the same node as its anchor, and a collection may
lie within itself.

A mapping may have entries merged into it, by an entry with the merge key; its value is a mapping or a
sequence of mappings.  Merging takes that entry out and puts the other ones in front.

## Contents
- **`Node`** and **`Graph`**, with **`Graph.add`**, **`Graph.node`** and **`Graph.setContent`**.
- **`Graph.merge`**, a mapping with all entries merged in; **`Graph.mergeFuel`**, enough steps for that.
-/

namespace Stencil.Yaml

/-- The number of a node. -/
abbrev NodeId := Nat

/-- The key and the value of an entry. -/
abbrev Entry := NodeId × NodeId

/-- What a node holds. -/
inductive Content where
  | scalar (text : Text)
  | sequence (items : List NodeId)
  | mapping (entries : List Entry)
deriving DecidableEq, Repr

/-- A node of a document. -/
structure Node where
  tag : Tag
  content : Content
  /-- The entries that were merged in, which also stand in front of the others. -/
  merged : List Entry
deriving DecidableEq, Repr

instance : Inhabited Node := ⟨⟨.null, .scalar [], []⟩⟩

/-- The nodes of a document by their numbers. -/
abbrev Graph := Array Node

namespace Graph

/-- The node of a number. -/
def node (g : Graph) (id : NodeId) : Node :=
  g.getD id default

/-- One node more, and its number. -/
def add (g : Graph) (tag : Tag) (content : Content) : NodeId × Graph :=
  (g.size, g.push ⟨tag, content, []⟩)

/-- Let a node hold something else. -/
def setContent (g : Graph) (id : NodeId) (content : Content) : Graph :=
  g.modify id fun node => { node with content }

/-- The entries of a mapping. -/
def entries (g : Graph) (id : NodeId) : List Entry :=
  match (g.node id).content with
  | .mapping entries => entries
  | .scalar _ | .sequence _ => []

/-! ## Merging -/

/-- The mark of a default value is a text where it is a key. -/
def settleKeys (g : Graph) (entries : List Entry) : Graph :=
  entries.foldl
    (fun g (key, _) =>
      if (g.node key).tag = .default then g.modify key fun node => { node with tag := .text } else g)
    g

/-- The value of the first entry with the merge key, and the other entries. -/
def cutMerge? (g : Graph) : List Entry → Option (NodeId × List Entry)
  | [] => none
  | (key, value) :: rest =>
    if (g.node key).tag = .merge then some (value, rest)
    else (cutMerge? g rest).map fun (cut, others) => (cut, (key, value) :: others)

/-- The entries that a value of the merge key brings in, after the mappings in it were merged
themselves: those of a mapping, or those of a sequence of mappings, the last first. -/
def broughtIn (merge : NodeId → Graph → Option Graph) (value : NodeId) (g : Graph) :
    Option (List Entry × Graph) :=
  match (g.node value).content with
  | .mapping _ => (merge value g).map fun g => (g.entries value, g)
  | .sequence items =>
    items.foldlM
      (fun (brought, g) item =>
        match (g.node item).content with
        | .mapping _ => (merge item g).map fun g => (g.entries item ++ brought, g)
        | .scalar _ | .sequence _ => none)
      ([], g)
  | .scalar _ => none

/-- Take out so many entries with the merge key, at most: what they bring in.  There may be a second one
only if the first brought in nothing. -/
def gather (merge : NodeId → Graph → Option Graph) (id : NodeId) :
    Nat → List Entry → Graph → Option (List Entry × Graph)
  | 0, merged, g => some (merged, g)
  | steps + 1, merged, g =>
    match g.cutMerge? (g.entries id) with
    | none => some (merged, g)
    | some (value, others) =>
      if merged.isEmpty then do
        let (brought, g) ← broughtIn merge value (g.setContent id (.mapping others))
        gather merge id steps brought g
      else none

/-- The graph with a mapping merged; nothing if a value of the merge key is not of its kind.  The steps go
down with each entry that is taken out on the way. -/
def merge : Nat → NodeId → Graph → Option Graph
  | 0, _, _ => none
  | fuel + 1, id, g => do
    let entries := g.entries id
    let (merged, g) ← gather (merge fuel) id entries.length [] (g.settleKeys entries)
    if merged.isEmpty then return g
    else
      let content := .mapping (merged ++ g.entries id)
      return g.modify id fun node => { node with content, merged }

/-- Steps enough to merge any mapping: one more than there are entries. -/
def mergeFuel (g : Graph) : Nat :=
  g.foldl (fun total node =>
    match node.content with
    | .mapping entries => total + entries.length
    | .scalar _ | .sequence _ => total) 1

end Graph

end Stencil.Yaml
