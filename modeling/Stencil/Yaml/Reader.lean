import Stencil.Yaml.Graph
import Stencil.Yaml.Layout

/-!
# `Stencil.Yaml.Reader` — the nodes of a text

Lexemes are read by recursive descent, each when it is needed, and nodes are made of them.  An anchor of a
collection is bound before its items are read, so that they may refer to it.

## Contents
- **`Reader`**, lexemes being read, with the nodes, the anchors and the tag handles so far.
- **`Reader.node`** and the readers of the four kinds of collection.
- **`Reader.document`**, the only document; **`Reading`** and **`readText`**, the nodes of a text, and the
  version of the format that it leaves behind.
-/

namespace Stencil.Yaml

/-- Lexemes being read. -/
structure Reader.State where
  layout : Layout
  graph : Graph
  anchors : List (Text × NodeId)
  handles : List (Text × Text)

/-- A reading of lexemes; it fails where they do not fit. -/
abbrev Reader := StateT Reader.State (Except Fault)

namespace Reader

/-! ## Lexemes -/

/-- The lexemes do not fit. -/
def refuse {α : Type} : Reader α :=
  throw .malformed

/-- The next lexeme, which stays. -/
def peek : Reader (Option Lexeme) := do
  let (lexeme?, layout) ← (← get).layout.first?
  modify fun s => { s with layout }
  return lexeme?

/-- The next lexeme is passed. -/
def pass : Reader Unit :=
  modify fun s => { s with layout := s.layout.take }

/-- The next lexeme is passed if it is the given one. -/
def pass? (lexeme : Lexeme) : Reader Bool := do
  if (← peek) = some lexeme then
    pass
    return true
  else return false

/-- The next lexeme has to be the given one. -/
def expect (lexeme : Lexeme) : Reader Unit := do
  if !(← pass? lexeme) then refuse

/-- Whether the next lexeme is one of the given ones. -/
def atOneOf (lexemes : List Lexeme) : Reader Bool := do
  match ← peek with
  | some lexeme => return lexemes.contains lexeme
  | none => return false

/-- The version of the format. -/
def version : Reader Version := do
  return (← get).layout.version

/-! ## Properties -/

/-- The anchor here, if there is one. -/
def anchor? : Reader (Option Text) := do
  match ← peek with
  | some (.anchor name) =>
    pass
    return some name
  | _ => return none

/-- The tag here as it is written, if there is one. -/
def tagName? : Reader (Option TagName) := do
  match ← peek with
  | some (.tag name) =>
    pass
    return some name
  | _ => return none

/-- How the tag of a node is chosen, if it is not left open. -/
inductive TagChoice where
  /-- By what the node looks like, quotes disregarded. -/
  | nonSpecific
  | given (tag : Tag)

/-- The choice that a tag makes; its handle has to be known. -/
def chosenTag (name : TagName) : Reader TagChoice := do
  match name.handle with
  | some handle =>
    match (← get).handles.lookup handle with
    | some meaning => return .given (.ofUri (meaning ++ (← unescapedTag name.suffix)))
    | none => refuse
  | none =>
    let tag ← unescapedTag name.suffix
    return if tag = ['!'] then .nonSpecific else .given (.ofUri tag)

/-- The anchor and the tag here, in either order. -/
def properties : Reader (Option Text × Option TagChoice) := do
  let (anchor, name?) ←
    match ← anchor? with
    | some anchor => pure (some anchor, ← tagName?)
    | none =>
      match ← tagName? with
      | some name => pure (← anchor?, some name)
      | none => pure (none, none)
  return (anchor, ← name?.mapM chosenTag)

/-! ## Nodes -/

/-- Let an anchor stand for a node. -/
def bind (anchor : Option Text) (id : NodeId) : Reader Unit :=
  match anchor with
  | some name => modify fun s => { s with anchors := (name, id) :: s.anchors }
  | none => return ()

/-- A node more. -/
def add (tag : Tag) (content : Content) : Reader NodeId :=
  modifyGet fun s =>
    let (id, graph) := s.graph.add tag content
    (id, { s with graph })

/-- The tag of a scalar. -/
def scalarTag (choice : Option TagChoice) (text : Text) (plain : Bool) : Reader Tag := do
  match choice with
  | some (.given tag) => return tag
  | some .nonSpecific => return ← tagOfPlain (← version) text
  | none => if plain then return ← tagOfPlain (← version) text else return .text

/-- A scalar. -/
def scalar (anchor : Option Text) (choice : Option TagChoice) (text : Text) (plain : Bool) :
    Reader NodeId := do
  let id ← add (← scalarTag choice text plain) (.scalar text)
  bind anchor id
  return id

/-- A scalar where nothing is written. -/
def empty : Reader NodeId :=
  scalar none none [] true

/-- A collection: its anchor is bound before what it holds is read. -/
def collection (anchor : Option Text) (choice : Option TagChoice) (usual : Tag)
    (read : Reader Content) : Reader NodeId := do
  let tag :=
    match choice with
    | some (.given tag) => tag
    | some .nonSpecific | none => usual
  let id ← add tag (.sequence [])
  bind anchor id
  let content ← read
  modify fun s => { s with graph := s.graph.setContent id content }
  return id

/-- A mapping of a single entry. -/
def singleEntry (read : Reader Entry) : Reader NodeId :=
  collection none none .mapping do return .mapping [← read]

mutual

/-- A node.  Collections without brackets are only read if `block` is set, and one whose items are not
indented only if `loose` is set. -/
def node (block loose : Bool) : Nat → Reader NodeId
  | 0 => refuse
  | fuel + 1 => do
    match ← peek with
    | some (.alias name) =>
      pass
      match (← get).anchors.lookup name with
      | some id => return id
      | none => refuse
    | _ =>
      let (anchor, choice) ← properties
      let sequence (items : Reader (List NodeId)) : Reader NodeId :=
        collection anchor choice .sequence do return .sequence (← items)
      let mapping (entries : Reader (List Entry)) : Reader NodeId :=
        collection anchor choice .mapping do return .mapping (← entries)
      match ← peek with
      | some (.scalar text plain) =>
        pass
        scalar anchor choice text plain
      | some .flowSequenceStart =>
        pass
        sequence (flowItems true fuel)
      | some .flowMappingStart =>
        pass
        mapping (flowEntries true fuel)
      | other =>
        if loose && other = some .item then sequence (looseItems fuel)
        else if block && other = some .blockSequenceStart then
          pass
          sequence (blockItems fuel)
        else if block && other = some .blockMappingStart then
          pass
          mapping (blockEntries fuel)
        else if anchor.isSome || choice.isSome then scalar anchor choice [] true
        else refuse

/-- The items of an indented sequence, up to its end. -/
def blockItems : Nat → Reader (List NodeId)
  | 0 => refuse
  | fuel + 1 => do
    if ← pass? .item then
      let item ← if ← atOneOf [.item, .blockEnd] then empty else node true false fuel
      return item :: (← blockItems fuel)
    else
      expect .blockEnd
      return []

/-- The items of a sequence that is not indented. -/
def looseItems : Nat → Reader (List NodeId)
  | 0 => refuse
  | fuel + 1 => do
    if ← pass? .item then
      let item ←
        if ← atOneOf [.item, .key, .value, .blockEnd] then empty else node true false fuel
      return item :: (← looseItems fuel)
    else return []

/-- The entries of an indented mapping, up to its end.  In late versions the key may be left out. -/
def blockEntries : Nat → Reader (List Entry)
  | 0 => refuse
  | fuel + 1 => do
    let keyed ← pass? .key
    if keyed || ((← version).isLate && (← atOneOf [.value])) then
      let key ←
        if !keyed || (← atOneOf [.key, .value, .blockEnd]) then empty else node true true fuel
      let value ←
        if ← pass? .value then
          if ← atOneOf [.key, .value, .blockEnd] then empty else node true true fuel
        else empty
      return (key, value) :: (← blockEntries fuel)
    else
      expect .blockEnd
      return []

/-- The items between square brackets, up to the closing one; a single entry may stand for a mapping. -/
def flowItems (first : Bool) : Nat → Reader (List NodeId)
  | 0 => refuse
  | fuel + 1 => do
    if ← pass? .flowSequenceEnd then return []
    if !first then expect .comma
    if ← pass? .flowSequenceEnd then return []
    let item ←
      if ← pass? .key then
        singleEntry do
          let key ←
            if ← atOneOf [.value, .comma, .flowSequenceEnd] then empty else node false false fuel
          let value ←
            if ← pass? .value then
              if ← atOneOf [.comma, .flowSequenceEnd] then empty else node false false fuel
            else empty
          return (key, value)
      else node false false fuel
    return item :: (← flowItems false fuel)

/-- The entries between curly brackets, up to the closing one.  In late versions the key may be left
out. -/
def flowEntries (first : Bool) : Nat → Reader (List Entry)
  | 0 => refuse
  | fuel + 1 => do
    if ← pass? .flowMappingEnd then return []
    if !first then expect .comma
    let keyed ← pass? .key
    let entry ←
      if keyed || ((← version).isLate && (← atOneOf [.value])) then do
        let key ←
          if !keyed || (← atOneOf [.value, .comma, .flowMappingEnd]) then empty
          else node false false fuel
        let value ←
          if ← pass? .value then
            if ← atOneOf [.comma, .flowMappingEnd] then empty else node false false fuel
          else empty
        pure (key, value)
      else if ← pass? .flowMappingEnd then return []
      else do
        let key ← node false false fuel
        -- what follows is looked at before the value is taken to be empty
        let _ ← peek
        pure (key, ← empty)
    return entry :: (← flowEntries false fuel)

end

/-! ## Documents -/

/-- What stands in front of a document. -/
structure Preamble where
  version : Option Version
  handles : List (Text × Text)

/-- The directives in front of a document. -/
def directives : Nat → Preamble → Reader Preamble
  | 0, _ => refuse
  | fuel + 1, preamble => do
    match ← peek with
    | some (.directive value) =>
      pass
      match value with
      | .version version =>
        if preamble.version.isSome || version.major ≠ 1 then refuse
        else directives fuel { preamble with version }
      | .tag handle meaning =>
        if (preamble.handles.lookup handle).isSome then refuse
        else directives fuel { preamble with handles := (handle, meaning) :: preamble.handles }
      | .other => directives fuel preamble
    | _ => return preamble

/-- The handles that have a meaning in every document. -/
def usualHandles : List (Text × Text) :=
  [(['!'], ['!']), (['!', '!'], standardTags)]

/-- The start of a document that is marked.  It brings back the usual version unless it gives one. -/
def markedStart (fuel : Nat) : Reader Unit := do
  let preamble ← directives fuel ⟨none, []⟩
  modify fun s => { s with
    layout := { s.layout with version := preamble.version.getD .usual }
    handles := preamble.handles ++ s.handles }
  expect .documentStart

/-- Whether a document ends here. -/
def atDocumentEnd : Reader Bool := do
  match ← peek with
  | none | some .documentStart | some .documentEnd | some (.directive _) => return true
  | some _ => return false

/-- Whether a document with a mark in front starts here. -/
def atMarkedStart : Reader Bool := do
  match ← peek with
  | some (.directive _) | some .documentStart => return true
  | _ => return false

/-- The marks after a document: one, or any number in the old version. -/
def endMarks : Nat → Reader Unit
  | 0 => refuse
  | fuel + 1 => do
    if ← pass? .documentEnd then
      if (← version) = .old then endMarks fuel

/-- The only document of the lexemes; none if there is not any. -/
def document (fuel : Nat) : Reader (Option NodeId) := do
  if (← peek).isNone then return none
  let root ←
    if ← atMarkedStart then
      markedStart fuel
      if ← atDocumentEnd then empty else node true false fuel
    else node true false fuel
  endMarks fuel
  if (← peek).isNone then return some root
  -- a second document is no better, but its preamble is looked at first
  if ← atMarkedStart then markedStart fuel
  refuse

end Reader

/-! ## Texts -/

/-- The nodes of a text. -/
structure Reading where
  graph : Graph
  /-- The outermost node, if there is a document. -/
  root : Option NodeId
  /-- The version of the format at the end. -/
  version : Version

/-- The nodes of a text.  The version counts where the text gives none. -/
def readText (version : Version) (text : Text) : Except Fault Reading := do
  let layout ← Layout.ofText version text
  -- every lexeme but the ends of collections takes a character, and there is a start for each end
  let (root, s) ← (Reader.document (4 * text.length + 8)).run ⟨layout, #[], [], Reader.usualHandles⟩
  return ⟨s.graph, root, s.layout.version⟩

end Stencil.Yaml
