import Stencil.Yaml.Block
import Stencil.Yaml.Plain
import Stencil.Yaml.Property
import Stencil.Yaml.Quoted

/-!
# `Stencil.Yaml.Layout` — a document as lexemes, with its indentation made explicit

Collections without brackets are laid out by indentation: a column further in than the last one
starts a collection, a column further out ends it.  That a node is a key is only seen at the colon
after it, so a place where a key may have started is remembered, and its lexemes are put in later.
Such a key has to lie on one line and within 1024 characters.

Lexemes are read as they are asked for, and wait in a queue until they are taken.  No more are read than
have to be: the next one, and what follows it as long as it may turn out to be a key.

## Contents
- **`Lexeme`**, the pieces of a document.
- **`PossibleKey`** and **`Layout`**, the state of the reading.
- **`Layout.next`**, which reads further; **`Layout.fill`**, which reads until the next lexeme is certain.
- **`Layout.first?`** and **`Layout.take`**, the next lexeme, and what is left when it is taken.
-/

namespace Stencil.Yaml

/-- The pieces of a document. -/
inductive Lexeme where
  | directive (value : Directive)
  | documentStart
  | documentEnd
  | blockSequenceStart
  | blockMappingStart
  | blockEnd
  | flowSequenceStart
  | flowSequenceEnd
  | flowMappingStart
  | flowMappingEnd
  /-- The hyphen before an item. -/
  | item
  /-- The comma between items. -/
  | comma
  /-- Before the key of an entry. -/
  | key
  /-- Before the value of an entry. -/
  | value
  | alias (name : Text)
  | anchor (name : Text)
  | tag (name : TagName)
  | scalar (text : Text) (plain : Bool)
deriving DecidableEq, Repr

/-- A place where a key may have started. -/
structure PossibleKey where
  /-- The number of lexemes before it. -/
  before : Nat
  /-- Nothing but a key may stand there. -/
  required : Bool
  index : Nat
  line : Nat
  column : Nat
deriving DecidableEq, Repr

/-- The kinds of brackets. -/
inductive Bracket where
  | square
  | curly
deriving DecidableEq, Repr

/-- A document being read. -/
structure Layout where
  cursor : Cursor
  /-- The version of the format, as far as it has been given. -/
  version : Version
  /-- The lexemes that were read and not taken, the next one first. -/
  queue : List Lexeme
  /-- The number of lexemes that were taken. -/
  taken : Nat
  /-- Whether the end of the text was reached. -/
  ended : Bool
  /-- The open brackets, the innermost first. -/
  brackets : List Bracket
  /-- The column of the innermost collection without brackets; minus one outside of all. -/
  indent : Int
  /-- The columns of the collections around it, the innermost first. -/
  outer : List Int
  /-- Whether a key may start here. -/
  keyAllowed : Bool
  /-- The key that may have started at this level of brackets. -/
  possibleKey : Option PossibleKey
  /-- The same for the levels around it, the innermost first. -/
  outerKeys : List (Option PossibleKey)
deriving Repr

namespace Layout

/-- At the beginning of a document; a byte order mark there does not count. -/
def start (version : Version) (text : Text) : Layout :=
  let cursor := Cursor.start text
  { cursor := if cursor.peek 0 = some '\ufeff' then cursor.next else cursor
    version
    queue := []
    taken := 0
    ended := false
    brackets := []
    indent := -1
    outer := []
    keyAllowed := true
    possibleKey := none
    outerKeys := [] }

/-- Whether brackets are open. -/
def inFlow (l : Layout) : Bool :=
  !l.brackets.isEmpty

/-- The number of lexemes so far. -/
def count (l : Layout) : Nat :=
  l.taken + l.queue.length

/-- One lexeme more. -/
def emit (l : Layout) (lexeme : Lexeme) : Layout :=
  { l with queue := l.queue ++ [lexeme] }

/-- A lexeme more, put in where there were so many. -/
def emitAt (l : Layout) (before : Nat) (lexeme : Lexeme) : Layout :=
  { l with queue := l.queue.insertIdx (before - l.taken) lexeme }

/-- Over spaces, line breaks and comments; outside of brackets a key may start on a new line. -/
def skipBlank : Nat → Layout → Layout
  | 0, l => l
  | fuel + 1, l =>
    let (_, cursor) := l.cursor.takeWhile fun c => c = ' ' || (l.inFlow && c = '\t')
    let cursor := if cursor.peek 0 = some '#' then cursor.skipLine else cursor
    match lineBreak? cursor with
    | some (_, after) =>
      skipBlank fuel { l with cursor := after, keyAllowed := l.keyAllowed || !l.inFlow }
    | none => { l with cursor }

/-- Whether a key that may have started there can still be one. -/
def isFresh (cursor : Cursor) (key : PossibleKey) : Bool :=
  key.line = cursor.line && cursor.index - key.index ≤ 1024

/-- A possible key, if it can still be one; a fault if it has to be one. -/
def freshKey (cursor : Cursor) : Option PossibleKey → Except Fault (Option PossibleKey)
  | none => .ok none
  | some key =>
    if isFresh cursor key then .ok (some key)
    else if key.required then .error .malformed
    else .ok none

/-- Forget the possible keys that can no longer be keys. -/
def dropStaleKeys (l : Layout) : Except Fault Layout := do
  let possibleKey ← freshKey l.cursor l.possibleKey
  let outerKeys ← l.outerKeys.mapM (freshKey l.cursor)
  return { l with possibleKey, outerKeys }

/-- Forget the possible key of this level of brackets. -/
def dropKey (l : Layout) : Except Fault Layout :=
  match l.possibleKey with
  | some key => if key.required then .error .malformed else .ok { l with possibleKey := none }
  | none => .ok l

/-- Remember that a key may start here. -/
def noteKey (l : Layout) : Except Fault Layout :=
  if l.keyAllowed then do
    let l ← l.dropKey
    let required := !l.inFlow && l.indent = l.cursor.column
    return { l with
      possibleKey := some ⟨l.count, required, l.cursor.index, l.cursor.line, l.cursor.column⟩ }
  else .ok l

/-- End the collections that start further in than a column. -/
def unwindFrom (column : Int) (l : Layout) : List Int → Layout
  | [] => l
  | indent :: outer =>
    if column < l.indent then
      unwindFrom column { l.emit .blockEnd with indent, outer } outer
    else l

/-- End the collections that start further in than a column, unless brackets are open. -/
def unwind (l : Layout) (column : Int) : Layout :=
  if l.inFlow then l else unwindFrom column l l.outer

/-- Start a collection at a column, if it lies further in than the last one. -/
def indentTo (l : Layout) (column : Nat) (before : Nat) (lexeme : Lexeme) : Layout :=
  if l.indent < column then
    { l.emitAt before lexeme with indent := column, outer := l.indent :: l.outer }
  else l

/-! ## Lexemes -/

/-- A lexeme of so many characters. -/
def emitOver (l : Layout) (length : Nat) (lexeme : Lexeme) : Layout :=
  { l.emit lexeme with cursor := l.cursor.skip length }

/-- A directive or a mark between documents starts here; no key may follow it on its line. -/
def leaveDocument (l : Layout) : Except Fault Layout := do
  let l ← (l.unwind (-1)).dropKey
  return { l with keyAllowed := false }

/-- An opening bracket. -/
def openBracket (l : Layout) (bracket : Bracket) (lexeme : Lexeme) : Except Fault Layout := do
  let l ← l.noteKey
  let opened := { l with
    brackets := bracket :: l.brackets
    keyAllowed := true
    possibleKey := none
    outerKeys := l.possibleKey :: l.outerKeys }
  return opened.emitOver 1 lexeme

/-- A closing bracket; that one is open is not asked here. -/
def closeBracket (l : Layout) (lexeme : Lexeme) : Except Fault Layout := do
  let l ← l.dropKey
  let closed := { l with
    brackets := l.brackets.drop 1
    keyAllowed := false
    possibleKey := l.outerKeys.head?.join
    outerKeys := l.outerKeys.drop 1 }
  return closed.emitOver 1 lexeme

/-- A comma between brackets. -/
def comma (l : Layout) : Except Fault Layout := do
  let l ← { l with keyAllowed := true }.dropKey
  return l.emitOver 1 .comma

/-- The hyphen before an item. -/
def item (l : Layout) : Except Fault Layout := do
  let l ←
    if l.inFlow then .ok l
    else if l.keyAllowed then .ok (l.indentTo l.cursor.column l.count .blockSequenceStart)
    else .error .malformed
  let l ← { l with keyAllowed := true }.dropKey
  return l.emitOver 1 .item

/-- The question mark before a key. -/
def key (l : Layout) : Except Fault Layout := do
  let l ←
    if l.inFlow then .ok l
    else if l.keyAllowed then .ok (l.indentTo l.cursor.column l.count .blockMappingStart)
    else .error .malformed
  let l ← { l with keyAllowed := !l.inFlow }.dropKey
  return l.emitOver 1 .key

/-- The colon before a value.  If a key may have started before it, it was one. -/
def value (l : Layout) : Except Fault Layout := do
  let l ←
    match l.possibleKey with
    | some key =>
      -- the key was read before: its mark goes in where it started
      let keyed := { l with possibleKey := none, keyAllowed := false }.emitAt key.before .key
      if l.inFlow then .ok keyed
      else .ok (keyed.indentTo key.column key.before .blockMappingStart)
    | none =>
      -- the key is empty, or comes after a question mark
      if l.inFlow then dropKey { l with keyAllowed := false }
      else if l.keyAllowed then
        let indented := l.indentTo l.cursor.column l.count .blockMappingStart
        dropKey { indented with keyAllowed := true }
      else .error .malformed
  return l.emitOver 1 .value

/-- A lexeme that a key may start with. -/
def emitProperty (l : Layout) (read : Cursor → Except Fault (Lexeme × Cursor)) :
    Except Fault Layout := do
  let l ← l.noteKey
  let (lexeme, cursor) ← read l.cursor
  return { l.emit lexeme with cursor, keyAllowed := false }

/-- A scalar by indentation. -/
def blockText (l : Layout) (folded : Bool) : Except Fault Layout := do
  let l ← { l with keyAllowed := true }.dropKey
  let (text, cursor) ← blockScalar folded l.indent l.cursor.next
  return { l.emit (.scalar text false) with cursor }

/-- Where a plain scalar would stand. -/
def plainContext (l : Layout) : PlainContext :=
  ⟨l.inFlow, l.version⟩

/-- A scalar without quotes. -/
def plainText (l : Layout) : Except Fault Layout := do
  let l ← l.noteKey
  let (text, cursor, broken) := plainScalar l.plainContext (l.indent + 1) l.cursor
  return { l.emit (.scalar text true) with cursor, keyAllowed := broken }

/-- Whether a colon here comes before a value.  With white space after it, it always does.  Without, it
does so between curly brackets, unless the colon of another value was read just before it; in the old
version it does so between all brackets. -/
def isValue (l : Layout) : Bool :=
  endsWord (l.cursor.peek 1) ||
    match l.brackets.head? with
    | none => false
    | some .square => l.version = .old
    | some .curly => l.version = .old || l.queue.getLast? ≠ some .value

/-- A directive; the version that it gives counts from here on. -/
def directiveLine (l : Layout) : Except Fault Layout := do
  let l ← l.leaveDocument
  let (value, cursor) ← directive l.version l.cursor
  let version :=
    match value with
    | .version version => version
    | .tag .. | .other => l.version
  return { l.emit (.directive value) with cursor, version }

/-- The lexeme that starts with a character. -/
def nextAt (l : Layout) (c : Char) : Except Fault Layout :=
  let followed := !endsWord (l.cursor.peek 1)
  let atMargin := l.cursor.column = 0
  if c = '%' && atMargin then l.directiveLine
  -- the marks between documents count at the margin only
  else if atMargin && atMark '-' l.cursor then return (← l.leaveDocument).emitOver 3 .documentStart
  else if atMargin && atMark '.' l.cursor then return (← l.leaveDocument).emitOver 3 .documentEnd
  else if c = '[' then l.openBracket .square .flowSequenceStart
  else if c = '\x7b' then l.openBracket .curly .flowMappingStart
  else if c = ']' then l.closeBracket .flowSequenceEnd
  else if c = '\x7d' then l.closeBracket .flowMappingEnd
  else if c = ',' then l.comma
  else if c = '-' && !followed then l.item
  else if c = '?' && (l.inFlow || !followed) then l.key
  else if c = ':' && l.isValue then l.value
  else if c = '*' then l.emitProperty fun cursor => (anchorName cursor).map fun (n, r) => (.alias n, r)
  else if c = '&' then l.emitProperty fun cursor => (anchorName cursor).map fun (n, r) => (.anchor n, r)
  else if c = '!' then
    l.emitProperty fun cursor => (tagName l.version cursor).map fun (n, r) => (.tag n, r)
  -- between brackets these two start a plain scalar, or nothing
  else if c = '|' && !l.inFlow then l.blockText false
  else if c = '>' && !l.inFlow then l.blockText true
  else if c = '\'' || c = '"' then
    l.emitProperty fun cursor => (quotedScalar c cursor.next).map fun (t, r) => (.scalar t false, r)
  else if startsPlain l.plainContext l.cursor then l.plainText
  else .error .malformed

/-- Read further; at the end of the text all collections are ended. -/
def next (l : Layout) : Except Fault Layout := do
  let l ← (l.skipBlank l.cursor.left.succ).dropStaleKeys
  let l := l.unwind l.cursor.column
  match l.cursor.peek 0 with
  | some c => l.nextAt c
  | none =>
    let l ← (l.unwind (-1)).dropKey
    return { l with ended := true, possibleKey := none, outerKeys := l.outerKeys.map fun _ => none }

/-! ## Taking lexemes -/

/-- The number of lexemes before the first possible key. -/
def firstKey? (l : Layout) : Option Nat :=
  ((l.possibleKey :: l.outerKeys).filterMap fun key? => key?.map PossibleKey.before).min?

/-- Read until it is certain what the next lexeme is.  As long as it may start a key, a mark may still
have to be put in before it. -/
def fill : Nat → Layout → Except Fault Layout
  | 0, l => .ok l
  | fuel + 1, l =>
    if l.ended then .ok l
    else if l.queue.isEmpty then do fill fuel (← l.next)
    else do
      let l ← l.dropStaleKeys
      if l.firstKey? = some l.taken then fill fuel (← l.next) else return l

/-- Everything that can be read is read within so many steps. -/
def fuel (l : Layout) : Nat :=
  l.cursor.left + 2

/-- The next lexeme, if there is one, with the state in which it is certain. -/
def first? (l : Layout) : Except Fault (Option Lexeme × Layout) :=
  (l.fill l.fuel).map fun l => (l.queue.head?, l)

/-- The next lexeme is taken. -/
def take (l : Layout) : Layout :=
  { l with queue := l.queue.drop 1, taken := l.taken + 1 }

end Layout

/-- The layout of a text in which all characters are allowed. -/
def Layout.ofText (version : Version) (text : Text) : Except Fault Layout :=
  if text.all isAllowed then .ok (start version text) else .error .malformed

end Stencil.Yaml
