import Stencil.Number.Literal
import Stencil.Yaml.Cursor
import Stencil.Yaml.Fault
import Stencil.Yaml.Version
import Stencil.Text.Utf8

/-!
# `Stencil.Yaml.Property` — anchors, tags and directives

## Contents
- **`anchorName`**, the name after an anchor or alias indicator.
- **`TagName`** and **`tagName`**: a tag is given whole, or as a handle with the rest after it;
  **`unescapedTag`**, a tag as it is used.
- **`Directive`** and **`directive`**: the version of the format, the meaning of a tag handle, or a
  directive of another name, which is passed over.
-/

namespace Stencil.Yaml

/-! ## Anchors -/

/-- The characters of anchor names. -/
def isAnchorChar (c : Char) : Bool :=
  let n := c.toNat
  !(c = ',' || c = '[' || c = ']' || c = '\x7b' || c = '\x7d') &&
    ((0x21 ≤ n && n ≤ 0x7e) || (0xa0 ≤ n && n ≤ 0xfffd && n ≠ 0xfeff) || 0x10000 ≤ n)

/-- The characters that may follow an anchor name. -/
def mayFollowAnchor (c : Option Char) : Bool :=
  endsWord c || c.any fun c => ("?:,[]\x7b\x7d%@".toList ++ [Char.ofNat 0x60]).contains c

/-- The name after an anchor or alias indicator. -/
def anchorName (cursor : Cursor) : Except Fault (Text × Cursor) :=
  let (name, after) := cursor.next.takeWhile isAnchorChar
  if name = [] ∨ !mayFollowAnchor (after.peek 0) then .error .malformed else .ok (name, after)

/-! ## Tags -/

/-- A tag as it is written. -/
structure TagName where
  /-- The handle in front, with its exclamation marks; none if the tag is given whole. -/
  handle : Option Text
  suffix : Text
deriving DecidableEq, Repr

/-- The characters of tags and of what handles stand for; the number sign is one in late versions. -/
def isUriChar (version : Version) (c : Char) : Bool :=
  c.isAlphanum || "-;/?:@&=+$,_.!~*'()[]%".toList.contains c || (c = '#' && version.isLate)

/-- The octet of two hexadecimal digits after a percent sign. -/
def escapedOctet? : Text → Option UInt8
  | '%' :: a :: b :: _ =>
    match digitValue? a, digitValue? b with
    | some a, some b => some (UInt8.ofNat (16 * a + b))
    | _, _ => none
  | _ => none

/-- The octets of the escapes from here on. -/
def uriOctets : Nat → Cursor → Except Fault (List UInt8 × Cursor)
  | 0, cursor => .ok ([], cursor)
  | fuel + 1, cursor =>
    if cursor.peek 0 = some '%' then
      match escapedOctet? cursor.ahead with
      | none => .error .malformed
      | some octet => (uriOctets fuel (cursor.skip 3)).map fun (more, last) => (octet :: more, last)
    else .ok ([], cursor)

/-- The characters of a tag from here on, escapes read as UTF-8. -/
def uriFrom (version : Version) : Nat → Cursor → Except Fault (Text × Cursor)
  | 0, cursor => .ok ([], cursor)
  | fuel + 1, cursor =>
    match cursor.peek 0 with
    | none => .ok ([], cursor)
    | some c =>
      if c = '%' then do
        let (octets, after) ← uriOctets cursor.left cursor
        match Utf8.decode octets with
        | .error _ => .error .malformed
        | .ok text => (uriFrom version fuel after).map fun (more, last) => (text ++ more, last)
      else if isUriChar version c then
        (uriFrom version fuel cursor.next).map fun (more, last) => (c :: more, last)
      else .ok ([], cursor)

/-- One or more characters of a tag. -/
def uri (version : Version) (cursor : Cursor) : Except Fault (Text × Cursor) := do
  let (text, after) ← uriFrom version cursor.left.succ cursor
  if text = [] then .error .malformed else .ok (text, after)

/-- A handle: one exclamation mark, or two with a word between them. -/
def tagHandle (cursor : Cursor) : Except Fault (Text × Cursor) :=
  if cursor.peek 0 ≠ some '!' then .error .malformed
  else if cursor.peek 1 = some ' ' then .ok (['!'], cursor.next)
  else
    let (word, after) := cursor.next.takeWhile isWordChar
    if after.peek 0 = some '!' then .ok ('!' :: word ++ ['!'], after.next) else .error .malformed

/-- Whether an exclamation mark stands in the word after the first one. -/
def hasNamedHandle (rest : Text) : Bool :=
  (rest.takeWhile fun c => c ≠ ' ' && !isBreak c).contains '!'

/-- The tag that starts here.  A second exclamation mark right after the first one makes the handle of the
standard tags, unless the tag is given whole. -/
def tagName (version : Version) (cursor : Cursor) : Except Fault (TagName × Cursor) := do
  let doubled := cursor.peek 1 = some '!'
  let handle := if doubled then ['!', '!'] else ['!']
  let cursor := if doubled then cursor.next else cursor
  let (tag, after) ←
    if cursor.peek 1 = some '<' then do
      let (suffix, after) ← uri version (cursor.skip 2)
      if after.peek 0 = some '>' then .ok (TagName.mk none suffix, after.next)
      else .error .malformed
    else if endsWord (cursor.peek 1) then .ok (⟨none, handle⟩, cursor.next)
    else if hasNamedHandle cursor.next.ahead then do
      let (handle, after) ← tagHandle cursor
      let (suffix, after) ← uri version after
      .ok (⟨some handle, suffix⟩, after)
    else do
      let (suffix, after) ← uri version cursor.next
      .ok (⟨some handle, suffix⟩, after)
  if endsHeader (after.peek 0) then .ok (tag, after) else .error .malformed

/-- The character of a code written in hexadecimal digits, with whatever an integer may have around it. -/
def escapedChar (code : Text) : Except Fault Char :=
  match readInt 16 code with
  | .error _ => .error (.integer 16 code)
  | .ok n => if n < 0 ∨ 0x10ffff < n then .error .codePoint else .ok (Char.ofNat n.toNat)

/-- A tag with the escapes in it read once more. -/
def unescapedTag : Text → Except Fault Text
  | [] => .ok []
  | c :: rest =>
    if c ≠ '%' then (unescapedTag rest).map (c :: ·)
    else
      match rest with
      | a :: b :: rest => do
        let escaped ← escapedChar [a, b]
        (unescapedTag rest).map (escaped :: ·)
      | code => (escapedChar code).map fun escaped => [escaped]

/-! ## Directives -/

/-- A line in front of a document. -/
inductive Directive where
  /-- The version of the format. -/
  | version (version : Version)
  /-- What a tag handle stands for. -/
  | tag (handle meaning : Text)
  /-- A directive of another name. -/
  | other
deriving DecidableEq, Repr

/-- A number of a version. -/
def versionNumber (cursor : Cursor) : Except Fault (Nat × Cursor) :=
  let (digits, after) := cursor.takeWhile isDecimalDigit
  match readInt 10 digits with
  | .ok n => .ok (n.toNat, after)
  | .error .malformed => .error .malformed
  | .error (.tooLong digits) => .error (.longInteger digits)

/-- The version after the name of its directive. -/
def versionValue (cursor : Cursor) : Except Fault (Directive × Cursor) := do
  let (major, cursor) ← versionNumber cursor.skipSpaces
  if cursor.peek 0 ≠ some '.' then .error .malformed
  else
    let (minor, cursor) ← versionNumber cursor.next
    if endsHeader (cursor.peek 0) then .ok (.version ⟨major, minor⟩, cursor)
    else .error .malformed

/-- The handle and its meaning after the name of the directive. -/
def tagValue (version : Version) (cursor : Cursor) : Except Fault (Directive × Cursor) := do
  let (handle, cursor) ← tagHandle cursor.skipSpaces
  if cursor.peek 0 ≠ some ' ' then .error .malformed
  else
    let (meaning, cursor) ← uri version cursor.skipSpaces
    if endsHeader (cursor.peek 0) then .ok (.tag handle meaning, cursor) else .error .malformed

/-- The directive that starts here, up to the end of its line. -/
def directive (version : Version) (cursor : Cursor) : Except Fault (Directive × Cursor) := do
  let (name, cursor) := cursor.next.takeWhile fun c => isWordChar c || c = ':' || c = '.'
  if name = [] ∨ !endsHeader (cursor.peek 0) then .error .malformed
  else
    let (value, cursor) ←
      if name = Text.of "YAML" then versionValue cursor
      else if name = Text.of "TAG" then tagValue version cursor
      else .ok (.other, cursor.skipLine)
    let cursor := cursor.skipSpaces
    let cursor := if cursor.peek 0 = some '#' then cursor.skipLine else cursor
    if isLineEnd (cursor.peek 0) then
      .ok (value, ((lineBreak? cursor).map Prod.snd).getD cursor)
    else .error .malformed

end Stencil.Yaml
