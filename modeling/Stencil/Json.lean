import Stencil.Text.Decimal

/-!
# `Stencil.Json` — writing JSON

## Contents
- **`Json`**, the values of the format that a report needs: no fractions.
- **`Json.escapeChar`** and **`Json.quoted`**: the quote, the backslash and the control characters are
  escaped, all else is written as it is.
- **`Json.compact`**, on one line, and **`Json.pretty`**, one item a line, indented by two spaces a
  level; an empty array or object stays on its line.
-/

namespace Stencil

/-- A value of the format. -/
inductive Json where
  | null
  | bool (b : Bool)
  | number (n : Int)
  | string (s : Text)
  | array (items : List Json)
  | object (members : List (Text × Json))
deriving Repr

namespace Json

/-! ## Strings -/

/-- One character inside a string. -/
def escapeChar (c : Char) : Text :=
  if c = '"' then Text.of "\\\""
  else if c = '\\' then Text.of "\\\\"
  else if c = '\n' then Text.of "\\n"
  else if c = '\r' then Text.of "\\r"
  else if c = '\t' then Text.of "\\t"
  else if c.toNat = 8 then Text.of "\\b"
  else if c.toNat = 12 then Text.of "\\f"
  else if c.toNat < 0x20 then Text.of "\\u" ++ Text.hexDigits 4 c.toNat
  else [c]

/-- A text as a string of the format. -/
def quoted (s : Text) : Text :=
  '"' :: s.flatMap escapeChar ++ ['"']

/-- A truth value. -/
def boolText (b : Bool) : Text :=
  if b then Text.of "true" else Text.of "false"

/-! ## On one line -/

mutual

/-- A value on one line. -/
def compact : Json → Text
  | .null => Text.of "null"
  | .bool b => boolText b
  | .number n => Text.ofInt n
  | .string s => quoted s
  | .array items => '[' :: Text.joinWith (Text.of ", ") (compactItems items) ++ [']']
  | .object members =>
    '\x7b' :: Text.joinWith (Text.of ", ") (compactMembers members) ++ ['\x7d']

/-- The items of an array. -/
def compactItems : List Json → List Text
  | [] => []
  | item :: rest => compact item :: compactItems rest

/-- The members of an object. -/
def compactMembers : List (Text × Json) → List Text
  | [] => []
  | (name, value) :: rest =>
    (quoted name ++ Text.of ": " ++ compact value) :: compactMembers rest

end

/-! ## One item a line -/

/-- A line break and the indentation of a level. -/
def newLine (level : Nat) : Text :=
  '\n' :: List.replicate (2 * level) ' '

/-- The parts of a value, each on a line of its own, one level further in than the brackets. -/
def stacked (opening closing : Char) (level : Nat) (parts : List Text) : Text :=
  if parts = [] then [opening, closing]
  else
    opening :: newLine (level + 1) ++ Text.joinWith (',' :: newLine (level + 1)) parts ++
      newLine level ++ [closing]

mutual

/-- A value at a level of indentation. -/
def prettyAt (level : Nat) : Json → Text
  | .null => Text.of "null"
  | .bool b => boolText b
  | .number n => Text.ofInt n
  | .string s => quoted s
  | .array items => stacked '[' ']' level (prettyItems (level + 1) items)
  | .object members => stacked '\x7b' '\x7d' level (prettyMembers (level + 1) members)

/-- The items of an array. -/
def prettyItems (level : Nat) : List Json → List Text
  | [] => []
  | item :: rest => prettyAt level item :: prettyItems level rest

/-- The members of an object. -/
def prettyMembers (level : Nat) : List (Text × Json) → List Text
  | [] => []
  | (name, value) :: rest =>
    (quoted name ++ Text.of ": " ++ prettyAt level value) :: prettyMembers level rest

end

/-- A value with one item a line. -/
def pretty (value : Json) : Text :=
  prettyAt 0 value

/-- A value in one of the two layouts. -/
def write (layered : Bool) (value : Json) : Text :=
  if layered then value.pretty else value.compact

end Json

end Stencil
