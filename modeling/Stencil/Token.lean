import Stencil.Place
import Stencil.Text.Decimal
import Stencil.Text.Quoted

/-!
# `Stencil.Token` — the pieces that a template is made of

## Contents
- **`TokenKind`** and **`Token`**: a kind, a value and the place where the token starts.
- **`Token.toText`**, the token on one line.
-/

namespace Stencil

/-- The kinds of token. -/
inductive TokenKind where
  /-- Text outside all markers. -/
  | text
  /-- A marker that names a variable. -/
  | variable
  /-- A marker that opens a condition. -/
  | ifOpen
  /-- A marker that closes a condition. -/
  | endif
deriving DecidableEq, Repr

/-- A token.  The value is the text itself, the name of the variable or the condition. -/
structure Token where
  kind : TokenKind
  value : Text
  place : Place
deriving DecidableEq, Repr

/-- The name of a kind. -/
def TokenKind.name : TokenKind → Text
  | .text => Text.of "TEXT"
  | .variable => Text.of "VAR"
  | .ifOpen => Text.of "IF"
  | .endif => Text.of "ENDIF"

/-- A token on one line: kind, quoted value, line and column. -/
def Token.toText (t : Token) : Text :=
  Text.of "Token(" ++ t.kind.name ++ Text.of ", " ++ Text.quoted t.value ++ Text.of ", " ++
    Text.ofInt t.place.line ++ [':'] ++ Text.ofInt t.place.column ++ [')']

end Stencil
