import Stencil.Json
import Stencil.Proofs.Text.Hexadecimal

/-!
# `Stencil.Proofs.Json.Grammar` — which texts stand for a value

The grammar of the format has two levels.  A text is a row of lexemes, with blanks between them as one
likes: brackets, commas, colons, the three words, numerals without zeros in front, and strings.  A value
is the row of lexemes that its parts make.  Fractions and exponents are left out, as there are none
among the values, and so are two codes for one character.

## Contents
- **`Json.Lexeme`**, and **`Lexeme.Spelled`**, how each of them is written; `InString`, what may stand
  between the quotes of a string.
- **`Json.Lexes`**, the lexemes of a text.
- **`Json.lexemes`**, the lexemes of a value, and **`Json.Spells`**, the grammar.
-/

namespace Stencil.Json

open Text (hexValue?)

/-! ## Lexemes -/

/-- The parts of a text that have no parts themselves. -/
inductive Lexeme where
  | openArray
  | closeArray
  | openObject
  | closeObject
  | comma
  | colon
  | null
  | bool (b : Bool)
  | number (n : Int)
  | string (s : Text)
deriving DecidableEq, Repr

/-- The letters that stand for a character behind a backslash. -/
def escapes : List (Char × Char) :=
  [('"', '"'), ('\\', '\\'), ('/', '/'), ('b', Char.ofNat 8), ('f', Char.ofNat 12), ('n', '\n'),
    ('r', '\r'), ('t', '\t')]

/-- **What stands for a text between the quotes of a string.**  A character stands for itself unless it is a
quote, a backslash or a control character; any character may be written by its code. -/
inductive InString : Text → Text → Prop where
  | nil : InString [] []
  | plain {c : Char} {written s : Text} (hquote : c ≠ '"') (hmark : c ≠ '\\') (hcontrol : 0x20 ≤ c.toNat)
      (hrest : InString written s) : InString (c :: written) (c :: s)
  | escape {letter c : Char} {written s : Text} (hletter : (letter, c) ∈ escapes)
      (hrest : InString written s) : InString ('\\' :: letter :: written) (c :: s)
  | code {digits : Text} {c : Char} {written s : Text} (hlength : digits.length = 4)
      (hvalue : hexValue? digits = some c.toNat) (hrest : InString written s) :
      InString ('\\' :: 'u' :: (digits ++ written)) (c :: s)

/-- **How a lexeme is written.** -/
inductive Lexeme.Spelled : Lexeme → Text → Prop where
  | openArray : Spelled .openArray ['[']
  | closeArray : Spelled .closeArray [']']
  | openObject : Spelled .openObject ['\x7b']
  | closeObject : Spelled .closeObject ['\x7d']
  | comma : Spelled .comma [',']
  | colon : Spelled .colon [':']
  | null : Spelled .null (Text.of "null")
  | bool (b : Bool) : Spelled (.bool b) (boolText b)
  | number (n : Nat) : Spelled (.number n) (Text.ofNat n)
  | negative (n : Nat) : Spelled (.number (-n)) ('-' :: Text.ofNat n)
  | string {written s : Text} (h : InString written s) :
      Spelled (.string s) ('"' :: (written ++ ['"']))

/-- No digit comes first. -/
def NoDigit (rest : Text) : Prop :=
  ∀ c ∈ rest.head?, c.isDigit = false

/-- A lexeme ends where it stands: a numeral is not followed by a digit. -/
def Lexeme.Ends : Lexeme → Text → Prop
  | .number _, rest => NoDigit rest
  | _, _ => True

/-- The blanks of the format: space, tab and the two line ends. -/
def isBlank (c : Char) : Bool :=
  c = ' ' || c = '\t' || c = '\n' || c = '\r'

/-- **The lexemes of a text**, between which there may be blanks. -/
inductive Lexes : Text → List Lexeme → Prop where
  | nil : Lexes [] []
  | blank {c : Char} {rest : Text} {lexemes : List Lexeme} (hblank : isBlank c = true)
      (hrest : Lexes rest lexemes) : Lexes (c :: rest) lexemes
  | lexeme {first : Lexeme} {written rest : Text} {lexemes : List Lexeme}
      (hspelled : first.Spelled written) (hends : first.Ends rest) (hrest : Lexes rest lexemes) :
      Lexes (written ++ rest) (first :: lexemes)

/-! ## Values -/

/-- Rows of lexemes with commas between them. -/
def separated : List (List Lexeme) → List Lexeme
  | [] => []
  | [row] => row
  | row :: more => row ++ .comma :: separated more

mutual

/-- The lexemes of a value. -/
def lexemes : Json → List Lexeme
  | .null => [.null]
  | .bool b => [.bool b]
  | .number n => [.number n]
  | .string s => [.string s]
  | .array items => .openArray :: (separated (itemLexemes items) ++ [.closeArray])
  | .object members => .openObject :: (separated (memberLexemes members) ++ [.closeObject])

/-- The lexemes of the items of an array. -/
def itemLexemes : List Json → List (List Lexeme)
  | [] => []
  | item :: rest => lexemes item :: itemLexemes rest

/-- The lexemes of the members of an object. -/
def memberLexemes : List (Text × Json) → List (List Lexeme)
  | [] => []
  | (name, value) :: rest => (.string name :: .colon :: lexemes value) :: memberLexemes rest

end

/-- **A text stands for a value.** -/
def Spells (s : Text) (value : Json) : Prop :=
  Lexes s (lexemes value)

end Stencil.Json
