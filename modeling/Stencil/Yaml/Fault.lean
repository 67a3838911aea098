import Stencil.Calendar
import Stencil.Loader

/-!
# `Stencil.Yaml.Fault` — why a text is no document

## Contents
- **`Yaml.Fault`**: the text is not well formed, or a node has no value; with its **`message`**.
- **`Yaml.Fault.toLoaderFault`**, how a loader tells of a fault.
-/

namespace Stencil.Yaml

/-- Why a text has no value as a document. -/
inductive Fault where
  /-- The text is not well formed, or a node does not fit its tag. -/
  | malformed
  /-- An escape names a code point that does not exist. -/
  | codePoint
  /-- An escape names a number beyond all code points. -/
  | codeSize
  /-- There is no such date or time. -/
  | calendar (fault : CalendarFault)
  /-- A text is not an integer of the base. -/
  | integer (base : Nat) (text : Text)
  /-- An integer is written with so many digits, too many. -/
  | longInteger (digits : Nat)
  /-- An integer has too many digits to be told. -/
  | notWritable
  /-- A scalar is not a number. -/
  | number (text : Text)
  /-- A number has more than one exponent. -/
  | exponents
  /-- A scalar that should be a number is empty. -/
  | emptyNumber
  /-- A scalar is not a truth value. -/
  | truthValue (text : Text)
  /-- A value of this kind is in the key of a mapping, and cannot be. -/
  | unhashable (kind : Text)
  /-- An ordered mapping has a key twice. -/
  | repeatedKey
  /-- The value of a node is said to be that of the node itself. -/
  | endless
  /-- Plain scalars have no meaning in this version of the format. -/
  | version (major minor : Nat)
deriving DecidableEq, Repr

/-- The number of characters that are shown of a text that is no integer. -/
def shownLength : Nat := 200

/-- What is said of a fault. -/
def Fault.message : Fault → Text
  | .malformed => Text.of "the text is not well formed"
  | .codePoint => Text.of "chr() arg not in range(0x110000)"
  | .codeSize => Text.of "Python int too large to convert to C int"
  | .calendar fault => fault.message
  | .integer base text =>
    Text.of "invalid literal for int() with base " ++ Text.ofNat base ++ Text.of ": " ++
      text.quoted.take shownLength
  | .longInteger digits => Text.notReadableMessage digits
  | .notWritable => Text.notWritableMessage
  | .number text => Text.of "could not convert string to float: " ++ text.quoted
  | .exponents => Text.of "too many values to unpack (expected 2)"
  | .emptyNumber => Text.of "string index out of range"
  | .truthValue text => text.quoted
  | .unhashable kind => Text.of "unhashable type: '" ++ kind ++ ['\'']
  | .repeatedKey => []
  | .endless => Text.of "maximum recursion depth exceeded"
  | .version major minor => bracketed '(' ')' [Text.ofNat major, Text.ofNat minor]

/-- The class of the exception that is raised for a fault; there is none of its own where the text is not well
formed. -/
def Fault.exceptionClass? : Fault → Option ExceptionClass
  | .malformed => none
  | .codePoint | .integer _ _ | .longInteger _ | .notWritable | .number _ | .exponents =>
    some .value
  | .calendar fault => some (if fault = .overflow then .ofOther "OverflowError" else .value)
  | .codeSize => some (.ofOther "OverflowError")
  | .emptyNumber => some (.ofOther "IndexError")
  | .truthValue _ | .version _ _ => some (.ofOther "KeyError")
  | .unhashable _ => some .type
  | .repeatedKey => some (.ofOther "AssertionError")
  | .endless => some (.ofOther "RecursionError")

/-- How a loader tells of a fault. -/
def Fault.toLoaderFault (fault : Fault) : LoaderFault :=
  match fault.exceptionClass? with
  | none => .notDocument fault.message
  | some kind => .raised ⟨kind, fault.message⟩

end Stencil.Yaml
