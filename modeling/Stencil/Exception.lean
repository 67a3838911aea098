import Stencil.Text.Basic

/-!
# `Stencil.Exception` — how a fault is raised

A fault is raised as an exception of some class.  What becomes of it is decided by the class, and of that
only by the families it belongs to: the errors that a user is meant to see, and those of values that are
not of the form that is asked for.

## Contents
- **`ExceptionClass`**, with the classes that are raised here, and **`Exception`**.
-/

namespace Stencil

/-- A class of exceptions: its name, and which of two families it belongs to. -/
structure ExceptionClass where
  name : Text
  /-- An error that the user is meant to see, and can mend. -/
  isUserError : Bool
  /-- A value is not of the form that is asked for. -/
  isValueError : Bool
deriving DecidableEq, Repr

namespace ExceptionClass

/-- A class of the errors that the user is meant to see. -/
def ofUser (name : String) : ExceptionClass :=
  ⟨Text.of name, true, false⟩

/-- A class of the errors of values. -/
def ofValue (name : String) : ExceptionClass :=
  ⟨Text.of name, false, true⟩

/-- A class of neither family. -/
def ofOther (name : String) : ExceptionClass :=
  ⟨Text.of name, false, false⟩

/-- A file with settings or variables does not hold what it should. -/
def config : ExceptionClass := ofUser "ConfigError"

/-- A template cannot be read. -/
def templateNotFound : ExceptionClass := ofUser "TemplateNotFoundError"

/-- The conditions of a template are not well nested. -/
def templateParse : ExceptionClass := ofUser "TemplateParseError"

/-- A value is not of the form that is asked for, in general. -/
def value : ExceptionClass := ofValue "ValueError"

/-- Octets are not those of a text. -/
def unicodeDecode : ExceptionClass := ofValue "UnicodeDecodeError"

/-- A value is of the wrong kind. -/
def type : ExceptionClass := ofOther "TypeError"

/-- The disk refuses something. -/
def os : ExceptionClass := ofOther "OSError"

/-- Something is asked for at the wrong time. -/
def runtime : ExceptionClass := ofOther "RuntimeError"

end ExceptionClass

/-- An exception: its class, and what is said. -/
structure Exception where
  kind : ExceptionClass
  message : Text
deriving DecidableEq, Repr

end Stencil
