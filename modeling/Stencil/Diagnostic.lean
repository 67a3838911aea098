import Stencil.Log
import Stencil.Place
import Stencil.Text.Decimal

/-!
# `Stencil.Diagnostic` — what is reported about a template

Nothing that is wrong with a template stops its rendering: it is reported, with a severity and, where
the source is at fault, with the place of the fault.

## Contents
- **`Severity`**, **`DiagnosticCode`** and **`Diagnostic`**, with one constructor function for each
  thing that is reported.
- **`Diagnostic.summary`**, a report on one line, and **`Diagnostic.logRecord`**, its record in a log.
-/

namespace Stencil

/-- How bad a report is. -/
inductive Severity where
  | warning
  | error
deriving DecidableEq, Repr

/-- The kinds of report. -/
inductive DiagnosticCode where
  /-- A marker of no known form. -/
  | unknownMarker
  /-- A condition that is opened and never closed. -/
  | unterminatedBlock
  /-- A closing marker where no condition is open. -/
  | unmatchedEndif
  /-- A variable without a value. -/
  | unboundVariable
  /-- A node that is none of the known kinds. -/
  | unknownNode
deriving DecidableEq, Repr

/-- One report; the place is given where it is known. -/
structure Diagnostic where
  code : DiagnosticCode
  severity : Severity
  message : Text
  position : Option Int
  line : Option Int
  column : Option Int
deriving DecidableEq, Repr

namespace Severity

/-- The name of a severity. -/
def name : Severity → Text
  | .warning => Text.of "warning"
  | .error => Text.of "error"

/-- The log level of a severity. -/
def level : Severity → LogLevel
  | .warning => .warning
  | .error => .error

end Severity

/-- The name of a code. -/
def DiagnosticCode.name : DiagnosticCode → Text
  | .unknownMarker => Text.of "unknown-marker"
  | .unterminatedBlock => Text.of "unterminated-block"
  | .unmatchedEndif => Text.of "unmatched-endif"
  | .unboundVariable => Text.of "unbound-variable"
  | .unknownNode => Text.of "unknown-node"

/-- The codes of faults in the nesting of conditions. -/
def DiagnosticCode.isStructural : DiagnosticCode → Bool
  | .unterminatedBlock | .unmatchedEndif => true
  | .unknownMarker | .unboundVariable | .unknownNode => false

namespace Diagnostic

/-! ## The reports -/

/-- An error at a place of the source. -/
def errorAt (code : DiagnosticCode) (message : Text) (place : Place) : Diagnostic :=
  ⟨code, .error, message, some place.offset, some place.line, some place.column⟩

/-- A marker is of no known form. -/
def unknownMarker (marker : Text) (place : Place) : Diagnostic :=
  errorAt .unknownMarker (Text.of "Unknown token: " ++ marker) place

/-- A condition is closed where none is open. -/
def unmatchedEndif (place : Place) : Diagnostic :=
  errorAt .unmatchedEndif (Text.of "endif without matching if") place

/-- A condition is open at the end. -/
def unterminatedBlock (condition : Text) (place : Place) : Diagnostic :=
  errorAt .unterminatedBlock
    (Text.of "code block not closed: \x7b\x7bif " ++ condition ++
      Text.of "\x7d\x7d has no matching endif")
    place

/-- A variable has no value. -/
def unboundVariable (name : Text) : Diagnostic :=
  ⟨.unboundVariable, .warning, Text.of "Variable " ++ name ++ Text.of " was not found.",
    none, none, none⟩

/-- A node is of no known kind. -/
def unknownNode (label : Text) : Diagnostic :=
  ⟨.unknownNode, .error, Text.of "Evaluator error: unknown node type " ++ label,
    none, none, none⟩

/-! ## Reading a report -/

/-- Whether the report is an error. -/
def isError (d : Diagnostic) : Bool :=
  d.severity = .error

/-- Whether the report is about the nesting of conditions. -/
def isStructural (d : Diagnostic) : Bool :=
  d.code.isStructural

/-- The report on one line: code, message and, where the line is known, the place. -/
def summary (d : Diagnostic) : Text :=
  let located :=
    match d.line with
    | none => []
    | some line =>
      Text.of " at " ++ Text.ofInt line ++ [':'] ++
        (d.column.map Text.ofInt).getD (Text.of "None")
  d.code.name ++ Text.of ": " ++ d.message ++ located

/-- The record that goes with a report in a log. -/
def logRecord (d : Diagnostic) : LogRecord :=
  ⟨d.severity.level, d.summary⟩

end Diagnostic

end Stencil
