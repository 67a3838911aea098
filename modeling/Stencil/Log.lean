import Stencil.Text.Basic

/-!
# `Stencil.Log` — what is told on the side

## Contents
- **`LogLevel`**, how much a record matters, and **`LogRecord`**, a level and a message.
- **`LogRecord.line`**, a record on one line; a record below the level that is asked for is not shown.
-/

namespace Stencil

/-- How much a record matters. -/
inductive LogLevel where
  | debug
  | info
  | warning
  | error
deriving DecidableEq, Repr

/-- The name of a level. -/
def LogLevel.name : LogLevel → Text
  | .debug => Text.of "DEBUG"
  | .info => Text.of "INFO"
  | .warning => Text.of "WARNING"
  | .error => Text.of "ERROR"

/-- Whether records of a level are for those only who follow every step. -/
def LogLevel.isDetail : LogLevel → Bool
  | .debug | .info => true
  | .warning | .error => false

/-- One record of a log. -/
structure LogRecord where
  level : LogLevel
  message : Text
deriving DecidableEq, Repr

/-- A record on one line. -/
def LogRecord.line (r : LogRecord) : Text :=
  '[' :: r.level.name ++ Text.of "] " ++ r.message

end Stencil
