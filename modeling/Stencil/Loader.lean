import Stencil.Exception
import Stencil.Value

/-!
# `Stencil.Loader` — values that are loaded from texts

Settings and variables are written in a format that a loader reads.  The loader is not part of the
program: all that is known of it is that it gives a value or raises an exception.  One loader is given
all texts, so what comes of a text may depend on the texts that it was given before.

## Contents
- **`Loader`**, and **`LoaderFault`**, why there is no value.
-/

namespace Stencil

/-- Why a loader gives no value. -/
inductive LoaderFault where
  /-- The text is none of the format: the loader says what is wrong with it. -/
  | notDocument (message : Text)
  /-- The loader raises an exception of its own. -/
  | raised (exception : Exception)
deriving DecidableEq, Repr

/-- A loader: the value of a text, given the texts that were loaded before it.  A text that holds nothing has
the missing value. -/
abbrev Loader := List Text → Text → Except LoaderFault Value

end Stencil
