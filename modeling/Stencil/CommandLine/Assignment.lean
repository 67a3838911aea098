import Stencil.Settings.Basic
import Stencil.Text.Blank

/-!
# `Stencil.CommandLine.Assignment` — variables given one by one

A variable is given as its name, an equals sign and its value.  Blanks around the name do not count;
all that follows the first equals sign is the value.

## Contents
- **`assignment`**, the name and the value in an item, or an **`AssignmentFault`**.
- **`assignments`**, the variables in some items; the last value of a name counts.
-/

namespace Stencil.CommandLine

/-- What is wrong with an item, given to the option of this spelling. -/
inductive AssignmentFault where
  | noEquals (option item : Text)
  | noName (option item : Text)
deriving DecidableEq, Repr

/-- What is said of a fault. -/
def AssignmentFault.message (fault : AssignmentFault) : Text :=
  let told (option item ending : Text) :=
    Text.of "Invalid " ++ option ++ Text.of " format '" ++ item ++ Text.of "'. " ++ ending
  match fault with
  | .noEquals option item => told option item (Text.of "Expected 'NAME=VALUE'")
  | .noName option item => told option item (Text.of "Empty variable name")

/-- The name and the value in an item. -/
def assignment (option item : Text) : Except AssignmentFault (Text × Simple) :=
  match Text.cut? '=' item with
  | none => .error (.noEquals option item)
  | some (name, value) =>
    if name.trim = [] then .error (.noName option item) else .ok (name.trim, .scalar (.text value))

/-- The variables in some items. -/
def assignments (option : Text) (items : List Text) : Except AssignmentFault Variables :=
  (items.mapM (assignment option)).map Mapping.ofList

end Stencil.CommandLine
