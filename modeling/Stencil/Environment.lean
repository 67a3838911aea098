import Stencil.Value

/-!
# `Stencil.Environment` — the names a template sees

An environment gives names their values.  A name may be there without a value: a condition asks
whether the name is there, a variable asks for its value.

## Contents
- **`Environment`**, an ordered mapping of names, with **`has`**, **`lookup`** and **`get`**.
- **`Environment.ofBindings`** makes names out of keys and texts out of values.
- **`Environment.merge`** puts global bindings over local ones; **`canMerge`** says whether all of them
  have a text.
-/

namespace Stencil

/-- Names with their values, in order; a name may lack a value. -/
structure Environment where
  names : Mapping Text (Option Text)
deriving DecidableEq, Repr

/-- What an environment refuses. -/
inductive EnvironmentFault where
  /-- There is no such name. -/
  | absent (name : Text)
  /-- Environments are not changed. -/
  | readOnly
deriving DecidableEq, Repr

/-- What is said of a fault. -/
def EnvironmentFault.message : EnvironmentFault → Text
  | .absent name => name.quoted
  | .readOnly => Text.of "'VariableEnvironment' object does not support item assignment"

namespace Environment

/-- The text a variable shows for a value; none for the missing value. -/
def textOf : Value → Option Text
  | .scalar .null => none
  | v => some v.toText

/-- The environment of some bindings: keys become names, values become texts. -/
def ofBindings (bindings : Bindings) : Environment :=
  ⟨Mapping.ofList (bindings.entries.map fun (key, value) => (key.toText, textOf value))⟩

/-- Local bindings with global ones put over them. -/
def mergedBindings (locals globals : Bindings) : Bindings :=
  (Mapping.empty.update locals).update globals

/-- The environment of local bindings with global ones put over them. -/
def merge (locals globals : Bindings) : Environment :=
  ofBindings (mergedBindings locals globals)

/-- Whether the environment of two bindings can be made: all of its keys and values have a text. -/
def canMerge (locals globals : Bindings) : Bool :=
  (mergedBindings locals globals).entries.all fun (key, value) => key.isWritable && value.isWritable

/-- Whether a name is there. -/
def has (env : Environment) (name : Text) : Bool :=
  env.names.contains name

/-- The value of a name, if it is there and has one. -/
def lookup (env : Environment) (name : Text) : Option Text :=
  (env.names.find? name).join

/-- The value of a name that has to be there. -/
def get (env : Environment) (name : Text) : Except EnvironmentFault (Option Text) :=
  match env.names.find? name with
  | some value => .ok value
  | none => .error (.absent name)

/-- Give a name a value: always refused. -/
def set (_ : Environment) (_name : Text) (_value : Value) : Except EnvironmentFault Environment :=
  .error .readOnly

/-- The number of names. -/
def size (env : Environment) : Nat :=
  env.names.entries.length

/-- An environment on one line. -/
def toText (env : Environment) : Text :=
  let entries := env.names.entries.map fun (name, value) =>
    name.quoted ++ Text.of ": " ++ (value.map Text.quoted).getD (Text.of "None")
  appliedTo (Text.of "VariableEnvironment") [bracketed '\x7b' '\x7d' entries]

end Environment

end Stencil
