import Stencil.Disk.Basic
import Stencil.Loader
import Stencil.Settings.Basic

/-!
# `Stencil.Settings.File` — settings and variables read from files

## Contents
- **`LoadFault`**, why a file gives no settings or variables, with its **`exceptionClass`** and **`message`**.
- **`bindingsOfOctets`**, the mapping that a file holds; an empty file holds the empty one.
- **`settingsAt?`**, settings that may be missing, and **`variablesAt`**, variables that may not.
-/

namespace Stencil

/-- Why a file gives no settings or variables.  The source is how the file is named to the user. -/
inductive LoadFault where
  /-- There is no file with variables. -/
  | noVariables (path : Path)
  | disk (fault : DiskFault)
  | encoding (fault : Utf8.Fault)
  | document (source : Text) (fault : LoaderFault)
  /-- The document is not a mapping. -/
  | notMapping (source : Text)
  | settings (source : Text) (fault : SettingsFault)
deriving DecidableEq, Repr

namespace LoadFault

/-- The class of the exception that a fault is raised as; what a loader raises by itself is not changed. -/
def exceptionClass : LoadFault → ExceptionClass
  | .noVariables _ | .notMapping _ | .document _ (.notDocument _) => .config
  | .disk _ => .os
  | .encoding _ => .unicodeDecode
  | .document _ (.raised exception) => exception.kind
  | .settings _ fault => fault.exceptionClass

/-- What is said of a fault; where the text is no document, the file is named. -/
def message : LoadFault → Text
  | .noVariables path => Text.of "Variables file not found: " ++ path.toText
  | .disk fault => fault.message
  | .encoding fault => fault.message
  | .document source (.notDocument message) =>
    Text.of "Invalid YAML in " ++ source ++ Text.of ": " ++ message
  | .document _ (.raised exception) => exception.message
  | .notMapping source => Text.of "YAML must be a mapping: " ++ source
  | .settings source fault => fault.message source

end LoadFault

/-- The bindings that a value gives; the missing value gives none. -/
def bindingsOfValue (source : Text) : Value → Except LoadFault Bindings
  | .scalar .null => .ok {}
  | .mapping entries => .ok ⟨entries⟩
  | _ => .error (.notMapping source)

section Files

variable (load : Text → Except LoaderFault Value)

/-- The bindings that the octets of a file give. -/
def bindingsOfOctets (source : Text) (octets : List UInt8) : Except LoadFault Bindings := do
  let text ← (textOfOctets octets).mapError .encoding
  let value ← (load text).mapError (.document source)
  bindingsOfValue source value

/-- The settings in the file at a path, if there is a file. -/
def settingsAt? (disk : Disk) (path : Path) (source : Text) : Except LoadFault (Option Settings) := do
  match ← (disk.file? path).mapError .disk with
  | none => return none
  | some octets =>
    let bindings ← bindingsOfOctets load source octets
    let settings ← (Settings.ofBindings bindings).mapError (.settings source)
    return some settings

/-- The variables in the file at a path. -/
def variablesAt (disk : Disk) (path : Path) : Except LoadFault Variables := do
  match ← (disk.file? path).mapError .disk with
  | none => throw (.noVariables path)
  | some octets =>
    let bindings ← bindingsOfOctets load path.toText octets
    (Variables.ofBindings bindings).mapError (.settings path.toText)

end Files

end Stencil
