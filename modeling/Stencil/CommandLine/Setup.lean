import Stencil.CommandLine.Fault
import Stencil.CommandLine.Invocation

/-!
# `Stencil.CommandLine.Setup` — the variables and settings of an invocation

What is given on the command line goes before what stands in files: a variable given by itself before
one in the file of variables, a global variable before one in the settings, a folder before that of the
settings.  An empty text counts as not given.

## Contents
- **`Surroundings`**, what a run finds: a disk, the name of the working folder, and a loader.
- **`Invocation.locals`**, the local variables, and **`Invocation.settings`**, for which the loader has been
  given the file of variables (**`Invocation.loaded`**).
- **`Invocation.batch`**, a batch without templates, with the global variables and the folders.
- **`Setup`** and **`Invocation.setup`**, the local variables and the batch.
-/

namespace Stencil.CommandLine

/-- What a run finds. -/
structure Surroundings where
  disk : Disk
  /-- The name of the working folder. -/
  folder : Text
  /-- What reads the settings and the variables, and has read nothing yet. -/
  loader : Loader

/-- The settings file that is read without being named. -/
def settingsFile : Path :=
  .ofText (Text.of "minitpl.yaml")

/-- A text, or another one in place of the empty text. -/
def orElse (text other : Text) : Text :=
  if text = [] then other else text

namespace Invocation

/-- The texts that are loaded before the settings: that of the file of variables, if one is named. -/
def loaded (invocation : Invocation) (disk : Disk) : List Text :=
  let file := invocation.options.variablesFile
  if file = [] then []
  else
    match disk (.ofText file) with
    | .file octets => (textOfOctets octets).toOption.toList
    | _ => []

/-- The variables in the file of variables, if one is named. -/
def fileVariables (invocation : Invocation) (found : Surroundings) : Except RunFault Variables :=
  let file := invocation.options.variablesFile
  if file = [] then .ok {}
  else (variablesAt (found.loader []) found.disk (.ofText file)).mapError .load

/-- The local variables, those in the file with those given one by one put over them. -/
def locals (invocation : Invocation) (found : Surroundings) : Except RunFault Variables := do
  let fromFile ← invocation.fileVariables found
  let given ← (assignments (Text.of "--var") invocation.options.locals).mapError .assignment
  return fromFile.update given

/-- The settings: those in the file that is named and has to be there, or else those in the settings
file of the working folder, if there is one. -/
def settings (invocation : Invocation) (found : Surroundings) : Except RunFault Settings := do
  let config := invocation.options.config
  let load := found.loader (invocation.loaded found.disk)
  if config = [] then
    -- the file is told by its full name, the working folder's in front
    let source := ((Path.ofText found.folder).join settingsFile).toText
    let settings? ← (settingsAt? load found.disk settingsFile source).mapError .load
    return settings?.getD Settings.default
  else
    let path := Path.ofText config
    match ← (settingsAt? load found.disk path path.toText).mapError .load with
    | some settings => return settings
    | none => throw (.noSettings path)

/-- A batch without templates, set up with the global variables and the folders. -/
def batch (invocation : Invocation) (found : Surroundings) : Except RunFault Batch := do
  let options := invocation.options
  let settings ← invocation.settings found
  let given ← (assignments (Text.of "--global") options.globals).mapError .assignment
  let root := orElse options.rootFolder settings.rootFolder
  let templates := orElse options.templatesFolder settings.templatesFolder
  return .create (Variables.toBindings (settings.globals.update given)) (.scalar (.text root))
    (.scalar (.text templates)) options.strict

end Invocation

/-- All that a task needs besides its files. -/
structure Setup where
  locals : Variables
  batch : Batch

/-- The local variables, then the batch. -/
def Invocation.setup (invocation : Invocation) (found : Surroundings) : Except RunFault Setup := do
  let locals ← invocation.locals found
  let batch ← invocation.batch found
  return ⟨locals, batch⟩

end Stencil.CommandLine
