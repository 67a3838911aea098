import Stencil.CommandLine.Run
import Stencil.Yaml.Document

/-!
# `Stencil.Main` — the program

The outer layer: it reads the files that an invocation looks at, and puts out the answer.

## Contents
- **`readingAt`**, what there is at a path, and **`diskOf`**, the disk that some paths make up.
- **`answerTo`**, the answer to the arguments, and **`program`**, which puts it out.
-/

namespace Stencil

open CommandLine

/-- What there is at a path. -/
def readingAt (path : Path) : IO Reading := do
  if path.toText.contains '\x00' then
    return .nullCharacter
  let file := (← IO.currentDir) / String.ofList path.toText
  if ← file.isDir then
    return .folder
  try
    return .file (← IO.FS.readBinFile file).toList
  catch
    | .noFileOrDirectory .. => return .missing
    | .inappropriateType .. => return .notFolder
    | .invalidArgument .. => return .nameTooLong
    | fault => throw fault

/-- The disk with what there is at some paths, and nothing else. -/
def diskOf (paths : List Path) : IO Disk := do
  let readings ← paths.mapM fun path => return (path, ← readingAt path)
  return fun path =>
    match readings.find? fun (known, _) => known = path with
    | some (_, reading) => reading
    | none => .missing

/-- The answer to the arguments, found in a folder. -/
def answerTo (folder : Text) (arguments : List Text) : IO Answer := do
  match Invocation.ofArguments arguments with
  | .error _ => return answer ⟨← diskOf [], folder, Yaml.loader⟩ arguments
  | .ok invocation =>
    -- where the templates lie is known only after the settings are read
    let settingsPaths := invocation.settingsPaths
    let settingsDisk ← diskOf settingsPaths
    let templatePaths := invocation.templatePaths ⟨settingsDisk, folder, Yaml.loader⟩
    return answer ⟨← diskOf (settingsPaths ++ templatePaths), folder, Yaml.loader⟩ arguments

/-- Answer the arguments: the log and complaints go to the standard error stream.  An exception that is not
caught is raised here. -/
def program (arguments : List String) : IO UInt32 := do
  let folder := (← IO.currentDir).toString.toList
  let detailed := ((← IO.getEnv "MINITPL_DEBUG").getD "") ≠ ""
  let answer ← answerTo folder (arguments.map String.toList)
  for record in answer.log do
    if detailed || !record.level.isDetail then
      IO.eprintln (String.ofList record.line)
  IO.eprint (String.ofList answer.complaint)
  IO.print (String.ofList answer.output)
  match answer.ending with
  | .exit code => return code.toUInt32
  | .raise exception =>
    let text := exception.kind.name ++ Text.of ": " ++ exception.message
    throw (IO.userError (String.ofList text))

end Stencil

/-- The program. -/
def main (arguments : List String) : IO UInt32 :=
  Stencil.program arguments
