import Stencil.Disk.Basic
import Stencil.Exception
import Stencil.Rendering

/-!
# `Stencil.Batch.Job` — one template to be read and rendered

## Contents
- **`TemplateFault`**, why a template gives no text, with its **`exceptionClass`** and its **`message`**;
  **`templateAt`**, the text of a template file.
- **`Job`**, a template file and the variables it sees, and **`Job.run`**, which reads and renders it;
  **`Job.result_run`** is what comes of it without the reports.
- **`Job.Outcome`**, what comes of a job, with the records that go to the log.
-/

namespace Stencil

/-- Why a template gives no text. -/
inductive TemplateFault where
  /-- There is no file, or a folder in its place. -/
  | notFound (path : Path)
  /-- A part of the path that should be a folder is a file. -/
  | notFolder (path : Path)
  | nameTooLong (path : Path)
  | nullCharacter
  | encoding (fault : Utf8.Fault)
  | render (fault : RenderFault)
deriving DecidableEq, Repr

namespace TemplateFault

/-- The class of the exception that a fault is raised as. -/
def exceptionClass : TemplateFault → ExceptionClass
  | .notFound _ | .notFolder _ | .nameTooLong _ => .templateNotFound
  | .nullCharacter => .value
  | .encoding _ => .unicodeDecode
  | .render fault => fault.exceptionClass

/-- A template is there but is not read, for a reason. -/
def unreadable (path : Path) (reason : Text) : Text :=
  Text.of "Cannot read template " ++ path.toText ++ Text.of ": " ++ reason

/-- What is said of a fault. -/
def message : TemplateFault → Text
  | .notFound path => Text.of "Template not found: " ++ path.toText
  | .notFolder path => unreadable path (Text.of "Not a directory")
  | .nameTooLong path => unreadable path (Text.of "File name too long")
  | .nullCharacter => Text.of "embedded null byte"
  | .encoding fault => fault.message
  | .render fault => fault.message

end TemplateFault

/-- The text of the template at a path. -/
def templateAt (disk : Disk) (path : Path) : Except TemplateFault Text :=
  match disk path with
  | .file octets => (textOfOctets octets).mapError .encoding
  | .folder | .missing => .error (.notFound path)
  | .notFolder => .error (.notFolder path)
  | .nameTooLong => .error (.nameTooLong path)
  | .nullCharacter => .error .nullCharacter

/-! ## Jobs -/

/-- A template file and the variables that it sees. -/
structure Job where
  path : Path
  locals : Bindings
  globals : Bindings
deriving Repr

/-- What comes of a job: a rendering or a fault, and all that was reported on the way. -/
structure Job.Outcome where
  result : Except TemplateFault Rendering
  reported : List Diagnostic

namespace Job

/-- Read and render the template of a job. -/
def run (disk : Disk) (strict : Bool) (job : Job) : Outcome :=
  match templateAt disk job.path with
  | .error fault => ⟨.error fault, []⟩
  | .ok template =>
    let (result, reported) := renderTemplate strict template job.locals job.globals
    ⟨result.mapError .render, reported⟩

/-- What comes of a job without the reports: its template is rendered, if it is read. -/
theorem result_run (disk : Disk) (strict : Bool) (job : Job) :
    (job.run disk strict).result =
      (templateAt disk job.path).bind fun template =>
        (renderTemplate strict template job.locals job.globals).1.mapError .render := by
  rw [run]
  cases templateAt disk job.path with
  | error fault => rfl
  | ok template => rfl

/-- The record of a rendering about which something was reported. -/
def notice (job : Job) (rendering : Rendering) : LogRecord :=
  ⟨.info, job.path.toText ++ Text.of ": rendered with " ++ Text.ofNat rendering.diagnostics.length ++
    Text.of " diagnostic(s)"⟩

/-- What a job tells the log when it is done. -/
def log (job : Job) (outcome : Outcome) : List LogRecord :=
  outcome.reported.map Diagnostic.logRecord ++
    match outcome.result with
    | .ok rendering => if rendering.clean then [] else [job.notice rendering]
    | .error _ => []

end Job

end Stencil
