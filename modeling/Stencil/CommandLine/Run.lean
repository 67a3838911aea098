import Stencil.CommandLine.Setup
import Stencil.Report

/-!
# `Stencil.CommandLine.Run` — from an invocation to its output

Faults are looked for in a fixed order, and the first one is told: the local variables, the settings,
the global variables, and then the templates by slot.  Nothing is put out unless everything went well.

## Contents
- **`Run`**, what comes of a run: the output or a fault, and what the log was told.
- **`Invocation.run`**, by way of **`queue`**, **`outlineOf`** and **`perform`**.
- **`Answer`**, what the program leaves behind, and **`answer`**, what it does for some arguments.
- **`Invocation.settingsPaths`** and **`Invocation.templatePaths`**, the files that a run looks at.
-/

namespace Stencil.CommandLine

/-- What comes of a run: the output or a fault, and what the log was told. -/
structure Run where
  output : Except RunFault Text
  log : List LogRecord

/-- A run that ends before anything is told to the log. -/
def Run.failed (fault : RunFault) : Run :=
  ⟨.error fault, []⟩

/-! ## Running -/

/-- Queue some templates, with the same local variables. -/
def queue (locals : Variables) (files : List Text) (batch : Batch) : Except RunFault Batch :=
  (files.foldlM
    (fun (batch : Batch) file => (batch.add file (Variables.toBindings locals)).map Prod.snd)
    batch).mapError .batch

/-- The outline of the template in a file. -/
def outlineOf (disk : Disk) (batch : Batch) (file : Text) : Run :=
  match batch.templatePath file with
  | .error fault => .failed (.batch fault)
  | .ok path =>
    match templateAt disk path with
    | .error fault => .failed (.template fault)
    | .ok template =>
      let (outcome, reported) := parseTemplate batch.strict template
      let output := outcome.map fun tree => tree.outline 0 ++ ['\n']
      ⟨output.mapError fun report => .template (.render (.unbalanced report)),
        reported.map Diagnostic.logRecord⟩

/-- Do a task with a batch that is set up. -/
def perform (disk : Disk) (layered : Bool) (locals : Variables) (batch : Batch) : Task → Run
  | .render files =>
    match queue locals files batch with
    | .error fault => .failed fault
    | .ok batch => ⟨(batch.update disk []).1.mapError .template, batch.log disk⟩
  | .report files =>
    match queue locals files batch with
    | .error fault => .failed fault
    | .ok batch =>
      let output := (batch.results disk).1.map fun renderings =>
        (Report.ofRenderings (files.zip renderings)).write layered
      ⟨output.mapError .template, batch.log disk⟩
  | .ast file => outlineOf disk batch file

/-- Do what is asked for. -/
def Invocation.run (invocation : Invocation) (found : Surroundings) : Run :=
  match invocation.setup found with
  | .error fault => .failed fault
  | .ok setup =>
    perform found.disk invocation.options.layered setup.locals setup.batch invocation.task

/-! ## Answering -/

/-- What the program leaves behind: how it ends, what it puts out, what it complains of, and what it tells the
log. -/
structure Answer where
  ending : Ending
  output : Text
  complaint : Text
  log : List LogRecord
deriving DecidableEq, Repr

/-- What is shown for a notice. -/
def Notice.text (program : Text) : Notice → Text
  | .help => Text.of "usage: " ++ program ++ Text.of " [options] ...\n"
  | .version => program ++ ' ' :: programVersion ++ ['\n']

namespace Answer

/-- What is left behind by a run. -/
def ofRun (run : Run) : Answer :=
  match run.output with
  | .ok output => ⟨.exit 0, output, [], run.log⟩
  | .error fault => ⟨fault.ending, [], fault.complaint, run.log⟩

theorem ofRun_of_ok {run : Run} {output : Text} (h : run.output = .ok output) :
    ofRun run = ⟨.exit 0, output, [], run.log⟩ := by
  rw [ofRun, h]

theorem ofRun_of_error {run : Run} {fault : RunFault} (h : run.output = .error fault) :
    ofRun run = ⟨fault.ending, [], fault.complaint, run.log⟩ := by
  rw [ofRun, h]

/-- What is left behind where arguments are read no further. -/
def ofStop : Stop → Answer
  | .notice program notice => ⟨.exit 0, notice.text program, [], []⟩
  | .usage program fault =>
    ⟨.exit faultCode, [], program ++ Text.of ": error: " ++ fault.message ++ ['\n'], []⟩

end Answer

/-- What is left behind by a call with some arguments. -/
def answer (found : Surroundings) (arguments : List Text) : Answer :=
  match Invocation.ofArguments arguments with
  | .error stop => .ofStop stop
  | .ok invocation => .ofRun (invocation.run found)

/-! ## The files that a run looks at -/

namespace Invocation

/-- The files of a task. -/
def files (invocation : Invocation) : List Text :=
  match invocation.task with
  | .render files | .report files => files
  | .ast file => [file]

/-- The files with variables and settings. -/
def settingsPaths (invocation : Invocation) : List Path :=
  let options := invocation.options
  [.ofText options.variablesFile,
    if options.config = [] then settingsFile else .ofText options.config]

/-- The files of the templates, once the others are read. -/
def templatePaths (invocation : Invocation) (found : Surroundings) : List Path :=
  match invocation.setup found with
  | .error _ => []
  | .ok setup => invocation.files.filterMap fun file => (setup.batch.templatePath file).toOption

end Invocation

end Stencil.CommandLine
