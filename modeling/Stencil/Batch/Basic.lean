import Stencil.Batch.Job
import Stencil.Settings.Basic

/-!
# `Stencil.Batch.Basic` — several templates made into one document

A batch keeps a queue.  A template that is added gets the next slot, with the global variables as they
stand then, so that later changes do not reach it.  Jobs are done at any time and in any order; each is
done once, and its outcome stays in its slot.  Results are told by slot, never by the time at which a
job was done.

## Contents
- **`Batch`** and **`Batch.Slot`**; **`Batch.create`** and **`Batch.setGlobal`**.  The folders are
  global variables as well, so that templates can show them.
- **`Batch.templatePath`** and **`Batch.add`**, with **`BatchFault`** for what they refuse.
- **`Batch.finishSlot`** and **`Batch.finish`**, which do one job or all that are left.
- **`Batch.results`** and **`Batch.update`**, which empties the queue; **`Batch.close`**.
- **`Batch.log`**, what a batch tells the log.
-/

namespace Stencil

/-- What a batch refuses. -/
inductive BatchFault where
  /-- Nobody is there to do the jobs. -/
  | noWorkers
  /-- The root folder is given by a value of this kind. -/
  | rootKind (kind : Text)
  /-- The templates folder is given by a value of this kind. -/
  | templatesKind (kind : Text)
  /-- The batch is closed. -/
  | closed
deriving DecidableEq, Repr

/-- The class of the exception that a fault is raised as. -/
def BatchFault.exceptionClass : BatchFault → ExceptionClass
  | .noWorkers => .value
  | .rootKind _ | .templatesKind _ => .type
  | .closed => .runtime

/-- What is said of a fault. -/
def BatchFault.message : BatchFault → Text
  | .noWorkers => Text.of "max_workers must be greater than 0"
  | .rootKind kind => Text.of "expected str, bytes or os.PathLike object, not " ++ kind
  | .templatesKind kind =>
    Text.of "unsupported operand type(s) for /: 'PosixPath' and '" ++ kind ++ ['\'']
  | .closed => Text.of "cannot schedule new futures after shutdown"

/-- A place in the queue: a job, and what came of it once it is done. -/
structure Batch.Slot where
  job : Job
  outcome? : Option Job.Outcome

/-- Several templates on their way into one document. -/
structure Batch where
  /-- Whether a template with badly nested conditions is a fault. -/
  strict : Bool
  globals : Bindings
  pending : List Batch.Slot
  /-- Whether templates can still be added. -/
  accepting : Bool

namespace Batch

/-! ## Global variables -/

/-- A name as a key. -/
def keyOf (name : Text) : Key :=
  .scalar (.text name)

/-- A folder that is given, or the default in place of one that counts as nothing. -/
def folderOr (default : Text) (folder : Value) : Value :=
  if folder.isBlank then .scalar (.text default) else folder

/-- The global variables of a new batch: the folders are put in over what is given. -/
def startingGlobals (globals : Bindings) (root templates : Value) : Bindings :=
  (globals.insert (keyOf Settings.rootName) (folderOr Settings.defaultRoot root)).insert
    (keyOf Settings.templatesName) (folderOr Settings.defaultTemplates templates)

/-- A new batch. -/
def create (globals : Bindings) (root templates : Value) (strict : Bool) : Batch :=
  ⟨strict, startingGlobals globals root templates, [], true⟩

/-- A new batch for so many workers, if their number is given. -/
def create? (globals : Bindings) (root templates : Value) (strict : Bool) (workers : Option Int) :
    Except BatchFault Batch :=
  if workers.any (· ≤ 0) then .error .noWorkers else .ok (create globals root templates strict)

/-- Give a global variable a value, for the templates added from now on. -/
def setGlobal (batch : Batch) (key : Key) (value : Value) : Batch :=
  { batch with globals := batch.globals.insert key value }

/-- The value of a global variable. -/
def global (batch : Batch) (name : Text) : Value :=
  (batch.globals.find? (keyOf name)).getD (.scalar .null)

/-- The root folder. -/
def rootFolder (batch : Batch) : Value :=
  batch.global Settings.rootName

/-- The templates folder. -/
def templatesFolder (batch : Batch) : Value :=
  batch.global Settings.templatesName

/-! ## Adding templates -/

/-- Where the file of a template lies: both folders have to be texts. -/
def templatePath (batch : Batch) (file : Text) : Except BatchFault Path :=
  match batch.rootFolder, batch.templatesFolder with
  | .scalar (.text root), .scalar (.text templates) => .ok (Stencil.templatePath root templates file)
  | .scalar (.text _), other => .error (.templatesKind other.kind)
  | other, _ => .error (.rootKind other.kind)

/-- Queue a template: its slot, and the batch with it. -/
def add (batch : Batch) (file : Text) (locals : Bindings) : Except BatchFault (Nat × Batch) := do
  -- the path comes first: it is told even of a closed batch
  let path ← batch.templatePath file
  if batch.accepting then
    let slot : Slot := ⟨⟨path, locals, batch.globals⟩, none⟩
    return (batch.pending.length, { batch with pending := batch.pending ++ [slot] })
  else throw .closed

/-- Take no more templates; what is queued stays. -/
def close (batch : Batch) : Batch :=
  { batch with accepting := false }

/-! ## Doing the jobs -/

/-- The outcome of a slot: the one it has, or the one of doing its job now. -/
def Slot.outcome (disk : Disk) (strict : Bool) (slot : Slot) : Job.Outcome :=
  slot.outcome?.getD (slot.job.run disk strict)

/-- A slot with its job done. -/
def Slot.finish (disk : Disk) (strict : Bool) (slot : Slot) : Slot :=
  { slot with outcome? := some (slot.outcome disk strict) }

/-- The batch with the job of one slot done. -/
def finishSlot (disk : Disk) (batch : Batch) (index : Nat) : Batch :=
  { batch with pending := batch.pending.modify index (Slot.finish disk batch.strict) }

/-- The batch with all jobs done. -/
def finish (disk : Disk) (batch : Batch) : Batch :=
  { batch with pending := batch.pending.map (Slot.finish disk batch.strict) }

/-! ## Collecting -/

/-- The renderings by slot, or the fault of the first slot that has one. -/
def results (disk : Disk) (batch : Batch) : Except TemplateFault (List Rendering) × Batch :=
  (batch.pending.mapM fun slot => (slot.outcome disk batch.strict).result, batch.finish disk)

/-- Put the document at the end of what is written already, and empty the queue.  Nothing is written if
there is a fault. -/
def update (disk : Disk) (written : Text) (batch : Batch) : Except TemplateFault Text × Text × Batch :=
  let emptied := { batch with pending := [] }
  match (batch.results disk).1 with
  | .ok renderings =>
    let document := renderings.flatMap Rendering.text
    (.ok document, written ++ document, emptied)
  | .error fault => (.error fault, written, emptied)

/-- The record of a template that was queued. -/
def Slot.notice (index : Nat) (slot : Slot) : LogRecord :=
  ⟨.debug, Text.of "queued template #" ++ Text.ofNat index ++ Text.of ": " ++ slot.job.path.toText⟩

/-- What the queued templates tell the log until their jobs are done, slot by slot. -/
def log (disk : Disk) (batch : Batch) : List LogRecord :=
  batch.pending.zipIdx.flatMap fun (slot, index) =>
    slot.notice index :: slot.job.log (slot.outcome disk batch.strict)

end Batch

end Stencil
