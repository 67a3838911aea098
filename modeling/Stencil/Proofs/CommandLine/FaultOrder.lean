import Stencil.Proofs.CommandLine.ExitCode

/-!
# `Stencil.Proofs.CommandLine.FaultOrder` — which of several faults is told

When several things are wrong with an invocation one of them is told.  All of them stand in a fixed
order: the file of variables, the items for local variables, the settings, the items for global
variables, and the templates (`Invocation.faults`).  What is told is the first (`faultOf?_run`).

A run is made of steps, each of which is only made if those before it went well.  So it is enough to know
the fault of two steps in a row (`faultOf?_bind_of_ok`) and of steps from a list (`faultOf?_mapM`); the rest
follows the way in which a run is put together.

## Contents
- **The fault of an outcome.** `faultOf?`, of two steps and of several.
- **All faults.** `itemFault?` and `templateFault?`; `Invocation.faults`.
- **The first one.** `faultOf?_setup`, `faultOf?_perform` and **`faultOf?_run`**.
-/

namespace Stencil

/-! ## The fault of an outcome -/

section Outcomes

variable {α β ε φ : Type}

/-- The fault that an outcome is, if it is one. -/
def faultOf? : Except ε α → Option ε
  | .error fault => some fault
  | .ok _ => none

theorem faultOf?_map (x : Except ε α) (g : α → β) : faultOf? (x.map g) = faultOf? x := by
  cases x <;> rfl

theorem faultOf?_mapError (x : Except ε α) (g : ε → φ) :
    faultOf? (x.mapError g) = (faultOf? x).map g := by
  cases x <;> rfl

/-- The first step fails, and the second one is not made. -/
theorem faultOf?_bind_of_error {x : Except ε α} {fault : ε} (hx : x = .error fault)
    (f : α → Except ε β) : faultOf? (x >>= f) = some fault := by
  rw [hx]
  rfl

/-- The first step does not fail. -/
theorem faultOf?_bind_of_ok {x : Except ε α} {a : α} (hx : x = .ok a) (f : α → Except ε β) :
    faultOf? (x >>= f) = faultOf? (f a) := by
  rw [hx]
  rfl

/-- The second step never fails. -/
theorem faultOf?_bind_of_silent (x : Except ε α) {f : α → Except ε β}
    (hf : ∀ a, faultOf? (f a) = none) : faultOf? (x >>= f) = faultOf? x := by
  cases x with
  | error fault => rfl
  | ok a => exact hf a

/-- The fault of steps from a list is that of the first step that has one. -/
theorem faultOf?_mapM (f : α → Except ε β) (items : List α) :
    faultOf? (items.mapM f) = items.findSome? fun item => faultOf? (f item) := by
  induction items with
  | nil => rfl
  | cons item rest ih =>
    rw [List.findSome?_cons, ← ih]
    cases hitem : f item with
    | error fault =>
      rw [mapM_cons_of_error hitem]
      rfl
    | ok value =>
      rw [mapM_cons_of_ok hitem]
      exact faultOf?_map _ _

end Outcomes

namespace CommandLine

/-! ## All faults -/

/-- What is wrong with an item, given to the option of this spelling. -/
def itemFault? (option item : Text) : Option RunFault :=
  (faultOf? (assignment option item)).map .assignment

/-- What is wrong with the template in a file. -/
def Setup.templateFault? (setup : Setup) (disk : Disk) (shows : Bool) (file : Text) :
    Option RunFault :=
  match setup.batch.templatePath file with
  | .error fault => some (.batch fault)
  | .ok path =>
    match templateAt disk path with
    | .error fault => some (.template fault)
    | .ok template =>
      let fault? :=
        -- an outline is made of a template without its variables
        if shows then
          faultOf? (renderTemplate setup.batch.strict template setup.locals.toBindings
            setup.batch.globals).1
        else (faultOf? (parseTemplate setup.batch.strict template).1).map .unbalanced
      fault?.map fun fault => .template (.render fault)

namespace Invocation

/-- What is wrong with the input but for the templates: the file of variables, the items for local
variables, the settings, and the items for global variables. -/
def inputFaults (invocation : Invocation) (found : Surroundings) : List RunFault :=
  (faultOf? (invocation.fileVariables found)).toList ++
    (invocation.options.locals.filterMap (itemFault? (Text.of "--var")) ++
      ((faultOf? (invocation.settings found)).toList ++
        invocation.options.globals.filterMap (itemFault? (Text.of "--global"))))

/-- What is wrong with the templates, file by file.  Where the folders are not known there are none. -/
def templateFaults (invocation : Invocation) (found : Surroundings) : List RunFault :=
  match invocation.setup found with
  | .error _ => []
  | .ok setup =>
    invocation.files.filterMap
      (setup.templateFault? found.disk invocation.task.showsVariables)

/-- **All that is wrong with an invocation, in order.** -/
def faults (invocation : Invocation) (found : Surroundings) : List RunFault :=
  invocation.inputFaults found ++ invocation.templateFaults found

/-! ## The first one -/

variable {invocation : Invocation} {found : Surroundings}

/-- The fault of some items is that of the first item that has one. -/
theorem faultOf?_assignments (option : Text) (items : List Text) :
    faultOf? ((assignments option items).mapError RunFault.assignment) =
      (items.filterMap (itemFault? option)).head? := by
  unfold assignments
  rw [faultOf?_mapError, faultOf?_map, faultOf?_mapM, List.map_findSome?, List.head?_filterMap]
  rfl

/-- The faults of the local variables. -/
theorem faultOf?_locals :
    faultOf? (invocation.locals found) =
      (faultOf? (invocation.fileVariables found)).or
        (invocation.options.locals.filterMap (itemFault? (Text.of "--var"))).head? := by
  unfold locals
  cases hfile : invocation.fileVariables found with
  | error fault => rfl
  | ok given =>
    have hitems := faultOf?_assignments (Text.of "--var") invocation.options.locals
    rw [faultOf?_bind_of_ok rfl, faultOf?_bind_of_silent _ fun _ => rfl, hitems]
    rfl

/-- The faults of the settings and the global variables. -/
theorem faultOf?_batch :
    faultOf? (invocation.batch found) =
      (faultOf? (invocation.settings found)).or
        (invocation.options.globals.filterMap (itemFault? (Text.of "--global"))).head? := by
  unfold batch
  cases hsettings : invocation.settings found with
  | error fault => exact faultOf?_bind_of_error rfl _
  | ok settings =>
    have hitems := faultOf?_assignments (Text.of "--global") invocation.options.globals
    rw [faultOf?_bind_of_ok rfl, faultOf?_bind_of_silent _ fun _ => rfl, hitems]
    rfl

/-- **The first fault before the templates.** -/
theorem faultOf?_setup :
    faultOf? (invocation.setup found) = (invocation.inputFaults found).head? := by
  have hlocals : faultOf? (invocation.locals found) = _ := faultOf?_locals
  have hbatch : faultOf? (invocation.batch found) = _ := faultOf?_batch
  unfold inputFaults
  rw [List.head?_append, List.head?_append, List.head?_append, Option.head?_toList,
    Option.head?_toList, ← Option.or_assoc, ← hlocals, ← hbatch]
  unfold setup
  cases houtcome : invocation.locals found with
  | error fault => rfl
  | ok locals =>
    rw [faultOf?_bind_of_ok rfl]
    exact faultOf?_bind_of_silent _ fun _ => rfl

section Templates

variable {setup : Setup} {root templates : Text} {disk : Disk}

/-- What is wrong with a template that is to be shown is what its job comes to. -/
theorem faultOf?_job (h : setup.batch.Ready root templates) (file : Text) :
    (faultOf? ((⟨templatePath root templates file, setup.locals.toBindings, setup.batch.globals⟩ :
        Job).run disk setup.batch.strict).result).map RunFault.template =
      setup.templateFault? disk true file := by
  unfold Setup.templateFault?
  rw [Job.result_run, templatePath_of_ready h]
  dsimp only
  cases templateAt disk (templatePath root templates file) with
  | error fault => rfl
  | ok template =>
    show (faultOf? (Except.mapError _ _)).map RunFault.template = _
    rw [faultOf?_mapError, Option.map_map]
    rfl

/-- The first fault of some templates that are to be shown. -/
theorem faultOf?_results (h : setup.batch.Ready root templates) (files : List Text) :
    (faultOf? ((withJobs setup.batch root templates setup.locals files).results disk).1).map
        RunFault.template =
      (files.filterMap (setup.templateFault? disk true)).head? := by
  unfold Batch.results withJobs
  rw [faultOf?_mapM, List.map_findSome?, List.findSome?_map, List.head?_filterMap]
  refine congrArg (fun f => List.findSome? f files) (funext fun file => ?_)
  exact faultOf?_job h file

/-- What is wrong with a template of which an outline is made. -/
theorem faultOf?_outlineOf (h : setup.batch.Ready root templates) (file : Text) :
    faultOf? (outlineOf disk setup.batch file).output = setup.templateFault? disk false file := by
  unfold Setup.templateFault?
  rw [output_outlineOf h, templatePath_of_ready h]
  dsimp only
  cases templateAt disk (templatePath root templates file) with
  | error fault => rfl
  | ok template =>
    dsimp only
    rw [faultOf?_mapError, faultOf?_map, if_neg Bool.false_ne_true, Option.map_map]
    rfl

/-- **The first fault of the templates.** -/
theorem faultOf?_perform (h : setup.batch.Ready root templates) (layered : Bool)
    (invocation : Invocation) :
    faultOf? (perform disk layered setup.locals setup.batch invocation.task).output =
      (invocation.files.filterMap
        (setup.templateFault? disk invocation.task.showsVariables)).head? := by
  unfold Invocation.files
  cases invocation.task with
  | render files =>
    simp only [perform, queue_of_ready h]
    rw [Batch.fst_update, faultOf?_mapError, faultOf?_map]
    exact faultOf?_results h files
  | report files =>
    simp only [perform, queue_of_ready h]
    rw [faultOf?_mapError, faultOf?_map]
    exact faultOf?_results h files
  | ast file =>
    show faultOf? (outlineOf disk setup.batch file).output = _
    rw [faultOf?_outlineOf h, List.head?_filterMap, List.findSome?_cons]
    cases hfault : setup.templateFault? disk false file <;>
      simp [Task.showsVariables, hfault]

end Templates

/-- **The fault that is told is the first.** -/
theorem faultOf?_run :
    faultOf? (invocation.run found).output = (invocation.faults found).head? := by
  have hinput : faultOf? (invocation.setup found) = _ := faultOf?_setup
  unfold faults
  rw [List.head?_append, ← hinput]
  unfold run templateFaults
  cases hsetup : invocation.setup found with
  | error fault => rfl
  | ok setup =>
    obtain ⟨root, templates, hready⟩ := exists_ready_of_setup hsetup
    exact faultOf?_perform hready invocation.options.layered invocation

end Invocation

end CommandLine

end Stencil
