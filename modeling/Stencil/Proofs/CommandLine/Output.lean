import Mathlib.Data.List.Forall2
import Stencil.Proofs.CommandLine.ExitCode
import Stencil.Proofs.Node.Outline
import Stencil.Proofs.Report

/-!
# `Stencil.Proofs.CommandLine.Output` — what a run puts out if all is well

The output of a run is made of what comes of its files, one by one and in the order in which they are
given: a rendering of each, or the tree of the one file of which an outline is asked for.  It is the
whole of it: with one file missing there is no output (`perform_eq_ok_iff`).

## Contents
- **One file.** `Setup.Renders` and `Setup.Parses`.
- **All files.** `Task.PutsOut`, **`perform_eq_ok_iff`** and `putsOut_of_ending`.
-/

namespace Stencil.CommandLine

/-! ## One file -/

/-- The template in a file is rendered, with the variables of a setup. -/
def Setup.Renders (setup : Setup) (disk : Disk) (file : Text) (rendering : Rendering) : Prop :=
  ∃ path template, setup.batch.templatePath file = .ok path ∧ templateAt disk path = .ok template ∧
    (renderTemplate setup.batch.strict template setup.locals.toBindings setup.batch.globals).1 =
      .ok rendering

/-- The template in a file is parsed. -/
def Setup.Parses (setup : Setup) (disk : Disk) (file : Text) (tree : Node) : Prop :=
  ∃ path template, setup.batch.templatePath file = .ok path ∧ templateAt disk path = .ok template ∧
    (parseTemplate setup.batch.strict template).1 = .ok tree

section OneFile

variable {setup : Setup} {root templates : Text} {disk : Disk} {file : Text}

/-- A file is rendered by the job for it. -/
theorem Setup.renders_iff (h : setup.batch.Ready root templates) {rendering : Rendering} :
    setup.Renders disk file rendering ↔
      ((⟨templatePath root templates file, setup.locals.toBindings, setup.batch.globals⟩ : Job).run
        disk setup.batch.strict).result = .ok rendering := by
  unfold Renders
  rw [Job.result_run, templatePath_of_ready h]
  simp only [Except.ok.injEq, exists_and_left, exists_eq_left']
  cases templateAt disk (templatePath root templates file) with
  | error fault => simp [Except.bind]
  | ok template =>
    simp only [Except.ok.injEq, exists_eq_left']
    exact mapError_eq_ok_iff.symm

end OneFile

/-! ## All files -/

/-- **The output of a task**, given what comes of a file: the texts of all renderings in a row, a report
that tells of all of them, or a line for each node of the tree. -/
inductive Task.PutsOut (layered : Bool) (renders : Text → Rendering → Prop)
    (parses : Text → Node → Prop) : Task → Text → Prop
  | render {files : List Text} {renderings : List Rendering}
      (hfiles : List.Forall₂ renders files renderings) :
      PutsOut layered renders parses (.render files) (renderings.flatMap Rendering.text)
  | report {files : List Text} {renderings : List Rendering} {output : Text} {data : Json}
      {report : Report} (hfiles : List.Forall₂ renders files renderings)
      (htext : Report.IsText layered (files.zip renderings) output data report) :
      PutsOut layered renders parses (.report files) output
  | ast {file : Text} {tree : Node} (hfile : parses file tree) :
      PutsOut layered renders parses (.ast file)
        ((tree.placed 0).flatMap fun place => Node.placedLine 0 place ++ ['\n'])

/-- What comes of a file may be told in another way. -/
theorem Task.PutsOut.imp {layered : Bool} {renders renders' : Text → Rendering → Prop}
    {parses parses' : Text → Node → Prop} {task : Task} {output : Text}
    (h : task.PutsOut layered renders parses output)
    (hrenders : ∀ file rendering, renders file rendering → renders' file rendering)
    (hparses : ∀ file tree, task.showsVariables = false → parses file tree → parses' file tree) :
    task.PutsOut layered renders' parses' output := by
  cases h with
  | render hfiles => exact .render (hfiles.imp hrenders)
  | report hfiles htext => exact .report (hfiles.imp hrenders) htext
  | ast hfile => exact .ast (hparses _ _ rfl hfile)

section AllFiles

variable {setup : Setup} {root templates : Text} {disk : Disk}

/-- The renderings are collected that come of the files. -/
theorem results_withJobs_eq_ok_iff (h : setup.batch.Ready root templates) {files : List Text}
    {renderings : List Rendering} :
    ((withJobs setup.batch root templates setup.locals files).results disk).1 = .ok renderings ↔
      List.Forall₂ (setup.Renders disk) files renderings := by
  unfold Batch.results withJobs
  rw [mapM_eq_ok_iff, ← List.forall₂_eq_eq_eq, List.forall₂_map_left_iff,
    List.forall₂_map_left_iff, List.forall₂_map_right_iff]
  exact ⟨fun hfiles => hfiles.imp fun _ _ => (Setup.renders_iff h).2,
    fun hfiles => hfiles.imp fun _ _ => (Setup.renders_iff h).1⟩

/-- The outline is that of the tree of the file. -/
theorem outlineOf_eq_ok_iff {file output : Text} :
    (outlineOf disk setup.batch file).output = .ok output ↔
      ∃ tree, setup.Parses disk file tree ∧
        ((tree.placed 0).flatMap fun place => Node.placedLine 0 place ++ ['\n']) = output := by
  simp only [← Node.outline_append_lineFeed]
  unfold outlineOf Setup.Parses
  cases setup.batch.templatePath file with
  | error fault => simp [Run.failed]
  | ok path =>
    simp only [Except.ok.injEq, exists_and_left, exists_eq_left']
    cases templateAt disk path with
    | error fault => simp [Run.failed]
    | ok template =>
      simp only [Except.ok.injEq, exists_eq_left', mapError_eq_ok_iff, map_eq_ok_iff]

/-- **What is put out is the whole output**, and whatever is missing from it keeps all of it back. -/
theorem perform_eq_ok_iff (h : setup.batch.Ready root templates) {layered : Bool} {task : Task}
    {output : Text} :
    (perform disk layered setup.locals setup.batch task).output = .ok output ↔
      task.PutsOut layered (setup.Renders disk) (setup.Parses disk) output := by
  cases task with
  | render files =>
    simp only [perform, queue_of_ready h, Batch.fst_update, mapError_eq_ok_iff, map_eq_ok_iff,
      results_withJobs_eq_ok_iff h]
    constructor
    · rintro ⟨renderings, hfiles, rfl⟩
      exact .render hfiles
    · intro houtput
      cases houtput with
      | render hfiles => exact ⟨_, hfiles, rfl⟩
  | report files =>
    simp only [perform, queue_of_ready h, mapError_eq_ok_iff, map_eq_ok_iff,
      results_withJobs_eq_ok_iff h]
    constructor
    · rintro ⟨renderings, hfiles, rfl⟩
      exact .report hfiles (Report.isText_write layered _)
    · intro houtput
      cases houtput with
      | report hfiles htext => exact ⟨_, hfiles, htext.eq_write.symm⟩
  | ast file =>
    simp only [perform, outlineOf_eq_ok_iff]
    constructor
    · rintro ⟨tree, hfile, rfl⟩
      exact .ast hfile
    · intro houtput
      cases houtput with
      | ast hfile => exact ⟨_, hfile, rfl⟩

/-- A run that ends well has put out its output. -/
theorem Answer.output_of_ending {run : Run} (h : (ofRun run).ending = .exit 0) :
    run.output = .ok (ofRun run).output := by
  unfold ofRun at h ⊢
  cases houtput : run.output with
  | ok output => rfl
  | error fault =>
    rw [houtput] at h
    exact absurd h fault.ending_ne_exit_zero

/-- A run that ends well has been set up, and puts out the whole output. -/
theorem putsOut_of_ending {invocation : Invocation} {found : Surroundings}
    (h : (Answer.ofRun (invocation.run found)).ending = .exit 0) :
    ∃ setup, invocation.setup found = .ok setup ∧
      invocation.task.PutsOut invocation.options.layered (setup.Renders found.disk)
        (setup.Parses found.disk) (Answer.ofRun (invocation.run found)).output := by
  have houtput := Answer.output_of_ending h
  generalize (Answer.ofRun (invocation.run found)).output = output at houtput ⊢
  unfold Invocation.run at houtput
  cases hsetup : invocation.setup found with
  | error fault =>
    rw [hsetup] at houtput
    cases houtput
  | ok setup =>
    rw [hsetup] at houtput
    obtain ⟨root, templates, hready⟩ := Invocation.exists_ready_of_setup hsetup
    exact ⟨setup, rfl, (perform_eq_ok_iff hready).1 houtput⟩

end AllFiles

end Stencil.CommandLine
