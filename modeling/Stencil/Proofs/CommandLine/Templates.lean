import Stencil.CommandLine.Run
import Stencil.Proofs.Batch.Adding
import Stencil.Proofs.FirstFault
import Stencil.Proofs.Rendering.Strict

/-!
# `Stencil.Proofs.CommandLine.Templates` — what becomes of the templates of an invocation

Once the variables and the settings are read, both folders are texts, so that every template can be
added.  All that can go wrong after that is wrong with a template: it is not read, its conditions are
badly nested where that counts, or a variable cannot be written.

## Contents
- **One template.** `ReadsTemplate`, `exists_rendered_iff` and **`Job.exists_rendering_iff`**.
- **The queue.** `Batch.Ready` and `queue_of_ready`.
- **All templates.** `Invocation.TemplatesSound`; **`perform_of_ready`**.
-/

namespace Stencil

/-! ## One template -/

/-- A template is there, and its conditions are well nested if they have to be. -/
def ReadsTemplate (disk : Disk) (strict : Bool) (path : Path) : Prop :=
  ∃ template, templateAt disk path = .ok template ∧
    (strict = true → ∀ d ∈ (parseTemplate false template).2, d.isStructural = false)

/-- A template is parsed unless a strict reading is stopped. -/
theorem exists_tree_iff {strict : Bool} {template : Text} :
    (∃ tree, (parseTemplate strict template).1 = .ok tree) ↔
      (strict = true → ∀ d ∈ (parseTemplate false template).2, d.isStructural = false) := by
  have hstops := parseTemplate_stopsAtFirst template
  cases strict with
  | false =>
    refine iff_of_true ?_ fun h => absurd h Bool.false_ne_true
    cases houtcome : (parseTemplate false template).1 with
    | ok tree => exact ⟨tree, rfl⟩
    | error d => exact absurd houtcome (hstops.goes d)
  | true =>
    have herror := hstops.error_iff
    cases houtcome : (parseTemplate true template).1 with
    | ok tree =>
      rw [houtcome] at herror
      refine iff_of_true ⟨tree, rfl⟩ fun _ d hd => ?_
      refine Bool.eq_false_iff.2 fun hstructural => ?_
      obtain ⟨_, h⟩ := herror.2 ⟨d, hd, hstructural⟩
      cases h
    | error d =>
      constructor
      · rintro ⟨tree, h⟩
        cases h
      · intro hnone
        obtain ⟨e, he, hstructural⟩ := herror.1 ⟨d, houtcome⟩
        rw [hnone rfl e he] at hstructural
        cases hstructural

/-- A template is rendered if it is parsed and the variables can be written. -/
theorem exists_rendered_iff {strict : Bool} {template : Text} {locals globals : Bindings} :
    (∃ rendering, (renderTemplate strict template locals globals).1 = .ok rendering) ↔
      (∃ tree, (parseTemplate strict template).1 = .ok tree) ∧
        Environment.canMerge locals globals = true := by
  unfold renderTemplate
  obtain ⟨outcome, reported⟩ := parseTemplate strict template
  cases outcome with
  | error report => simp [renderParsed]
  | ok tree => cases hcan : Environment.canMerge locals globals <;> simp [renderParsed, hcan]

/-- **A job gives a rendering** exactly if the template is read and the variables can be written. -/
theorem Job.exists_rendering_iff {disk : Disk} {strict : Bool} {job : Job} :
    (∃ rendering, (job.run disk strict).result = .ok rendering) ↔
      ReadsTemplate disk strict job.path ∧
        Environment.canMerge job.locals job.globals = true := by
  rw [Job.result_run, ReadsTemplate]
  cases templateAt disk job.path with
  | error fault => simp [Except.bind]
  | ok template =>
    simp only [Except.ok.injEq, exists_eq_left', ← exists_tree_iff, Except.bind, mapError_eq_ok_iff]
    exact exists_rendered_iff

/-! ## The queue -/

/-- A batch to which templates can be added and none has been yet. -/
structure Batch.Ready (batch : Batch) (root templates : Text) : Prop where
  accepting : batch.accepting = true
  pending : batch.pending = []
  rootFolder : textAt? batch.globals Settings.rootName = some root
  templatesFolder : textAt? batch.globals Settings.templatesName = some templates

namespace CommandLine

section Ready

variable {batch : Batch} {root templates : Text}

/-- All templates are added, one after the other. -/
theorem foldlM_add (locals : Bindings) (haccepting : batch.accepting = true)
    (hroot : textAt? batch.globals Settings.rootName = some root)
    (htemplates : textAt? batch.globals Settings.templatesName = some templates)
    (files : List Text) :
    files.foldlM (fun (batch : Batch) file => (batch.add file locals).map Prod.snd) batch =
      .ok { batch with pending := batch.pending ++ files.map fun file =>
        ⟨⟨templatePath root templates file, locals, batch.globals⟩, none⟩ } := by
  induction files generalizing batch with
  | nil => simp [pure, Except.pure]
  | cons file rest ih =>
    rw [List.foldlM_cons, Batch.add_of_folders haccepting hroot htemplates]
    let slot : Batch.Slot := ⟨⟨templatePath root templates file, locals, batch.globals⟩, none⟩
    have hrest := @ih { batch with pending := batch.pending ++ [slot] } haccepting hroot htemplates
    refine bind_eq_ok_iff.2 ⟨_, rfl, hrest.trans ?_⟩
    simp [slot]

/-- A batch with a job for each of some files. -/
def withJobs (batch : Batch) (root templates : Text) (locals : Variables) (files : List Text) : Batch :=
  { batch with pending := files.map fun file =>
      ⟨⟨templatePath root templates file, locals.toBindings, batch.globals⟩, none⟩ }

/-- **No template is refused**: each gets a job of its own. -/
theorem queue_of_ready (h : batch.Ready root templates) (locals : Variables) (files : List Text) :
    queue locals files batch = .ok (withJobs batch root templates locals files) := by
  rw [queue, foldlM_add _ h.accepting h.rootFolder h.templatesFolder, h.pending]
  rfl

/-- Templates are collected if each of them is read and can be shown, whatever is made of them; and if
not, it is a template that is at fault. -/
theorem collect_withJobs (locals : Variables) (files : List Text) (disk : Disk)
    (make : List Rendering → Text) :
    let collected := (((withJobs batch root templates locals files).results disk).1.map make).mapError
      RunFault.template
    ((∃ output, collected = .ok output) ↔
        ∀ file ∈ files, ReadsTemplate disk batch.strict (templatePath root templates file) ∧
          Environment.canMerge locals.toBindings batch.globals = true) ∧
      ∀ fault, collected = .error fault → ∃ e, fault = .template e := by
  constructor
  · simp only [mapError_eq_ok_iff, map_eq_ok_iff, exists_comm, exists_and_left, exists_eq', and_true]
    rw [Batch.results, exists_mapM_eq_ok_iff, withJobs, List.forall_mem_map]
    exact forall₂_congr fun file _ => Job.exists_rendering_iff
  · intro fault hfault
    obtain ⟨e, _, rfl⟩ := mapError_eq_error_iff.1 hfault
    exact ⟨e, rfl⟩

end Ready

end CommandLine

/-- A document is made exactly if there are all renderings. -/
theorem Batch.fst_update (disk : Disk) (written : Text) (batch : Batch) :
    (batch.update disk written).1 =
      (batch.results disk).1.map fun renderings => renderings.flatMap Rendering.text := by
  rw [update]
  split
  next h => rw [h]; rfl
  next h => rw [h]; rfl

/-! ## All templates -/

namespace CommandLine

/-- Whether a task shows the values of variables. -/
def Task.showsVariables : Task → Bool
  | .render _ | .report _ => true
  | .ast _ => false

/-- All templates of an invocation are read, and their variables can be written if they are shown. -/
def Invocation.TemplatesSound (invocation : Invocation) (disk : Disk) (setup : Setup) : Prop :=
  ∀ file ∈ invocation.files, ∃ path, setup.batch.templatePath file = .ok path ∧
    ReadsTemplate disk setup.batch.strict path ∧
    (invocation.task.showsVariables = true →
      Environment.canMerge setup.locals.toBindings setup.batch.globals = true)

section Perform

variable {setup : Setup} {root templates : Text}

/-- The path of a template of a ready batch. -/
theorem templatePath_of_ready (h : setup.batch.Ready root templates) (file : Text) :
    setup.batch.templatePath file = .ok (templatePath root templates file) := by
  have hroot := Batch.global_eq_text_iff.2 h.rootFolder
  have htemplates := Batch.global_eq_text_iff.2 h.templatesFolder
  rw [Batch.templatePath, Batch.rootFolder, Batch.templatesFolder, hroot, htemplates]

/-- What comes of the outline of a template. -/
theorem output_outlineOf (h : setup.batch.Ready root templates) (disk : Disk) (file : Text) :
    (outlineOf disk setup.batch file).output =
      match templateAt disk (templatePath root templates file) with
      | .error fault => .error (.template fault)
      | .ok template =>
        ((parseTemplate setup.batch.strict template).1.map fun tree =>
          tree.outline 0 ++ ['\n']).mapError fun report => .template (.render (.unbalanced report)) := by
  simp only [outlineOf, templatePath_of_ready h]
  cases templateAt disk (templatePath root templates file) <;> rfl

/-- The outline of a template is made if the template is read. -/
theorem outlineOf_of_ready (h : setup.batch.Ready root templates) (disk : Disk) (file : Text) :
    ((∃ output, (outlineOf disk setup.batch file).output = .ok output) ↔
        ReadsTemplate disk setup.batch.strict (templatePath root templates file)) ∧
      ∀ fault, (outlineOf disk setup.batch file).output = .error fault →
        ∃ e, fault = .template e := by
  rw [output_outlineOf h, ReadsTemplate]
  cases templateAt disk (templatePath root templates file) with
  | error e => simp
  | ok template =>
    simp only [Except.ok.injEq, exists_eq_left', ← exists_tree_iff]
    constructor
    · cases (parseTemplate setup.batch.strict template).1 <;> simp [Except.map]
    · intro fault hfault
      obtain ⟨report, _, rfl⟩ := mapError_eq_error_iff.1 hfault
      exact ⟨_, rfl⟩

/-- **All that can go wrong with templates is wrong with a template.** -/
theorem perform_of_ready (invocation : Invocation) (h : setup.batch.Ready root templates) (disk : Disk)
    (layered : Bool) :
    let run := perform disk layered setup.locals setup.batch invocation.task
    ((∃ output, run.output = .ok output) ↔ invocation.TemplatesSound disk setup) ∧
      ∀ fault, run.output = .error fault → ∃ e, fault = .template e := by
  simp only [Invocation.TemplatesSound, Invocation.files, templatePath_of_ready h, Except.ok.injEq,
    exists_eq_left']
  cases invocation.task with
  | render files =>
    simp only [perform, queue_of_ready h, Batch.fst_update, Task.showsVariables, forall_const]
    exact collect_withJobs setup.locals files disk _
  | report files =>
    simp only [perform, queue_of_ready h, Task.showsVariables, forall_const]
    exact collect_withJobs setup.locals files disk _
  | ast file =>
    simp only [perform, Task.showsVariables, List.forall_mem_singleton, Bool.false_eq_true,
      IsEmpty.forall_iff, and_true]
    exact outlineOf_of_ready h disk file

end Perform

end CommandLine

end Stencil
