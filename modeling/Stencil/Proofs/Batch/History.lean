import Stencil.Evaluation
import Stencil.Proofs.Batch.Adding
import Stencil.Proofs.Environment

/-!
# `Stencil.Proofs.Batch.History` — what a batch has been told

A batch that is told to add a template can only promise to render it.  What is promised is fixed there
and then: the folders, the variables and the file, as they are when the template is added (`Order`).
The history of a batch is made of its commands alone, with nobody at work.

## Contents
- **`Command`**, what a batch is told and what is written to the disk meanwhile.
- **`Order`**, a template that was added, with its **`path`** and its **`result`**.
- **`History`**, with **`step`** and **`after`**.
- **The folders.** `Order.Faithful`, `Order.ShowsFolders`, and `History.Sound`, which all histories are.
-/

namespace Stencil

/-- What a batch is told, and what is written to the disk meanwhile. -/
inductive Command where
  | add (file : Text) (locals : Bindings)
  | setGlobal (key : Key) (value : Value)
  | write (disk : Disk)

/-! ## Orders -/

/-- A template that was added: the folders that are set, and the variables and the disk as they are at
that time. -/
structure Order where
  file : Text
  rootFolder : Text
  templatesFolder : Text
  locals : Bindings
  globals : Bindings
  disk : Disk

namespace Order

/-- Where the file of the template lies. -/
def path (order : Order) : Path :=
  templatePath order.rootFolder order.templatesFolder order.file

/-- The job that the order makes. -/
def job (order : Order) : Job :=
  ⟨order.path, order.locals, order.globals⟩

/-- What is promised: the rendering of the file, or why there is none. -/
def result (strict : Bool) (order : Order) : Except TemplateFault Rendering :=
  match templateAt order.disk order.path with
  | .error fault => .error fault
  | .ok template =>
    (renderTemplate strict template order.locals order.globals).1.mapError .render

end Order

/-- A job looks at nothing on the disk but the file of its template. -/
theorem Job.run_congr {disk other : Disk} {job : Job} (h : disk job.path = other job.path)
    (strict : Bool) : job.run disk strict = job.run other strict := by
  rw [run, run, templateAt, templateAt, h]

/-- What comes of the job of an order is what is promised. -/
theorem Order.result_run (strict : Bool) (order : Order) :
    (order.job.run order.disk strict).result = order.result strict := by
  rw [Job.result_run, result]
  show (templateAt order.disk order.path).bind _ = _
  cases templateAt order.disk order.path <;> rfl

/-! ## Histories -/

/-- What is known of a batch without looking at the workers: the global variables, the disk, and the
orders. -/
structure History where
  globals : Bindings
  disk : Disk
  orders : List Order

namespace History

/-- A batch that has just been created. -/
def start (given : List (Key × Value)) (root templates : Value) (disk : Disk) : History :=
  ⟨Batch.startingGlobals (Mapping.ofList given) root templates, disk, []⟩

/-- One command.  A template is only added where both folders are texts. -/
def step (h : History) : Command → History
  | .add file locals =>
    match textAt? h.globals Settings.rootName, textAt? h.globals Settings.templatesName with
    | some root, some templates =>
      { h with orders := h.orders ++ [⟨file, root, templates, locals, h.globals, h.disk⟩] }
    | _, _ => h
  | .setGlobal key value => { h with globals := h.globals.insert key value }
  | .write disk => { h with disk }

/-- All commands, in order. -/
def after (h : History) (commands : List Command) : History :=
  commands.foldl step h

end History

/-! ## The folders -/

/-- The folders of an order are global variables of the order. -/
structure Order.Faithful (order : Order) : Prop where
  distinct : order.globals.Distinct
  rootFolder : textAt? order.globals Settings.rootName = some order.rootFolder
  templatesFolder : textAt? order.globals Settings.templatesName = some order.templatesFolder

/-- A folder that is shown is the one that is set. -/
theorem evaluate_folder {globals : Bindings} {name folder : Text} (hglobals : globals.Distinct)
    (hname : ∀ key : Key, key.toText = name → key = .scalar (.text name))
    (hfolder : textAt? globals name = some folder) (locals : Bindings) (nodes : List Node)
    (stack : List (List Node)) :
    Node.evaluateFrom (Environment.merge locals globals) ((.variable name :: nodes) :: stack) =
      .ofText folder ++ Node.evaluateFrom (Environment.merge locals globals) (nodes :: stack) := by
  have hlookup : (Environment.merge locals globals).lookup name = some folder :=
    Environment.lookup_merge hglobals hname (textAt?_eq_some_iff.1 hfolder)
  rw [Node.evaluateFrom, Environment.evaluateVariable, hlookup]

/-- The template of an order shows the folders that it is read from, at any place. -/
def Order.ShowsFolders (order : Order) : Prop :=
  let env := Environment.merge order.locals order.globals
  ∀ (nodes : List Node) (stack : List (List Node)),
    Node.evaluateFrom env ((.variable Settings.rootName :: nodes) :: stack) =
        .ofText order.rootFolder ++ Node.evaluateFrom env (nodes :: stack) ∧
      Node.evaluateFrom env ((.variable Settings.templatesName :: nodes) :: stack) =
        .ofText order.templatesFolder ++ Node.evaluateFrom env (nodes :: stack)

/-- **A template shows the folders that it was read from**, whatever its local variables are. -/
theorem Order.Faithful.showsFolders {order : Order} (h : order.Faithful) : order.ShowsFolders := by
  intro nodes stack
  constructor
  · refine evaluate_folder h.distinct (fun key hkey => ?_) h.rootFolder _ _ _
    exact Key.eq_text_of_toText (by decide) (by decide) (by decide) hkey
  · refine evaluate_folder h.distinct (fun key hkey => ?_) h.templatesFolder _ _ _
    exact Key.eq_text_of_toText (by decide) (by decide) (by decide) hkey

namespace History

/-- A history in which no key is twice among the global variables, and all orders are faithful. -/
structure Sound (h : History) : Prop where
  distinct : h.globals.Distinct
  faithful : ∀ order ∈ h.orders, order.Faithful

theorem sound_start (given : List (Key × Value)) (root templates : Value) (disk : Disk) :
    (start given root templates disk).Sound where
  distinct := ((Mapping.distinct_ofList given).insert _ _).insert _ _
  faithful := fun _ horder => absurd horder List.not_mem_nil

theorem Sound.step {h : History} (hsound : h.Sound) (command : Command) :
    (h.step command).Sound := by
  cases command with
  | add file locals =>
    simp only [History.step]
    split
    next root templates hroot htemplates =>
      refine ⟨hsound.distinct, fun order horder => ?_⟩
      rcases List.mem_append.1 horder with horder | horder
      · exact hsound.faithful order horder
      · rw [List.mem_singleton.1 horder]
        exact ⟨hsound.distinct, hroot, htemplates⟩
    next => exact hsound
  | setGlobal key value => exact ⟨hsound.distinct.insert key value, hsound.faithful⟩
  | write disk => exact ⟨hsound.distinct, hsound.faithful⟩

/-- **Whatever a batch is told, its orders are faithful.** -/
theorem Sound.after {h : History} (hsound : h.Sound) (commands : List Command) :
    (h.after commands).Sound := by
  induction commands generalizing h with
  | nil => exact hsound
  | cons command rest ih => exact ih (hsound.step command)

end History

end Stencil
