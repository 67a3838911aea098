import Stencil.Batch.Basic
import Stencil.Proofs.Mapping

/-!
# `Stencil.Proofs.Batch.Adding` — what it takes to add a template

The folders of a batch are global variables, and these may have any values.  A template can be added as
long as both folders are texts and the batch is not closed; nothing else is looked at.

## Contents
- **`textAt?`**, the text that a variable has for its value, if it has one.
- **`Batch.add_of_folders`** and `Batch.exists_folders_of_add`.
- **`textAt?_startingGlobals`**: a new batch has both folders.
-/

namespace Stencil

/-- The text that a variable has for its value, if it has one. -/
def textAt? (globals : Bindings) (name : Text) : Option Text :=
  match globals.find? (Batch.keyOf name) with
  | some (.scalar (.text s)) => some s
  | _ => none

theorem textAt?_eq_some_iff {globals : Bindings} {name s : Text} :
    textAt? globals name = some s ↔
      globals.find? (Batch.keyOf name) = some (.scalar (.text s)) := by
  rw [textAt?]
  split <;> simp_all

namespace Batch

variable {batch : Batch} {file : Text} {locals : Bindings} {root templates : Text}

theorem global_eq_text_iff {name s : Text} :
    batch.global name = .scalar (.text s) ↔ textAt? batch.globals name = some s := by
  rw [textAt?_eq_some_iff, global]
  cases batch.globals.find? (keyOf name) <;> simp

/-- A template is added with the folders and the variables as they are. -/
theorem add_of_folders (haccepting : batch.accepting = true)
    (hroot : textAt? batch.globals Settings.rootName = some root)
    (htemplates : textAt? batch.globals Settings.templatesName = some templates) :
    batch.add file locals =
      .ok (batch.pending.length,
        { batch with pending := batch.pending ++
          [⟨⟨Stencil.templatePath root templates file, locals, batch.globals⟩, none⟩] }) := by
  rw [← global_eq_text_iff] at hroot htemplates
  rw [add, templatePath, rootFolder, templatesFolder, hroot, htemplates, haccepting]
  rfl

/-- A template is only added if both folders are texts. -/
theorem exists_folders_of_add {added : Nat × Batch} (hadd : batch.add file locals = .ok added) :
    ∃ root templates, textAt? batch.globals Settings.rootName = some root ∧
      textAt? batch.globals Settings.templatesName = some templates := by
  simp only [← global_eq_text_iff]
  rw [add, templatePath, rootFolder, templatesFolder] at hadd
  split at hadd
  next root templates hroot htemplates => exact ⟨root, templates, hroot, htemplates⟩
  all_goals cases hadd

end Batch

/-! ## A new batch -/

/-- A folder that is given, or the default in place of the empty text. -/
theorem folderOr_text (default folder : Text) :
    Batch.folderOr default (.scalar (.text folder)) =
      .scalar (.text (if folder = [] then default else folder)) := by
  cases folder <;> rfl

/-- The folders that are given as texts are there in a new batch. -/
theorem textAt?_startingGlobals (globals : Bindings) (root templates : Text) :
    let starting :=
      Batch.startingGlobals globals (.scalar (.text root)) (.scalar (.text templates))
    textAt? starting Settings.rootName = some (if root = [] then Settings.defaultRoot else root) ∧
      textAt? starting Settings.templatesName =
        some (if templates = [] then Settings.defaultTemplates else templates) := by
  intro starting
  have hapart : Batch.keyOf Settings.templatesName ≠ Batch.keyOf Settings.rootName := by
    intro hsame
    have htext := Scalar.text.inj (Key.scalar.inj hsame)
    exact absurd htext (by decide)
  rw [textAt?_eq_some_iff, textAt?_eq_some_iff, ← folderOr_text, ← folderOr_text]
  constructor
  · exact (Mapping.find?_insert_other (sharp_text _) _ _ hapart).trans
      (Mapping.find?_insert_sharp (sharp_text _) _ _)
  · exact Mapping.find?_insert_sharp (sharp_text _) _ _

end Stencil
