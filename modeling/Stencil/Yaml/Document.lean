import Stencil.Yaml.Builder
import Stencil.Yaml.Reader

/-!
# `Stencil.Yaml.Document` — the value of a document

## Contents
- **`Document`** and **`documentOfText`**: the value that a text holds, and the version of the format that
  counts for the next text if that gives none.
- **`loader`**, which keeps to that version from one text to the next.
-/

namespace Stencil.Yaml

/-- What a text holds. -/
structure Document where
  /-- The value, if there is one. -/
  value? : Option Value
  version : Version

/-- How deep collections are kept in the value of a document: the outermost one and those in it. -/
def valueDepth : Nat := 2

/-- The document that a text holds; the version counts where the text gives none. -/
def documentOfText (version : Version) (text : Text) : Except Fault Document := do
  let reading ← readText version text
  match reading.root with
  | none => return ⟨none, reading.version⟩
  | some root =>
    let (datum, builder) ← (Build.root root).run (.start reading.graph reading.version)
    return ⟨some (builder.store.value valueDepth datum), reading.version⟩

/-- The version that counts for a text that gives none, after some other texts. -/
def versionAfter (earlier : List Text) : Version :=
  earlier.foldl
    (fun version text =>
      match documentOfText version text with
      | .ok document => document.version
      | .error _ => version)
    .usual

/-- A loader of the documents that are read here. -/
def loader : Loader := fun earlier text =>
  match documentOfText (versionAfter earlier) text with
  | .ok document => .ok (document.value?.getD (.scalar .null))
  | .error fault => .error fault.toLoaderFault

end Stencil.Yaml
