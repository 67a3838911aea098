import Stencil.Evaluation
import Stencil.Exception
import Stencil.Parse

/-!
# `Stencil.Rendering` — from a template and its variables to a text

## Contents
- **`Rendering`**: the text and all reports; **`ok`** if none is an error, **`clean`** if there is none.
- **`RenderFault`**, why a template is not rendered, with its **`exceptionClass`** and its **`message`**.
- **`renderTemplate`**, with the reports even where nothing is rendered, by way of **`renderParsed`**.
- **`render`**, the text alone.
-/

namespace Stencil

/-- A rendered template: its text and what was reported. -/
structure Rendering where
  text : Text
  diagnostics : List Diagnostic
deriving DecidableEq, Repr

namespace Rendering

/-- No report is an error. -/
def ok (r : Rendering) : Bool :=
  !r.diagnostics.any Diagnostic.isError

/-- Nothing was reported. -/
def clean (r : Rendering) : Bool :=
  r.diagnostics.isEmpty

theorem ok_of_clean {r : Rendering} (h : r.clean = true) : r.ok = true := by
  simp [ok, List.isEmpty_iff.1 h]

end Rendering

/-- Why a template is not rendered. -/
inductive RenderFault where
  /-- The conditions are not well nested, where they have to be. -/
  | unbalanced (report : Diagnostic)
  /-- A variable is an integer with too many digits to be shown. -/
  | notWritable
deriving DecidableEq, Repr

/-- The class of the exception that a fault is raised as. -/
def RenderFault.exceptionClass : RenderFault → ExceptionClass
  | .unbalanced _ => .templateParse
  | .notWritable => .value

/-- What is said of a fault. -/
def RenderFault.message : RenderFault → Text
  | .unbalanced report => report.summary
  | .notWritable => Text.notWritableMessage

/-- Render what came of parsing a template: a tree is evaluated, if the variables can be written.  They are
looked at after the template is parsed, so that what was reported until then is kept where one of them
has no text.  All reports stand in the order in which they were made. -/
def renderParsed (parsed : Except Diagnostic Node × List Diagnostic) (locals globals : Bindings) :
    Except RenderFault Rendering × List Diagnostic :=
  match parsed with
  | (.error report, reported) => (.error (.unbalanced report), reported)
  | (.ok tree, reported) =>
    if Environment.canMerge locals globals then
      let result := tree.evaluate (Environment.merge locals globals)
      let all := reported ++ result.reported
      (.ok ⟨result.text, all⟩, all)
    else (.error .notWritable, reported)

/-- Render a template: what came of it, and all reports. -/
def renderTemplate (strict : Bool) (template : Text) (locals globals : Bindings) :
    Except RenderFault Rendering × List Diagnostic :=
  renderParsed (parseTemplate strict template) locals globals

/-- The text of a template. -/
def render (template : Text) (locals globals : Bindings) : Except RenderFault Text :=
  (renderTemplate false template locals globals).1.map Rendering.text

end Stencil
