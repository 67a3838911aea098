import Stencil.Json
import Stencil.Rendering

/-!
# `Stencil.Report` — rendered templates as data

## Contents
- **`TemplateReport`**: one template by name, its text, whether it is ok, and its reports.
- **`Report`**: the templates in order, and whether all of them are ok.
- **`Report.toJson`**, the data format, and **`Report.write`**, its text.
-/

namespace Stencil

/-- One template and what came of it. -/
structure TemplateReport where
  template : Text
  text : Text
  ok : Bool
  diagnostics : List Diagnostic
deriving DecidableEq, Repr

/-- Several templates and what came of them. -/
structure Report where
  ok : Bool
  templates : List TemplateReport
deriving DecidableEq, Repr

/-- The report on a rendered template. -/
def TemplateReport.ofRendering (template : Text) (rendering : Rendering) : TemplateReport :=
  ⟨template, rendering.text, rendering.ok, rendering.diagnostics⟩

/-- A whole or nothing, as data. -/
def Json.ofOptionalInt : Option Int → Json
  | some n => .number n
  | none => .null

/-- What is told of a diagnostic: all but its offset. -/
def Diagnostic.toJson (d : Diagnostic) : Json :=
  .object
    [ (Text.of "code", .string d.code.name),
      (Text.of "severity", .string d.severity.name),
      (Text.of "message", .string d.message),
      (Text.of "line", .ofOptionalInt d.line),
      (Text.of "column", .ofOptionalInt d.column) ]

/-- One template as data. -/
def TemplateReport.toJson (t : TemplateReport) : Json :=
  .object
    [ (Text.of "template", .string t.template),
      (Text.of "text", .string t.text),
      (Text.of "ok", .bool t.ok),
      (Text.of "diagnostics", .array (t.diagnostics.map Diagnostic.toJson)) ]

namespace Report

/-- The report on some templates, in order. -/
def ofTemplates (templates : List TemplateReport) : Report :=
  ⟨templates.all TemplateReport.ok, templates⟩

/-- The report on some rendered templates, given with their names. -/
def ofRenderings (renderings : List (Text × Rendering)) : Report :=
  ofTemplates (renderings.map fun (name, rendering) => .ofRendering name rendering)

/-- All templates as data. -/
def toJson (r : Report) : Json :=
  .object
    [ (Text.of "ok", .bool r.ok),
      (Text.of "templates", .array (r.templates.map TemplateReport.toJson)) ]

/-- The text of the data, on one line or with one item a line. -/
def write (layered : Bool) (r : Report) : Text :=
  r.toJson.write layered

end Report

end Stencil
