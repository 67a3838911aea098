import Stencil.Report
import Stencil.Proofs.Json.Writer

/-!
# `Stencil.Proofs.Report` — a report is read back from its text

The text of a report stands for one value of the data format, the same in both layouts, and from the value
the report can be told again: all of it but the offsets of the diagnostics.  So a text belongs to one
layout and, offsets aside, to one report.

## Contents
- **`told`**, a diagnostic, a template or a report without its offsets.
- **Reading data.** `Json.field?` and `Json.listOf?`; `Diagnostic.ofJson?`, `TemplateReport.ofJson?` and
  **`Report.ofJson?`**, which undo the writing of data (**`Report.ofJson?_toJson`**).
- **`Report.Tells`**, what a report on some renderings holds, and no other one does (`Tells.unique`);
  **`Report.IsText`**, what its text is.
- **`Report.write_faithful`**.
-/

namespace Stencil

/-! ## What is told -/

/-- A diagnostic as it is told: without its offset. -/
def Diagnostic.told (d : Diagnostic) : Diagnostic :=
  { d with position := none }

/-- One template as it is told. -/
def TemplateReport.told (t : TemplateReport) : TemplateReport :=
  { t with diagnostics := t.diagnostics.map Diagnostic.told }

/-- A report as it is told. -/
def Report.told (r : Report) : Report :=
  { r with templates := r.templates.map TemplateReport.told }

@[simp] theorem Diagnostic.toJson_told (d : Diagnostic) : d.told.toJson = d.toJson := rfl

@[simp] theorem TemplateReport.toJson_told (t : TemplateReport) : t.told.toJson = t.toJson := by
  simp [TemplateReport.toJson, TemplateReport.told]

@[simp] theorem Report.toJson_told (r : Report) : r.told.toJson = r.toJson := by
  simp [Report.toJson, Report.told]

/-! ## Reading data -/

namespace Json

/-- What an object has under a name. -/
def member? (name : Text) : Json → Option Json
  | .object members => members.lookup name
  | _ => none

/-- What an object has under a name, as something that data tell of. -/
def field? {α : Type} (name : String) (read : Json → Option α) (data : Json) : Option α :=
  (data.member? (Text.of name)).bind read

/-- A truth value. -/
def bool? : Json → Option Bool
  | .bool b => some b
  | _ => none

/-- A text. -/
def text? : Json → Option Text
  | .string s => some s
  | _ => none

/-- A whole or nothing. -/
def optionalInt? : Json → Option (Option Int)
  | .number n => some (some n)
  | .null => some none
  | _ => none

/-- A list of things that data tell of. -/
def listOf? {α : Type} (read : Json → Option α) : Json → Option (List α)
  | .array items => items.mapM read
  | _ => none

theorem optionalInt?_ofOptionalInt (n : Option Int) : optionalInt? (ofOptionalInt n) = some n := by
  cases n <;> rfl

/-- A list is read back if each of its items is. -/
theorem listOf?_array {α β : Type} {write : α → Json} {read : Json → Option β} {told : α → β}
    (h : ∀ a, read (write a) = some (told a)) (items : List α) :
    listOf? read (.array (items.map write)) = some (items.map told) := by
  show (items.map write).mapM read = some (items.map told)
  induction items with
  | nil => rfl
  | cons a items ih => simp [h a, ih]

end Json

/-! ## Reading reports -/

/-- The code of a name. -/
def DiagnosticCode.ofName? (name : Text) : Option DiagnosticCode :=
  [unknownMarker, unterminatedBlock, unmatchedEndif, unboundVariable, unknownNode].find?
    fun code => code.name = name

/-- The severity of a name. -/
def Severity.ofName? (name : Text) : Option Severity :=
  [warning, error].find? fun severity => severity.name = name

/-- No two codes have one name. -/
theorem DiagnosticCode.ofName?_name (code : DiagnosticCode) : ofName? code.name = some code := by
  cases code <;> decide

/-- No two severities have one name. -/
theorem Severity.ofName?_name (severity : Severity) : ofName? severity.name = some severity := by
  cases severity <;> decide

/-- A diagnostic that data tell of. -/
def Diagnostic.ofJson? (data : Json) : Option Diagnostic := do
  let code ← data.field? "code" fun name => name.text?.bind DiagnosticCode.ofName?
  let severity ← data.field? "severity" fun name => name.text?.bind Severity.ofName?
  let message ← data.field? "message" Json.text?
  let line ← data.field? "line" Json.optionalInt?
  let column ← data.field? "column" Json.optionalInt?
  return ⟨code, severity, message, none, line, column⟩

/-- One template that data tell of. -/
def TemplateReport.ofJson? (data : Json) : Option TemplateReport := do
  let template ← data.field? "template" Json.text?
  let text ← data.field? "text" Json.text?
  let ok ← data.field? "ok" Json.bool?
  let diagnostics ← data.field? "diagnostics" (Json.listOf? Diagnostic.ofJson?)
  return ⟨template, text, ok, diagnostics⟩

/-- A report that data tell of. -/
def Report.ofJson? (data : Json) : Option Report := do
  let ok ← data.field? "ok" Json.bool?
  let templates ← data.field? "templates" (Json.listOf? TemplateReport.ofJson?)
  return ⟨ok, templates⟩

theorem Diagnostic.ofJson?_toJson (d : Diagnostic) : ofJson? d.toJson = some d.told := by
  have hcode : d.toJson.field? "code" (fun name => name.text?.bind DiagnosticCode.ofName?) =
      some d.code := DiagnosticCode.ofName?_name d.code
  have hseverity : d.toJson.field? "severity" (fun name => name.text?.bind Severity.ofName?) =
      some d.severity := Severity.ofName?_name d.severity
  have hmessage : d.toJson.field? "message" Json.text? = some d.message := rfl
  have hline : d.toJson.field? "line" Json.optionalInt? = some d.line :=
    Json.optionalInt?_ofOptionalInt d.line
  have hcolumn : d.toJson.field? "column" Json.optionalInt? = some d.column :=
    Json.optionalInt?_ofOptionalInt d.column
  rw [ofJson?, hcode, hseverity, hmessage, hline, hcolumn]
  rfl

theorem TemplateReport.ofJson?_toJson (t : TemplateReport) : ofJson? t.toJson = some t.told := by
  have htemplate : t.toJson.field? "template" Json.text? = some t.template := rfl
  have htext : t.toJson.field? "text" Json.text? = some t.text := rfl
  have hok : t.toJson.field? "ok" Json.bool? = some t.ok := rfl
  have hdiagnostics : t.toJson.field? "diagnostics" (Json.listOf? Diagnostic.ofJson?) =
      some (t.diagnostics.map Diagnostic.told) :=
    Json.listOf?_array Diagnostic.ofJson?_toJson t.diagnostics
  rw [ofJson?, htemplate, htext, hok, hdiagnostics]
  rfl

/-- **A report is told again from its data.** -/
theorem Report.ofJson?_toJson (r : Report) : ofJson? r.toJson = some r.told := by
  have hok : r.toJson.field? "ok" Json.bool? = some r.ok := rfl
  have htemplates : r.toJson.field? "templates" (Json.listOf? TemplateReport.ofJson?) =
      some (r.templates.map TemplateReport.told) :=
    Json.listOf?_array TemplateReport.ofJson?_toJson r.templates
  rw [ofJson?, hok, htemplates]
  rfl

namespace Report

/-- Data and what is told belong together. -/
theorem toJson_eq_iff {r r' : Report} : r.toJson = r'.toJson ↔ r.told = r'.told := by
  constructor
  · intro h
    have hread : some r.told = some r'.told := by rw [← ofJson?_toJson, ← ofJson?_toJson, h]
    exact Option.some.inj hread
  · intro h
    rw [← toJson_told r, h, toJson_told]

/-! ## Texts -/

/-- On one line, the first name comes next to the bracket; else it is on a line of its own. -/
theorem secondChar_write (layered : Bool) (r : Report) :
    (r.write layered)[1]? = some (if layered then '\n' else '"') := by
  cases layered <;> rfl

/-- Two reports have one text only in one layout, and if they tell the same. -/
theorem write_eq_iff {r r' : Report} {layered layered' : Bool} :
    r.write layered = r'.write layered' ↔ layered = layered' ∧ r.told = r'.told := by
  constructor
  · intro h
    have hsecond : (r.write layered)[1]? = (r'.write layered')[1]? := by rw [h]
    rw [secondChar_write, secondChar_write] at hsecond
    have hdata : some r.toJson = some r'.toJson := by
      rw [← Json.read_write layered, ← Json.read_write layered']
      exact congrArg Json.read h
    refine ⟨?_, toJson_eq_iff.1 (Option.some.inj hdata)⟩
    cases layered <;> cases layered' <;> first | rfl | cases hsecond
  · rintro ⟨rfl, htold⟩
    rw [write, write, toJson_eq_iff.2 htold]

/-! ## Renderings -/

/-- **What a report on some renderings holds**: names, texts and diagnostics in their order, which
templates are not ok, and whether all are. -/
structure Tells (report : Report) (renderings : List (Text × Rendering)) : Prop where
  templates : report.templates.map (fun t => (t.template, t.text, t.diagnostics)) =
    renderings.map fun (name, rendering) =>
      (name, rendering.text, rendering.diagnostics.map Diagnostic.told)
  template_ok : ∀ t ∈ report.templates, t.ok = false ↔ ∃ d ∈ t.diagnostics, d.severity = .error
  ok : report.ok = true ↔ ∀ t ∈ report.templates, t.ok = true

/-- A rendering is not ok if and only if an error is told of. -/
theorem ok_eq_false_iff (rendering : Rendering) :
    rendering.ok = false ↔
      ∃ d ∈ rendering.diagnostics.map Diagnostic.told, d.severity = .error := by
  simp [Rendering.ok, Diagnostic.isError, Diagnostic.told]

/-- A report is ok if and only if each template is that is told of. -/
theorem ok_told_ofTemplates (templates : List TemplateReport) :
    (ofTemplates templates).told.ok = true ↔
      ∀ t ∈ (ofTemplates templates).told.templates, t.ok = true := by
  show templates.all TemplateReport.ok = true ↔ ∀ t ∈ templates.map TemplateReport.told, t.ok = true
  rw [List.all_eq_true, List.forall_mem_map]
  rfl

theorem tells_told_ofRenderings (renderings : List (Text × Rendering)) :
    (ofRenderings renderings).told.Tells renderings where
  templates := by
    simp [ofRenderings, ofTemplates, told, TemplateReport.ofRendering, TemplateReport.told,
      Function.comp_def]
  template_ok := by
    intro t ht
    simp only [ofRenderings, ofTemplates, told, List.map_map, List.mem_map, Function.comp_apply] at ht
    obtain ⟨⟨name, rendering⟩, -, rfl⟩ := ht
    exact ok_eq_false_iff rendering
  ok := ok_told_ofTemplates _

/-- Whether a template is ok is told by its diagnostics. -/
theorem templates_unique {templates others : List TemplateReport}
    (hsame : templates.map (fun t => (t.template, t.text, t.diagnostics)) =
      others.map fun t => (t.template, t.text, t.diagnostics))
    (htemplates : ∀ t ∈ templates, t.ok = false ↔ ∃ d ∈ t.diagnostics, d.severity = .error)
    (hothers : ∀ t ∈ others, t.ok = false ↔ ∃ d ∈ t.diagnostics, d.severity = .error) :
    templates = others := by
  induction templates generalizing others with
  | nil => exact (List.map_eq_nil_iff.1 hsame.symm).symm
  | cons t templates ih =>
    obtain ⟨u, others, rfl, hfirst, hrest⟩ := List.map_eq_cons_iff.1 hsame.symm
    obtain ⟨ht, hts⟩ := List.forall_mem_cons.1 htemplates
    obtain ⟨hu, hus⟩ := List.forall_mem_cons.1 hothers
    obtain ⟨name, text, ok, diagnostics⟩ := t
    obtain ⟨name', text', ok', diagnostics'⟩ := u
    simp only [Prod.mk.injEq] at hfirst
    obtain ⟨rfl, rfl, rfl⟩ := hfirst
    have hok : ok = ok' := by
      rw [← Bool.not_inj_iff, Bool.eq_iff_iff, Bool.not_eq_true', Bool.not_eq_true']
      exact ht.trans hu.symm
    rw [hok, ih hrest.symm hts hus]

/-- **Nothing else is told of some renderings** than what they are. -/
theorem Tells.unique {report other : Report} {renderings : List (Text × Rendering)}
    (h : report.Tells renderings) (hother : other.Tells renderings) : report = other := by
  have htemplates : report.templates = other.templates :=
    templates_unique (h.templates.trans hother.templates.symm) h.template_ok hother.template_ok
  have hok : report.ok = other.ok := by
    rw [Bool.eq_iff_iff, h.ok, hother.ok, htemplates]
  obtain ⟨ok, templates⟩ := report
  obtain ⟨ok', templates'⟩ := other
  exact congrArg₂ Report.mk hok htemplates

/-- **The text of a report on some renderings**: it is of the data format, and what it stands for tells of
each template by its name, in order. -/
structure IsText (layered : Bool) (renderings : List (Text × Rendering)) (output : Text) (data : Json)
    (report : Report) : Prop where
  layout : output = report.write layered
  spells : Json.Spells output data
  holds : ofJson? data = some report
  tells : report.Tells renderings

theorem isText_write (layered : Bool) (renderings : List (Text × Rendering)) :
    IsText layered renderings ((ofRenderings renderings).write layered)
      (ofRenderings renderings).toJson (ofRenderings renderings).told where
  layout := by rw [write, write, toJson_told]
  spells := Json.spells_write layered _
  holds := ofJson?_toJson _
  tells := tells_told_ofRenderings renderings

/-- There is one such text. -/
theorem IsText.eq_write {layered : Bool} {renderings : List (Text × Rendering)} {output : Text}
    {data : Json} {report : Report} (h : IsText layered renderings output data report) :
    output = (ofRenderings renderings).write layered := by
  have hreport : report = (ofRenderings renderings).told :=
    h.tells.unique (tells_told_ofRenderings renderings)
  rw [h.layout, hreport, write, write, toJson_told]

/-- **The text of a report is faithful.**  In both layouts the text of the report on some renderings is of
the grammar and stands for one value, from which a report is told that holds what the renderings are.  Two
reports have one text if and only if the layout is one and the same is told. -/
theorem write_faithful :
    (∀ renderings : List (Text × Rendering), ∃ (data : Json) (report : Report),
      (∀ (layered : Bool) (value : Json),
        Json.Spells ((ofRenderings renderings).write layered) value ↔ value = data) ∧
      (∀ layered : Bool, Json.read ((ofRenderings renderings).write layered) = some data) ∧
      ofJson? data = some report ∧ report.Tells renderings) ∧
    ∀ (r r' : Report) (layered layered' : Bool),
      r.write layered = r'.write layered' ↔ layered = layered' ∧ r.told = r'.told := by
  refine ⟨?_, fun _ _ _ _ => write_eq_iff⟩
  intro renderings
  refine ⟨(ofRenderings renderings).toJson, (ofRenderings renderings).told, ?_, ?_, ?_, ?_⟩
  · intro layered value
    constructor
    · intro h
      exact h.unique (Json.spells_write layered _)
    · rintro rfl
      exact Json.spells_write layered _
  · intro layered
    exact Json.read_write layered _
  · exact ofJson?_toJson _
  · exact tells_told_ofRenderings renderings

end Report

end Stencil
