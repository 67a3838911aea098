import Stencil.Proofs.Lexer.Seam
import Stencil.Proofs.Rendering.Pass

/-!
# `Stencil.Proofs.Rendering.Concat` — rendering two templates in a row

A template behind which no condition is left open can be followed by another one: what is rendered is
what both give by themselves, one after the other.  The argument is about the pass over the tokens.  A
pass that has come to the seam with nothing open goes on as if it had just started, but for what it has
shown and reported already (`Pass.followedBy`); and that literal text on both sides of the seam is one
token makes no difference to it (`Pass.foldl_textTokens`).

The reports are those of both templates too, but not in a row: all reports of a stage come before those
of the next.  So they are compared code by code.

## Contents
- **Passing the seam.** `Pass.followedBy`, `Pass.run_append` and `Pass.ofTemplate_append`.
- **Reports by code.** `Pass.reportsOf`, `Pass.filter_reports` and `Pass.reportsOf_followedBy`.
- **`renderTemplate_append`**.
-/

namespace Stencil

/-! ## Passing the seam -/

namespace Pass

/-- A pass over one text, and then one over another text behind it. -/
def followedBy (front : Text) (first second : Pass) : Pass where
  opened := second.opened.map (Token.behind front)
  text := first.text ++ second.text
  strays := first.strays ++ second.strays.map (Token.behind front)
  missing := first.missing ++ second.missing.map (Token.behind front)

section Seam

variable {env : Environment} {front back : Text}

/-- Literal text is shown piece by piece as it is shown at once. -/
theorem foldl_textTokens (p : Pass) (place : Place) (text : Text) :
    (textTokens place text).foldl (step env) p =
      if p.visible env then { p with text := p.text ++ text } else p := by
  rw [textTokens]
  by_cases hnil : text = []
  · rw [if_pos hnil, hnil, List.append_nil, ite_self]
    rfl
  · rw [if_neg hnil]
    rfl

/-- The conditions of the second text decide what is shown of it. -/
theorem visible_followedBy (first second : Pass) :
    (first.followedBy front second).visible env = second.visible env := by
  rw [visible, visible, followedBy, List.all_map]
  rfl

/-- One token of the second text. -/
theorem step_followedBy (first second : Pass) (t : Token) :
    (first.followedBy front second).step env (t.behind front) =
      first.followedBy front (second.step env t) := by
  have hkind : (t.behind front).kind = t.kind := rfl
  have hvalue : (t.behind front).value = t.value := rfl
  rw [step, step, visible_followedBy, hkind, hvalue]
  cases t.kind with
  | text =>
    cases second.visible env with
    | true => simp [followedBy]
    | false => rfl
  | «variable» =>
    cases second.visible env with
    | true => cases env.lookup t.value <;> simp [followedBy]
    | false => rfl
  | ifOpen => rfl
  | endif =>
    obtain ⟨opened, text, strays, missing⟩ := second
    cases opened with
    | nil => simp [followedBy]
    | cons outer rest => rfl

/-- All tokens of the second text. -/
theorem foldl_followedBy (first second : Pass) (tokens : List Token) :
    (tokens.map (Token.behind front)).foldl (step env) (first.followedBy front second) =
      first.followedBy front (tokens.foldl (step env) second) := by
  induction tokens generalizing second with
  | nil => rfl
  | cons t tokens ih => rw [List.map_cons, List.foldl_cons, step_followedBy, ih, List.foldl_cons]

/-- Nothing is open at the seam: it is as if nothing had been passed of the second text. -/
theorem followedBy_start {first : Pass} (h : first.opened = []) :
    first.followedBy front start = first := by
  obtain ⟨opened, text, strays, missing⟩ := first
  obtain rfl : opened = [] := h
  simp [followedBy, start]

/-- **A pass over two texts in a row** is one over the first and then one over the second, if nothing is
open at the seam. -/
theorem run_append (h : SeamFree front back) (hclosed : (run env (tokenize front).1).opened = []) :
    run env (tokenize (front ++ back)).1 =
      (run env (tokenize front).1).followedBy front (run env (tokenize back).1) := by
  obtain ⟨⟨before, p, s, q, t, after, hfront, hback, hwhole⟩, _⟩ := tokenize_append h
  -- literal text across the seam is passed as if it were two tokens
  have hseam : run env (tokenize (front ++ back)).1 =
      ((tokenize back).1.map (Token.behind front)).foldl (step env) (run env (tokenize front).1) := by
    rw [hwhole, hback, hfront, run, run]
    simp only [List.foldl_append, foldl_textTokens]
    cases hvisible : (before.foldl (step env) start).visible env with
    | true =>
      have hstill : Pass.visible env { before.foldl (step env) start with
          text := (before.foldl (step env) start).text ++ s } = true := hvisible
      simp only [if_true, hstill, List.append_assoc]
    | false => simp only [Bool.false_eq_true, if_false, hvisible]
  rw [hseam]
  conv_lhs => rw [← @followedBy_start front _ hclosed]
  exact foldl_followedBy _ _ _

end Seam

/-- What has shown nothing up to the seam and nothing behind it has shown nothing. -/
theorem unshown_followedBy (front : Text) (first second : Pass) :
    (first.followedBy front second).unshown = first.unshown.followedBy front second.unshown := rfl

/-- **The pass over two templates in a row**, for variables that can be written or not. -/
theorem ofTemplate_append {front back : Text} {locals globals : Bindings} (h : SeamFree front back)
    (hclosed : (ofTemplate front locals globals).opened = []) :
    ofTemplate (front ++ back) locals globals =
      (ofTemplate front locals globals).followedBy front (ofTemplate back locals globals) := by
  unfold ofTemplate at hclosed ⊢
  cases hcan : Environment.canMerge locals globals with
  | true =>
    rw [hcan, if_pos rfl] at hclosed
    exact run_append h hclosed
  | false =>
    rw [hcan, if_neg Bool.false_ne_true] at hclosed
    show (run _ _).unshown = (run _ _).unshown.followedBy front (run _ _).unshown
    rw [run_append h hclosed, unshown_followedBy]

/-! ## Reports by code -/

/-- What is reported with one code on a template after a pass over its tokens. -/
def reportsOf (template : Text) (p : Pass) : DiagnosticCode → List Diagnostic
  | .unknownMarker => (tokenize template).2
  | .unmatchedEndif => p.strays.map fun t => Diagnostic.unmatchedEndif t.place
  | .unterminatedBlock => p.opened.map fun t => Diagnostic.unterminatedBlock t.value t.place
  | .unboundVariable => p.missing.map fun t => Diagnostic.unboundVariable t.value
  | .unknownNode => []

/-- The reports of all codes, one code after the other. -/
theorem reports_eq (template : Text) (p : Pass) :
    p.reports template =
      p.reportsOf template .unknownMarker ++ p.reportsOf template .unmatchedEndif ++
        p.reportsOf template .unterminatedBlock ++ p.reportsOf template .unboundVariable := by
  rw [reports, textReports, nesting, ← reports_eq_dropped, ← List.append_assoc]
  rfl

theorem code_of_mem_reportsOf {template : Text} {p : Pass} {code : DiagnosticCode} {d : Diagnostic}
    (h : d ∈ p.reportsOf template code) : d.code = code := by
  cases code with
  | unknownMarker => exact code_of_mem_tokenize h
  | unmatchedEndif | unterminatedBlock | unboundVariable =>
    obtain ⟨t, _, rfl⟩ := List.mem_map.1 h
    rfl
  | unknownNode => exact absurd h List.not_mem_nil

/-- Among the reports of one code, those of a code are all or none. -/
theorem filter_reportsOf (template : Text) (p : Pass) (made wanted : DiagnosticCode) :
    (p.reportsOf template made).filter (fun d => d.code = wanted) =
      if made = wanted then p.reportsOf template made else [] := by
  split
  next hsame =>
    exact List.filter_eq_self.2 fun d hd => decide_eq_true ((code_of_mem_reportsOf hd).trans hsame)
  next hother =>
    refine List.filter_eq_nil_iff.2 fun d hd => ?_
    rw [code_of_mem_reportsOf hd, decide_eq_true_eq]
    exact hother

/-- The reports of a code are found among all reports, in their order. -/
theorem filter_reports (template : Text) (p : Pass) (code : DiagnosticCode) :
    (p.reports template).filter (fun d => d.code = code) = p.reportsOf template code := by
  rw [reports_eq]
  simp only [List.filter_append, filter_reportsOf]
  cases code <;> simp [reportsOf]

/-- A code that is not among all reports has no reports of its own. -/
theorem reportsOf_eq_nil {template : Text} {p : Pass} {code : DiagnosticCode}
    (h : ∀ d ∈ p.reports template, d.code ≠ code) : p.reportsOf template code = [] := by
  rw [← filter_reports, List.filter_eq_nil_iff]
  intro d hd hcode
  exact h d hd (of_decide_eq_true hcode)

/-- If no open condition is reported, none is left open. -/
theorem opened_eq_nil {template : Text} {p : Pass}
    (h : ∀ d ∈ p.reports template, d.code ≠ .unterminatedBlock) : p.opened = [] :=
  List.map_eq_nil_iff.1 (reportsOf_eq_nil h)

/-- **The reports of a code on two texts in a row** are those on the first and then those on the second,
further on, if nothing is open at the seam. -/
theorem reportsOf_followedBy {front back : Text} {first second : Pass} (h : SeamFree front back)
    (hclosed : first.opened = []) (code : DiagnosticCode) :
    (first.followedBy front second).reportsOf (front ++ back) code =
      first.reportsOf front code ++
        (second.reportsOf back code).map (Diagnostic.behind front) := by
  cases code with
  | unknownMarker => exact (tokenize_append h).2
  | unmatchedEndif =>
    simp only [reportsOf, followedBy, List.map_append, List.map_map]
    exact congrArg _ (List.map_congr_left fun t _ => (Diagnostic.behind_errorAt _ _ _ _).symm)
  | unterminatedBlock =>
    simp only [reportsOf, followedBy, hclosed, List.map_nil, List.nil_append, List.map_map]
    exact List.map_congr_left fun t _ => (Diagnostic.behind_errorAt _ _ _ _).symm
  | unboundVariable =>
    -- such a report has no place to move
    simp only [reportsOf, followedBy, List.map_append, List.map_map]
    rfl
  | unknownNode => rfl

end Pass

section ByCode

variable {text : Text} {whole front back : List Diagnostic}

/-- Reports that are the same code by code are the same but for their order. -/
theorem mem_iff_of_filter_code
    (h : ∀ code, whole.filter (fun d => d.code = code) =
      front.filter (fun d => d.code = code) ++
        (back.filter fun d => d.code = code).map (Diagnostic.behind text))
    (d : Diagnostic) : d ∈ whole ↔ d ∈ front ∨ d ∈ back.map (Diagnostic.behind text) := by
  -- moving a report does not change its code
  have hmoved : (back.filter fun e => e.code = d.code).map (Diagnostic.behind text) =
      (back.map (Diagnostic.behind text)).filter fun e => e.code = d.code := by
    rw [List.filter_map]
    rfl
  have hiff : d ∈ whole.filter (fun e => e.code = d.code) ↔
      d ∈ front.filter (fun e => e.code = d.code) ++
        (back.map (Diagnostic.behind text)).filter fun e => e.code = d.code := by
    rw [h, hmoved]
  simpa using hiff

/-- Whether there is an error can be told code by code. -/
theorem any_isError_of_filter_code
    (h : ∀ code, whole.filter (fun d => d.code = code) =
      front.filter (fun d => d.code = code) ++
        (back.filter fun d => d.code = code).map (Diagnostic.behind text)) :
    whole.any Diagnostic.isError = (front.any Diagnostic.isError || back.any Diagnostic.isError) := by
  have hmoved : (back.map (Diagnostic.behind text)).any Diagnostic.isError =
      back.any Diagnostic.isError := List.any_map
  rw [← hmoved, Bool.eq_iff_iff, Bool.or_eq_true]
  simp only [List.any_eq_true, mem_iff_of_filter_code h, or_and_right, exists_or]

end ByCode

/-! ## Two templates in a row -/

/-- **Rendering two templates in a row** gives the two renderings in a row, for all variables, if the first
template leaves no condition open and no marker lies across the seam.  The reports of each code are those
on the first and then those on the second, with their places moved behind the first template.  If the
variables can be written, the text is that of the first and then that of the second, and all is well if
all is well with both; if they cannot, none of the three is rendered.  The first may close what is not
open, and the second may leave conditions open. -/
theorem renderTemplate_append (front back : Text) (locals globals : Bindings)
    (hclosed : ∀ d ∈ (renderTemplate false front locals globals).2, d.code ≠ .unterminatedBlock)
    (hseam : ∀ span ∈ markerSpans (front ++ back),
      span.stop ≤ front.length ∨ front.length ≤ span.start) :
    let first := renderTemplate false front locals globals
    let second := renderTemplate false back locals globals
    let whole := renderTemplate false (front ++ back) locals globals
    (∀ code, whole.2.filter (fun d => d.code = code) =
        first.2.filter (fun d => d.code = code) ++
          (second.2.filter fun d => d.code = code).map (Diagnostic.behind front)) ∧
      (Environment.canMerge locals globals = true → ∃ r s t,
        first.1 = .ok r ∧ second.1 = .ok s ∧ whole.1 = .ok t ∧
          r.diagnostics = first.2 ∧ s.diagnostics = second.2 ∧ t.diagnostics = whole.2 ∧
          t.text = r.text ++ s.text ∧ t.ok = (r.ok && s.ok)) ∧
      (Environment.canMerge locals globals = false →
        first.1 = .error .notWritable ∧ second.1 = .error .notWritable ∧
          whole.1 = .error .notWritable) := by
  have hfree : SeamFree front back := seamFree_iff.2 hseam
  rw [renderTemplate_eq_ofTemplate front] at hclosed
  have hopened := Pass.opened_eq_nil hclosed
  rw [renderTemplate_eq_ofTemplate front, renderTemplate_eq_ofTemplate back,
    renderTemplate_eq_ofTemplate (front ++ back), Pass.ofTemplate_append hfree hopened]
  intro first second whole
  have hcode (code : DiagnosticCode) : whole.2.filter (fun d => d.code = code) =
      first.2.filter (fun d => d.code = code) ++
        (second.2.filter fun d => d.code = code).map (Diagnostic.behind front) := by
    show (Pass.reports _ _).filter _ = (Pass.reports _ _).filter _ ++ ((Pass.reports _ _).filter _).map _
    simp only [Pass.filter_reports]
    exact Pass.reportsOf_followedBy hfree hopened code
  refine ⟨hcode, ?_, ?_⟩
  · intro hcan
    -- whether all is well does not depend on the order of the reports
    have hok := any_isError_of_filter_code hcode
    refine ⟨_, _, _, if_pos hcan, if_pos hcan, if_pos hcan, rfl, rfl, rfl, rfl, ?_⟩
    simp only [Rendering.ok, ← Bool.not_or]
    exact congrArg _ hok
  · intro hcan
    have hrefused : Environment.canMerge locals globals ≠ true := Bool.eq_false_iff.1 hcan
    exact ⟨if_neg hrefused, if_neg hrefused, if_neg hrefused⟩

/-- Loose braces meet at the seam.  The first template closes a condition that it has not opened, and the
second leaves one open in which a variable has no value. -/
theorem renderTemplate_append_loose :
    let front := braced (Text.of "endif") ++ Text.of "\n\x7b\x7b "
    let back := Text.of "\x7b\x7d\x7d" ++ braced (Text.of "if n") ++ braced ['m']
    let globals : Bindings := Mapping.ofList [(.scalar (.text ['n']), .scalar .null)]
    let first := renderTemplate false front {} globals
    let second := renderTemplate false back {} globals
    let whole := renderTemplate false (front ++ back) {} globals
    (∀ d ∈ first.2, d.code ≠ .unterminatedBlock) ∧
      (∀ span ∈ markerSpans (front ++ back),
        span.stop ≤ front.length ∨ front.length ≤ span.start) ∧
      (∀ code, whole.2.filter (fun d => d.code = code) =
        first.2.filter (fun d => d.code = code) ++
          (second.2.filter fun d => d.code = code).map (Diagnostic.behind front)) ∧
      ∃ r s t, first.1 = .ok r ∧ second.1 = .ok s ∧ whole.1 = .ok t ∧
        r.diagnostics = first.2 ∧ s.diagnostics = second.2 ∧ t.diagnostics = whole.2 ∧
        t.text = r.text ++ s.text ∧ t.ok = (r.ok && s.ok) := by
  intro front back globals first second whole
  have hclosed : ∀ d ∈ first.2, d.code ≠ .unterminatedBlock := by decide +kernel
  have hseam : ∀ span ∈ markerSpans (front ++ back),
      span.stop ≤ front.length ∨ front.length ≤ span.start := by decide +kernel
  obtain ⟨hcode, hwritten, _⟩ := renderTemplate_append front back {} globals hclosed hseam
  exact ⟨hclosed, hseam, hcode, hwritten (by decide +kernel)⟩

end Stencil
