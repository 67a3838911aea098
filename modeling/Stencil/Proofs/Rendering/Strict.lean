import Stencil.Proofs.Parse.Strict
import Stencil.Proofs.Rendering.Pass

/-!
# `Stencil.Proofs.Rendering.Strict` — strict rendering differs by stopping only

Reports are made in three stages: on the markers, on the nesting of conditions, and on the names that
are shown.  Only those of the second stage stop a strict rendering.  So it has reported the same as a
rendering that goes on, up to the first report on the nesting, and nothing of the third stage.

## Contents
- **The stages.** Neither a lexer nor an evaluation says anything of the nesting.
- **`parseTemplate_stopsAtFirst`** and **`renderTemplate_stopsAtFirst`**.
- **`strict_stops_at_first_report`**.
-/

namespace Stencil

/-! ## The stages -/

theorem isStructural_of_mem_tokenize {text : Text} {d : Diagnostic} (h : d ∈ (tokenize text).2) :
    d.isStructural = false := by
  rw [Diagnostic.isStructural, code_of_mem_tokenize h]
  rfl

/-- A variable is reported for its value only. -/
theorem isStructural_of_mem_evaluateVariable {env : Environment} {name : Text} {d : Diagnostic}
    (h : d ∈ (env.evaluateVariable name).reported) : d.isStructural = false := by
  rw [Environment.evaluateVariable] at h
  split at h
  · exact absurd h List.not_mem_nil
  · rw [List.mem_singleton.1 h]
    rfl

/-- **An evaluation says nothing of the nesting**, whatever is on the stack. -/
theorem isStructural_of_mem_evaluateFrom {env : Environment} {stack : List (List Node)}
    {d : Diagnostic} (h : d ∈ (Node.evaluateFrom env stack).reported) : d.isStructural = false := by
  fun_induction Node.evaluateFrom env stack with
  | case1 => exact absurd h List.not_mem_nil
  | case2 stack ih => exact ih h
  | case3 text nodes stack ih => exact ih h
  | case4 name nodes stack ih =>
    rcases List.mem_append.1 h with h | h
    · exact isStructural_of_mem_evaluateVariable h
    · exact ih h
  | case5 statements nodes stack ih => exact ih h
  | case6 condition body nodes stack hshown ih => exact ih h
  | case7 condition body nodes stack hhidden ih => exact ih h
  | case8 label nodes stack ih =>
    rcases List.mem_append.1 h with h | h
    · rw [List.mem_singleton.1 h]
      rfl
    · exact ih h

/-! ## Templates -/

/-- A strict reading of a template stops at the first report on the nesting. -/
theorem parseTemplate_stopsAtFirst (template : Text) :
    StopsAtFirst id (parseTemplate false template) (parseTemplate true template) := by
  rw [parseTemplate_eq, parseTemplate_eq]
  exact (read_stopsAtFirst .start (tokenize template).1).prepend
    fun d hd => isStructural_of_mem_tokenize hd

/-- What is rendered is not stopped, whether its variables can be written or not. -/
theorem renderParsed_ok_ne (tree : Node) (reported : List Diagnostic) (locals globals : Bindings) :
    ∀ d, (renderParsed (.ok tree, reported) locals globals).1 ≠ .error (.unbalanced d) := by
  intro d h
  unfold renderParsed at h
  dsimp only at h
  split at h <;> cases h

/-- Rendering adds no report on the nesting, behind those of the parsing. -/
theorem exists_reports_renderParsed (tree : Node) (reported : List Diagnostic)
    (locals globals : Bindings) :
    ∃ more, (renderParsed (.ok tree, reported) locals globals).2 = reported ++ more ∧
      ∀ d ∈ more, d.isStructural = false := by
  unfold renderParsed
  cases Environment.canMerge locals globals with
  | true => exact ⟨_, rfl, fun d hd => isStructural_of_mem_evaluateFrom hd⟩
  | false => exact ⟨[], (List.append_nil _).symm, fun d hd => absurd hd List.not_mem_nil⟩

/-- What is stopped is not evaluated, and what is evaluated is not stopped any more. -/
theorem StopsAtFirst.renderParsed {lenient strict : Except Diagnostic Node × List Diagnostic}
    (h : StopsAtFirst id lenient strict) (locals globals : Bindings) :
    StopsAtFirst .unbalanced (renderParsed lenient locals globals)
      (renderParsed strict locals globals) := by
  obtain ⟨outcome, reports⟩ := lenient
  cases outcome with
  | error d => exact absurd rfl (h.goes d)
  | ok tree =>
    obtain ⟨more, hreports, hmore⟩ := exists_reports_renderParsed tree reports locals globals
    have hgoes := renderParsed_ok_ne tree reports locals globals
    have hlenient : Stencil.renderParsed (.ok tree, reports) locals globals =
        ((Stencil.renderParsed (.ok tree, reports) locals globals).1, reports ++ more) :=
      Prod.ext rfl hreports
    rw [hlenient]
    cases h with
    | same _ hnone =>
      rw [hlenient]
      exact .same hgoes (List.forall_mem_append.2 ⟨hnone, hmore⟩)
    | stopped _ hbefore hd =>
      rw [List.append_assoc, List.cons_append]
      exact .stopped hgoes hbefore hd

/-- **A strict rendering stops at the first report on the nesting.** -/
theorem renderTemplate_stopsAtFirst (template : Text) (locals globals : Bindings) :
    StopsAtFirst .unbalanced (renderTemplate false template locals globals)
      (renderTemplate true template locals globals) :=
  (parseTemplate_stopsAtFirst template).renderParsed locals globals

/-- What a strict reading reports is about a marker or about the nesting. -/
theorem code_or_isStructural_of_mem_parseTemplate {template : Text} {d : Diagnostic}
    (h : d ∈ (parseTemplate true template).2) :
    d.code = .unknownMarker ∨ d.isStructural = true := by
  rw [parseTemplate_eq] at h
  rcases List.mem_append.1 h with h | h
  · exact .inl (code_of_mem_tokenize h)
  · exact .inr (isStructural_of_mem_read h)

/-- What a stopped rendering reports was reported by the parsing. -/
theorem reports_of_unbalanced {parsed : Except Diagnostic Node × List Diagnostic}
    {locals globals : Bindings} {d : Diagnostic}
    (h : (renderParsed parsed locals globals).1 = .error (.unbalanced d)) :
    (renderParsed parsed locals globals).2 = parsed.2 := by
  obtain ⟨outcome, reported⟩ := parsed
  cases outcome with
  | error report => rfl
  | ok tree => exact absurd h (renderParsed_ok_ne tree reported locals globals d)

/-- **What has been reported when a strict rendering is stopped**: markers of no known form, and last of
all what it is stopped by; and a rendering that goes on has reported the same until then. -/
theorem reports_of_stopped {template : Text} {locals globals : Bindings} {d : Diagnostic}
    (h : (renderTemplate true template locals globals).1 = .error (.unbalanced d)) :
    ∃ unknown after, (∀ e ∈ unknown, e.code = .unknownMarker) ∧
      (renderTemplate false template locals globals).2 = unknown ++ d :: after ∧
      (renderTemplate true template locals globals).2 = unknown ++ [d] := by
  have hparsed : (renderTemplate true template locals globals).2 = (parseTemplate true template).2 :=
    reports_of_unbalanced h
  have hstops := renderTemplate_stopsAtFirst template locals globals
  generalize renderTemplate true template locals globals = strict at h hparsed hstops ⊢
  generalize renderTemplate false template locals globals = lenient at hstops ⊢
  cases hstops with
  | same hgoes => exact absurd h (hgoes d)
  | @stopped outcome before after e hgoes hbefore he =>
    obtain rfl : e = d := RenderFault.unbalanced.inj (Except.error.inj h)
    refine ⟨before, after, fun b hb => ?_, rfl, rfl⟩
    have hb' : b ∈ (parseTemplate true template).2 := hparsed ▸ List.mem_append_left _ hb
    rcases code_or_isStructural_of_mem_parseTemplate hb' with hcode | hstructural
    · exact hcode
    · rw [hbefore b hb] at hstructural
      exact absurd hstructural Bool.false_ne_true

/-! ## Strict and lenient -/

/-- **A strict rendering differs from one that goes on by stopping only**, for all templates and variables.
It is stopped exactly if the nesting of conditions is reported on, and by the first such report: until
then it has reported, and told the log, the same as the other, which are markers of no known form.  If
there is no such report, both come to the same: a rendering with all that was reported, or a refusal
where a variable cannot be written.  The same holds of readings of any tokens; and a parser that reads
its tokens so many times, stopped or not, has the same outcome each time and adds the same reports
again. -/
theorem strict_stops_at_first_report :
    (∀ (template : Text) (locals globals : Bindings),
      let lenient := renderTemplate false template locals globals
      let strict := renderTemplate true template locals globals
      ((∃ d, strict.1 = .error (.unbalanced d)) ↔
          ∃ d ∈ lenient.2, d.code = .unmatchedEndif ∨ d.code = .unterminatedBlock) ∧
        StopsAtFirst .unbalanced lenient strict ∧
        (∃ rendering, rendering.diagnostics = lenient.2 ∧ lenient.1 =
          if Environment.canMerge locals globals then .ok rendering else .error .notWritable) ∧
        ∀ d, strict.1 = .error (.unbalanced d) → ∃ unknown after,
          (∀ e ∈ unknown, e.code = .unknownMarker) ∧ lenient.2 = unknown ++ d :: after ∧
            strict.2 = unknown ++ [d] ∧
            strict.2.map Diagnostic.logRecord =
              (lenient.2.map Diagnostic.logRecord).take (unknown.length + 1)) ∧
    (∀ tokens : List Token,
      (∃ tree, (parseTokens false tokens).outcome = .ok tree) ∧
        StopsAtFirst id (parseTokens false tokens).result (parseTokens true tokens).result) ∧
    ∀ (p : Parser) (n : Nat),
      (p.parseTimes n).1 = List.replicate n (parseTokens p.strict p.tokens).outcome ∧
        (p.parseTimes n).2.diagnostics =
          p.diagnostics ++ (List.replicate n (parseTokens p.strict p.tokens).reported).flatten := by
  refine ⟨?_, ?_, fun p n => p.parseTimes_eq n⟩
  · intro template locals globals lenient strict
    have hstops : StopsAtFirst .unbalanced lenient strict :=
      renderTemplate_stopsAtFirst template locals globals
    refine ⟨?_, hstops, ?_, ?_⟩
    · simp only [hstops.error_iff, Diagnostic.isStructural_iff]
    · have htemplate : lenient = _ := renderTemplate_eq_ofTemplate template locals globals
      exact ⟨_, congrArg Prod.snd htemplate.symm, congrArg Prod.fst htemplate⟩
    · intro d hd
      obtain ⟨unknown, after, hcodes, hlenient, hstrict⟩ := reports_of_stopped hd
      refine ⟨unknown, after, hcodes, hlenient, hstrict, ?_⟩
      have hsplit : lenient.2 = strict.2 ++ after := by rw [hlenient, hstrict]; simp
      rw [hsplit, List.map_append, List.take_left' (by rw [hstrict]; simp)]
  · intro tokens
    have hstops := read_stopsAtFirst .start tokens
    refine ⟨?_, hstops⟩
    cases houtcome : (parseTokens false tokens).outcome with
    | ok tree => exact ⟨tree, rfl⟩
    | error d => exact absurd houtcome (hstops.goes d)

/-- Of two open conditions it is the inner one that stops a strict rendering. -/
example : renderTemplate true (braced (Text.of "if a") ++ braced (Text.of "if b")) {} {} =
    (.error (.unbalanced (Diagnostic.unterminatedBlock ['b'] ⟨8, 1, 9⟩)),
      [Diagnostic.unterminatedBlock ['b'] ⟨8, 1, 9⟩]) := by cbv

end Stencil
