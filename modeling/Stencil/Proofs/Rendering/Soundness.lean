import Mathlib.Data.List.Induction
import Stencil.Proofs.Rendering.Concat
import Stencil.Proofs.Variables

/-!
# `Stencil.Proofs.Rendering.Soundness` — whether a template is sound is told by its text

What is reported as an error is reported on the text: a marker of no known form, a condition that is
closed but not open, a condition that is not closed.  Variables are only warned about.  So the variables
decide which blocks are shown, and never whether a template is sound.

The errors on the nesting are those of a pass over the tokens.  A pass counts: what it has opened and
not closed, and what it has closed without having opened, make up the difference between the two kinds of
token (`Pass.length_opened`).  So there is no such error exactly if the tokens are balanced.

## Contents
- **Counting.** `openings`, `closings` and `Balanced`; `Pass.balanced_iff`.
- **Errors.** `WellFormed`, and `exists_rendering_ok_iff`.
- **Binding all names.** `variablesOf`, under which no variable is missing (`Pass.missing_variablesOf`).
- **`ok_iff_wellFormed`**.
-/

namespace Stencil

/-! ## Counting -/

/-- The number of tokens that open a condition. -/
def openings (tokens : List Token) : Nat :=
  tokens.countP fun t => t.kind = .ifOpen

/-- The number of tokens that close a condition. -/
def closings (tokens : List Token) : Nat :=
  tokens.countP fun t => t.kind = .endif

/-- **The conditions of some tokens are balanced**: no beginning of them closes more than it opens, and
all in all as many are closed as are opened. -/
structure Balanced (tokens : List Token) : Prop where
  beginning : ∀ before, before <+: tokens → closings before ≤ openings before
  whole : closings tokens = openings tokens

theorem openings_concat (tokens : List Token) (t : Token) :
    openings (tokens ++ [t]) = openings tokens + if t.kind = .ifOpen then 1 else 0 := by
  simp [openings, List.countP_append, List.countP_cons]

theorem closings_concat (tokens : List Token) (t : Token) :
    closings (tokens ++ [t]) = closings tokens + if t.kind = .endif then 1 else 0 := by
  simp [closings, List.countP_append, List.countP_cons]

namespace Pass

variable {env : Environment} {tokens : List Token}

/-- **A pass counts.**  The conditions that are open are those that were opened without those that were
closed, but for the closing tokens that closed nothing. -/
theorem length_opened (env : Environment) (tokens : List Token) :
    (run env tokens).opened.length + closings tokens =
      openings tokens + (run env tokens).strays.length := by
  induction tokens using List.reverseRecOn with
  | nil => rfl
  | append_singleton tokens t ih =>
    rw [run_concat, openings_concat, closings_concat]
    cases hkind : t.kind with
    | text =>
      obtain ⟨hopened, hstrays, _, _⟩ := @step_text env (run env tokens) t hkind
      rw [hopened, hstrays]
      simpa using ih
    | «variable» =>
      obtain ⟨hopened, hstrays, _, _⟩ := @step_variable env (run env tokens) t hkind
      rw [hopened, hstrays]
      simpa using ih
    | ifOpen =>
      simp only [step, hkind, List.length_cons, reduceCtorEq, if_true, if_false]
      omega
    | endif =>
      simp only [step, hkind, reduceCtorEq, if_true, if_false]
      cases hopened : (run env tokens).opened with
      | nil =>
        rw [hopened] at ih
        simp only [List.length_nil, List.length_append, List.length_singleton] at ih ⊢
        omega
      | cons block outer =>
        rw [hopened, List.length_cons] at ih
        show outer.length + _ = _ + (run env tokens).strays.length
        omega

/-- A closing token closes nothing exactly if there are too many up to it. -/
theorem strays_eq_nil_iff (env : Environment) (tokens : List Token) :
    (run env tokens).strays = [] ↔
      ∀ before, before <+: tokens → closings before ≤ openings before := by
  induction tokens using List.reverseRecOn with
  | nil =>
    refine iff_of_true rfl fun before hbefore => ?_
    rw [List.prefix_nil.1 hbefore]
    exact Nat.le_refl _
  | append_singleton tokens t ih =>
    have hbeginnings : (∀ before, before <+: tokens ++ [t] → closings before ≤ openings before) ↔
        (∀ before, before <+: tokens → closings before ≤ openings before) ∧
          closings (tokens ++ [t]) ≤ openings (tokens ++ [t]) := by
      simp only [List.prefix_concat_iff, or_imp, forall_and, forall_eq]
      exact and_comm
    have hcount := length_opened env tokens
    rw [hbeginnings, ← ih, run_concat, openings_concat, closings_concat]
    cases hkind : t.kind with
    | text =>
      obtain ⟨_, hstrays, _, _⟩ := @step_text env (run env tokens) t hkind
      rw [hstrays]
      refine ⟨fun h => ⟨h, ?_⟩, And.left⟩
      simpa using ih.1 h tokens List.prefix_rfl
    | «variable» =>
      obtain ⟨_, hstrays, _, _⟩ := @step_variable env (run env tokens) t hkind
      rw [hstrays]
      refine ⟨fun h => ⟨h, ?_⟩, And.left⟩
      simpa using ih.1 h tokens List.prefix_rfl
    | ifOpen =>
      simp only [step, hkind, reduceCtorEq, if_true, if_false]
      refine ⟨fun h => ⟨h, ?_⟩, And.left⟩
      have htokens := ih.1 h tokens List.prefix_rfl
      omega
    | endif =>
      simp only [step, hkind, reduceCtorEq, if_true, if_false]
      cases hopened : (run env tokens).opened with
      | nil =>
        -- one more is closed than was opened
        rw [hopened, List.length_nil] at hcount
        refine iff_of_false (List.append_ne_nil_of_right_ne_nil _ (List.cons_ne_nil _ _)) ?_
        rintro ⟨hstrays, hle⟩
        rw [hstrays, List.length_nil] at hcount
        omega
      | cons block outer =>
        rw [hopened, List.length_cons] at hcount
        show (run env tokens).strays = [] ↔ _
        refine ⟨fun h => ⟨h, ?_⟩, And.left⟩
        rw [h, List.length_nil] at hcount
        omega

/-- **A pass has nothing to report on the nesting** exactly if the tokens are balanced. -/
theorem balanced_iff (env : Environment) (tokens : List Token) :
    (run env tokens).strays = [] ∧ (run env tokens).opened = [] ↔ Balanced tokens := by
  have hcount := length_opened env tokens
  constructor
  · rintro ⟨hstrays, hopened⟩
    refine ⟨(strays_eq_nil_iff env tokens).1 hstrays, ?_⟩
    rw [hstrays, hopened] at hcount
    simpa using hcount
  · rintro ⟨hbeginning, hwhole⟩
    have hstrays : (run env tokens).strays = [] := (strays_eq_nil_iff env tokens).2 hbeginning
    refine ⟨hstrays, List.length_eq_zero_iff.1 ?_⟩
    rw [hstrays, hwhole] at hcount
    simpa using hcount

end Pass

/-! ## Errors -/

/-- **A template is well formed**: each of its markers opens a condition, closes one or names a variable,
and its conditions are balanced. -/
structure WellFormed (template : Text) : Prop where
  known : ∀ span ∈ markerSpans template, ∃ kind value,
    classifyMarker (span.slice template) = some (kind, value) ∧
      (kind = .ifOpen ∨ kind = .endif ∨ kind = .variable)
  balanced : Balanced (tokenize template).1

/-- A marker of a known form is no literal text. -/
theorem kind_of_classifyMarker {marker value : Text} {kind : TokenKind}
    (h : classifyMarker marker = some (kind, value)) :
    kind = .ifOpen ∨ kind = .endif ∨ kind = .variable := by
  unfold classifyMarker at h
  obtain ⟨⟨form, pattern⟩, hform, hmatch⟩ := List.exists_of_findSome?_eq_some h
  obtain ⟨_, _, hpair⟩ := Option.map_eq_some_iff.1 hmatch
  obtain ⟨rfl, _⟩ := Prod.mk.inj hpair
  have hkinds : form ∈ [TokenKind.ifOpen, .endif, .variable] := List.mem_map_of_mem (f := Prod.fst) hform
  simpa using hkinds

/-- A lexer has nothing to report exactly if all markers are of a known form. -/
theorem tokenize_snd_eq_nil_iff (template : Text) :
    (tokenize template).2 = [] ↔
      ∀ span ∈ markerSpans template, ∃ kind value,
        classifyMarker (span.slice template) = some (kind, value) ∧
          (kind = .ifOpen ∨ kind = .endif ∨ kind = .variable) := by
  rw [reports_eq_dropped, List.map_eq_nil_iff, droppedSpans, List.filter_eq_nil_iff]
  refine forall₂_congr fun span _ => ?_
  cases hmarker : classifyMarker (span.slice template) with
  | none => simp
  | some form =>
    obtain ⟨kind, value⟩ := form
    have hkind := kind_of_classifyMarker hmarker
    simpa using hkind

namespace Pass

/-- The errors of a pass, one kind after the other; the rest are warnings. -/
theorem any_isError_reports (template : Text) (p : Pass) :
    (p.reports template).any Diagnostic.isError = false ↔
      (tokenize template).2 = [] ∧ p.strays = [] ∧ p.opened = [] := by
  have hmarkers : (tokenize template).2.any Diagnostic.isError = false ↔ (tokenize template).2 = [] := by
    rw [reports_eq_dropped, List.any_map, List.map_eq_nil_iff]
    cases droppedSpans template <;> simp [Diagnostic.isError, Diagnostic.unknownMarker, Diagnostic.errorAt]
  have hstrays : (p.strays.map fun t => Diagnostic.unmatchedEndif t.place).any Diagnostic.isError = false ↔
      p.strays = [] := by
    cases p.strays <;> simp [Diagnostic.isError, Diagnostic.unmatchedEndif, Diagnostic.errorAt]
  have hopened : (p.opened.map fun t => Diagnostic.unterminatedBlock t.value t.place).any
      Diagnostic.isError = false ↔ p.opened = [] := by
    cases p.opened <;> simp [Diagnostic.isError, Diagnostic.unterminatedBlock, Diagnostic.errorAt]
  have hmissing : (p.missing.map fun t => Diagnostic.unboundVariable t.value).any Diagnostic.isError =
      false := by
    simp [Diagnostic.isError, Diagnostic.unboundVariable]
  unfold reports textReports nesting shown
  rw [← reports_eq_dropped]
  simp only [List.any_append, Bool.or_eq_false_iff, hmarkers, hstrays, hopened, hmissing, and_true]

end Pass

/-- **What is rendered is sound exactly if the template is well formed**, whatever the variables are. -/
theorem exists_rendering_ok_iff {template : Text} {locals globals : Bindings}
    (hcan : Environment.canMerge locals globals = true) :
    ∃ rendering, (renderTemplate false template locals globals).1 = .ok rendering ∧
      (rendering.ok = true ↔ WellFormed template) := by
  rw [renderTemplate_eq_ofTemplate template]
  refine ⟨_, if_pos hcan, ?_⟩
  unfold Rendering.ok Pass.ofTemplate
  rw [if_pos hcan, Bool.not_eq_true', Pass.any_isError_reports, tokenize_snd_eq_nil_iff,
    Pass.balanced_iff]
  exact ⟨fun h => ⟨h.1, h.2⟩, fun h => ⟨h.known, h.balanced⟩⟩

/-! ## Binding all names -/

/-- **A variable that is missing** is one of the template's, and has no value. -/
theorem Pass.unbound_of_missing (env : Environment) (tokens : List Token) :
    ∀ t ∈ (run env tokens).missing, t ∈ tokens ∧ t.kind = .variable ∧ env.lookup t.value = none := by
  induction tokens using List.reverseRecOn with
  | nil =>
    intro t ht
    cases ht
  | append_singleton tokens last ih =>
    intro t ht
    have hbefore : t ∈ (run env tokens).missing →
        t ∈ tokens ++ [last] ∧ t.kind = .variable ∧ env.lookup t.value = none := fun h =>
      (ih t h).imp_left (List.mem_append_left _)
    rw [run_concat, step] at ht
    split at ht
    next => split at ht <;> exact hbefore ht
    next hkind =>
      split at ht
      next =>
        split at ht
        next => exact hbefore ht
        next hnone =>
          rcases List.mem_append.1 ht with ht | ht
          · exact hbefore ht
          · obtain rfl := List.mem_singleton.1 ht
            exact ⟨List.mem_append_right _ ht, hkind, hnone⟩
      next => exact hbefore ht
    next => exact hbefore ht
    next => split at ht <;> exact hbefore ht

/-- The variables of a template, each with the empty text. -/
def variablesOf (template : Text) : Variables :=
  Mapping.ofList (((tokenize template).1.filter fun t => t.kind = .variable).map fun t =>
    (t.value, .scalar (.text [])))

/-- The environment of the variables of a template can be made. -/
theorem canMerge_variablesOf (template : Text) :
    Environment.canMerge (Variables.toBindings (variablesOf template))
      (Variables.toBindings {}) = true := by
  refine Environment.canMerge_of_writable ?_ fun entry hentry => by cases hentry
  intro entry hentry
  rcases Mapping.exists_of_mem_insertAll hentry with ⟨given, hgiven, hvalue⟩ | ⟨_, hnone, _⟩
  · obtain ⟨t, _, rfl⟩ := List.mem_map.1 hgiven
    rw [← hvalue]
    rfl
  · cases hnone

/-- Each variable of a template has a value among them. -/
theorem lookup_variablesOf {template : Text} {t : Token} (ht : t ∈ (tokenize template).1)
    (hkind : t.kind = .variable) :
    (Environment.merge (Variables.toBindings (variablesOf template))
      (Variables.toBindings {})).lookup t.value = some [] := by
  have hfound : (variablesOf template).find? t.value = some (.scalar (.text [])) := by
    refine Mapping.find?_insertAll (sharp_of_lawful t.value) (.inl ?_) ?_
    · refine List.mem_map.2 ⟨t, List.mem_filter.2 ⟨ht, ?_⟩, rfl⟩
      exact decide_eq_true hkind
    · intro entry hentry _
      obtain ⟨_, _, rfl⟩ := List.mem_map.1 hentry
      rfl
  have hvariables : (variablesOf template).Distinct := Mapping.distinct_ofList _
  have hnone : ({} : Variables).Distinct := Mapping.distinct_empty
  unfold Environment.lookup
  rw [Environment.find?_names_merge hvariables hnone, hfound]
  rfl

/-- With the variables of a template bound, a pass over its tokens misses none. -/
theorem Pass.missing_variablesOf (template : Text) :
    (run (Environment.merge (Variables.toBindings (variablesOf template)) (Variables.toBindings {}))
      (tokenize template).1).missing = [] := by
  rw [List.eq_nil_iff_forall_not_mem]
  intro t ht
  obtain ⟨hmem, hkind, hnone⟩ := unbound_of_missing _ _ t ht
  rw [lookup_variablesOf hmem hkind] at hnone
  cases hnone

/-- Under its own variables a well-formed template is rendered without a report. -/
theorem exists_clean_of_wellFormed {template : Text} (h : WellFormed template) :
    ∃ rendering, (renderTemplate false template (Variables.toBindings (variablesOf template))
        (Variables.toBindings {})).1 = .ok rendering ∧ rendering.clean = true := by
  have hcan := canMerge_variablesOf template
  rw [renderTemplate_eq_ofTemplate template]
  refine ⟨_, if_pos hcan, ?_⟩
  obtain ⟨hstrays, hopened⟩ := (Pass.balanced_iff _ _).2 h.balanced
  have hmarkers : (tokenize template).2 = [] := (tokenize_snd_eq_nil_iff template).2 h.known
  unfold Rendering.clean Pass.ofTemplate
  rw [if_pos hcan, Pass.reports, Pass.textReports, ← reports_eq_dropped, hmarkers, Pass.nesting,
    hstrays, hopened, Pass.shown, Pass.missing_variablesOf]
  rfl

/-! ## Soundness -/

/-- **Whether a template is sound is told by its text alone.**  It is the same for all variables under which
the template is rendered, and these are all that can be written; it is so exactly if each marker opens or
closes a condition or names a variable, and the conditions are balanced; and exactly if there are
variables under which nothing at all is reported. -/
theorem ok_iff_wellFormed (template : Text) :
    ∃ sound : Bool,
      (∀ locals globals, (renderTemplate false template locals globals).1.map Rendering.ok =
        if Environment.canMerge locals globals then .ok sound else .error .notWritable) ∧
      (sound = true ↔ WellFormed template) ∧
      (sound = true ↔ ∃ locals globals rendering,
        (renderTemplate false template locals globals).1 = .ok rendering ∧
          rendering.clean = true) := by
  -- it is told without any variables, and then found to be the same for all
  obtain ⟨bare, -, hsound⟩ :=
    @exists_rendering_ok_iff template {} {} (by decide +kernel)
  have hall (locals globals : Bindings) :
      (renderTemplate false template locals globals).1.map Rendering.ok =
        if Environment.canMerge locals globals then .ok bare.ok else .error .notWritable := by
    cases hcan : Environment.canMerge locals globals with
    | true =>
      obtain ⟨rendering, hrendering, hok⟩ := @exists_rendering_ok_iff template _ _ hcan
      have hsame : rendering.ok = bare.ok := Bool.eq_iff_iff.2 (hok.trans hsound.symm)
      rw [hrendering, if_pos rfl, ← hsame]
      rfl
    | false =>
      rw [renderTemplate_eq_ofTemplate, hcan]
      rfl
  refine ⟨bare.ok, hall, hsound, ?_, ?_⟩
  · intro hok
    obtain ⟨rendering, hrendering, hclean⟩ := exists_clean_of_wellFormed (hsound.1 hok)
    exact ⟨_, _, rendering, hrendering, hclean⟩
  · rintro ⟨locals, globals, rendering, hrendering, hclean⟩
    have hmap := hall locals globals
    rw [hrendering] at hmap
    split at hmap
    next =>
      rw [← Except.ok.inj hmap]
      exact Rendering.ok_of_clean hclean
    next => cases hmap

end Stencil
