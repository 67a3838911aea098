import Mathlib.Data.List.Induction
import Stencil.Proofs.Lexer.Symbols
import Stencil.Proofs.Node.Source
import Stencil.Proofs.Rendering.Concat

/-!
# `Stencil.Proofs.Rendering.Guard` — a template inside a condition

A template is put between a marker that opens a condition and the one that closes it.  Whatever the
template begins or ends with, even loose braces, the two markers are found where they were put: markers
do not overlap, so none can be made of one of them and its neighbourhood (`segmentsAt_cut`).

The tokens in between are those of the template, further on.  A pass over them is the pass over the
template with one more condition open below all others (`Pass.guarded`), as long as none of them closes
what the template has not opened; and the last token closes just that condition.

## Contents
- **A marker between two texts.** `segmentsAt_cut` and `tokenize_cut`; `tokenize_marker_append` and
  `tokenize_append_marker`, for a marker at the beginning or at the end.
- **The guard.** `openingMarker`, `closingMarker`, `guarded`, and `tokenize_guarded`.
- **Passing a guarded template.** `Pass.guarded`, `Pass.step_guarded`, `Pass.run_guarded` and
  `Pass.ofTemplate_guarded`.
- **`renderTemplate_guarded`**.
-/

namespace Stencil

/-! ## A marker between two texts -/

section Cut

variable {m body value : Text} {kind : TokenKind}

/-- **A marker cuts a text in two**: it is one segment, and what stands before it and behind it has the
segments that it would have alone. -/
theorem segmentsAt_cut (hm : IsMarker m) (offset : Nat) (front back : Text) :
    segmentsAt offset (front ++ (m ++ back)) =
      segmentsAt offset front ++ .marker (offset + front.length) m ::
        segmentsAt (offset + front.length + m.length) back := by
  induction front using marker_induction generalizing offset with
  | free front hfree => rw [segmentsAt_of_first offset hfree hm, segmentsAt_of_free offset hfree]
  | first b k a hb hk ih =>
    have hlength : offset + (b ++ (k ++ a)).length = offset + b.length + k.length + a.length := by
      simp only [List.length_append]
      omega
    rw [List.append_assoc, List.append_assoc, segmentsAt_of_first offset hb hk, ih,
      segmentsAt_of_first offset hb hk, hlength, List.append_assoc, List.cons_append]

/-- **What is read of a text with a marker in it**: what is read of the text before the marker, what the
marker gives, and what is read of the text behind it, further on. -/
theorem tokenize_cut (hm : IsMarker m) (front back : Text) :
    (tokenize (front ++ (m ++ back))).1 =
        (tokenize front).1 ++
          ((Segment.marker front.length m).token? (front ++ (m ++ back))).toList ++
          (tokenize back).1.map (Token.behind (front ++ m)) ∧
      (tokenize (front ++ (m ++ back))).2 =
        (tokenize front).2 ++
          ((Segment.marker front.length m).report? (front ++ (m ++ back))).toList ++
          (tokenize back).2.map (Diagnostic.behind (front ++ m)) := by
  have hsegments : segments (front ++ (m ++ back)) =
      segmentsAt 0 front ++ .marker front.length m :: segmentsAt (front ++ m).length back := by
    have hcut := segmentsAt_cut hm 0 front back
    rw [Nat.zero_add, ← List.length_append] at hcut
    exact hcut
  obtain ⟨htokens, hreports⟩ := tokenize_back (front ++ m) back
  rw [List.append_assoc] at htokens hreports
  rw [htokens, hreports, tokenize_front front (m ++ back), tokenize_eq, hsegments]
  -- what the marker gives comes in between
  have hmarker {β : Type} (give : Segment → Option β) (s : Segment) (before after : List Segment) :
      (before ++ s :: after).filterMap give =
        before.filterMap give ++ (give s).toList ++ after.filterMap give := by
    rw [List.filterMap_append, List.filterMap_cons, List.append_assoc]
    cases give s <;> rfl
  exact ⟨hmarker _ _ _ _, hmarker _ _ _ _⟩

/-- Nothing is read of the empty text. -/
theorem tokenize_nil : tokenize [] = ([], []) := by
  have hsegments : segments [] = [] := segmentsAt_of_free 0 markerFree_nil
  rw [tokenize_eq, hsegments]
  rfl

/-- A marker at the beginning that says something: its token comes first. -/
theorem tokenize_marker_append (h : Declares body kind value) (hbody : IsBody body) (back : Text) :
    tokenize (braced body ++ back) =
      (⟨kind, value, Place.at (braced body ++ back) 0⟩ ::
          (tokenize back).1.map (Token.behind (braced body)),
        (tokenize back).2.map (Diagnostic.behind (braced body))) := by
  obtain ⟨htoken, hreport⟩ := h.read hbody (braced body ++ back) 0
  obtain ⟨htokens, hreports⟩ := tokenize_cut ⟨body, hbody, rfl⟩ [] back
  simp only [List.nil_append, List.length_nil, htoken, hreport, tokenize_nil] at htokens hreports
  exact Prod.ext htokens hreports

/-- A marker at the end that says something: its token comes last. -/
theorem tokenize_append_marker (h : Declares body kind value) (hbody : IsBody body) (front : Text) :
    tokenize (front ++ braced body) =
      ((tokenize front).1 ++ [⟨kind, value, Place.at (front ++ braced body) front.length⟩],
        (tokenize front).2) := by
  obtain ⟨htoken, hreport⟩ := h.read hbody (front ++ braced body) front.length
  obtain ⟨htokens, hreports⟩ := tokenize_cut ⟨body, hbody, rfl⟩ front []
  simp only [List.append_nil, htoken, hreport, tokenize_nil, List.map_nil, Option.toList_some,
    Option.toList_none] at htokens hreports
  exact Prod.ext htokens hreports

end Cut

/-! ## The guard -/

/-- The marker that opens a condition. -/
def openingMarker (condition : Text) : Text :=
  braced (Text.of "if " ++ condition)

/-- The marker that closes a condition. -/
def closingMarker : Text :=
  braced (Text.of "endif")

/-- **A template inside a condition**, between the two markers. -/
def guarded (condition template : Text) : Text :=
  openingMarker condition ++ (template ++ closingMarker)

/-- Some text without braces that does not begin with a blank is a condition. -/
theorem IsCondition.of_head {condition : Text} (hnil : condition ≠ []) (hopening : '{' ∉ condition)
    (hclosing : '}' ∉ condition) (hhead : ∀ c rest, condition = c :: rest → isBlank c = false) :
    IsCondition condition := by
  refine ⟨hnil, hopening, hclosing, ?_⟩
  intro c rest hrest hblank
  rw [hhead c rest hrest] at hblank
  exact absurd hblank Bool.false_ne_true

/-- **What is read of a guarded template**: the two tokens of the guard, and between them what is read of
the template, further on. -/
theorem tokenize_guarded {condition : Text} (hcondition : IsCondition condition) (template : Text) :
    ∃ opening closing : Token,
      opening.kind = .ifOpen ∧ opening.value = condition ∧ closing.kind = .endif ∧
        (tokenize (guarded condition template)).1 =
          opening :: (tokenize template).1.map (Token.behind (openingMarker condition)) ++ [closing] ∧
        (tokenize (guarded condition template)).2 =
          (tokenize template).2.map (Diagnostic.behind (openingMarker condition)) := by
  have hopens : Declares (Text.of "if " ++ condition) .ifOpen condition :=
    .opening isGap_space hcondition
  have hguarded : tokenize (guarded condition template) = _ :=
    tokenize_marker_append hopens hcondition.isBody (template ++ closingMarker)
  have hinside : tokenize (template ++ closingMarker) = _ :=
    tokenize_append_marker .closing isBody_endif template
  rw [hguarded, hinside, List.map_append]
  exact ⟨_, _, rfl, rfl, rfl, rfl, rfl⟩

/-! ## Passing a guarded template -/

namespace Pass

/-- **A pass over a template as it is inside of a condition**: one more condition is open, below all
others, and if its name is not there, nothing is shown. -/
def guarded (p : Pass) (opening : Token) (front : Text) (present : Bool) : Pass where
  opened := p.opened.map (Token.behind front) ++ [opening]
  text := if present then p.text else []
  strays := p.strays.map (Token.behind front)
  missing := if present then p.missing.map (Token.behind front) else []

section Guarded

variable {env : Environment} {opening closing t : Token} {tokens : List Token} {front : Text}

/-- Inside of a condition is shown what would be shown without it, if its name is there. -/
theorem visible_guarded (p : Pass) :
    (p.guarded opening front (env.has opening.value)).visible env =
      (p.visible env && env.has opening.value) := by
  unfold visible guarded
  rw [List.all_append, List.all_map, List.all_cons, List.all_nil, Bool.and_true]
  rfl

/-- If nothing is reported as closing nothing, nothing was before, and a token that closes a condition
has found one. -/
theorem closes_of_step {p : Pass} (h : (p.step env t).strays = []) :
    p.strays = [] ∧ (t.kind = .endif → p.opened ≠ []) := by
  cases hkind : t.kind with
  | text =>
    rw [(p.step_text hkind).2.1] at h
    exact ⟨h, TokenKind.noConfusion⟩
  | «variable» =>
    rw [(p.step_variable hkind).2.1] at h
    exact ⟨h, TokenKind.noConfusion⟩
  | ifOpen =>
    rw [step, hkind] at h
    exact ⟨h, TokenKind.noConfusion⟩
  | endif =>
    rw [step, hkind] at h
    cases hopened : p.opened with
    | nil =>
      rw [hopened] at h
      exact absurd h (List.append_ne_nil_of_right_ne_nil _ (List.cons_ne_nil _ _))
    | cons block outer =>
      rw [hopened] at h
      exact ⟨h, fun _ => List.cons_ne_nil _ _⟩

/-- **One token inside of a condition**, if it does not close that condition. -/
theorem step_guarded {p : Pass} (h : t.kind = .endif → p.opened ≠ []) :
    (p.guarded opening front (env.has opening.value)).step env (t.behind front) =
      (p.step env t).guarded opening front (env.has opening.value) := by
  have hkind : (t.behind front).kind = t.kind := rfl
  have hvalue : (t.behind front).value = t.value := rfl
  rw [step, step, visible_guarded, hkind, hvalue]
  cases hk : t.kind with
  | text =>
    cases p.visible env <;> cases env.has opening.value <;> simp [guarded]
  | «variable» =>
    cases p.visible env <;> cases env.has opening.value <;> cases env.lookup t.value <;>
      simp [guarded]
  | ifOpen => rfl
  | endif =>
    obtain ⟨opened, text, strays, missing⟩ := p
    cases opened with
    | nil => exact absurd rfl (h hk)
    | cons block outer => rfl

/-- All tokens inside of a condition, if none of them closes what they have not opened. -/
theorem run_guarded (hopening : opening.kind = .ifOpen) (h : (run env tokens).strays = []) :
    run env (opening :: tokens.map (Token.behind front)) =
      (run env tokens).guarded opening front (env.has opening.value) := by
  induction tokens using List.reverseRecOn with
  | nil =>
    show step env start opening = guarded start opening front (env.has opening.value)
    unfold step guarded start
    rw [hopening]
    simp
  | append_singleton tokens t ih =>
    rw [run_concat] at h
    obtain ⟨hstrays, hopened⟩ := closes_of_step h
    rw [List.map_append, List.map_singleton, ← List.cons_append, run_concat, ih hstrays,
      step_guarded hopened, run_concat]

/-- The last token of a guarded template closes the condition around it, and changes nothing else. -/
theorem run_guarded_closed (front : Text) (hopening : opening.kind = .ifOpen)
    (hclosing : closing.kind = .endif) (hstrays : (run env tokens).strays = [])
    (hopened : (run env tokens).opened = []) :
    run env (opening :: tokens.map (Token.behind front) ++ [closing]) =
      { (run env tokens).guarded opening front (env.has opening.value) with opened := [] } := by
  have hguard : ((run env tokens).guarded opening front (env.has opening.value)).opened =
      [opening] := by
    unfold guarded
    rw [hopened]
    rfl
  rw [run_concat, run_guarded hopening hstrays, step, hclosing, hguard]

/-- What is reported on a guarded template: the markers of no known form as ever, and the variables
without a value only if the name of the condition is there. -/
theorem reports_guarded {p : Pass} {whole template : Text} {present : Bool}
    (hreports : (tokenize whole).2 = (tokenize template).2.map (Diagnostic.behind front))
    (hstrays : p.strays = []) :
    ({ p.guarded opening front present with opened := [] } : Pass).reports whole =
      (p.reportsOf template .unknownMarker).map (Diagnostic.behind front) ++
        if present then p.reportsOf template .unboundVariable else [] := by
  rw [reports_eq]
  unfold reportsOf guarded
  simp only [hreports, hstrays, List.map_nil, List.append_nil]
  cases present with
  | true =>
    -- a variable is reported by its name, wherever it stands
    simp only [if_true, List.map_map]
    rfl
  | false => simp

end Guarded

/-- Inside of a condition a pass that shows nothing shows nothing. -/
theorem unshown_guarded (p : Pass) (opening : Token) (front : Text) (present : Bool) :
    (p.guarded opening front present).unshown = p.unshown.guarded opening front present := by
  cases present <;> rfl

/-- **The pass over a guarded template**, for variables that can be written or not. -/
theorem ofTemplate_guarded {condition template : Text} {locals globals : Bindings}
    (hcondition : IsCondition condition) (hstrays : (ofTemplate template locals globals).strays = [])
    (hopened : (ofTemplate template locals globals).opened = []) :
    ∃ opening : Token, ofTemplate (Stencil.guarded condition template) locals globals =
      { (ofTemplate template locals globals).guarded opening (openingMarker condition)
          ((Environment.merge locals globals).has condition) with opened := [] } := by
  obtain ⟨opening, closing, hopening, rfl, hclosing, htokens, _⟩ :=
    tokenize_guarded hcondition template
  refine ⟨opening, ?_⟩
  unfold ofTemplate at hstrays hopened ⊢
  rw [htokens]
  cases hcan : Environment.canMerge locals globals with
  | true =>
    rw [hcan, if_pos rfl] at hstrays hopened
    exact run_guarded_closed _ hopening hclosing hstrays hopened
  | false =>
    rw [hcan, if_neg Bool.false_ne_true] at hstrays hopened
    simp only [Bool.false_eq_true, if_false]
    rw [run_guarded_closed _ hopening hclosing hstrays hopened, ← unshown_guarded]
    rfl

end Pass

/-! ## Rendering a guarded template -/

/-- **A condition around a template hides it or shows it as a whole**, for all variables, if the template
closes what it opens and nothing else.  The reports on the markers of the template are made in any case,
with their places moved behind the opening marker; the reports on its variables only if the name of the
condition is there; and nothing else is reported, so nothing on the nesting of conditions.  If the
variables can be written, the text is that of the template where the name of the condition is there, and
none where it is not; if they cannot, neither of the two is rendered. -/
theorem renderTemplate_guarded (condition template : Text) (locals globals : Bindings)
    (hcondition : IsCondition condition)
    (hnesting : ∀ d ∈ (renderTemplate false template locals globals).2,
      d.code ≠ .unmatchedEndif ∧ d.code ≠ .unterminatedBlock) :
    let present := (Environment.merge locals globals).has condition
    let inner := renderTemplate false template locals globals
    let whole := renderTemplate false (guarded condition template) locals globals
    whole.2 = (inner.2.filter fun d => d.code = .unknownMarker).map
          (Diagnostic.behind (openingMarker condition)) ++
        (if present then inner.2.filter fun d => d.code = .unboundVariable else []) ∧
      (∀ d ∈ whole.2, d.isStructural = false) ∧
      (Environment.canMerge locals globals = true → ∃ r s,
        inner.1 = .ok r ∧ whole.1 = .ok s ∧ r.diagnostics = inner.2 ∧ s.diagnostics = whole.2 ∧
          s.text = if present then r.text else []) ∧
      (Environment.canMerge locals globals = false →
        inner.1 = .error .notWritable ∧ whole.1 = .error .notWritable) := by
  obtain ⟨_, _, _, _, _, _, hmarkers⟩ := tokenize_guarded hcondition template
  rw [renderTemplate_eq_ofTemplate template] at hnesting
  have hstrays := List.map_eq_nil_iff.1 (Pass.reportsOf_eq_nil fun d hd => (hnesting d hd).1)
  have hopened := Pass.opened_eq_nil fun d hd => (hnesting d hd).2
  obtain ⟨opening, htemplate⟩ := Pass.ofTemplate_guarded hcondition hstrays hopened
  rw [renderTemplate_eq_ofTemplate template, renderTemplate_eq_ofTemplate (guarded condition template),
    htemplate]
  intro present inner whole
  have hreports : whole.2 = (inner.2.filter fun d => d.code = .unknownMarker).map
        (Diagnostic.behind (openingMarker condition)) ++
      (if present then inner.2.filter fun d => d.code = .unboundVariable else []) := by
    show Pass.reports _ _ =
      ((Pass.reports _ _).filter _).map _ ++ if _ then (Pass.reports _ _).filter _ else []
    rw [Pass.reports_guarded hmarkers hstrays, Pass.filter_reports, Pass.filter_reports]
  refine ⟨hreports, ?_, ?_, ?_⟩
  · intro d hd
    -- no other code is left in what is reported
    have hcode : d.code = .unknownMarker ∨ d.code = .unboundVariable := by
      rw [hreports] at hd
      rcases List.mem_append.1 hd with hd | hd
      · obtain ⟨e, he, rfl⟩ := List.mem_map.1 hd
        exact .inl (of_decide_eq_true (List.mem_filter.1 he).2)
      · split at hd
        · exact .inr (of_decide_eq_true (List.mem_filter.1 hd).2)
        · exact absurd hd List.not_mem_nil
    unfold Diagnostic.isStructural
    rcases hcode with hcode | hcode <;> rw [hcode] <;> rfl
  · intro hcan
    exact ⟨_, _, if_pos hcan, if_pos hcan, rfl, rfl, rfl⟩
  · intro hcan
    have hrefused : Environment.canMerge locals globals ≠ true := Bool.eq_false_iff.1 hcan
    exact ⟨if_neg hrefused, if_neg hrefused⟩

/-- Loose braces stand on both sides of the guard.  Inside of it are a marker of no known form and a
variable without a value; the name of the condition is there, without a value. -/
theorem renderTemplate_guarded_loose :
    let condition := Text.of "n\n"
    let template := ['}'] ++ braced (Text.of "a b") ++ braced ['v'] ++ ['{']
    let globals : Bindings := Mapping.ofList [(.scalar (.text condition), .scalar .null)]
    let present := (Environment.merge {} globals).has condition
    let inner := renderTemplate false template {} globals
    let whole := renderTemplate false (guarded condition template) {} globals
    IsCondition condition ∧
      (∀ d ∈ inner.2, d.code ≠ .unmatchedEndif ∧ d.code ≠ .unterminatedBlock) ∧
      whole.2 = (inner.2.filter fun d => d.code = .unknownMarker).map
            (Diagnostic.behind (openingMarker condition)) ++
          (if present then inner.2.filter fun d => d.code = .unboundVariable else []) ∧
      ∃ r s, inner.1 = .ok r ∧ whole.1 = .ok s ∧ r.diagnostics = inner.2 ∧ s.diagnostics = whole.2 ∧
        s.text = if present then r.text else [] := by
  intro condition template globals present inner whole
  have hcondition : IsCondition condition := by
    refine .of_head (by decide) (by decide) (by decide) ?_
    intro c rest hrest
    obtain rfl : 'n' = c := (List.cons.inj hrest).1
    decide
  have hnesting : ∀ d ∈ inner.2, d.code ≠ .unmatchedEndif ∧ d.code ≠ .unterminatedBlock := by
    decide +kernel
  obtain ⟨hreports, _, hwritten, _⟩ :=
    renderTemplate_guarded condition template {} globals hcondition hnesting
  exact ⟨hcondition, hnesting, hreports, hwritten (by decide +kernel)⟩

end Stencil
