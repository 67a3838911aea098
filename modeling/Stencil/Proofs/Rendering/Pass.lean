import Stencil.Proofs.Evaluation
import Stencil.Proofs.Lexer.Tokens
import Stencil.Proofs.Parse.Reading
import Stencil.Rendering

/-!
# `Stencil.Proofs.Rendering.Pass` — rendering in one pass, without a tree

A template is rendered by way of a tree.  The same text and the same reports come out of one pass over
its tokens that only remembers which conditions are open: a token is shown exactly if the names of all
open conditions are there (`Pass.step`).

The two are related while they are under way (`Follows`).  The reading holds statements that nobody has
evaluated yet, some of them inside conditions that are not closed; what they will show is
`shownSoFar`, and that is what the pass has shown already.

## Contents
- **The pass.** `Pass`, `Pass.step` and `Pass.run`; `Pass.reports`, and of these `Pass.textReports`.
- **Unfinished trees.** `shownSoFar`, and that closing conditions does not change it.
- **The simulation.** `Reads.follows`.
- **The order of the reports.** `Pass.Within`.
- **Rendering.** `Pass.ofTemplate`, the pass as far as the variables can be written;
  `renderTemplate_eq_ofTemplate`, and **`renderTemplate_eq_pass`**.
-/

namespace Stencil

/-! ## The pass -/

/-- A pass over tokens under way: the tokens of the open conditions, the innermost first; the text so
far; and the tokens to report, the closing ones behind which nothing was open and the shown variables
without a value. -/
structure Pass where
  opened : List Token
  text : Text
  strays : List Token
  missing : List Token
deriving DecidableEq, Repr

namespace Pass

/-- Nothing passed yet. -/
def start : Pass :=
  ⟨[], [], [], []⟩

/-- Whether a token is shown: the names of all open conditions are there. -/
def visible (env : Environment) (p : Pass) : Bool :=
  p.opened.all fun t => env.has t.value

/-- One token. -/
def step (env : Environment) (p : Pass) (t : Token) : Pass :=
  match t.kind with
  | .text => if p.visible env then { p with text := p.text ++ t.value } else p
  | .variable =>
    if p.visible env then
      match env.lookup t.value with
      | some value => { p with text := p.text ++ value }
      | none => { p with missing := p.missing ++ [t] }
    else p
  | .ifOpen => { p with opened := t :: p.opened }
  | .endif =>
    match p.opened with
    | _ :: outer => { p with opened := outer }
    | [] => { p with strays := p.strays ++ [t] }

/-- All tokens, from left to right. -/
def run (env : Environment) (tokens : List Token) : Pass :=
  tokens.foldl (step env) start

theorem run_concat (env : Environment) (tokens : List Token) (t : Token) :
    run env (tokens ++ [t]) = (run env tokens).step env t := by
  rw [run, List.foldl_append]
  rfl

/-- What the pass has shown, and reported on what it has shown. -/
def shown (p : Pass) : Evaluation :=
  ⟨p.text, p.missing.map fun t => Diagnostic.unboundVariable t.value⟩

/-- More text is shown. -/
theorem shown_emit (p : Pass) (text : Text) :
    ({ p with text := p.text ++ text } : Pass).shown = p.shown ++ .ofText text := by
  show Evaluation.mk _ _ = Evaluation.mk _ (_ ++ [])
  rw [List.append_nil]
  rfl

/-- One more variable is reported. -/
theorem shown_miss (p : Pass) (t : Token) :
    ({ p with missing := p.missing ++ [t] } : Pass).shown =
      p.shown ++ .ofReport (Diagnostic.unboundVariable t.value) := by
  show Evaluation.mk _ ((p.missing ++ [t]).map _) = Evaluation.mk (_ ++ []) _
  rw [List.append_nil, List.map_append]
  rfl

/-- What is reported on the nesting of conditions after a pass: the closing tokens that close nothing, and the
conditions still open. -/
def nesting (p : Pass) : List Diagnostic :=
  p.strays.map (fun t => Diagnostic.unmatchedEndif t.place) ++
    p.opened.map fun t => Diagnostic.unterminatedBlock t.value t.place

/-- What is reported on the text of a template after a pass over its tokens: the markers that gave no token,
and the nesting of conditions. -/
def textReports (template : Text) (p : Pass) : List Diagnostic :=
  (droppedSpans template).map (fun span =>
      Diagnostic.unknownMarker (span.slice template) (Place.at template span.start)) ++
    p.nesting

/-- What is reported on a template after a pass over its tokens: what is reported on its text, and then the
variables without a value. -/
def reports (template : Text) (p : Pass) : List Diagnostic :=
  p.textReports template ++ p.shown.reported

end Pass

/-! ## Unfinished trees -/

/-- Whether the names of all open conditions are there. -/
def allPresent (env : Environment) (opened : List OpenBlock) : Bool :=
  opened.all fun block => env.has block.token.value

/-- An evaluation that is only shown under a condition. -/
def Evaluation.shownIf (b : Bool) (e : Evaluation) : Evaluation :=
  if b then e else .nothing

theorem Evaluation.shownIf_append (b : Bool) (e f : Evaluation) :
    (e ++ f).shownIf b = e.shownIf b ++ f.shownIf b := by
  cases b with
  | true => rfl
  | false => exact (Evaluation.nothing_append _).symm

/-- What a reading under way will show of the statements it has read: those before each open condition,
then those of the innermost block. -/
def shownSoFar (env : Environment) : List OpenBlock → List Node → Evaluation
  | [], statements => Node.meaningAll env statements.reverse
  | block :: outer, statements =>
    shownSoFar env outer block.before ++
      (Node.meaningAll env statements.reverse).shownIf (allPresent env (block :: outer))

section UnfinishedTrees

variable (env : Environment)

/-- A statement in the innermost block is shown behind all that was read before. -/
theorem shownSoFar_push (opened : List OpenBlock) (statements : List Node) (node : Node) :
    shownSoFar env opened (node :: statements) =
      shownSoFar env opened statements ++ (node.meaning env).shownIf (allPresent env opened) := by
  cases opened with
  | nil => exact meaningAll_reverse_cons env node statements
  | cons block outer =>
    rw [shownSoFar, shownSoFar, meaningAll_reverse_cons, Evaluation.shownIf_append,
      Evaluation.append_assoc]

/-- The statements of a condition that has just been opened show nothing yet. -/
theorem shownSoFar_open (t : Token) (opened : List OpenBlock) (statements : List Node) :
    shownSoFar env (⟨t, statements⟩ :: opened) [] = shownSoFar env opened statements := by
  rw [shownSoFar, List.reverse_nil, Node.meaningAll, Evaluation.shownIf, ite_self,
    Evaluation.append_nothing]

/-- **Closing a condition changes nothing that is shown.**  The conditional is shown where its own name
is there, in a place where the names of the outer conditions are. -/
theorem shownSoFar_close (block : OpenBlock) (outer : List OpenBlock) (statements : List Node) :
    shownSoFar env outer (.conditional block.token.value statements.reverse :: block.before) =
      shownSoFar env (block :: outer) statements := by
  have hpresent : allPresent env (block :: outer) =
      (env.has block.token.value && allPresent env outer) := rfl
  rw [shownSoFar_push, shownSoFar, Node.meaning, hpresent]
  cases env.has block.token.value with
  | true => rfl
  | false => rw [if_neg Bool.false_ne_true, Evaluation.shownIf, ite_self]; rfl

/-- Closing all conditions changes nothing that is shown. -/
theorem meaningAll_closeAll (opened : List OpenBlock) (statements : List Node) :
    Node.meaningAll env (closeAll opened statements) = shownSoFar env opened statements := by
  induction opened generalizing statements with
  | nil => rfl
  | cons block outer ih => rw [closeAll, ih, shownSoFar_close]

end UnfinishedTrees

/-! ## The simulation -/

/-- **A pass follows a reading**: the same conditions are open, the same closing tokens were reported,
and what the statements read so far will show has been shown. -/
structure Follows (env : Environment) (p : Progress) (ds : List Diagnostic) (q : Pass) : Prop where
  opened : p.opened.map OpenBlock.token = q.opened
  reported : ds = q.strays.map fun t => Diagnostic.unmatchedEndif t.place
  shown : shownSoFar env p.opened p.statements = q.shown

section Simulation

variable {env : Environment} {ts : List Token} {p : Progress} {ds : List Diagnostic} {q : Pass}

/-- What the pass shows is what the reading is inside of. -/
theorem Follows.visible (h : Follows env p ds q) : q.visible env = allPresent env p.opened := by
  rw [Pass.visible, ← h.opened, List.all_map]
  rfl

/-- A token that becomes a statement, of which the pass shows the meaning where it shows anything. -/
theorem Follows.push {q' : Pass} (h : Follows env p ds q) (node : Node)
    (hopened : q'.opened = q.opened) (hstrays : q'.strays = q.strays)
    (hshown : q'.shown = q.shown ++ (node.meaning env).shownIf (q.visible env)) :
    Follows env (p.push node) ds q' where
  opened := h.opened.trans hopened.symm
  reported := by rw [hstrays]; exact h.reported
  shown := by rw [hshown, h.visible, ← h.shown]; exact shownSoFar_push env p.opened p.statements node

/-- What the pass makes of a text. -/
theorem Pass.step_text (q : Pass) {t : Token} (hkind : t.kind = .text) :
    (q.step env t).opened = q.opened ∧ (q.step env t).strays = q.strays ∧
      (q.step env t).missing = q.missing ∧
      (q.step env t).shown =
        q.shown ++ ((Node.literal t.value).meaning env).shownIf (q.visible env) := by
  rw [Pass.step, hkind]
  cases q.visible env with
  | true => exact ⟨rfl, rfl, rfl, q.shown_emit t.value⟩
  | false => exact ⟨rfl, rfl, rfl, (Evaluation.append_nothing _).symm⟩

/-- What the pass makes of a variable; only here a variable may turn out to be missing. -/
theorem Pass.step_variable (q : Pass) {t : Token} (hkind : t.kind = .variable) :
    (q.step env t).opened = q.opened ∧ (q.step env t).strays = q.strays ∧
      ((q.step env t).missing = q.missing ∨ (q.step env t).missing = q.missing ++ [t]) ∧
      (q.step env t).shown =
        q.shown ++ ((Node.variable t.value).meaning env).shownIf (q.visible env) := by
  rw [Pass.step, hkind, Node.meaning, Environment.evaluateVariable]
  cases q.visible env with
  | true =>
    cases env.lookup t.value with
    | some value => exact ⟨rfl, rfl, .inl rfl, q.shown_emit value⟩
    | none => exact ⟨rfl, rfl, .inr rfl, q.shown_miss t⟩
  | false => exact ⟨rfl, rfl, .inl rfl, (Evaluation.append_nothing _).symm⟩

/-- **The pass follows every reading**, token by token. -/
theorem Reads.follows (h : Reads ts p ds) : Follows env p ds (Pass.run env ts) := by
  induction h with
  | start => exact ⟨rfl, rfl, rfl⟩
  | text _ hkind ih =>
    obtain ⟨hopened, hstrays, _, hshown⟩ := Pass.step_text (Pass.run env _) hkind
    rw [Pass.run_concat]
    exact ih.push _ hopened hstrays hshown
  | «variable» _ hkind ih =>
    obtain ⟨hopened, hstrays, _, hshown⟩ := Pass.step_variable (Pass.run env _) hkind
    rw [Pass.run_concat]
    exact ih.push _ hopened hstrays hshown
  | opening _ hkind ih =>
    rw [Pass.run_concat, Pass.step, hkind]
    exact ⟨congrArg _ ih.opened, ih.reported, (shownSoFar_open env _ _ _).trans ih.shown⟩
  | closing _ hkind ih =>
    -- the pass has the same condition on top of its own stack
    have hopened := ih.opened
    rw [List.map_cons] at hopened
    rw [Pass.run_concat, Pass.step, hkind, ← hopened]
    exact ⟨rfl, ih.reported, (shownSoFar_close env _ _ _).trans ih.shown⟩
  | stray _ hkind ih =>
    have hopened := ih.opened
    rw [List.map_nil] at hopened
    rw [Pass.run_concat, Pass.step, hkind, ← hopened]
    refine ⟨rfl, ?_, ih.shown⟩
    rw [ih.reported, List.map_append]
    rfl

end Simulation

/-! ## The order of the reports -/

/-- The tokens that a pass remembers are among those it has passed, in the same order; the open ones
the other way round. -/
structure Pass.Within (tokens : List Token) (q : Pass) : Prop where
  opened : q.opened.reverse.Sublist tokens
  strays : q.strays.Sublist tokens
  missing : q.missing.Sublist tokens

section Order

variable {env : Environment} {tokens : List Token} {q : Pass}

/-- One more token is remembered behind the others, or not at all. -/
theorem Pass.Within.step (h : q.Within tokens) (t : Token) :
    (q.step env t).Within (tokens ++ [t]) := by
  have hkeep {l : List Token} (hl : l.Sublist tokens) : l.Sublist (tokens ++ [t]) :=
    hl.trans (List.sublist_append_left _ _)
  have hadd {l : List Token} (hl : l.Sublist tokens) : (l ++ [t]).Sublist (tokens ++ [t]) :=
    hl.append (List.Sublist.refl _)
  cases hkind : t.kind with
  | text =>
    obtain ⟨hopened, hstrays, hmissing, _⟩ := @Pass.step_text env q t hkind
    exact ⟨hopened ▸ hkeep h.opened, hstrays ▸ hkeep h.strays, hmissing ▸ hkeep h.missing⟩
  | «variable» =>
    obtain ⟨hopened, hstrays, hmissing, _⟩ := @Pass.step_variable env q t hkind
    refine ⟨hopened ▸ hkeep h.opened, hstrays ▸ hkeep h.strays, ?_⟩
    rcases hmissing with hmissing | hmissing
    · exact hmissing ▸ hkeep h.missing
    · exact hmissing ▸ hadd h.missing
  | ifOpen =>
    rw [Pass.step, hkind]
    refine ⟨?_, hkeep h.strays, hkeep h.missing⟩
    show (t :: q.opened).reverse.Sublist _
    rw [List.reverse_cons]
    exact hadd h.opened
  | endif =>
    rw [Pass.step, hkind]
    obtain ⟨opened, text, strays, missing⟩ := q
    cases opened with
    | nil => exact ⟨List.nil_sublist _, hadd h.strays, hkeep h.missing⟩
    | cons s outer =>
      refine ⟨hkeep (List.Sublist.trans ?_ h.opened), hkeep h.strays, hkeep h.missing⟩
      show outer.reverse.Sublist (s :: outer).reverse
      rw [List.reverse_cons]
      exact List.sublist_append_left _ _

/-- What a pass over all tokens remembers is among them, in order. -/
theorem Pass.within_run (env : Environment) (tokens : List Token) :
    (Pass.run env tokens).Within tokens := by
  suffices hfold : ∀ (done rest : List Token) (q : Pass), q.Within done →
      (rest.foldl (Pass.step env) q).Within (done ++ rest) from
    hfold [] tokens .start ⟨List.nil_sublist _, List.nil_sublist _, List.nil_sublist _⟩
  intro done rest
  induction rest generalizing done with
  | nil => intro q h; rw [List.append_nil]; exact h
  | cons t rest ih =>
    intro q h
    rw [List.append_cons]
    exact ih (done ++ [t]) _ (h.step t)

end Order

/-- The dropped markers come in the order of their places. -/
theorem droppedSpans_pairwise (text : Text) :
    (droppedSpans text).Pairwise fun s t => s.start < t.start := by
  refine List.Pairwise.filter _ ?_
  refine List.Pairwise.imp_of_mem ?_ (isScan_markerSpansFrom.pairwise 0 text)
  intro s t hs _ hst
  exact Nat.lt_of_lt_of_le (isScan_markerSpansFrom.start_lt_stop hs) hst

/-- No report of a pass is about an unknown node. -/
theorem code_of_mem_reports {template : Text} {q : Pass} {d : Diagnostic}
    (h : d ∈ q.reports template) : d.code ≠ .unknownNode := by
  simp only [Pass.reports, Pass.textReports, Pass.nesting, Pass.shown, List.mem_append, List.mem_map] at h
  rcases h with (⟨_, _, rfl⟩ | ⟨_, _, rfl⟩ | ⟨_, _, rfl⟩) | ⟨_, _, rfl⟩
  all_goals exact DiagnosticCode.noConfusion

/-! ## Rendering -/

/-- Tokens are read as a tree that shows what a pass over them shows, and the same is reported. -/
theorem parseTokens_shown (env : Environment) (tokens : List Token) :
    ∃ tree, parseTokens false tokens =
        ⟨.ok tree, (Pass.run env tokens).nesting, tokens.length⟩ ∧
      tree.evaluate env = (Pass.run env tokens).shown := by
  obtain ⟨p, ds, hreads, hparse⟩ := parseTokens_lenient tokens
  have hfollows : Follows env p ds (Pass.run env tokens) := hreads.follows
  refine ⟨_, ?_, (evaluate_block env _).trans ((meaningAll_closeAll env _ _).trans hfollows.shown)⟩
  rw [hparse, hfollows.reported, Pass.nesting, ← hfollows.opened, List.map_map]
  rfl

namespace Pass

/-- The pass without what it has shown, and reported on what it has shown. -/
def unshown (p : Pass) : Pass :=
  { p with text := [], missing := [] }

/-- What is left to report is what there is to report on the text. -/
theorem reports_unshown (template : Text) (p : Pass) :
    p.unshown.reports template = p.textReports template :=
  List.append_nil _

/-- **The pass over a template with some variables**; it shows nothing if they cannot be written. -/
def ofTemplate (template : Text) (locals globals : Bindings) : Pass :=
  let p := run (Environment.merge locals globals) (tokenize template).1
  if Environment.canMerge locals globals then p else p.unshown

end Pass

/-- **What is rendered and reported** is what the pass over the template shows and reports. -/
theorem renderTemplate_eq_ofTemplate (template : Text) (locals globals : Bindings) :
    let p := Pass.ofTemplate template locals globals
    renderTemplate false template locals globals =
      (if Environment.canMerge locals globals then .ok ⟨p.text, p.reports template⟩
        else .error .notWritable,
      p.reports template) := by
  intro p
  obtain ⟨tree, hparse, hshown⟩ :=
    parseTokens_shown (Environment.merge locals globals) (tokenize template).1
  have hp : Pass.ofTemplate template locals globals = p := rfl
  rw [renderTemplate, parseTemplate_eq, hparse, reports_eq_dropped]
  unfold Pass.ofTemplate at hp
  cases hcan : Environment.canMerge locals globals with
  | true =>
    rw [hcan, if_pos rfl] at hp
    simp only [renderParsed, hcan, if_true, hshown, hp]
    rfl
  | false =>
    rw [hcan, if_neg Bool.false_ne_true] at hp
    simp only [renderParsed, hcan, Bool.false_eq_true, if_false, ← hp, Pass.reports_unshown]
    rfl

/-- **A template is rendered as by one pass over its tokens**, for all variables that can be written: the text
is that of the pass.  Reported are the dropped markers in the order of their places, the closing tokens
that close nothing in theirs, the conditions open at the end from the innermost outwards, and each shown
variable without a value, in the order of their places; and never an unknown node.  Where a variable
cannot be written, there is no environment to show anything in: the template is refused, and reported is
what there is to report on its text. -/
theorem renderTemplate_eq_pass (template : Text) (locals globals : Bindings) :
    let pass := Pass.run (Environment.merge locals globals) (tokenize template).1
    renderTemplate false template locals globals =
        (if Environment.canMerge locals globals then
          (.ok ⟨pass.text, pass.reports template⟩, pass.reports template)
        else (.error .notWritable, pass.textReports template)) ∧
      (droppedSpans template).Pairwise (fun s t => s.start < t.start) ∧
      pass.strays.Pairwise (fun s t => s.place.offset < t.place.offset) ∧
      pass.opened.Pairwise (fun s t => t.place.offset < s.place.offset) ∧
      pass.missing.Pairwise (fun s t => s.place.offset < t.place.offset) ∧
      ∀ d ∈ pass.reports template, d.code ≠ .unknownNode := by
  intro pass
  have hwithin : pass.Within (tokenize template).1 := Pass.within_run _ _
  have htokens := tokens_pairwise template
  refine ⟨?_, droppedSpans_pairwise template, htokens.sublist hwithin.strays,
    List.pairwise_reverse.1 (htokens.sublist hwithin.opened), htokens.sublist hwithin.missing,
    fun d hd => code_of_mem_reports hd⟩
  rw [renderTemplate_eq_ofTemplate, Pass.ofTemplate]
  cases Environment.canMerge locals globals with
  | true => rfl
  | false =>
    simp only [Bool.false_eq_true, if_false, Pass.reports_unshown]
    rfl

end Stencil
