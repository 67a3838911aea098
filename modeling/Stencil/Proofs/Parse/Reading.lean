import Stencil.Parse

/-!
# `Stencil.Proofs.Parse.Reading` — the readings that do not stop

A reading that goes on behind every report is a sequence of steps, one for each token.  `Reads` says
what a step can do, once for each kind of token; whatever holds of all such readings is proved by
induction on it.  The end of the tokens then closes the conditions that are still open (`closeAll`).

## Contents
- **`Reads`**, the state and the reports after some tokens, and **`Reads.step`**: it follows `step`.
- **`closeAll`**, the statements of the whole tree if all open conditions are closed.
- **`parseTokens_lenient`**: what a reading that does not stop comes to.
-/

namespace Stencil

/-- **The state of a reading after some tokens**, with the reports on them. -/
inductive Reads : List Token → Progress → List Diagnostic → Prop where
  | start : Reads [] .start []
  | text {ts p ds t} (h : Reads ts p ds) (hkind : t.kind = .text) :
      Reads (ts ++ [t]) (p.push (.literal t.value)) ds
  | variable {ts p ds t} (h : Reads ts p ds) (hkind : t.kind = .variable) :
      Reads (ts ++ [t]) (p.push (.variable t.value)) ds
  | opening {ts p ds t} (h : Reads ts p ds) (hkind : t.kind = .ifOpen) :
      Reads (ts ++ [t]) ⟨⟨t, p.statements⟩ :: p.opened, []⟩ ds
  | closing {ts block outer statements ds t} (h : Reads ts ⟨block :: outer, statements⟩ ds)
      (hkind : t.kind = .endif) : Reads (ts ++ [t]) (.close block outer statements) ds
  | stray {ts statements ds t} (h : Reads ts ⟨[], statements⟩ ds) (hkind : t.kind = .endif) :
      Reads (ts ++ [t]) ⟨[], statements⟩ (ds ++ [Diagnostic.unmatchedEndif t.place])

/-- One more token is one step of the reading. -/
theorem Reads.step {ts : List Token} {p : Progress} {ds : List Diagnostic} (h : Reads ts p ds)
    (t : Token) : Reads (ts ++ [t]) (p.step t).1 (ds ++ (p.step t).2.toList) := by
  obtain ⟨opened, statements⟩ := p
  cases hkind : t.kind with
  | text => simpa [Progress.step, hkind] using Reads.text h hkind
  | «variable» => simpa [Progress.step, hkind] using Reads.variable h hkind
  | ifOpen => simpa [Progress.step, hkind] using Reads.opening h hkind
  | endif =>
    cases opened with
    | nil => simpa [Progress.step, hkind] using Reads.stray h hkind
    | cons block outer => simpa [Progress.step, hkind] using Reads.closing h hkind

/-! ## The end of the tokens -/

/-- The report on a condition that is open at the end. -/
def OpenBlock.report (block : OpenBlock) : Diagnostic :=
  Diagnostic.unterminatedBlock block.token.value block.token.place

/-- The statements of the whole tree, if all open conditions are closed, the innermost first. -/
def closeAll : List OpenBlock → List Node → List Node
  | [], statements => statements.reverse
  | block :: outer, statements =>
    closeAll outer (.conditional block.token.value statements.reverse :: block.before)

/-- A reading that does not stop closes and reports all open conditions. -/
theorem finishFrom_lenient (opened : List OpenBlock) (statements : List Node) :
    Progress.finishFrom false opened statements =
      (.ok (.block (closeAll opened statements)), opened.map OpenBlock.report) := by
  induction opened generalizing statements with
  | nil => rfl
  | cons block outer ih =>
    rw [Progress.finishFrom, ih]
    rfl

/-- The rest of the tokens, after some of them. -/
theorem read_lenient {done : List Token} {p : Progress} {ds : List Diagnostic}
    (h : Reads done p ds) (tokens : List Token) :
    ∃ p' ds', Reads (done ++ tokens) p' (ds ++ ds') ∧
      p.read false tokens =
        ⟨.ok (.block (closeAll p'.opened p'.statements)), ds' ++ p'.opened.map OpenBlock.report,
          tokens.length⟩ := by
  induction tokens generalizing done p ds with
  | nil =>
    refine ⟨p, [], by simpa using h, ?_⟩
    rw [Progress.read, Progress.finish, finishFrom_lenient]
    rfl
  | cons t tokens ih =>
    obtain ⟨p', ds', hreads, hread⟩ := ih (h.step t)
    refine ⟨p', (p.step t).2.toList ++ ds', by simpa using hreads, ?_⟩
    rw [Progress.read]
    cases hstep : p.step t with
    | mk next report =>
      rw [hstep] at hread
      cases report with
      | none => simp [hread]
      | some report => simp [hread]

/-- **What a reading that does not stop comes to.**  All tokens are read, the stray closing tokens are
reported in their order, and then the conditions that are open, the innermost first. -/
theorem parseTokens_lenient (tokens : List Token) :
    ∃ p ds, Reads tokens p ds ∧
      parseTokens false tokens =
        ⟨.ok (.block (closeAll p.opened p.statements)), ds ++ p.opened.map OpenBlock.report,
          tokens.length⟩ := by
  obtain ⟨p, ds, hreads, hread⟩ := read_lenient .start tokens
  exact ⟨p, ds, hreads, hread⟩

/-- A template is read by way of its tokens; what is wrong with its markers is reported first. -/
theorem parseTemplate_eq (strict : Bool) (template : Text) :
    parseTemplate strict template =
      ((parseTokens strict (tokenize template).1).outcome,
        (tokenize template).2 ++ (parseTokens strict (tokenize template).1).reported) := rfl

end Stencil
