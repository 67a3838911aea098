import Stencil.Proofs.Parse.Reading

/-!
# `Stencil.Proofs.Parse.Strict` — a strict reading stops at the first report

A strict reading takes the same steps as one that goes on, until there is something to report: in the
middle of the tokens, or at their end with conditions still open.  What comes of the two is related by
`StopsAtFirst`, which is said of outcomes of any kind, so that it can be carried from tokens to
templates and from there to renderings.

A reading leaves nothing behind but its reports: read again, also after it was stopped, the same tokens
give the same outcome and the same reports once more (`Parser.parseTimes_eq`).

## Contents
- **`StopsAtFirst`**, and what it says of the two outcomes.
- **Reading.** `read_stopsAtFirst`, and that a reading reports on the nesting only.
- **Reading again.** `Parser.parseTimes`.
-/

namespace Stencil

/-! ## Stopping -/

/-- The reports on the nesting: a closing token where nothing is open, and a condition that is open at
the end. -/
theorem Diagnostic.isStructural_iff {d : Diagnostic} :
    d.isStructural = true ↔ d.code = .unmatchedEndif ∨ d.code = .unterminatedBlock := by
  rw [Diagnostic.isStructural]
  cases d.code <;> decide

/-- **What comes of something that goes on, and of the same thing stopped at the first report on the
nesting of conditions**; each is an outcome with the reports made until then.  What goes on may come to
nothing for other reasons, but it is not stopped. -/
inductive StopsAtFirst {α ε : Type} (stop : Diagnostic → ε) :
    Except ε α × List Diagnostic → Except ε α × List Diagnostic → Prop where
  /-- There is nothing to stop at. -/
  | same {outcome : Except ε α} {reports : List Diagnostic}
      (hgoes : ∀ d, outcome ≠ .error (stop d)) (hnone : ∀ d ∈ reports, d.isStructural = false) :
      StopsAtFirst stop (outcome, reports) (outcome, reports)
  /-- The first such report is the last one that is made. -/
  | stopped {outcome : Except ε α} {before after : List Diagnostic} {d : Diagnostic}
      (hgoes : ∀ e, outcome ≠ .error (stop e)) (hbefore : ∀ e ∈ before, e.isStructural = false)
      (hd : d.isStructural = true) :
      StopsAtFirst stop (outcome, before ++ d :: after) (.error (stop d), before ++ [d])

namespace StopsAtFirst

variable {α ε : Type} {stop : Diagnostic → ε} {lenient strict : Except ε α × List Diagnostic}

/-- What goes on is not stopped. -/
theorem goes (h : StopsAtFirst stop lenient strict) : ∀ d, lenient.1 ≠ .error (stop d) := by
  cases h with
  | same hgoes => exact hgoes
  | stopped hgoes => exact hgoes

/-- It is stopped exactly if there is a report to stop at. -/
theorem error_iff (h : StopsAtFirst stop lenient strict) :
    (∃ d, strict.1 = .error (stop d)) ↔ ∃ d ∈ lenient.2, d.isStructural = true := by
  cases h with
  | same hgoes hnone =>
    constructor
    · rintro ⟨d, hd⟩
      exact absurd hd (hgoes d)
    · rintro ⟨d, hmem, hd⟩
      rw [hnone d hmem] at hd
      exact absurd hd Bool.false_ne_true
  | @stopped outcome before after d hgoes hbefore hd =>
    exact ⟨fun _ => ⟨d, List.mem_append_right _ List.mem_cons_self, hd⟩, fun _ => ⟨d, rfl⟩⟩

/-- Other reports made before change nothing. -/
theorem prepend (h : StopsAtFirst stop lenient strict) {front : List Diagnostic}
    (hfront : ∀ d ∈ front, d.isStructural = false) :
    StopsAtFirst stop (lenient.1, front ++ lenient.2) (strict.1, front ++ strict.2) := by
  cases h with
  | same hgoes hnone => exact .same hgoes (List.forall_mem_append.2 ⟨hfront, hnone⟩)
  | stopped hgoes hbefore hd =>
    simp only [← List.append_assoc]
    exact .stopped hgoes (List.forall_mem_append.2 ⟨hfront, hbefore⟩) hd

end StopsAtFirst

/-! ## Reading -/

/-- What comes of a reading, without the number of tokens read. -/
def Parse.result (r : Parse) : Except Diagnostic Node × List Diagnostic :=
  (r.outcome, r.reported)

section Reading

variable {strict : Bool} {p next : Progress} {t : Token}

/-- A token on which nothing is reported leaves all to the rest. -/
theorem result_read_of_silent (hstep : p.step t = (next, none)) (tokens : List Token) :
    (p.read strict (t :: tokens)).result = (next.read strict tokens).result := by
  rw [Progress.read, hstep]
  rfl

/-- What a step reports is about the nesting. -/
theorem isStructural_of_step {d : Diagnostic} (hstep : p.step t = (next, some d)) :
    d.isStructural = true := by
  obtain ⟨opened, statements⟩ := p
  cases hkind : t.kind with
  | endif =>
    cases opened with
    | nil =>
      rw [Progress.step, hkind] at hstep
      obtain ⟨_, hd⟩ := Prod.mk.inj hstep
      rw [← Option.some.inj hd]
      rfl
    | cons block outer => exact absurd hstep (by simp [Progress.step, hkind])
  | text => exact absurd hstep (by simp [Progress.step, hkind])
  | «variable» => exact absurd hstep (by simp [Progress.step, hkind])
  | ifOpen => exact absurd hstep (by simp [Progress.step, hkind])

/-- The end of the tokens: a strict reading stops at the innermost open condition. -/
theorem finish_stopsAtFirst (p : Progress) :
    StopsAtFirst id (p.finish false).result (p.finish true).result := by
  obtain ⟨opened, statements⟩ := p
  rw [Progress.finish, finishFrom_lenient]
  have hgoes (d : Diagnostic) : (.ok (.block (closeAll opened statements)) : Except Diagnostic Node) ≠
      .error (id d) := by
    intro h
    cases h
  cases opened with
  | nil => exact .same hgoes (fun d hd => absurd hd List.not_mem_nil)
  | cons block outer =>
    exact @StopsAtFirst.stopped _ _ id _ [] _ _ hgoes (fun d hd => absurd hd List.not_mem_nil) rfl

/-- **A strict reading stops at the first report** of the reading that goes on. -/
theorem read_stopsAtFirst (p : Progress) (tokens : List Token) :
    StopsAtFirst id (p.read false tokens).result (p.read true tokens).result := by
  induction tokens generalizing p with
  | nil => exact finish_stopsAtFirst p
  | cons t tokens ih =>
    cases hstep : p.step t with
    | mk next report =>
      cases report with
      | none =>
        rw [result_read_of_silent hstep, result_read_of_silent hstep]
        exact ih next
      | some d =>
        have hlenient : (p.read false (t :: tokens)).result =
            ((next.read false tokens).outcome, [] ++ d :: (next.read false tokens).reported) := by
          rw [Progress.read, hstep]
          rfl
        have hstrict : (p.read true (t :: tokens)).result = (.error (id d), [] ++ [d]) := by
          rw [Progress.read, hstep]
          rfl
        rw [hlenient, hstrict]
        exact .stopped (ih next).goes (fun e he => absurd he List.not_mem_nil)
          (isStructural_of_step hstep)

/-- All that a strict reading reports is about the nesting. -/
theorem isStructural_of_mem_read {tokens : List Token} {d : Diagnostic}
    (h : d ∈ (p.read true tokens).reported) : d.isStructural = true := by
  induction tokens generalizing p with
  | nil =>
    obtain ⟨opened, statements⟩ := p
    cases opened with
    | nil => exact absurd h List.not_mem_nil
    | cons block outer => rw [List.mem_singleton.1 h]; rfl
  | cons t tokens ih =>
    cases hstep : p.step t with
    | mk next report =>
      rw [Progress.read, hstep] at h
      cases report with
      | none => exact ih h
      | some e =>
        rw [List.mem_singleton.1 h]
        exact isStructural_of_step hstep

end Reading

/-! ## Reading again -/

namespace Parser

/-- Read the tokens so many times: the outcomes in order, and the parser afterwards. -/
def parseTimes : Nat → Parser → List (Except Diagnostic Node) × Parser
  | 0, p => ([], p)
  | n + 1, p =>
    let (outcome, next) := p.parse
    let (outcomes, last) := parseTimes n next
    (outcome :: outcomes, last)

/-- **Every reading of the same tokens has the same outcome and adds the same reports**, whatever was
read before and whether it was stopped or not. -/
theorem parseTimes_eq (n : Nat) (p : Parser) :
    (p.parseTimes n).1 = List.replicate n (parseTokens p.strict p.tokens).outcome ∧
      (p.parseTimes n).2.diagnostics =
        p.diagnostics ++ (List.replicate n (parseTokens p.strict p.tokens).reported).flatten := by
  induction n generalizing p with
  | zero => exact ⟨rfl, (List.append_nil _).symm⟩
  | succ n ih =>
    obtain ⟨houtcomes, hreports⟩ := ih p.parse.2
    rw [parseTimes, List.replicate_succ, List.replicate_succ, List.flatten_cons,
      ← List.append_assoc]
    exact ⟨congrArg _ houtcomes, hreports⟩

end Parser

end Stencil
