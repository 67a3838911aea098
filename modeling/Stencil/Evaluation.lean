import Stencil.Diagnostic
import Stencil.Environment
import Stencil.Node

/-!
# `Stencil.Evaluation` — the text of a tree in an environment

## Contents
- **`Evaluation`**: a text with the reports made on the way.
- **`Node.evaluate`** walks the tree with a stack of the statements still to come.
- **`Node.meaning`** says the same by recursion on the tree.
-/

namespace Stencil

/-- A text, and what was reported while it was made. -/
structure Evaluation where
  text : Text
  reported : List Diagnostic
deriving DecidableEq, Repr

namespace Evaluation

/-- No text and no report. -/
def nothing : Evaluation :=
  ⟨[], []⟩

/-- One evaluation after the other. -/
def append (a b : Evaluation) : Evaluation :=
  ⟨a.text ++ b.text, a.reported ++ b.reported⟩

instance : Append Evaluation := ⟨append⟩

/-- A text without any report. -/
def ofText (text : Text) : Evaluation :=
  ⟨text, []⟩

/-- A report without any text. -/
def ofReport (report : Diagnostic) : Evaluation :=
  ⟨[], [report]⟩

@[simp] theorem text_append (a b : Evaluation) : (a ++ b).text = a.text ++ b.text := rfl

@[simp] theorem reported_append (a b : Evaluation) :
    (a ++ b).reported = a.reported ++ b.reported := rfl

theorem nothing_append (a : Evaluation) : nothing ++ a = a := rfl

theorem append_nothing (a : Evaluation) : a ++ nothing = a := by
  show Evaluation.mk (a.text ++ []) (a.reported ++ []) = a
  simp

theorem append_assoc (a b c : Evaluation) : a ++ b ++ c = a ++ (b ++ c) := by
  show Evaluation.mk _ _ = Evaluation.mk _ _
  simp

end Evaluation

/-- The value of a variable, or the report that it has none. -/
def Environment.evaluateVariable (env : Environment) (name : Text) : Evaluation :=
  match env.lookup name with
  | some value => .ofText value
  | none => .ofReport (Diagnostic.unboundVariable name)

namespace Node

/-! ## By a stack -/

/-- What is left to do on a stack: twice the nodes, and one for each list. -/
def pendingWork : List (List Node) → Nat
  | [] => 0
  | nodes :: stack => 2 * sizeAll nodes + 1 + pendingWork stack

/-- The text of all nodes on the stack, the top list first. -/
def evaluateFrom (env : Environment) : List (List Node) → Evaluation
  | [] => .nothing
  | [] :: stack => evaluateFrom env stack
  | (.literal text :: nodes) :: stack => .ofText text ++ evaluateFrom env (nodes :: stack)
  | (.variable name :: nodes) :: stack =>
    env.evaluateVariable name ++ evaluateFrom env (nodes :: stack)
  | (.block statements :: nodes) :: stack => evaluateFrom env (statements :: nodes :: stack)
  | (.conditional condition body :: nodes) :: stack =>
    if env.has condition then evaluateFrom env (body :: nodes :: stack)
    else evaluateFrom env (nodes :: stack)
  | (.other label :: nodes) :: stack =>
    .ofReport (Diagnostic.unknownNode label) ++ evaluateFrom env (nodes :: stack)
termination_by stack => pendingWork stack
decreasing_by
  all_goals
    simp only [pendingWork, sizeAll, size]
    omega

/-- The text of a tree in an environment. -/
def evaluate (env : Environment) (node : Node) : Evaluation :=
  evaluateFrom env [[node]]

/-! ## By recursion -/

mutual

/-- The meaning of a tree: a literal is its text, a variable its value, a block its statements in
order, a conditional its body if its name is there. -/
def meaning (env : Environment) : Node → Evaluation
  | .literal text => .ofText text
  | .variable name => env.evaluateVariable name
  | .block statements => meaningAll env statements
  | .conditional condition body => if env.has condition then meaningAll env body else .nothing
  | .other label => .ofReport (Diagnostic.unknownNode label)

/-- The meaning of trees one after the other. -/
def meaningAll (env : Environment) : List Node → Evaluation
  | [] => .nothing
  | node :: rest => meaning env node ++ meaningAll env rest

end

end Node

end Stencil
