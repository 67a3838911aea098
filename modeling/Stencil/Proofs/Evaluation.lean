import Stencil.Evaluation

/-!
# `Stencil.Proofs.Evaluation` — the stack of an evaluation

An evaluation keeps on its stack the statements that are still to come.  What they will give is the
meaning of each list on the stack in turn (`stackMeaning`), and a step of the evaluation never changes
that sum: it moves a part of it to the output or to another list of the stack.

The same holds of the evaluation as a loop (`Walker`), which writes pieces of text and reports as it goes:
what it has made, with what its stack means, stays the same in every round (`Walker.total_round`), and
every round leaves less to do (`Walker.pendingWork_round`).

## Contents
- **`stackMeaning`**, and **`evaluateFrom_eq_stackMeaning`**.
- **`evaluate_block`**, the evaluation of a tree that came out of tokens.
- **Statements in a row.** `meaningAll_append`, `meaningAll_reverse_cons`.
- **What an evaluation reaches.** `Node.reached`, in pre-order; a tree means what the nodes that are
  reached give one after the other (`Node.meaning_eq_concat`).
- **Round by round.** `Walker`, `Walker.round` and `Walker.rounds_eq`.
- **`evaluate_eq_meaning`**.
-/

namespace Stencil

/-- What the statements on a stack mean, the top list first. -/
def stackMeaning (env : Environment) : List (List Node) → Evaluation
  | [] => .nothing
  | nodes :: stack => Node.meaningAll env nodes ++ stackMeaning env stack

theorem stackMeaning_cons_cons (env : Environment) (node : Node) (nodes : List Node)
    (stack : List (List Node)) :
    stackMeaning env ((node :: nodes) :: stack) =
      node.meaning env ++ stackMeaning env (nodes :: stack) := by
  rw [stackMeaning, stackMeaning, Node.meaningAll, Evaluation.append_assoc]

/-- **An evaluation by a stack gives what the stack means.** -/
theorem evaluateFrom_eq_stackMeaning (env : Environment) (stack : List (List Node)) :
    Node.evaluateFrom env stack = stackMeaning env stack := by
  fun_induction Node.evaluateFrom env stack with
  | case1 => rfl
  | case2 stack ih => rw [ih, stackMeaning, Node.meaningAll, Evaluation.nothing_append]
  | case3 text nodes stack ih => rw [ih, stackMeaning_cons_cons, Node.meaning]
  | case4 name nodes stack ih => rw [ih, stackMeaning_cons_cons, Node.meaning]
  | case5 statements nodes stack ih => rw [ih, stackMeaning_cons_cons, Node.meaning, stackMeaning]
  | case6 condition body nodes stack hshown ih =>
    rw [ih, stackMeaning_cons_cons, Node.meaning, if_pos hshown, stackMeaning]
  | case7 condition body nodes stack hhidden ih =>
    rw [ih, stackMeaning_cons_cons, Node.meaning, if_neg hhidden, Evaluation.nothing_append]
  | case8 label nodes stack ih => rw [ih, stackMeaning_cons_cons, Node.meaning]

/-- A block gives what its statements mean one after the other. -/
theorem evaluate_block (env : Environment) (statements : List Node) :
    (Node.block statements).evaluate env = Node.meaningAll env statements := by
  rw [Node.evaluate, evaluateFrom_eq_stackMeaning]
  simp only [stackMeaning, Node.meaningAll, Node.meaning, Evaluation.append_nothing]

/-! ## Statements in a row -/

theorem meaningAll_append (env : Environment) (as bs : List Node) :
    Node.meaningAll env (as ++ bs) = Node.meaningAll env as ++ Node.meaningAll env bs := by
  induction as with
  | nil => rw [Node.meaningAll, Evaluation.nothing_append, List.nil_append]
  | cons a as ih =>
    rw [List.cons_append, Node.meaningAll, Node.meaningAll, ih, Evaluation.append_assoc]

/-- Statements are kept with the last one first while they are read. -/
theorem meaningAll_reverse_cons (env : Environment) (node : Node) (statements : List Node) :
    Node.meaningAll env (node :: statements).reverse =
      Node.meaningAll env statements.reverse ++ node.meaning env := by
  rw [List.reverse_cons, meaningAll_append, Node.meaningAll, Node.meaningAll,
    Evaluation.append_nothing]

/-! ## What an evaluation reaches -/

mutual

/-- The nodes that the evaluation of a tree comes to, in the order in which it comes to them: a node
before what is below it, and from left to right.  What is below a hidden conditional is not reached. -/
def Node.reached (env : Environment) : Node → List Node
  | .block statements => .block statements :: Node.reachedAll env statements
  | .conditional condition body =>
    .conditional condition body :: if env.has condition then Node.reachedAll env body else []
  | .literal text => [.literal text]
  | .variable name => [.variable name]
  | .other label => [.other label]

/-- The nodes that the evaluation of trees in a row comes to. -/
def Node.reachedAll (env : Environment) : List Node → List Node
  | [] => []
  | node :: rest => node.reached env ++ Node.reachedAll env rest

end

/-- What a node gives by itself, whatever is below it. -/
def Node.contribution (env : Environment) : Node → Evaluation
  | .literal text => .ofText text
  | .variable name => env.evaluateVariable name
  | .block _ | .conditional _ _ => .nothing
  | .other label => .ofReport (Diagnostic.unknownNode label)

/-- Evaluations one after the other. -/
def Evaluation.concat (parts : List Evaluation) : Evaluation :=
  ⟨parts.flatMap Evaluation.text, parts.flatMap Evaluation.reported⟩

theorem Evaluation.concat_cons (first : Evaluation) (rest : List Evaluation) :
    concat (first :: rest) = first ++ concat rest := rfl

theorem Evaluation.concat_singleton (only : Evaluation) : concat [only] = only :=
  append_nothing only

theorem Evaluation.concat_append (as bs : List Evaluation) :
    concat (as ++ bs) = concat as ++ concat bs := by
  induction as with
  | nil => rfl
  | cons a as ih => rw [List.cons_append, concat_cons, concat_cons, ih, append_assoc]

mutual

/-- **A tree means what the nodes that are reached give**, in the order in which they are reached. -/
theorem Node.meaning_eq_concat (env : Environment) :
    ∀ node : Node, node.meaning env = .concat ((node.reached env).map (Node.contribution env))
  | .literal _ | .variable _ | .other _ => (Evaluation.concat_singleton _).symm
  | .block statements => by
    rw [meaning, reached, List.map_cons, Evaluation.concat_cons, meaningAll_eq_concat env statements]
    rfl
  | .conditional condition body => by
    rw [meaning, reached, List.map_cons, Evaluation.concat_cons]
    by_cases hshown : env.has condition = true
    · rw [if_pos hshown, if_pos hshown, meaningAll_eq_concat env body]
      rfl
    · rw [if_neg hshown, if_neg hshown]
      rfl

theorem Node.meaningAll_eq_concat (env : Environment) :
    ∀ nodes : List Node,
      Node.meaningAll env nodes = .concat ((Node.reachedAll env nodes).map (Node.contribution env))
  | [] => rfl
  | node :: rest => by
    rw [meaningAll, reachedAll, List.map_append, Evaluation.concat_append,
      meaning_eq_concat env node, meaningAll_eq_concat env rest]

end

mutual

/-- Nodes are reached in pre-order. -/
theorem Node.reached_sublist_preorder (env : Environment) :
    ∀ node : Node, (node.reached env).Sublist node.preorder
  | .literal _ | .variable _ | .other _ => List.Sublist.refl _
  | .block statements => (reachedAll_sublist_preorderAll env statements).cons_cons _
  | .conditional condition body => by
    rw [reached, preorder]
    refine List.Sublist.cons_cons _ (List.Sublist.cons _ ?_)
    by_cases hshown : env.has condition = true
    · rw [if_pos hshown]
      exact reachedAll_sublist_preorderAll env body
    · rw [if_neg hshown]
      exact List.nil_sublist _

theorem Node.reachedAll_sublist_preorderAll (env : Environment) :
    ∀ nodes : List Node, (Node.reachedAll env nodes).Sublist (Node.preorderAll nodes)
  | [] => List.Sublist.refl _
  | node :: rest =>
    (reached_sublist_preorder env node).append (reachedAll_sublist_preorderAll env rest)

end

/-! ## Round by round -/

/-- An evaluation under way: the statements still to come, list by list, the pieces of text so far, and
all reports. -/
structure Walker where
  pending : List (List Node)
  pieces : List Text
  reported : List Diagnostic
deriving Repr

namespace Walker

/-- At the root of a tree, with what was reported earlier. -/
def start (node : Node) (earlier : List Diagnostic) : Walker :=
  ⟨[[node]], [], earlier⟩

/-- One more piece of text. -/
def write (w : Walker) (piece : Text) : Walker :=
  { w with pieces := w.pieces ++ [piece] }

/-- One more report. -/
def report (w : Walker) (diagnostic : Diagnostic) : Walker :=
  { w with reported := w.reported ++ [diagnostic] }

/-- Statements that come before all that are to come. -/
def enter (w : Walker) (statements : List Node) : Walker :=
  { w with pending := statements :: w.pending }

/-- What a statement does where the others are still to come. -/
def visit (env : Environment) (w : Walker) : Node → Walker
  | .literal text => w.write text
  | .variable name =>
    match env.lookup name with
    | some value => w.write value
    | none => (w.report (Diagnostic.unboundVariable name)).write []
  | .block statements => w.enter statements
  | .conditional condition body => if env.has condition then w.enter body else w
  | .other label => w.report (Diagnostic.unknownNode label)

/-- One round of the loop: the next statement of the innermost list, or the end of that list. -/
def round (env : Environment) (w : Walker) : Walker :=
  match w.pending with
  | [] => w
  | [] :: stack => { w with pending := stack }
  | (node :: nodes) :: stack => visit env { w with pending := nodes :: stack } node

/-- So many rounds. -/
def rounds (env : Environment) : Nat → Walker → Walker
  | 0, w => w
  | n + 1, w => rounds env n (w.round env)

/-- The text and the reports so far. -/
def made (w : Walker) : Evaluation :=
  ⟨w.pieces.flatten, w.reported⟩

/-- What has been made, with what the statements to come mean. -/
def total (env : Environment) (w : Walker) : Evaluation :=
  w.made ++ stackMeaning env w.pending

theorem made_write (w : Walker) (piece : Text) : (w.write piece).made = w.made ++ .ofText piece := by
  show Evaluation.mk (w.pieces ++ [piece]).flatten w.reported =
    Evaluation.mk (w.pieces.flatten ++ piece) (w.reported ++ [])
  rw [List.flatten_append, List.flatten_singleton, List.append_nil]

theorem made_report (w : Walker) (diagnostic : Diagnostic) :
    (w.report diagnostic).made = w.made ++ .ofReport diagnostic := by
  show Evaluation.mk w.pieces.flatten (w.reported ++ [diagnostic]) =
    Evaluation.mk (w.pieces.flatten ++ []) (w.reported ++ [diagnostic])
  rw [List.append_nil]

/-- What a statement means is made at once, or comes before what is still to come. -/
theorem total_visit (env : Environment) (w : Walker) (node : Node) :
    (w.visit env node).total env =
      w.made ++ (node.meaning env ++ stackMeaning env w.pending) := by
  cases node with
  | literal text =>
    rw [visit, total, made_write, Evaluation.append_assoc, Node.meaning]
    rfl
  | «variable» name =>
    rw [visit, Node.meaning, Environment.evaluateVariable]
    cases env.lookup name with
    | some value =>
      show (w.write value).total env = w.made ++ (.ofText value ++ stackMeaning env w.pending)
      rw [total, made_write, Evaluation.append_assoc]
      rfl
    | none =>
      show ((w.report _).write []).total env =
        w.made ++ (.ofReport (Diagnostic.unboundVariable name) ++ stackMeaning env w.pending)
      rw [total, made_write, made_report, Evaluation.append_assoc, Evaluation.append_assoc]
      rfl
  | block statements =>
    rw [visit, Node.meaning]
    rfl
  | conditional condition body =>
    rw [visit, Node.meaning]
    by_cases hshown : env.has condition = true
    · rw [if_pos hshown, if_pos hshown]
      rfl
    · rw [if_neg hshown, if_neg hshown, Evaluation.nothing_append]
      rfl
  | other label =>
    rw [visit, total, made_report, Evaluation.append_assoc, Node.meaning]
    rfl

/-- **No round changes what is made in the end.** -/
theorem total_round (env : Environment) (w : Walker) : (w.round env).total env = w.total env := by
  obtain ⟨pending, pieces, reported⟩ := w
  rcases pending with _ | ⟨_ | ⟨node, nodes⟩, stack⟩
  · rfl
  · show made _ ++ stackMeaning env stack =
      made _ ++ (Node.meaningAll env [] ++ stackMeaning env stack)
    rw [Node.meaningAll, Evaluation.nothing_append]
    rfl
  · show (visit env ⟨nodes :: stack, pieces, reported⟩ node).total env =
      made _ ++ stackMeaning env ((node :: nodes) :: stack)
    rw [total_visit, stackMeaning_cons_cons]
    rfl

/-- What a statement leaves to do is less than the statement itself. -/
theorem pendingWork_visit (env : Environment) (w : Walker) (node : Node) :
    Node.pendingWork (w.visit env node).pending < Node.pendingWork w.pending + 2 * node.size := by
  have hpos := Node.size_pos node
  have henter (statements : List Node) (hsize : Node.sizeAll statements < node.size) :
      Node.pendingWork (w.enter statements).pending < Node.pendingWork w.pending + 2 * node.size := by
    simp only [enter, Node.pendingWork]
    omega
  cases node with
  | literal text => exact Nat.lt_add_of_pos_right (by omega)
  | «variable» name =>
    rw [visit]
    cases env.lookup name <;> exact Nat.lt_add_of_pos_right (by omega)
  | block statements =>
    refine henter statements ?_
    rw [Node.size]
    omega
  | conditional condition body =>
    rw [visit]
    by_cases hshown : env.has condition = true
    · rw [if_pos hshown]
      refine henter body ?_
      rw [Node.size]
      omega
    · rw [if_neg hshown]
      exact Nat.lt_add_of_pos_right (by omega)
  | other label => exact Nat.lt_add_of_pos_right (by omega)

/-- **Every round leaves less to do**, until there is nothing left. -/
theorem pendingWork_round (env : Environment) (w : Walker) :
    Node.pendingWork (w.round env).pending ≤ Node.pendingWork w.pending - 1 := by
  obtain ⟨pending, pieces, reported⟩ := w
  rcases pending with _ | ⟨_ | ⟨node, nodes⟩, stack⟩
  · exact Nat.le_refl _
  · show Node.pendingWork stack ≤ Node.pendingWork ([] :: stack) - 1
    simp only [Node.pendingWork, Node.sizeAll]
    omega
  · have hvisit := pendingWork_visit env ⟨nodes :: stack, pieces, reported⟩ node
    show Node.pendingWork (visit env ⟨nodes :: stack, pieces, reported⟩ node).pending ≤
      Node.pendingWork ((node :: nodes) :: stack) - 1
    simp only [Node.pendingWork, Node.sizeAll] at hvisit ⊢
    omega

theorem total_rounds (env : Environment) (n : Nat) (w : Walker) :
    (w.rounds env n).total env = w.total env := by
  induction n generalizing w with
  | zero => rfl
  | succ n ih => rw [rounds, ih, total_round]

theorem pendingWork_rounds (env : Environment) (n : Nat) (w : Walker) :
    Node.pendingWork (w.rounds env n).pending ≤ Node.pendingWork w.pending - n := by
  induction n generalizing w with
  | zero => exact Nat.le_refl _
  | succ n ih =>
    have hround := pendingWork_round env w
    have hrest := ih (w.round env)
    rw [rounds]
    omega

/-- **The loop comes to its end, and has then made what its statements mean**, behind what it had made
before. -/
theorem rounds_eq (env : Environment) {w : Walker} {n : Nat}
    (hn : Node.pendingWork w.pending ≤ n) :
    (w.rounds env n).pending = [] ∧ (w.rounds env n).made = w.total env := by
  have hwork := pendingWork_rounds env n w
  have htotal := total_rounds env n w
  generalize w.rounds env n = w' at hwork htotal ⊢
  obtain ⟨pending, pieces, reported⟩ := w'
  cases pending with
  | nil =>
    rw [← htotal]
    exact ⟨rfl, (Evaluation.append_nothing _).symm⟩
  | cons nodes stack =>
    simp only [Node.pendingWork] at hwork
    omega

end Walker

/-! ## Evaluation and meaning -/

/-- **An evaluation by a stack gives the meaning of the tree**, for every tree and every environment.  It
is what the nodes that are reached give one after the other, and these are reached in pre-order.  As a
loop the evaluation comes to its end after at most two rounds for each node, and one; its pieces of
text then make up that text, and its reports stand behind those that were made earlier. -/
theorem evaluate_eq_meaning (env : Environment) (node : Node) :
    node.evaluate env = node.meaning env ∧
      (node.meaning env = .concat ((node.reached env).map (Node.contribution env)) ∧
        (node.reached env).Sublist node.preorder) ∧
      ∀ (earlier : List Diagnostic) (more : Nat), ∃ pieces,
        (Walker.start node earlier).rounds env (2 * node.size + 1 + more) =
            ⟨[], pieces, earlier ++ (node.meaning env).reported⟩ ∧
          pieces.flatten = (node.meaning env).text := by
  refine ⟨?_, ⟨node.meaning_eq_concat env, node.reached_sublist_preorder env⟩, ?_⟩
  · rw [Node.evaluate, evaluateFrom_eq_stackMeaning, stackMeaning_cons_cons]
    exact Evaluation.append_nothing _
  · intro earlier more
    have hwork : Node.pendingWork (Walker.start node earlier).pending ≤ 2 * node.size + 1 + more := by
      simp only [Walker.start, Node.pendingWork, Node.sizeAll]
      omega
    obtain ⟨hpending, hmade⟩ := Walker.rounds_eq env hwork
    have htotal : (Walker.start node earlier).total env = ⟨[], earlier⟩ ++ node.meaning env := by
      rw [Walker.total, Walker.start, stackMeaning_cons_cons]
      exact congrArg _ (Evaluation.append_nothing _)
    rw [htotal] at hmade
    have hreported := congrArg Evaluation.reported hmade
    generalize (Walker.start node earlier).rounds env _ = ended at hpending hmade hreported ⊢
    obtain ⟨pending, pieces, reported⟩ := ended
    obtain rfl : pending = [] := hpending
    obtain rfl : reported = earlier ++ (node.meaning env).reported := hreported
    exact ⟨pieces, rfl, congrArg Evaluation.text hmade⟩

end Stencil
