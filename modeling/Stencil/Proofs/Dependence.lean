import Stencil.Proofs.Evaluation
import Stencil.Proofs.Variables

/-!
# `Stencil.Proofs.Dependence` — what an evaluation depends on

An evaluation asks its environment two things only: of the name of a conditional, whether it is there;
of the name of a variable, what value it has.  It asks of the nodes that it comes to, and which these
are depends on the answers.  Two environments that give the same answers on the nodes that are reached
under the first one (`AgreeOn`) cannot be told apart: the loops run side by side, with the same
statements still to come, the same pieces of text and the same reports after every round
(`Walker.lockstep`).

The nodes that are reached were described by recursion on the tree.  The loop takes them one by one from
its stack; that they are the same nodes is `Walker.visited_eq_reached`.

## Contents
- **Agreement.** `AgreeOn`, and `Walker.visit_congr`.
- **Nodes round by round.** `Walker.next`, `Walker.visited` and `Walker.visited_eq_reached`.
- **Side by side.** `Walker.lockstep` and `evaluate_congr`.
- **What is hidden.** `Node.pruned`, the tree without what is hidden.
- **Binding a name anew.** `Environment.rebind`.
- **`evaluate_depends_on_reached`**.
-/

namespace Stencil

/-! ## Agreement -/

/-- **Two environments agree on some nodes**: on whether the names of the conditionals are there, and on
the values of the variables, or on that they have none. -/
structure AgreeOn (env other : Environment) (nodes : List Node) : Prop where
  presence : ∀ condition body, .conditional condition body ∈ nodes →
    other.has condition = env.has condition
  value : ∀ name, .variable name ∈ nodes → other.lookup name = env.lookup name

section Agreement

variable {env other : Environment} {nodes : List Node}

theorem AgreeOn.mono (h : AgreeOn env other nodes) {fewer : List Node} (hfewer : fewer ⊆ nodes) :
    AgreeOn env other fewer where
  presence condition body hmem := h.presence condition body (hfewer hmem)
  value name hmem := h.value name (hfewer hmem)

/-- A statement does the same under environments that agree on it. -/
theorem Walker.visit_congr {node : Node} (h : AgreeOn env other [node]) (w : Walker) :
    w.visit other node = w.visit env node := by
  cases node with
  | literal text => rfl
  | «variable» name =>
    have hvalue := h.value name List.mem_cons_self
    rw [visit, visit, hvalue]
  | block statements => rfl
  | conditional condition body =>
    have hpresence := h.presence condition body List.mem_cons_self
    rw [visit, visit, hpresence]
  | other label => rfl

end Agreement

/-! ## Nodes round by round -/

namespace Walker

/-- The statement that the next round takes, if it takes one. -/
def next (w : Walker) : List Node :=
  match w.pending with
  | (node :: _) :: _ => [node]
  | [] :: _ | [] => []

/-- The statements that so many rounds take. -/
def visited (env : Environment) : Nat → Walker → List Node
  | 0, _ => []
  | n + 1, w => w.next ++ visited env n (w.round env)

/-- The nodes that are reached from the statements on a stack. -/
def reachable (env : Environment) (w : Walker) : List Node :=
  w.pending.flatMap (Node.reachedAll env)

section Rounds

variable {env other : Environment}

/-- What a statement reaches, it reaches at once or by what it leaves on the stack. -/
theorem reachable_visit (w : Walker) (node : Node) :
    node :: (w.visit env node).reachable env = node.reached env ++ w.reachable env := by
  cases node with
  | literal text => rfl
  | «variable» name =>
    rw [visit]
    cases env.lookup name <;> rfl
  | block statements => rfl
  | conditional condition body =>
    rw [visit, Node.reached]
    by_cases hshown : env.has condition = true
    · rw [if_pos hshown, if_pos hshown]
      rfl
    · rw [if_neg hshown, if_neg hshown]
      rfl
  | other label => rfl

/-- A round takes the first of the nodes that are reached. -/
theorem next_append_reachable (w : Walker) :
    w.next ++ (w.round env).reachable env = w.reachable env := by
  obtain ⟨pending, pieces, reported⟩ := w
  rcases pending with _ | ⟨_ | ⟨node, nodes⟩, stack⟩
  · rfl
  · rfl
  · show node :: (visit env ⟨nodes :: stack, pieces, reported⟩ node).reachable env = _
    rw [reachable_visit]
    unfold reachable
    rw [List.flatMap_cons, List.flatMap_cons, Node.reachedAll, List.append_assoc]

/-- **What the rounds so far have taken, and what is reached from there, is what was to be reached.** -/
theorem visited_append_reachable (n : Nat) (w : Walker) :
    w.visited env n ++ (w.rounds env n).reachable env = w.reachable env := by
  induction n generalizing w with
  | zero => rfl
  | succ n ih =>
    rw [visited, rounds, List.append_assoc, ih]
    exact next_append_reachable w

/-- At the root of a tree it is what the tree reaches. -/
theorem reachable_start (node : Node) (earlier : List Diagnostic) :
    (start node earlier).reachable env = node.reached env := by
  unfold reachable start
  simp [Node.reachedAll]

/-- At the root of a tree there are two rounds to do for each node, and one. -/
theorem pendingWork_start (node : Node) (earlier : List Diagnostic) :
    Node.pendingWork (start node earlier).pending = 2 * node.size + 1 := by
  simp [start, Node.pendingWork, Node.sizeAll]

/-- **The loop takes the nodes that are reached**, in their order, and no others. -/
theorem visited_eq_reached (node : Node) (earlier : List Diagnostic) {n : Nat}
    (hn : 2 * node.size + 1 ≤ n) : (start node earlier).visited env n = node.reached env := by
  rw [← pendingWork_start node earlier] at hn
  have hended := (rounds_eq env hn).1
  have hnone : ((start node earlier).rounds env n).reachable env = [] := by
    unfold reachable
    rw [hended]
    rfl
  have hall := @visited_append_reachable env n (start node earlier)
  rw [hnone, List.append_nil, reachable_start] at hall
  exact hall

/-! ## Side by side -/

/-- **One round**: under environments that agree on the statement it takes, it does the same. -/
theorem round_congr {w : Walker} (h : AgreeOn env other w.next) : w.round other = w.round env := by
  obtain ⟨pending, pieces, reported⟩ := w
  rcases pending with _ | ⟨_ | ⟨node, nodes⟩, stack⟩
  · rfl
  · rfl
  · exact visit_congr h _

/-- **Any number of rounds**: under environments that agree on the statements that are taken under the
first one, the same statements are taken, and the loop stands at the same point after each round. -/
theorem lockstep (n : Nat) {w : Walker} (h : AgreeOn env other (w.visited env n)) :
    w.visited other n = w.visited env n ∧ w.rounds other n = w.rounds env n := by
  induction n generalizing w with
  | zero => exact ⟨rfl, rfl⟩
  | succ n ih =>
    rw [visited] at h
    have hround : w.round other = w.round env :=
      round_congr (h.mono (List.subset_append_left _ _))
    have hrest := ih (h.mono (List.subset_append_right _ _))
    rw [visited, visited, rounds, rounds, hround, hrest.1, hrest.2]
    exact ⟨rfl, rfl⟩

/-- From the root of a tree, agreement on the nodes that are reached is enough for all rounds. -/
theorem lockstep_start {node : Node} (h : AgreeOn env other (node.reached env))
    (earlier : List Diagnostic) (n : Nat) :
    (start node earlier).visited other n = (start node earlier).visited env n ∧
      (start node earlier).rounds other n = (start node earlier).rounds env n := by
  refine lockstep n (h.mono ?_)
  rw [← reachable_start node earlier, ← @visited_append_reachable env n]
  exact List.subset_append_left _ _

end Rounds

end Walker

section Evaluations

variable {env other : Environment}

/-- What an evaluation gives is what the loop has made in the end. -/
theorem evaluate_eq_made (env : Environment) (tree : Node) :
    tree.evaluate env = ((Walker.start tree []).rounds env (2 * tree.size + 1)).made := by
  have hwork := Nat.le_of_eq (Walker.pendingWork_start tree [])
  rw [(Walker.rounds_eq env hwork).2, Node.evaluate, evaluateFrom_eq_stackMeaning]
  rfl

/-- An evaluation is the same under environments that agree on what is reached under the first one. -/
theorem evaluate_congr {tree : Node} (h : AgreeOn env other (tree.reached env)) :
    tree.evaluate other = tree.evaluate env ∧ tree.reached other = tree.reached env := by
  have hrounds := Walker.lockstep_start h [] (2 * tree.size + 1)
  rw [Walker.visited_eq_reached tree [] (Nat.le_refl _),
    Walker.visited_eq_reached tree [] (Nat.le_refl _)] at hrounds
  refine ⟨?_, hrounds.1⟩
  rw [evaluate_eq_made, evaluate_eq_made, hrounds.2]

end Evaluations

/-! ## What is hidden -/

mutual

/-- The tree without what is hidden: a conditional that is not shown is left without a body. -/
def Node.pruned (env : Environment) : Node → Node
  | .literal text => .literal text
  | .variable name => .variable name
  | .block statements => .block (Node.prunedAll env statements)
  | .conditional condition body =>
    .conditional condition (if env.has condition then Node.prunedAll env body else [])
  | .other label => .other label

/-- Trees without what is hidden. -/
def Node.prunedAll (env : Environment) : List Node → List Node
  | [] => []
  | node :: rest => node.pruned env :: Node.prunedAll env rest

end

mutual

/-- **What is hidden under one environment gives nothing under another** that agrees on what is reached
under the first. -/
theorem Node.meaning_pruned {env other : Environment} :
    ∀ node : Node, AgreeOn env other (node.reached env) →
      (node.pruned env).meaning other = node.meaning other
  | .literal _, _ | .variable _, _ | .other _, _ => rfl
  | .block statements, h => by
    have hstatements : AgreeOn env other (Node.reachedAll env statements) :=
      h.mono (List.subset_cons_self _ _)
    rw [pruned, meaning, meaning]
    exact meaningAll_pruned statements hstatements
  | .conditional condition body, h => by
    have hpresence := h.presence condition body List.mem_cons_self
    rw [pruned, meaning, meaning, hpresence]
    by_cases hshown : env.has condition = true
    · rw [reached, if_pos hshown] at h
      rw [if_pos hshown, if_pos hshown, if_pos hshown]
      exact meaningAll_pruned body (h.mono (List.subset_cons_self _ _))
    · rw [if_neg hshown, if_neg hshown]

theorem Node.meaningAll_pruned {env other : Environment} :
    ∀ nodes : List Node, AgreeOn env other (Node.reachedAll env nodes) →
      Node.meaningAll other (Node.prunedAll env nodes) = Node.meaningAll other nodes
  | [], _ => rfl
  | node :: rest, h => by
    have hnode := meaning_pruned node (h.mono (List.subset_append_left _ _))
    have hrest := meaningAll_pruned rest (h.mono (List.subset_append_right _ _))
    rw [prunedAll, meaningAll, meaningAll, hnode, hrest]

end

/-- What is hidden might as well be cut off. -/
theorem evaluate_pruned {env other : Environment} {tree : Node}
    (h : AgreeOn env other (tree.reached env)) :
    (tree.pruned env).evaluate other = tree.evaluate other := by
  have hmeaning (node : Node) : node.evaluate other = node.meaning other := by
    unfold Node.evaluate
    rw [evaluateFrom_eq_stackMeaning, stackMeaning_cons_cons]
    exact Evaluation.append_nothing _
  rw [hmeaning, hmeaning, tree.meaning_pruned h]

/-! ## Binding a name anew -/

/-- The environment with a name bound anew, maybe without a value. -/
def Environment.rebind (env : Environment) (name : Text) (value : Option Text) : Environment :=
  ⟨env.names.insert name value⟩

/-- Only the name that is bound anew may have another value. -/
theorem Environment.lookup_rebind {env : Environment} {name asked : Text} (h : asked ≠ name)
    (value : Option Text) : (env.rebind name value).lookup asked = env.lookup asked := by
  unfold lookup rebind
  rw [Mapping.find?_insert_other (sharp_of_lawful asked) env.names value (Ne.symm h)]

/-- Binding a name anew makes that name be there, and changes nothing about the others. -/
theorem Environment.has_rebind {env : Environment} {name asked : Text}
    (h : asked ≠ name ∨ env.has name = true) (value : Option Text) :
    (env.rebind name value).has asked = env.has asked := by
  unfold has rebind at *
  rw [Mapping.contains_insert]
  split
  · rfl
  · next habsent =>
    have hother : name ≠ asked := Ne.symm (h.resolve_right habsent)
    rw [beq_eq_false_iff_ne.2 hother, Bool.or_false]

/-- A name that no variable asks for can be bound anew, if it is there already or no conditional asks for
it either. -/
theorem agreeOn_rebind {env : Environment} {nodes : List Node} {name : Text}
    (hvariable : .variable name ∉ nodes)
    (hcondition : env.has name = true ∨ ∀ body, .conditional name body ∉ nodes)
    (value : Option Text) : AgreeOn env (env.rebind name value) nodes := by
  constructor
  · intro condition body hmem
    refine Environment.has_rebind ?_ value
    rcases hcondition with hpresent | hunasked
    · exact .inr hpresent
    · refine .inl ?_
      rintro rfl
      exact hunasked body hmem
  · intro asked hmem
    refine Environment.lookup_rebind ?_ value
    rintro rfl
    exact hvariable hmem

/-! ## Dependence -/

/-- **An evaluation depends on what it reaches, and on nothing else**, for every tree and every
environment.  Under any other environment that agrees on whether the names of the conditionals that
are reached are there, and on the values of the variables that are reached, the text and the reports
are the same, and the loop does the same in every round; what is hidden might as well be cut off.  So
a name that no reached variable asks for may have any value or none, if it is there; and a name that
is asked for in hidden blocks only may be bound or not. -/
theorem evaluate_depends_on_reached (tree : Node) (env : Environment) :
    (∀ (earlier : List Diagnostic) (more : Nat),
        (Walker.start tree earlier).visited env (2 * tree.size + 1 + more) = tree.reached env) ∧
      (∀ other : Environment, AgreeOn env other (tree.reached env) →
        tree.evaluate other = tree.evaluate env ∧
          tree.reached other = tree.reached env ∧
          (tree.pruned env).evaluate other = tree.evaluate env ∧
          ∀ (earlier : List Diagnostic) (n : Nat),
            (Walker.start tree earlier).rounds other n = (Walker.start tree earlier).rounds env n) ∧
      ∀ (name : Text) (value : Option Text), .variable name ∉ tree.reached env →
        (env.has name = true ∨ ∀ body, .conditional name body ∉ tree.reached env) →
        tree.evaluate (env.rebind name value) = tree.evaluate env := by
  refine ⟨?_, ?_, ?_⟩
  · intro earlier more
    exact Walker.visited_eq_reached tree earlier (Nat.le_add_right _ _)
  · intro other h
    obtain ⟨hevaluate, hreached⟩ := evaluate_congr h
    refine ⟨hevaluate, hreached, ?_, fun earlier n => (Walker.lockstep_start h earlier n).2⟩
    rw [← hevaluate]
    exact evaluate_pruned h
  · intro name value hvariable hcondition
    exact (evaluate_congr (agreeOn_rebind hvariable hcondition value)).1

/-- One environment has a value for the condition that is shown, the other has none; a variable has no
value in one and is not there in the other; and what stands in the hidden block is bound in one of
them only. -/
theorem evaluate_depends_on_reached_hidden :
    let tree : Node := .block
      [.conditional ['a'] [.variable ['v']], .conditional ['b'] [.variable ['w']], .variable ['u']]
    let env : Environment := ⟨Mapping.ofList [(['a'], some ['1']), (['v'], some ['2'])]⟩
    let other : Environment :=
      ⟨Mapping.ofList [(['u'], none), (['w'], some ['3']), (['v'], some ['2']), (['a'], none)]⟩
    AgreeOn env other (tree.reached env) ∧ tree.evaluate other = tree.evaluate env := by
  intro tree env other
  have hreached : tree.reached env =
      [tree, .conditional ['a'] [.variable ['v']], .variable ['v'],
        .conditional ['b'] [.variable ['w']], .variable ['u']] := rfl
  have hagree : AgreeOn env other (tree.reached env) := by
    rw [hreached]
    constructor
    · intro condition body hmem
      simp only [tree, List.mem_cons, reduceCtorEq, Node.conditional.injEq, List.not_mem_nil,
        or_false, false_or] at hmem
      rcases hmem with ⟨rfl, _⟩ | ⟨rfl, _⟩ <;> decide
    · intro name hmem
      simp only [tree, List.mem_cons, reduceCtorEq, Node.variable.injEq, List.not_mem_nil, or_false,
        false_or] at hmem
      rcases hmem with rfl | rfl <;> decide
  exact ⟨hagree, ((evaluate_depends_on_reached tree env).2.1 other hagree).1⟩

end Stencil
