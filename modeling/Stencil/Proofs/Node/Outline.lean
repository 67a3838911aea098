import Stencil.Node
import Stencil.Text.Lines

/-!
# `Stencil.Proofs.Node.Outline` — one line for each node

The walk of a tree and its outline are loops over a stack that the children of a node are put on.  Both come
to the recursion on the tree: a walk is the pre-order, and an outline has one line for each node of it,
indented by the depth of the node.  Names and literals are quoted, so that whatever line breaks they hold,
the text of an outline falls into just these lines.

## Contents
- **Depths.** `Node.placed`, the nodes in pre-order with their depths.
- **Two loops.** `Node.walkFrom_eq` and **`Node.walk_eq_preorder`**; `Node.outlineLinesFrom_placed`,
  **`Node.outlineLines_eq`** and `Node.outline_append_lineFeed`.
- **Lines.** `Node.OneLine` and `Node.OneLine.splitLines_outline`; **`Node.lines_of_outline`**.
-/

namespace Stencil

namespace Node

/-! ## Depths -/

mutual

/-- The nodes of a tree in pre-order, each with its depth; the root is at the given depth. -/
def placed (depth : Nat) : Node → List (Node × Nat)
  | .block statements => (.block statements, depth) :: placedAll (depth + 1) statements
  | .conditional condition body =>
    (.conditional condition body, depth) :: (.block body, depth + 1) :: placedAll (depth + 2) body
  | node => [(node, depth)]

/-- The nodes of a list of trees in pre-order, each with its depth. -/
def placedAll (depth : Nat) : List Node → List (Node × Nat)
  | [] => []
  | node :: rest => placed depth node ++ placedAll depth rest

end

mutual

/-- Without their depths the nodes are those of the pre-order. -/
theorem map_fst_placed (depth : Nat) : ∀ node : Node, (placed depth node).map Prod.fst = preorder node
  | .block statements => by
    simp only [placed, preorder, List.map_cons, map_fst_placedAll (depth + 1) statements]
  | .conditional _ body => by
    simp only [placed, preorder, List.map_cons, map_fst_placedAll (depth + 2) body]
  | .literal _ | .variable _ | .other _ => by simp [placed, preorder]

theorem map_fst_placedAll (depth : Nat) :
    ∀ nodes : List Node, (placedAll depth nodes).map Prod.fst = preorderAll nodes
  | [] => rfl
  | node :: rest => by
    simp only [placedAll, preorderAll, List.map_append, map_fst_placed depth node,
      map_fst_placedAll depth rest]

end

theorem preorderAll_append (as bs : List Node) :
    preorderAll (as ++ bs) = preorderAll as ++ preorderAll bs := by
  induction as with
  | nil => rfl
  | cons a as ih => simp only [List.cons_append, preorderAll, ih, List.append_assoc]

/-- A tree in pre-order is its root and then what is below it. -/
theorem preorder_eq (node : Node) : preorder node = node :: preorderAll node.children := by
  cases node <;> simp [preorder, children, preorderAll]

/-! ## Two loops -/

/-- The loop of a walk takes the trees on its stack one after the other. -/
theorem walkFrom_eq (stack : List Node) : walkFrom stack = preorderAll stack := by
  induction stack using walkFrom.induct with
  | case1 => simp [walkFrom, preorderAll]
  | case2 node stack ih =>
    rw [walkFrom, ih, preorderAll_append, preorderAll, preorder_eq node, List.cons_append]

/-- **A walk is the pre-order** of the tree. -/
theorem walk_eq_preorder (node : Node) : walk node = preorder node := by
  rw [walk, walkFrom_eq, preorderAll, preorderAll, List.append_nil]

/-- The line of a node at a depth, below an indentation. -/
def placedLine (indent : Int) (place : Node × Nat) : Text :=
  outlineLine (indent + place.2) place.1

mutual

/-- The loop of an outline gives the lines of the first tree on its stack, and then goes on. -/
theorem outlineLinesFrom_placed (indent : Int) (depth : Nat) (stack : List (Node × Int)) :
    ∀ node : Node, outlineLinesFrom ((node, indent + depth) :: stack) =
      (placed depth node).map (placedLine indent) ++ outlineLinesFrom stack
  | .block statements => by
    have hbody := outlineLinesFrom_placedAll indent (depth + 1) stack statements
    rw [outlineLinesFrom, placed, children, Int.add_assoc]
    exact congrArg (List.cons _) hbody
  | .conditional _ body => by
    -- the body is a block of its own, which is taken off the stack in a round of its own
    have hbody := outlineLinesFrom_placedAll indent (depth + 2) stack body
    rw [outlineLinesFrom, placed, children, Int.add_assoc, List.map_singleton, List.singleton_append,
      outlineLinesFrom, children, Int.add_assoc, Int.add_assoc]
    exact congrArg (fun lines => _ :: _ :: lines) hbody
  | .literal _ | .variable _ | .other _ => by
    rw [outlineLinesFrom]
    simp [placed, placedLine, children]

theorem outlineLinesFrom_placedAll (indent : Int) (depth : Nat) (stack : List (Node × Int)) :
    ∀ nodes : List Node,
      outlineLinesFrom (nodes.map (fun node => (node, indent + (depth : Int))) ++ stack) =
        (placedAll depth nodes).map (placedLine indent) ++ outlineLinesFrom stack
  | [] => rfl
  | node :: rest => by
    have hrest := outlineLinesFrom_placedAll indent depth stack rest
    rw [List.map_cons, List.cons_append, outlineLinesFrom_placed, hrest, placedAll, List.map_append,
      List.append_assoc]

end

/-- **An outline has one line for each node** of the pre-order, at the depth of the node. -/
theorem outlineLines_eq (indent : Int) (node : Node) :
    outlineLines indent node = (placed 0 node).map (placedLine indent) := by
  have hroot := outlineLinesFrom_placed indent 0 [] node
  rw [outlineLinesFrom, List.append_nil, Int.natCast_zero, Int.add_zero] at hroot
  exact hroot

theorem outlineLines_ne_nil (indent : Int) (node : Node) : outlineLines indent node ≠ [] := by
  rw [outlineLines, outlineLinesFrom]
  exact List.cons_ne_nil _ _

/-- An outline, with the line break at its end, is the line of each node with a line break behind it. -/
theorem outline_append_lineFeed (indent : Int) (node : Node) :
    outline indent node ++ ['\n'] =
      (placed 0 node).flatMap fun place => placedLine indent place ++ ['\n'] := by
  rw [outline, Text.joinWith_append_separator (outlineLines_ne_nil indent node), outlineLines_eq,
    List.flatMap_map]

/-! ## Lines -/

/-- The nodes of other kinds are called by names without a line break. -/
def OneLine (node : Node) : Prop :=
  ∀ name, Node.other name ∈ preorder node → '\n' ∉ name

theorem lineFeed_not_mem_between {opening inner closing : Text} (hopening : '\n' ∉ opening)
    (hinner : '\n' ∉ inner) (hclosing : '\n' ∉ closing) : '\n' ∉ opening ++ inner ++ closing := by
  rw [List.mem_append, List.mem_append, not_or, not_or]
  exact ⟨⟨hopening, hinner⟩, hclosing⟩

/-- What a node says of itself has no line break, whatever its texts hold. -/
theorem lineFeed_not_mem_label :
    ∀ node : Node, (∀ name, node = .other name → '\n' ∉ name) → '\n' ∉ node.label
  | .literal _, _ => lineFeed_not_mem_between (by decide) (Text.lineFeed_not_mem_quoted _) (by decide)
  | .variable _, _ => lineFeed_not_mem_between (by decide) (Text.lineFeed_not_mem_quoted _) (by decide)
  | .conditional _ _, _ =>
    lineFeed_not_mem_between (by decide) (Text.lineFeed_not_mem_quoted _) (by decide)
  | .block statements, _ => by
    have hdigits : '\n' ∉ Text.ofNat statements.length := fun hmem =>
      absurd (Text.isDigit_of_mem_ofNat hmem) (by decide)
    exact lineFeed_not_mem_between (by decide) hdigits (by decide)
  | .other name, h => h name rfl

theorem lineFeed_not_mem_outlineLines {node : Node} (h : OneLine node) (indent : Int) :
    ∀ line ∈ outlineLines indent node, '\n' ∉ line := by
  intro line hline
  rw [outlineLines_eq] at hline
  obtain ⟨place, hplace, rfl⟩ := List.mem_map.1 hline
  have hnode : place.1 ∈ preorder node := by
    rw [← map_fst_placed 0 node]
    exact List.mem_map_of_mem hplace
  have hlabel : '\n' ∉ place.1.label :=
    lineFeed_not_mem_label place.1 fun name hname => h name (hname ▸ hnode)
  have hspaces : '\n' ∉ List.replicate (2 * (indent + place.2).toNat) ' ' := fun hmem =>
    absurd (List.eq_of_mem_replicate hmem) (by decide)
  rw [placedLine, outlineLine, List.mem_append, not_or]
  exact ⟨hspaces, hlabel⟩

/-- The lines of the text of an outline are those that it was made of. -/
theorem OneLine.splitLines_outline {node : Node} (h : OneLine node) (indent : Int) :
    Text.splitLines (outline indent node) = outlineLines indent node :=
  Text.splitOn_joinWith (outlineLines_ne_nil indent node) (lineFeed_not_mem_outlineLines h indent)

/-- **The lines of an outline are the nodes of the walk.**  The walk is the pre-order of the tree, and the
text of the outline falls into one line for each node of it, in order: two spaces for each level of
the indentation and of the depth of the node, and then what the node says of itself. -/
theorem lines_of_outline (node : Node) (h : OneLine node) (indent : Nat) :
    walk node = preorder node ∧
    (placed 0 node).map Prod.fst = walk node ∧
    Text.splitLines (outline indent node) =
      (placed 0 node).map fun place => List.replicate (2 * (indent + place.2)) ' ' ++ place.1.label := by
  refine ⟨walk_eq_preorder node, ?_, ?_⟩
  · rw [walk_eq_preorder, map_fst_placed]
  · rw [h.splitLines_outline, outlineLines_eq]
    refine List.map_congr_left fun place _ => ?_
    rw [placedLine, outlineLine, ← Int.natCast_add, Int.toNat_natCast]

/-- A tree with line breaks in all its texts, and with a node of another kind. -/
def brokenTexts : Node :=
  .block [.literal ['a', '\n'], .conditional ['\n'] [.variable ['b', '\n'], .other (Text.of "ForeignNode")]]

theorem oneLine_brokenTexts : OneLine brokenTexts := by
  intro name hname
  simp only [brokenTexts, preorder, preorderAll, List.cons_append, List.nil_append, List.append_nil,
    List.mem_cons, List.not_mem_nil, or_false, reduceCtorEq, false_or, Node.other.injEq] at hname
  rw [hname]
  decide

/-- Six nodes make six lines, at depths down to three. -/
theorem lines_of_outline_brokenTexts :
    Text.splitLines (outline 1 brokenTexts) =
      [ Text.of "  BlockNode[2]", Text.of "    LiteralNode('a\\n')",
        Text.of "    ConditionalNode(condition='\\n')", Text.of "      BlockNode[2]",
        Text.of "        VariableNode('b\\n')", Text.of "        ForeignNode" ] :=
  (lines_of_outline brokenTexts oneLine_brokenTexts 1).2.2.trans (by decide)

end Node

end Stencil
