import Stencil.Text.Decimal
import Stencil.Text.Quoted

/-!
# `Stencil.Node` — templates as trees

## Contents
- **`Node`**: literal text, variables, blocks, conditionals, and nodes of any other kind, which are
  known by a label only.
- **`Node.children`** and **`Node.size`**.
- **`Node.walk`**, the nodes in pre-order by means of a stack; **`Node.preorder`**, the same by
  recursion on the tree.
- **`Node.outline`**, one line for each node of the walk, indented by its depth.
-/

namespace Stencil

/-- A node of a template. -/
inductive Node where
  /-- Text that is shown as it is. -/
  | literal (text : Text)
  /-- The value of a variable. -/
  | variable (name : Text)
  /-- Nodes one after the other. -/
  | block (statements : List Node)
  /-- A body, a block of its own, that is shown only if a name is bound. -/
  | conditional (condition : Text) (body : List Node)
  /-- A node of another kind. -/
  | other (label : Text)
deriving Repr

instance : Inhabited Node := ⟨.block []⟩

namespace Node

/-- The nodes directly below a node; below a conditional there is the block of its body. -/
def children : Node → List Node
  | .block statements => statements
  | .conditional _ body => [.block body]
  | .literal _ | .variable _ | .other _ => []

mutual

/-- The number of nodes of a tree. -/
def size : Node → Nat
  | .literal _ | .variable _ | .other _ => 1
  | .block statements => 1 + sizeAll statements
  | .conditional _ body => 2 + sizeAll body

/-- The number of nodes of a list of trees. -/
def sizeAll : List Node → Nat
  | [] => 0
  | node :: rest => size node + sizeAll rest

end

theorem size_pos (node : Node) : 0 < node.size := by
  cases node <;> simp only [size] <;> omega

theorem sizeAll_append (as bs : List Node) : sizeAll (as ++ bs) = sizeAll as + sizeAll bs := by
  induction as with
  | nil => simp [sizeAll]
  | cons a as ih => simp only [List.cons_append, sizeAll, ih, Nat.add_assoc]

/-- A node is one more than all that is below it. -/
theorem size_eq (node : Node) : node.size = 1 + sizeAll node.children := by
  cases node with
  | conditional condition body => simp [size, children, sizeAll]; omega
  | _ => simp [size, children, sizeAll]

/-! ## Pre-order -/

/-- The nodes of the trees on a stack: the top comes first, then what is below it. -/
def walkFrom : List Node → List Node
  | [] => []
  | node :: stack => node :: walkFrom (node.children ++ stack)
termination_by stack => sizeAll stack
decreasing_by
  rw [sizeAll_append, sizeAll, size_eq node]
  omega

/-- The nodes of a tree in pre-order. -/
def walk (node : Node) : List Node :=
  walkFrom [node]

mutual

/-- The nodes of a tree in pre-order, by recursion. -/
def preorder : Node → List Node
  | .block statements => .block statements :: preorderAll statements
  | .conditional condition body =>
    .conditional condition body :: .block body :: preorderAll body
  | node => [node]

/-- The nodes of a list of trees in pre-order, by recursion. -/
def preorderAll : List Node → List Node
  | [] => []
  | node :: rest => preorder node ++ preorderAll rest

end

/-! ## Outline -/

/-- The number of characters of a literal that an outline shows. -/
def previewLength : Nat := 50

/-- A literal as an outline shows it: cut off after so many characters. -/
def preview (text : Text) : Text :=
  if previewLength < text.length then text.take previewLength ++ Text.of "..." else text

/-- What an outline says of a node itself. -/
def label : Node → Text
  | .literal text => Text.of "LiteralNode(" ++ Text.quoted (preview text) ++ [')']
  | .variable name => Text.of "VariableNode(" ++ Text.quoted name ++ [')']
  | .block statements => Text.of "BlockNode[" ++ Text.ofNat statements.length ++ [']']
  | .conditional condition _ =>
    Text.of "ConditionalNode(condition=" ++ Text.quoted condition ++ [')']
  | .other label => label

/-- The line of a node at a depth: two spaces for each step down, none above zero. -/
def outlineLine (depth : Int) (node : Node) : Text :=
  List.replicate (2 * depth.toNat) ' ' ++ node.label

/-- The lines of the trees on a stack, each at its depth. -/
def outlineLinesFrom : List (Node × Int) → List Text
  | [] => []
  | (node, depth) :: stack =>
    outlineLine depth node ::
      outlineLinesFrom (node.children.map (fun child => (child, depth + 1)) ++ stack)
termination_by stack => sizeAll (stack.map Prod.fst)
decreasing_by
  simp only [List.map_append, List.map_map, Function.comp_def, List.map_id', sizeAll_append,
    List.map_cons, sizeAll, size_eq node]
  omega

/-- The lines of a tree, one for each node. -/
def outlineLines (indent : Int) (node : Node) : List Text :=
  outlineLinesFrom [(node, indent)]

/-- A tree as text, one line for each node. -/
def outline (indent : Int) (node : Node) : Text :=
  Text.joinWith ['\n'] (outlineLines indent node)

end Node

end Stencil
