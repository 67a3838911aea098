import Stencil.Proofs.Node.Outline
import Stencil.Proofs.Text.Quoted

/-!
# `Stencil.Proofs.Node.Abridged` — what an outline tells of a tree

An outline leaves out nothing but the ends of long literals.  A line without its indentation begins with the
name of a kind and gives the texts of the node between quotes, so that it says all of the node but what
is below it (`Node.SameRoot`).  Of what is below it gives the number.  So the lines by themselves, read in
order, give the tree back, whatever the indentation is: they are written like an expression in prefix
notation, where each operator has a known number of operands.

## Contents
- **Abridged trees.** `Node.shortened`, `Node.abridged`, and the trees of `Node.Known` kinds.
- **Labels.** `Node.SameRoot` and `Node.sameRoot_of_label`.
- **Trees from labels.** **`Node.abridged_of_labels`**, by recursion on the tree.
- **`Node.outline_eq_iff`**.
-/

namespace Stencil

namespace Node

/-! ## Abridged trees -/

/-- A text of more than fifty characters is cut off behind them, with three dots in place of the rest. -/
def shortened (text : Text) : Text :=
  if 50 < text.length then text.take 50 ++ ['.', '.', '.'] else text

mutual

/-- A tree with its literals shortened. -/
def abridged : Node → Node
  | .literal text => .literal (shortened text)
  | .variable name => .variable name
  | .block statements => .block (abridgedAll statements)
  | .conditional condition body => .conditional condition (abridgedAll body)
  | .other label => .other label

/-- Trees with their literals shortened. -/
def abridgedAll : List Node → List Node
  | [] => []
  | node :: rest => abridged node :: abridgedAll rest

end

/-- All nodes of some trees are literals, variables, blocks or conditionals. -/
def KnownAll (nodes : List Node) : Prop :=
  ∀ name, Node.other name ∉ preorderAll nodes

/-- All nodes of a tree are literals, variables, blocks or conditionals. -/
def Known (node : Node) : Prop :=
  ∀ name, Node.other name ∉ preorder node

theorem Known.oneLine {node : Node} (h : Known node) : OneLine node :=
  fun name hname => absurd hname (h name)

theorem Known.root {node : Node} (h : Known node) (name : Text) : node ≠ .other name := by
  intro hother
  refine h name ?_
  rw [preorder_eq, hother]
  exact List.mem_cons_self

theorem Known.children {node : Node} (h : Known node) : KnownAll node.children := by
  intro name hname
  refine h name ?_
  rw [preorder_eq]
  exact List.mem_cons_of_mem _ hname

theorem KnownAll.head {node : Node} {rest : List Node} (h : KnownAll (node :: rest)) : Known node :=
  fun name hname => h name (List.mem_append_left _ hname)

theorem KnownAll.tail {node : Node} {rest : List Node} (h : KnownAll (node :: rest)) : KnownAll rest :=
  fun name hname => h name (List.mem_append_right _ hname)

/-- The block of a body is of a known kind if the body is. -/
theorem Known.body {condition : Text} {body : List Node} (h : Known (.conditional condition body)) :
    Known (.block body) :=
  (h.children : KnownAll [.block body]).head

/-- What is shortened is not shortened again. -/
theorem shortened_shortened (text : Text) : shortened (shortened text) = shortened text := by
  by_cases hlong : 50 < text.length
  · have hcut : (text.take 50).length = 50 := by
      rw [List.length_take]
      omega
    have hshort : shortened text = text.take 50 ++ ['.', '.', '.'] := if_pos hlong
    have hstill : 50 < (text.take 50 ++ ['.', '.', '.']).length := by
      rw [List.length_append, hcut]
      decide
    rw [hshort, shortened, if_pos hstill, List.take_left' hcut]
  · have hshort : shortened text = text := if_neg hlong
    rw [hshort, hshort]

theorem length_abridgedAll (nodes : List Node) : (abridgedAll nodes).length = nodes.length := by
  induction nodes with
  | nil => rfl
  | cons node rest ih => rw [abridgedAll, List.length_cons, List.length_cons, ih]

/-- A node says the same of itself when the tree is abridged. -/
theorem label_abridged : ∀ node : Node, label (abridged node) = label node
  | .literal text =>
    congrArg (fun shown => Text.of "LiteralNode(" ++ Text.quoted shown ++ [')']) (shortened_shortened text)
  | .block statements =>
    congrArg (fun n => Text.of "BlockNode[" ++ Text.ofNat n ++ [']']) (length_abridgedAll statements)
  | .variable _ | .conditional _ _ | .other _ => rfl

theorem placedLine_abridged (indent : Int) (node : Node) (depth : Nat) :
    placedLine indent (abridged node, depth) = placedLine indent (node, depth) := by
  rw [placedLine, placedLine, outlineLine, outlineLine, label_abridged]

mutual

theorem map_placed_abridged (indent : Int) (depth : Nat) : ∀ node : Node,
    (placed depth (abridged node)).map (placedLine indent) =
      (placed depth node).map (placedLine indent)
  | .block statements => by
    have hroot := placedLine_abridged indent (.block statements) depth
    have hbelow := map_placedAll_abridged indent (depth + 1) statements
    rw [abridged] at hroot ⊢
    rw [placed, placed, List.map_cons, List.map_cons, hroot, hbelow]
  | .conditional condition body => by
    have hbody := placedLine_abridged indent (.block body) (depth + 1)
    have hbelow := map_placedAll_abridged indent (depth + 2) body
    rw [abridged] at hbody
    rw [abridged, placed, placed]
    simp only [List.map_cons, hbody, hbelow]
    rfl
  | .literal text => congrArg (fun line => [line]) (placedLine_abridged indent (.literal text) depth)
  | .variable _ | .other _ => rfl

theorem map_placedAll_abridged (indent : Int) (depth : Nat) : ∀ nodes : List Node,
    (placedAll depth (abridgedAll nodes)).map (placedLine indent) =
      (placedAll depth nodes).map (placedLine indent)
  | [] => rfl
  | node :: rest => by
    rw [abridgedAll, placedAll, placedAll, List.map_append, List.map_append,
      map_placed_abridged indent depth node, map_placedAll_abridged indent depth rest]

end

/-- Abridging a tree does not change its outline. -/
theorem outline_abridged (indent : Int) (node : Node) :
    outline indent (abridged node) = outline indent node := by
  rw [outline, outline, outlineLines_eq, outlineLines_eq, map_placed_abridged]

/-! ## Labels -/

/-- Two nodes are the same but for the ends of long literals and for what is below them. -/
inductive SameRoot : Node → Node → Prop where
  | literal {s t : Text} (h : shortened s = shortened t) : SameRoot (.literal s) (.literal t)
  | variable (name : Text) : SameRoot (.variable name) (.variable name)
  | block {first second : List Node} (h : first.length = second.length) :
    SameRoot (.block first) (.block second)
  | conditional (condition : Text) (first second : List Node) :
    SameRoot (.conditional condition first) (.conditional condition second)

/-- The character that the label of a node begins with. -/
def initial : Node → Option Char
  | .literal _ => some 'L'
  | .variable _ => some 'V'
  | .block _ => some 'B'
  | .conditional _ _ => some 'C'
  | .other label => label.head?

theorem head?_label (node : Node) : node.label.head? = node.initial := by
  cases node <;> rfl

/-- What stands between the same brackets is the same. -/
theorem eq_of_between {opening closing inner other : Text}
    (h : opening ++ inner ++ closing = opening ++ other ++ closing) : inner = other :=
  List.append_cancel_left (List.append_cancel_right h)

/-- **A label says all of a node** but the end of a long literal and what is below it. -/
theorem sameRoot_of_label {a b : Node} (ha : ∀ name, a ≠ .other name) (hb : ∀ name, b ≠ .other name)
    (h : label a = label b) : SameRoot a b := by
  -- nodes of two kinds differ in the first character already
  have hinitial : a.initial = b.initial := by rw [← head?_label, ← head?_label, h]
  cases a with
  | literal s =>
    cases b with
    | literal t => exact .literal (Text.quoted_injective (eq_of_between h))
    | other name => exact absurd rfl (hb name)
    | _ => simp [initial] at hinitial
  | «variable» s =>
    cases b with
    | «variable» t =>
      have hname : s = t := Text.quoted_injective (eq_of_between h)
      rw [hname]
      exact .variable t
    | other name => exact absurd rfl (hb name)
    | _ => simp [initial] at hinitial
  | block first =>
    cases b with
    | block second => exact .block (Text.ofNat_injective (eq_of_between h))
    | other name => exact absurd rfl (hb name)
    | _ => simp [initial] at hinitial
  | conditional s first =>
    cases b with
    | conditional t second =>
      have hcondition : s = t := Text.quoted_injective (eq_of_between h)
      rw [hcondition]
      exact .conditional t first second
    | other name => exact absurd rfl (hb name)
    | _ => simp [initial] at hinitial
  | other name => exact absurd rfl (ha name)

/-! ## Trees from labels -/

/-- The labels of some nodes. -/
def labels (nodes : List Node) : List Text :=
  nodes.map label

theorem labels_append (first second : List Node) :
    labels (first ++ second) = labels first ++ labels second :=
  List.map_append

theorem preorderAll_singleton (node : Node) : preorderAll [node] = preorder node := by
  rw [preorderAll, preorderAll, List.append_nil]

/-- The first label says all of the root, and the others are those of what is below it. -/
theorem sameRoot_of_labels {a b : Node} {rest others : List Text} (ha : Known a) (hb : Known b)
    (h : labels (preorder a) ++ rest = labels (preorder b) ++ others) :
    SameRoot a b ∧ labels (preorderAll a.children) ++ rest = labels (preorderAll b.children) ++ others := by
  rw [preorder_eq a, preorder_eq b] at h
  obtain ⟨hlabel, hbelow⟩ := List.cons.inj h
  exact ⟨sameRoot_of_label ha.root hb.root hlabel, hbelow⟩

mutual

/-- **The labels of a tree, in pre-order, give the abridged tree back**, and they end where it ends. -/
theorem abridged_of_labels {rest others : List Text} : ∀ a b : Node, Known a → Known b →
    labels (preorder a) ++ rest = labels (preorder b) ++ others →
      abridged a = abridged b ∧ rest = others
  | .literal s, b, ha, hb, h => by
    obtain ⟨hsame, hbelow⟩ := sameRoot_of_labels ha hb h
    cases hsame with
    | literal hshort => exact ⟨congrArg Node.literal hshort, hbelow⟩
  | .variable s, b, ha, hb, h => by
    obtain ⟨hsame, hbelow⟩ := sameRoot_of_labels ha hb h
    cases hsame
    exact ⟨rfl, hbelow⟩
  | .block first, b, ha, hb, h => by
    obtain ⟨hsame, hbelow⟩ := sameRoot_of_labels ha hb h
    cases hsame with
    | @block _ second hlength =>
      obtain ⟨hall, hrest⟩ :=
        abridgedAll_of_labels first second hlength ha.children hb.children hbelow
      exact ⟨congrArg Node.block hall, hrest⟩
  | .conditional condition first, b, ha, hb, h => by
    obtain ⟨hsame, hbelow⟩ := sameRoot_of_labels ha hb h
    cases hsame with
    | conditional _ _ second =>
      -- the block of the body has a label of its own, which tells how many statements there are
      rw [children, children, preorderAll_singleton, preorderAll_singleton] at hbelow
      obtain ⟨hbody, hinside⟩ := sameRoot_of_labels ha.body hb.body hbelow
      cases hbody with
      | block hlength =>
        obtain ⟨hall, hrest⟩ :=
          abridgedAll_of_labels first second hlength ha.body.children hb.body.children hinside
        exact ⟨congrArg (Node.conditional condition) hall, hrest⟩
  | .other name, _, ha, _, _ => absurd List.mem_cons_self (ha name)

/-- The labels of so many trees in a row give the abridged trees back. -/
theorem abridgedAll_of_labels {rest others : List Text} : ∀ first second : List Node,
    first.length = second.length → KnownAll first → KnownAll second →
      labels (preorderAll first) ++ rest = labels (preorderAll second) ++ others →
        abridgedAll first = abridgedAll second ∧ rest = others
  | [], [], _, _, _, h => ⟨rfl, h⟩
  | a :: first, b :: second, hlength, ha, hb, h => by
    rw [preorderAll, preorderAll, labels_append, labels_append, List.append_assoc,
      List.append_assoc] at h
    obtain ⟨hhead, htail⟩ := abridged_of_labels a b ha.head hb.head h
    obtain ⟨hall, hrest⟩ :=
      abridgedAll_of_labels first second (Nat.succ.inj hlength) ha.tail hb.tail htail
    rw [abridgedAll, abridgedAll, hhead, hall]
    exact ⟨rfl, hrest⟩

end

/-! ## Labels from an outline -/

theorem dropWhile_spaces (n : Nat) {s : Text} (h : s.head? ≠ some ' ') :
    (List.replicate n ' ' ++ s).dropWhile (· == ' ') = s := by
  rw [List.dropWhile_append_of_pos]
  · cases s with
    | nil => rfl
    | cons c rest =>
      have hc : ¬ (c == ' ') = true := fun hsame => h (congrArg some (beq_iff_eq.1 hsame))
      exact List.dropWhile_cons_of_neg hc
  · intro c hc
    rw [List.eq_of_mem_replicate hc]
    rfl

/-- A line of an outline without its indentation. -/
def lineLabel (line : Text) : Text :=
  line.dropWhile (· == ' ')

theorem lineLabel_placedLine {place : Node × Nat} (h : ∀ name, place.1 ≠ .other name) (indent : Int) :
    lineLabel (placedLine indent place) = label place.1 := by
  refine dropWhile_spaces _ ?_
  rw [head?_label]
  cases hroot : place.1 with
  | other name => exact absurd hroot (h name)
  | _ => simp [initial]

/-- The lines of an outline hold the labels, whatever the indentation is. -/
theorem Known.map_lineLabel {node : Node} (h : Known node) (indent : Int) :
    (outlineLines indent node).map lineLabel = labels (preorder node) := by
  rw [outlineLines_eq, List.map_map, ← map_fst_placed 0 node, labels, List.map_map]
  refine List.map_congr_left fun place hplace => lineLabel_placedLine (fun name hname => ?_) indent
  refine h name ?_
  rw [← hname, ← map_fst_placed 0 node]
  exact List.mem_map_of_mem hplace

/-- **An outline tells a tree but for the ends of long literals.**  Two trees of literals, variables, blocks
and conditionals have the same outline exactly if they are the same when every literal of more than
fifty characters is cut off behind them, with three dots in place of the rest. -/
theorem outline_eq_iff (a b : Node) (ha : Known a) (hb : Known b) (indent : Int) :
    outline indent a = outline indent b ↔ abridged a = abridged b := by
  constructor
  · intro h
    have hlines : outlineLines indent a = outlineLines indent b := by
      rw [← ha.oneLine.splitLines_outline, ← hb.oneLine.splitLines_outline, h]
    have hlabels : labels (preorder a) ++ [] = labels (preorder b) ++ [] := by
      rw [← ha.map_lineLabel indent, ← hb.map_lineLabel indent, hlines]
    exact (abridged_of_labels a b ha hb hlabels).1
  · intro h
    rw [← outline_abridged indent a, ← outline_abridged indent b, h]

/-- A literal of sixty characters looks like its first fifty with three dots; a quote looks like no
backslash and quote, and two blocks look like no block in another. -/
theorem outline_eq_iff_literals :
    outline 0 (.literal (List.replicate 60 'x')) =
        outline 0 (.literal (List.replicate 50 'x' ++ ['.', '.', '.'])) ∧
      outline 0 (.literal ['\'']) ≠ outline 0 (.literal ['\\', '\'']) ∧
      outline (-9) (.block [.block [], .block []]) ≠ outline (-9) (.block [.block [.block []]]) := by
  have hliteral (text : Text) : Known (.literal text) := by simp [Known, preorder]
  have hblocks : Known (.block [.block [], .block []]) ∧ Known (.block [.block [.block []]]) := by
    simp [Known, preorder, preorderAll]
  refine ⟨(outline_eq_iff _ _ (hliteral _) (hliteral _) 0).2 rfl, fun h => ?_, fun h => ?_⟩
  · have hsame := (outline_eq_iff _ _ (hliteral _) (hliteral _) 0).1 h
    simp [abridged, shortened] at hsame
  · have hsame := (outline_eq_iff _ _ hblocks.1 hblocks.2 (-9)).1 h
    simp [abridged, abridgedAll] at hsame

end Node

end Stencil
