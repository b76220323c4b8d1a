import Prologue.Tree.Fault

/-! The nodes of a tree, the root included, and the one induction that all statements about trees use. -/

namespace Prologue.Node

/-- A statement holds of every tree if it passes from the children of a node to the node. -/
@[elab_as_elim]
theorem tree_induction {motive : Node → Prop}
    (step : ∀ info children, (∀ child ∈ children, motive child) → motive (.mk info children)) (node : Node) :
    motive node := by
  refine @Node.rec motive (fun nodes => ∀ child ∈ nodes, motive child) ?_ ?_ ?_ node
  · intro info children below
    exact step info children below
  · intro child member
    cases member
  · intro first rest holds below child member
    rcases List.mem_cons.mp member with rfl | member
    · exact holds
    · exact below child member

/-- A node and all nodes below it. -/
def subtrees (node : Node) : List Node := node :: node.descendants

theorem descendantsOf_eq_flatMap (nodes : List Node) : descendantsOf nodes = nodes.flatMap subtrees := by
  induction nodes with
  | nil => rfl
  | cons node rest ih =>
    rw [descendantsOf, ih, List.flatMap_cons, subtrees, List.cons_append]

theorem descendants_eq_flatMap (node : Node) : node.descendants = node.children.flatMap subtrees := by
  cases node with
  | mk info children => rw [descendants, descendantsOf_eq_flatMap, Node.children]

theorem faultsOf_eq_flatMap (source : List Char) (nodes : List Node) :
    faultsOf source nodes = nodes.flatMap (faults source) := by
  induction nodes with
  | nil => rfl
  | cons node rest ih => rw [faultsOf, ih, List.flatMap_cons]

theorem mem_descendants (root node : Node) :
    node ∈ root.descendants ↔ ∃ child ∈ root.children, node ∈ child.subtrees := by
  rw [descendants_eq_flatMap, List.mem_flatMap]

theorem self_mem_subtrees (node : Node) : node ∈ node.subtrees := List.mem_cons_self

theorem child_mem_descendants (node child : Node) (member : child ∈ node.children) : child ∈ node.descendants :=
  (mem_descendants node child).mpr ⟨child, member, self_mem_subtrees child⟩

theorem mem_subtrees_of_mem_descendants {root node : Node} (member : node ∈ root.descendants) :
    node ∈ root.subtrees :=
  List.mem_cons_of_mem _ member

/-- What lies below a node lies below every node above it. -/
theorem mem_descendants_trans (root node below : Node) (first : node ∈ root.subtrees)
    (second : below ∈ node.descendants) : below ∈ root.descendants := by
  induction root using tree_induction with
  | step info children ih =>
    rcases List.mem_cons.mp first with rfl | first
    · exact second
    · obtain ⟨child, member, inside⟩ := (mem_descendants _ _).mp first
      exact (mem_descendants _ _).mpr
        ⟨child, member, mem_subtrees_of_mem_descendants (ih child member inside)⟩

theorem child_mem_of_mem_subtrees {root node child : Node} (inside : node ∈ root.subtrees)
    (member : child ∈ node.children) : child ∈ root.descendants :=
  mem_descendants_trans root node child inside (child_mem_descendants node child member)

theorem mem_subtrees_trans (root node below : Node) (first : node ∈ root.subtrees) (second : below ∈ node.subtrees) :
    below ∈ root.subtrees := by
  rcases List.mem_cons.mp second with rfl | second
  · exact first
  · exact mem_subtrees_of_mem_descendants (mem_descendants_trans root node below first second)

theorem mem_subtrees_of_child (node child below : Node) (member : child ∈ node.children)
    (inside : below ∈ child.subtrees) : below ∈ node.subtrees :=
  mem_subtrees_trans node child below (mem_subtrees_of_mem_descendants (child_mem_descendants node child member)) inside

theorem firstLeaf_mem_subtrees (node : Node) : node.firstLeaf ∈ node.subtrees := by
  induction node using tree_induction with
  | step info children ih =>
    cases children with
    | nil => exact self_mem_subtrees _
    | cons first rest =>
      rw [firstLeaf]
      exact mem_subtrees_of_child _ first _ List.mem_cons_self (ih first List.mem_cons_self)

end Prologue.Node
