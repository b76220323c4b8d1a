import Prologue.Tree.Node

/-! Syntax trees as flat lists: each node with the number of its children, before them. -/

namespace Prologue

structure PreorderEntry where
  info : NodeInfo
  childCount : Nat
deriving DecidableEq, Repr

namespace Node

/-- The next `count` subtrees of a flat list. The fuel is the length of the list. -/
def takeSubtrees : (fuel count : Nat) → List PreorderEntry → Option (List Node × List PreorderEntry)
  | _, 0, rest => some ([], rest)
  | 0, _ + 1, _ => none
  | _ + 1, _ + 1, [] => none
  | fuel + 1, count + 1, entry :: rest => do
    let (children, rest) ← takeSubtrees fuel entry.childCount rest
    let (siblings, rest) ← takeSubtrees fuel count rest
    some (.mk entry.info children :: siblings, rest)

/-- The tree of a flat list, which must hold nothing else. -/
def ofPreorder? (entries : List PreorderEntry) : Option Node :=
  match takeSubtrees (entries.length + 1) 1 entries with
  | some ([root], []) => some root
  | _ => none

mutual
/-- The flat list of a tree. -/
def preorder : Node → List PreorderEntry
  | .mk info children => ⟨info, children.length⟩ :: preorderOf children
termination_by structural node => node

def preorderOf : List Node → List PreorderEntry
  | [] => []
  | child :: rest => child.preorder ++ preorderOf rest
termination_by structural nodes => nodes
end

end Node

end Prologue
