import Prologue.Tree.Node

/-! Syntax trees as S-expressions. -/

namespace Prologue.Node

/-- Whether a node is written: anonymous tokens are left out, unless they are missing. -/
def shown (info : NodeInfo) : Bool := info.named || info.isMissing

/-- The head of a written node. -/
def sexpHead (info : NodeInfo) : String :=
  if info.isMissing then "(MISSING " ++ (if info.named then info.kind else "\"" ++ info.kind ++ "\"")
  else "(" ++ info.kind

mutual
/-- A node below the root, with a space before it if it is written. -/
def sexpBelow : Node → String
  | .mk info children =>
    if shown info then
      " " ++ (match info.field with
        | some field => field ++ ": "
        | none => "") ++ sexpHead info ++ sexpChildren children ++ ")"
    else sexpChildren children
termination_by structural node => node

def sexpChildren : List Node → String
  | [] => ""
  | child :: rest => child.sexpBelow ++ sexpChildren rest
termination_by structural nodes => nodes
end

/-- The S-expression of a tree; the root is always written. -/
def sexp (root : Node) : String := sexpHead root.info ++ sexpChildren root.children ++ ")"

end Prologue.Node
