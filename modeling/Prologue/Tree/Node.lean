import Prologue.Span
import Prologue.Text.Blank

/-! Syntax trees as a grammar delivers them: every node with its kind, its place and its flags, the anonymous
tokens and the comments among the children. -/

namespace Prologue

/-- A place of a node's end: bytes, rows and columns, all counted from zero. -/
structure Point where
  byte : Nat
  row : Nat
  col : Nat
deriving DecidableEq, Repr

/-- What a node says of itself. -/
structure NodeInfo where
  /-- The grammar's name of the node; for an anonymous token, its text. -/
  kind : String
  named : Bool
  /-- The node covers text that fits no rule. -/
  isError : Bool
  /-- The node stands for text that a rule needs and the source lacks. -/
  isMissing : Bool
  /-- An error or missing node was met in the node or below it. -/
  hasError : Bool
  /-- The role of the node in its parent. -/
  field : Option String
  start : Point
  stop : Point
deriving DecidableEq, Repr

inductive Node where
  | mk (info : NodeInfo) (children : List Node)
deriving Repr

namespace Node

def info : Node → NodeInfo
  | .mk info _ => info

def children : Node → List Node
  | .mk _ children => children

def kind (node : Node) : String := node.info.kind

def named (node : Node) : Bool := node.info.named

def span (node : Node) : Span :=
  { startLine := node.info.start.row + 1
    startCol := node.info.start.col
    endLine := node.info.stop.row + 1
    endCol := node.info.stop.col }

/-- The source text of a node; empty if its bytes do not bound characters. -/
def text (source : List Char) (node : Node) : String :=
  String.ofList ((sliceBytes source node.info.start.byte node.info.stop.byte).getD [])

/-- The first child in a role. -/
def child? (field : String) (node : Node) : Option Node :=
  node.children.find? fun child => child.info.field = some field

/-- The leftmost leaf. -/
def firstLeaf : Node → Node
  | .mk info [] => .mk info []
  | .mk _ (child :: _) => child.firstLeaf
termination_by structural node => node

mutual
/-- The nodes below a node, each before the nodes below it. -/
def descendants : Node → List Node
  | .mk _ children => descendantsOf children
termination_by structural node => node

def descendantsOf : List Node → List Node
  | [] => []
  | child :: rest => child :: (child.descendants ++ descendantsOf rest)
termination_by structural nodes => nodes
end

/-- A comment, or the line that names an interpreter: it precedes the first statement the same way. -/
def isComment (node : Node) : Bool :=
  node.kind = "comment" || node.kind = "html_comment" || node.kind = "hash_bang_line"

end Node

end Prologue
