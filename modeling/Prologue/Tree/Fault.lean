import Prologue.Tree.Node

/-! Syntax errors: the outermost nodes of a tree that stand for unexpected or for missing text. -/

namespace Prologue

/-- A syntax error with the source text at its start. -/
structure SyntaxFault where
  message : String
  span : Span
  sourceText : List Char
deriving DecidableEq, Repr

/-- At most this many bytes of a line are shown. -/
def excerptLimit : Nat := 100

/-- The text of a line from the start of a span, cut at the limit. It is empty where the cut falls inside a
character, or the span starts on no line. -/
def excerpt (source : List Char) (span : Span) : List Char :=
  if span.startLine = 0 then []
  else
    match (lines source)[span.startLine - 1]? with
    | none => []
    | some line =>
      let start := min span.startCol (byteLength line)
      let stop := min (start + excerptLimit) (byteLength line)
      (sliceBytes line start stop).getD []

namespace Node

def fault (source : List Char) (message : String) (node : Node) : SyntaxFault :=
  { message, span := node.span, sourceText := excerpt source node.span }

mutual
/-- The faults of a tree in the order of the source. Nodes without the error flag are not searched, and nothing
is reported below a node that is reported. -/
def faults (source : List Char) : Node → List SyntaxFault
  | .mk info children =>
    if !info.hasError then []
    else if info.isError then [fault source "unexpected syntax" (.mk info children)]
    else if info.isMissing then [fault source ("missing '" ++ info.kind ++ "'") (.mk info children)]
    else faultsOf source children
termination_by structural node => node

def faultsOf (source : List Char) : List Node → List SyntaxFault
  | [] => []
  | child :: rest => child.faults source ++ faultsOf source rest
termination_by structural nodes => nodes
end

end Node

end Prologue
