import Prologue.Error
import Prologue.SourceFile
import Prologue.Tree.Sexp

/-! From a source text with its syntax tree to scopes, syntax errors and the tree's own notation. -/

namespace Prologue

/-- The tree of a source. No grammar reads an unknown language. -/
def grammarTree (language : Language) (tree : Option Node) : Except Error Node :=
  match language, tree with
  | .unknown, _ => .error (.unsupportedLanguage "Cannot parse unknown language")
  | _, none => .error (.source .noTree)
  | _, some root => .ok root

/-- The scopes of a source, unless its tree has a syntax error. -/
def parseSource (language : Language) (source : String) (tree : Option Node) : Except Error SourceFile :=
  match grammarTree language tree with
  | .error error => .error error
  | .ok root =>
    match root.faults source.toList with
    | first :: _ => .error (.source (.malformed first))
    | [] => .ok (.ofTree language source root)

def syntaxFaults (language : Language) (source : String) (tree : Option Node) : Except Error (List SyntaxFault) :=
  (grammarTree language tree).map fun root => root.faults source.toList

def sourceSexp (language : Language) (tree : Option Node) : Except Error String :=
  (grammarTree language tree).map Node.sexp

end Prologue
