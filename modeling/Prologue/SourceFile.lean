import Prologue.Language
import Prologue.Scope.Literal
import Prologue.Sha256
import Prologue.Tree.Fault
import Prologue.Trivia

/-! The scopes of a source file, made from its syntax tree. The program comes first and every function-like node
after it in the order of the source; statements are numbered in that order. -/

namespace Prologue

structure SourceFile where
  language : Language
  scopes : List Scope
  trivia : Trivia
  sourceHash : String
deriving Repr

namespace Node

def comment (source : List Char) (node : Node) : Comment :=
  let text := node.text source
  { kind := if text.toList.take 2 = ['/', '*'] then .block else .line
    span := node.span
    text }

/-- The value of a string or template: its fragments as they are and its escape sequences decoded. -/
def cooked (source : List Char) (node : Node) : String :=
  String.ofList ((node.children.filter named).flatMap fun child =>
    if child.kind = "string_fragment" then (child.text source).toList
    else if child.kind = "escape_sequence" then decodeEscape (child.text source).toList
    else [])

/-- The expression of a node that is not in parentheses. -/
def bareExpr (source : List Char) (node : Node) : Expr :=
  let kind : ExprKind :=
    if node.kind = "string" then .literal (.string (node.cooked source))
    else if node.kind = "template_string" then
      if (node.children.filter named).any fun child => child.kind = "template_substitution" then .other node.kind
      else .literal (.template (node.cooked source))
    else if node.kind = "number" then .literal (.number (numberValue (node.text source).toList))
    else if node.kind = "true" then .literal (.boolean true)
    else if node.kind = "false" then .literal (.boolean false)
    else if node.kind = "null" then .literal .null
    else if node.kind = "regex" then .literal (.regex (node.text source))
    else .other node.kind
  { kind, span := node.span }

/-- Whether a child is what its parent is about: named, and no comment. -/
def isContent (node : Node) : Bool := node.named && !node.isComment

mutual
/-- The expression of a node. Parentheses are not part of it. -/
def expr (source : List Char) : Node → Expr
  | .mk info children =>
    if info.kind = "parenthesized_expression" then
      (contentExpr source children).getD { kind := .other info.kind, span := (Node.mk info children).span }
    else bareExpr source (.mk info children)
termination_by structural node => node

/-- The expression of the first child that is content. -/
def contentExpr (source : List Char) : List Node → Option Expr
  | [] => none
  | child :: rest => if child.isContent then some (child.expr source) else contentExpr source rest
termination_by structural nodes => nodes
end

def stmtKind (source : List Char) (node : Node) : StmtKind :=
  if node.kind = "expression_statement" then
    match contentExpr source node.children with
    | some expr => .expression expr
    | none => .other node.kind
  else .other node.kind

/-- The children up to the last one that is no comment, and the comments after it. -/
def splitTrailing (children : List Node) : List Node × List Node :=
  let comments := (children.reverse.takeWhile isComment).reverse
  (children.take (children.length - comments.length), comments)

/-- The span of a statement without the comments that the grammar counts as its last children, and these
comments. A statement of comments only keeps them. -/
def trimmed (source : List Char) (node : Node) : Span × List Comment :=
  let (kept, comments) := splitTrailing node.children
  match kept.getLast?, comments with
  | some last, _ :: _ =>
    ({ node.span with endLine := last.span.endLine, endCol := last.span.endCol }, comments.map (comment source))
  | _, _ => (node.span, [])

def token (node : Node) : Token := { kind := node.kind, span := node.span }

/-- What stands around a child between its siblings, those before it given from the nearest on. -/
def surroundings (source : List Char) (inner : List Comment) (before after : List Node) : Surroundings :=
  { leading := (before.takeWhile isComment).reverse.map (comment source)
    trailing := inner ++ (after.takeWhile isComment).map (comment source)
    nextToken := (after.find? fun node => !node.isComment).map fun node => node.firstLeaf.token }

/-- A statement with its surroundings. -/
structure Placed where
  stmt : Stmt
  surroundings : Surroundings
deriving DecidableEq, Repr

/-- The statements among siblings, numbered from `next` on. -/
def placeStmts (source : List Char) : (next : StmtId) → (before : List Node) → List Node → List Placed
  | _, _, [] => []
  | next, before, child :: after =>
    if child.isContent then
      let (span, inner) := child.trimmed source
      { stmt := { id := next, kind := child.stmtKind source, span }
        surroundings := surroundings source inner before after } ::
        placeStmts source (next + 1) (child :: before) after
    else placeStmts source next (child :: before) after

/-- The statements of a program or block. -/
def body (source : List Char) (next : StmtId) (container : Node) : List Placed :=
  placeStmts source next [] container.children

def functionKind? (node : Node) : Option FunctionKind :=
  if node.kind = "function_declaration" ∨ node.kind = "generator_function_declaration" then some .declaration
  else if node.kind = "function_expression" ∨ node.kind = "function" ∨ node.kind = "generator_function" then
    some .expression
  else if node.kind = "arrow_function" then some .arrow
  else if node.kind = "method_definition" then some .method
  else none

/-- A scope with its statements placed. -/
structure PlacedScope where
  scope : Scope
  placed : List Placed
deriving DecidableEq, Repr

/-- The scope of a function-like node. A signature without a body has none. -/
def functionScope? (source : List Char) (next : StmtId) (node : Node) : Option PlacedScope := do
  let kind ← node.functionKind?
  let bodyNode ← node.child? "body"
  let name := (node.child? "name").map (text source)
  if bodyNode.kind = "statement_block" then
    let placed := bodyNode.body source next
    some { scope := .function { kind, name, body := .block (placed.map Placed.stmt), span := node.span }, placed }
  else
    some
      { scope := .function { kind, name, body := .expression (bodyNode.expr source), span := node.span }
        placed := [] }

/-- The scopes of those nodes that have one, their statements numbered from `next` on. -/
def functionScopes (source : List Char) : (next : StmtId) → List Node → List PlacedScope
  | _, [] => []
  | next, node :: rest =>
    match node.functionScope? source next with
    | some placed => placed :: functionScopes source (next + placed.placed.length) rest
    | none => functionScopes source next rest

def programScope (source : List Char) (root : Node) : PlacedScope :=
  let placed := root.body source 0
  { scope := .program (placed.map Placed.stmt) root.span, placed }

/-- All scopes of a tree. -/
def placedScopes (source : List Char) (root : Node) : List PlacedScope :=
  let program := root.programScope source
  program :: functionScopes source program.placed.length root.descendants

def triviaOf (scopes : List PlacedScope) : Trivia :=
  .ofList ((scopes.flatMap PlacedScope.placed).map fun placed => (placed.stmt.id, placed.surroundings))

end Node

namespace SourceFile

def hash (source : String) : String := "sha256:" ++ Sha256.shortHex source.toUTF8.toList

/-- The file of a source text and its syntax tree. -/
def ofTree (language : Language) (source : String) (root : Node) : SourceFile :=
  let scopes := root.placedScopes source.toList
  { language
    scopes := scopes.map Node.PlacedScope.scope
    trivia := Node.triviaOf scopes
    sourceHash := hash source }

/-- The statements of the first program scope. -/
def programBody? (file : SourceFile) : Option (List Stmt) :=
  file.scopes.findSome? fun
    | .program body _ => some body
    | .function _ => none

def functions (file : SourceFile) : List Function :=
  file.scopes.filterMap fun
    | .program _ _ => none
    | .function f => some f

end SourceFile

end Prologue
