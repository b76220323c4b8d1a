import Prologue.Binary64.Basic
import Prologue.Span

/-! The view of a source file that rules work on: scopes that can start with a directive, their statements, and
of each statement the shape of its expression. -/

namespace Prologue

/-- The number of a statement in its file. -/
abbrev StmtId := Nat

inductive Literal where
  | string (value : String)
  | number (value : Binary64)
  | boolean (value : Bool)
  | null
  | regex (pattern : String)
  | template (value : String)
deriving DecidableEq, Repr

inductive ExprKind where
  | literal (value : Literal)
  /-- Any other expression, by the grammar's name. -/
  | other (kind : String)
deriving DecidableEq, Repr

structure Expr where
  kind : ExprKind
  span : Span
deriving DecidableEq, Repr

inductive StmtKind where
  | expression (expr : Expr)
  /-- Any other statement, by the grammar's name. -/
  | other (kind : String)
deriving DecidableEq, Repr

structure Stmt where
  id : StmtId
  kind : StmtKind
  span : Span
deriving DecidableEq, Repr

inductive FunctionKind where
  | declaration
  | expression
  | arrow
  | method
deriving DecidableEq, Repr

inductive FunctionBody where
  | block (body : List Stmt)
  /-- The body of an arrow function without braces. -/
  | expression (expr : Expr)
deriving DecidableEq, Repr

structure Function where
  kind : FunctionKind
  name : Option String
  body : FunctionBody
  span : Span
deriving DecidableEq, Repr

inductive Scope where
  | program (body : List Stmt) (span : Span)
  | function (f : Function)
deriving DecidableEq, Repr

/-- The kinds of scope that a rule can subscribe to. -/
inductive ScopeKind where
  | program
  | functionDeclaration
  | functionExpression
  | arrowFunctionExpression
deriving DecidableEq, Repr

def ScopeKind.all : List ScopeKind :=
  [.program, .functionDeclaration, .functionExpression, .arrowFunctionExpression]

/-- The string that an expression denotes, if it is a string literal. -/
def Expr.stringLiteral? (expr : Expr) : Option String :=
  match expr.kind with
  | .literal (.string value) => some value
  | _ => none

def Stmt.expression? (stmt : Stmt) : Option Expr :=
  match stmt.kind with
  | .expression expr => some expr
  | .other _ => none

def FunctionKind.scopeKind : FunctionKind → ScopeKind
  | .declaration => .functionDeclaration
  | .expression => .functionExpression
  | .method => .functionExpression
  | .arrow => .arrowFunctionExpression

namespace Scope

def kind : Scope → ScopeKind
  | .program _ _ => .program
  | .function f => f.kind.scopeKind

/-- The statements of a scope; an arrow function without braces has none. -/
def body? : Scope → Option (List Stmt)
  | .program body _ => some body
  | .function f =>
    match f.body with
    | .block body => some body
    | .expression _ => none

def span : Scope → Span
  | .program _ span => span
  | .function f => f.span

end Scope

end Prologue
