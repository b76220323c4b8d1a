import Prologue.Scope.Basic

/-! The strict-mode directive at the head of a body. -/

namespace Prologue

def useStrict : String := "use strict"

/-- Whether a statement is the directive: an expression statement of that string literal. -/
def Stmt.isUseStrict (stmt : Stmt) : Bool :=
  match stmt.expression? with
  | some expr => expr.stringLiteral? = some useStrict
  | none => false

/-- The directive that heads a body. Only the first statement can be it. -/
def directive? : List Stmt → Option Stmt
  | [] => none
  | stmt :: _ => if stmt.isUseStrict then some stmt else none

end Prologue
