import Prologue.Encoding.Decoder
import Prologue.Trivia

/-! The JSON forms of scopes, statements and what stands around them. -/

namespace Prologue

open Json (record? variant? plainVariant? list? optional? text? word32? word64?)

def Span.toJson (span : Span) : Json :=
  .object
    [("start_line", .nat span.startLine), ("start_col", .nat span.startCol),
      ("end_line", .nat span.endLine), ("end_col", .nat span.endCol)]

def Span.ofJson? (value : Json) : Option Span :=
  match record? ["start_line", "start_col", "end_line", "end_col"] value with
  | some [some startLine, some startCol, some endLine, some endCol] => do
    some ⟨← word64? startLine, ← word64? startCol, ← word64? endLine, ← word64? endCol⟩
  | _ => none

def CommentKind.text : CommentKind → String
  | .line => "Line"
  | .block => "Block"

def CommentKind.ofText? (text : String) : Option CommentKind := [line, block].find? fun kind => kind.text = text

def Comment.toJson (comment : Comment) : Json :=
  .object [("kind", .string comment.kind.text), ("span", comment.span.toJson), ("text", .string comment.text)]

def Comment.ofJson? (value : Json) : Option Comment :=
  match record? ["kind", "span", "text"] value with
  | some [some kind, some span, some text] => do
    some ⟨← (plainVariant? kind).bind CommentKind.ofText?, ← Span.ofJson? span, ← text? text⟩
  | _ => none

def Token.toJson (token : Token) : Json :=
  .object [("kind", .string token.kind), ("span", token.span.toJson)]

def Token.ofJson? (value : Json) : Option Token :=
  match record? ["kind", "span"] value with
  | some [some kind, some span] => do some ⟨← text? kind, ← Span.ofJson? span⟩
  | _ => none

def Json.ofOption {α : Type} (encode : α → Json) : Option α → Json
  | some value => encode value
  | none => .null

def Json.ofList {α : Type} (encode : α → Json) (values : List α) : Json := .array (values.map encode)

def Surroundings.toJson (surroundings : Surroundings) : Json :=
  .object
    [("leading", .ofList Comment.toJson surroundings.leading),
      ("trailing", .ofList Comment.toJson surroundings.trailing),
      ("next_token", .ofOption Token.toJson surroundings.nextToken)]

def Surroundings.ofJson? (value : Json) : Option Surroundings :=
  match record? ["leading", "trailing", "next_token"] value with
  | some [some leading, some trailing, next] => do
    some ⟨← list? Comment.ofJson? leading, ← list? Comment.ofJson? trailing, ← optional? Token.ofJson? next⟩
  | _ => none

/-- A double by its bits, so that nothing of it is lost. -/
def Binary64.toJson : Binary64 → Json
  | .nan => .string "NaN"
  | value => .string (hexText 16 value.bits)

def Literal.toJson : Literal → Json
  | .string value => .object [("String", .string value)]
  | .number value => .object [("Number", value.toJson)]
  | .boolean value => .object [("Boolean", .bool value)]
  | .null => .string "Null"
  | .regex pattern => .object [("Regex", .string pattern)]
  | .template value => .object [("Template", .string value)]

def Literal.ofJson? (value : Json) : Option Literal :=
  match variant? value with
  | some ("String", some value) => (text? value).map .string
  | some ("Number", some value) => (Json.binary64? value).map .number
  | some ("Boolean", some value) => (Json.boolean? value).map .boolean
  | some ("Regex", some value) => (text? value).map .regex
  | some ("Template", some value) => (text? value).map .template
  | _ => if plainVariant? value = some "Null" then some .null else none

/-- The name of a kind that the model does not look into. -/
def otherKind? (value : Json) : Option String :=
  match record? ["kind"] value with
  | some [some kind] => text? kind
  | _ => none

def otherToJson (kind : String) : Json := .object [("Other", .object [("kind", .string kind)])]

def ExprKind.toJson : ExprKind → Json
  | .literal value => .object [("Literal", value.toJson)]
  | .other kind => otherToJson kind

def ExprKind.ofJson? (value : Json) : Option ExprKind :=
  match variant? value with
  | some ("Literal", some value) => (Literal.ofJson? value).map .literal
  | some ("Other", some value) => (otherKind? value).map .other
  | _ => none

def Expr.toJson (expr : Expr) : Json := .object [("kind", expr.kind.toJson), ("span", expr.span.toJson)]

def Expr.ofJson? (value : Json) : Option Expr :=
  match record? ["kind", "span"] value with
  | some [some kind, some span] => do some ⟨← ExprKind.ofJson? kind, ← Span.ofJson? span⟩
  | _ => none

def StmtKind.toJson : StmtKind → Json
  | .expression expr => .object [("Expression", expr.toJson)]
  | .other kind => otherToJson kind

def StmtKind.ofJson? (value : Json) : Option StmtKind :=
  match variant? value with
  | some ("Expression", some value) => (Expr.ofJson? value).map .expression
  | some ("Other", some value) => (otherKind? value).map .other
  | _ => none

def Stmt.toJson (stmt : Stmt) : Json :=
  .object [("id", .nat stmt.id), ("kind", stmt.kind.toJson), ("span", stmt.span.toJson)]

def Stmt.ofJson? (value : Json) : Option Stmt :=
  match record? ["id", "kind", "span"] value with
  | some [some id, some kind, some span] => do some ⟨← word32? id, ← StmtKind.ofJson? kind, ← Span.ofJson? span⟩
  | _ => none

def FunctionKind.text : FunctionKind → String
  | .declaration => "Declaration"
  | .expression => "Expression"
  | .arrow => "Arrow"
  | .method => "Method"

def FunctionKind.ofText? (text : String) : Option FunctionKind :=
  [declaration, expression, arrow, method].find? fun kind => kind.text = text

def FunctionBody.toJson : FunctionBody → Json
  | .block body => .object [("Block", .ofList Stmt.toJson body)]
  | .expression expr => .object [("Expression", expr.toJson)]

def FunctionBody.ofJson? (value : Json) : Option FunctionBody :=
  match variant? value with
  | some ("Block", some value) => (list? Stmt.ofJson? value).map .block
  | some ("Expression", some value) => (Expr.ofJson? value).map .expression
  | _ => none

def Function.toJson (f : Function) : Json :=
  .object
    [("kind", .string f.kind.text), ("name", .ofOption .string f.name), ("body", f.body.toJson),
      ("span", f.span.toJson)]

def Function.ofJson? (value : Json) : Option Function :=
  match record? ["kind", "name", "body", "span"] value with
  | some [some kind, name, some body, some span] => do
    some
      ⟨← (plainVariant? kind).bind FunctionKind.ofText?, ← optional? text? name, ← FunctionBody.ofJson? body,
        ← Span.ofJson? span⟩
  | _ => none

def Scope.toJson : Scope → Json
  | .program body span =>
    .object [("Program", .object [("body", .ofList Stmt.toJson body), ("span", span.toJson)])]
  | .function f => .object [("Function", f.toJson)]

def Scope.ofJson? (value : Json) : Option Scope :=
  match variant? value with
  | some ("Program", some value) =>
    match record? ["body", "span"] value with
    | some [some body, some span] => do some (.program (← list? Stmt.ofJson? body) (← Span.ofJson? span))
    | _ => none
  | some ("Function", some value) => (Function.ofJson? value).map .function
  | _ => none

def ScopeKind.text : ScopeKind → String
  | .program => "Program"
  | .functionDeclaration => "FunctionDeclaration"
  | .functionExpression => "FunctionExpression"
  | .arrowFunctionExpression => "ArrowFunctionExpression"

def ScopeKind.ofJson? (value : Json) : Option ScopeKind :=
  (plainVariant? value).bind fun name => ScopeKind.all.find? fun kind => kind.text = name

end Prologue
