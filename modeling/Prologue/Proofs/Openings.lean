import Prologue.Proofs.Placement
import Prologue.Proofs.Reports

/-! Openings: all that linting reads of a tree. Of a body it sees the directive at its head with what stands around it,
and whether a statement follows; numbers of statements, later statements and spans of scopes leave no trace. -/

namespace Prologue

/-- A directive at the head of a body, with what stands around it. -/
structure Opening where
  span : Span
  surroundings : Surroundings
  /-- No other statement is in the body. -/
  alone : Bool
deriving DecidableEq, Repr

def Opening.reports (policy : Policy) (severity : Severity) (opening : Opening) : List Diagnostic :=
  Rule.sideReport policy severity opening.span .before (blankBefore? opening.span opening.surroundings.leading) ++
    (if opening.alone then []
      else Rule.sideReport policy severity opening.span .after
        (blankAfter? opening.span opening.surroundings.trailing opening.surroundings.nextToken))

namespace Node

/-- The directive that heads placed statements. -/
def opening? : List Placed → Option Opening
  | [] => none
  | first :: rest =>
    if first.stmt.isUseStrict then
      some { span := first.stmt.span, surroundings := first.surroundings, alone := rest.isEmpty }
    else none

/-- The expression of an expression statement, its span and the comments at its end. -/
def heading? (source : List Char) (node : Node) : Option (Expr × Span × List Comment) :=
  match node.stmtKind source with
  | .expression expr => some (expr, node.trimmed source)
  | .other _ => none

def blockOpening? (source : List Char) (container : Node) : Option Opening := opening? (container.body source 0)

/-- The opening of the block in the role of a function's body. -/
def functionOpening? (source : List Char) (node : Node) : Option Opening := do
  let _ ← node.functionKind?
  let block ← node.child? "body"
  if block.kind = "statement_block" then block.blockOpening? source else none

/-- The openings of a tree in the order of its scopes. -/
def openings (source : List Char) (root : Node) : List Opening :=
  (root.blockOpening? source).toList ++ root.descendants.filterMap (functionOpening? source)

theorem placeStmts_isEmpty (source : List Char) (next : StmtId) (before children : List Node) :
    (placeStmts source next before children).isEmpty = !children.any isContent := by
  induction children generalizing next before with
  | nil => rfl
  | cons child rest ih =>
    cases content : child.isContent with
    | true => simp [placeStmts_content source next before rest child content, content]
    | false => simp [placeStmts_skip source next before rest child content, content, ih]

/-- The first child that is content decides on the opening. -/
theorem opening_content (source : List Char) (next : StmtId) (before after : List Node) (child : Node)
    (content : child.isContent = true) :
    opening? (placeStmts source next before (child :: after)) =
      (child.heading? source).bind fun (expr, span, inner) =>
        if expr.stringLiteral? = some useStrict then
          some { span, surroundings := surroundings source inner before after, alone := !after.any isContent }
        else none := by
  rw [placeStmts_content source next before after child content, opening?, placeStmts_isEmpty]
  cases kind : child.stmtKind source with
  | expression expr => simp [place, Stmt.isUseStrict, Stmt.expression?, heading?, kind]
  | other name => simp [place, Stmt.isUseStrict, Stmt.expression?, heading?, kind]

/-- The opening does not depend on how statements are numbered. -/
theorem opening_placeStmts (source : List Char) (next other : StmtId) (before children : List Node) :
    opening? (placeStmts source next before children) = opening? (placeStmts source other before children) := by
  induction children generalizing next other before with
  | nil => rfl
  | cons child rest ih =>
    cases content : child.isContent with
    | true => rw [opening_content source next before rest child content, opening_content source other before rest child
        content]
    | false => rw [placeStmts_skip source next before rest child content, placeStmts_skip source other before rest child
        content, ih next other]

theorem functionScope_opening (source : List Char) (next : StmtId) (node : Node) :
    ((node.functionScope? source next).bind fun scope => opening? scope.placed) = node.functionOpening? source := by
  unfold functionScope? functionOpening?
  cases node.functionKind? with
  | none => rfl
  | some kind =>
    cases node.child? "body" with
    | none => rfl
    | some block =>
      simp only [Option.bind_eq_bind, Option.bind_some]
      split
      · exact opening_placeStmts source next 0 [] block.children
      · rfl

theorem functionScopes_openings (source : List Char) (next : StmtId) (nodes : List Node) :
    (functionScopes source next nodes).filterMap (fun scope => opening? scope.placed) =
      nodes.filterMap (functionOpening? source) := by
  induction nodes generalizing next with
  | nil => rfl
  | cons node rest ih =>
    have own := functionScope_opening source next node
    rw [functionScopes, List.filterMap_cons, ← own]
    cases node.functionScope? source next with
    | none => exact ih next
    | some scope =>
      simp only [List.filterMap_cons, Option.bind_some, ih]

theorem placedScopes_openings (source : List Char) (root : Node) :
    (root.placedScopes source).filterMap (fun scope => opening? scope.placed) = root.openings source := by
  rw [placedScopes, List.filterMap_cons, functionScopes_openings, openings, blockOpening?, programScope]
  cases opening? (root.body source 0) <;> rfl

end Node

theorem Rule.checkBody_placed (policy : Policy) (severity : Severity) (trivia : Trivia) (placed : List Node.Placed)
    (recorded : ∀ first ∈ placed, trivia.get? first.stmt.id = some first.surroundings) :
    checkBody policy severity (placed.map Node.Placed.stmt) trivia =
      (Node.opening? placed).toList.flatMap (Opening.reports policy severity) := by
  cases placed with
  | nil => rfl
  | cons first rest =>
    have found := recorded first List.mem_cons_self
    cases strict : first.stmt.isUseStrict with
    | false => simp [checkBody, directive?, Node.opening?, strict]
    | true =>
      simp [checkBody, directive?, Node.opening?, strict, Opening.reports, Trivia.leading, Trivia.trailing,
        Trivia.tokenAfter, found]

namespace SourceFile

/-- Linting the file of a tree reports on its openings. -/
theorem lintFile_ofTree (config : Config) (language : Language) (source : String) (root : Node) :
    (Linter.ofConfig config).lintFile (ofTree language source root) =
      ((root.openings source.toList).flatMap (Opening.reports config.policy config.severity)).mergeSort
        Diagnostic.notAfter := by
  have same : ∀ scope ∈ root.placedScopes source.toList,
      (Linter.ofConfig config).checkScope (ofTree language source root).trivia scope.scope =
        (Node.opening? scope.placed).toList.flatMap (Opening.reports config.policy config.severity) := by
    intro scope member
    rw [Linter.checkScope_ofConfig]
    rcases Node.placedScopes_cases source.toList root scope member with ⟨_, _, _, _, body⟩ | ⟨empty, body⟩
    · simp only [Rule.spacing, body]
      exact Rule.checkBody_placed _ _ _ _ fun placed => Node.get_triviaOf source.toList root scope placed member
    · simp only [Rule.spacing, body, empty]
      rfl
  have scopes : (ofTree language source root).scopes =
      (root.placedScopes source.toList).map Node.PlacedScope.scope := rfl
  rw [Linter.lintFile, Linter.lint, scopes, List.flatMap_map, List.flatMap_congr same, ← Node.placedScopes_openings,
    List.filterMap_eq_flatMap_toList, List.flatMap_assoc]

end SourceFile

end Prologue
