import Prologue.Proofs.Reports
import Prologue.Proofs.Surroundings

/-! Empty lines at the head of a source. They move every node down and change nothing else: scopes, statements,
comments, tokens, syntax errors and reports are the same, that many lines further down. -/

namespace Prologue

/-- A text of line feeds. -/
def lineFeeds (k : Nat) : String := String.ofList (List.replicate k '\n')

/-- A point that many lines further down, behind that many more line feeds. -/
def Point.shift (k : Nat) (point : Point) : Point := { point with byte := point.byte + k, row := point.row + k }

def NodeInfo.shift (k : Nat) (info : NodeInfo) : NodeInfo :=
  { info with start := info.start.shift k, stop := info.stop.shift k }

namespace Node

mutual
/-- A tree that many lines further down. -/
def shift (k : Nat) : Node → Node
  | .mk info children => .mk (info.shift k) (shiftAll k children)
termination_by structural node => node

def shiftAll (k : Nat) : List Node → List Node
  | [] => []
  | child :: rest => child.shift k :: shiftAll k rest
termination_by structural nodes => nodes
end

end Node

section Views

variable (k : Nat)

def Span.shift (span : Span) : Span :=
  { span with startLine := span.startLine + k, endLine := span.endLine + k }

def Expr.shift (expr : Expr) : Expr := { expr with span := expr.span.shift k }

def StmtKind.shift : StmtKind → StmtKind
  | .expression expr => .expression (expr.shift k)
  | .other kind => .other kind

def Stmt.shift (stmt : Stmt) : Stmt := { stmt with kind := stmt.kind.shift k, span := stmt.span.shift k }

def FunctionBody.shift : FunctionBody → FunctionBody
  | .block body => .block (body.map (Stmt.shift k))
  | .expression expr => .expression (expr.shift k)

def Scope.shift : Scope → Scope
  | .program body span => .program (body.map (Stmt.shift k)) (span.shift k)
  | .function f => .function { f with body := f.body.shift k, span := f.span.shift k }

def Comment.shift (comment : Comment) : Comment := { comment with span := comment.span.shift k }

def Token.shift (token : Token) : Token := { token with span := token.span.shift k }

def Surroundings.shift (surroundings : Surroundings) : Surroundings :=
  { leading := surroundings.leading.map (Comment.shift k)
    trailing := surroundings.trailing.map (Comment.shift k)
    nextToken := surroundings.nextToken.map (Token.shift k) }

def Trivia.shift (trivia : Trivia) : Trivia :=
  ⟨trivia.entries.map fun entry => (entry.1, entry.2.shift k)⟩

def SyntaxFault.shift (fault : SyntaxFault) : SyntaxFault := { fault with span := fault.span.shift k }

def Diagnostic.shift (d : Diagnostic) : Diagnostic := { d with span := d.span.shift k }

end Views

/-- The bytes of line feeds at the head of a text are dropped one by one. -/
theorem dropBytes_lineFeeds (k count : Nat) (text : List Char) :
    dropBytes (count + k) (List.replicate k '\n' ++ text) = dropBytes count text := by
  induction k with
  | zero => rfl
  | succ k ih =>
    have size : '\n'.utf8Size = 1 := by decide
    rw [List.replicate_succ, List.cons_append, ← Nat.add_assoc, dropBytes, if_pos (by omega), size,
      Nat.add_sub_cancel, ih]

theorem sliceBytes_lineFeeds (k start stop : Nat) (text : List Char) :
    sliceBytes (List.replicate k '\n' ++ text) (start + k) (stop + k) = sliceBytes text start stop := by
  simp only [sliceBytes, dropBytes_lineFeeds, Nat.add_le_add_iff_right, Nat.add_sub_add_right]

theorem lines_lineFeeds (k : Nat) (text : List Char) :
    lines (List.replicate k '\n' ++ text) = List.replicate k [] ++ lines text := by
  induction k with
  | zero => rfl
  | succ k ih =>
    rw [List.replicate_succ, List.replicate_succ, List.cons_append, List.cons_append, ← ih]
    rfl

namespace Node

variable (k : Nat)

theorem shiftAll_eq_map (nodes : List Node) : shiftAll k nodes = nodes.map (shift k) := by
  induction nodes with
  | nil => rfl
  | cons node rest ih => rw [shiftAll, ih, List.map_cons]

@[simp]
theorem info_shift (node : Node) : (node.shift k).info = node.info.shift k := by
  cases node
  rfl

@[simp]
theorem children_shift (node : Node) : (node.shift k).children = node.children.map (shift k) := by
  cases node with
  | mk info children => exact shiftAll_eq_map k children

@[simp]
theorem kind_shift (node : Node) : (node.shift k).kind = node.kind := by
  rw [kind, info_shift]
  rfl

@[simp]
theorem named_shift (node : Node) : (node.shift k).named = node.named := by
  rw [named, info_shift]
  rfl

@[simp]
theorem span_shift (node : Node) : (node.shift k).span = node.span.shift k := by
  simp only [span, info_shift, NodeInfo.shift, Point.shift, Span.shift, Nat.add_right_comm]

@[simp]
theorem isComment_shift (node : Node) : (node.shift k).isComment = node.isComment := by
  rw [isComment, kind_shift]
  rfl

@[simp]
theorem isContent_shift (node : Node) : (node.shift k).isContent = node.isContent := by
  rw [isContent, named_shift, isComment_shift]
  rfl

@[simp]
theorem text_shift (source : List Char) (node : Node) :
    (node.shift k).text (List.replicate k '\n' ++ source) = node.text source := by
  rw [text, info_shift, NodeInfo.shift, Point.shift, Point.shift, sliceBytes_lineFeeds]
  rfl

theorem child_shift (field : String) (node : Node) :
    (node.shift k).child? field = (node.child? field).map (shift k) := by
  rw [child?, children_shift, List.find?_map]
  simp only [Function.comp_def, info_shift]
  rfl

theorem firstLeaf_shift (node : Node) : (node.shift k).firstLeaf = node.firstLeaf.shift k := by
  induction node using tree_induction with
  | step info children ih =>
    cases children with
    | nil => rfl
    | cons first rest => exact ih first List.mem_cons_self

theorem descendants_shift (node : Node) : (node.shift k).descendants = node.descendants.map (shift k) := by
  induction node using tree_induction with
  | step info children ih =>
    rw [descendants_eq_flatMap, descendants_eq_flatMap, children_shift, List.flatMap_map, List.map_flatMap]
    refine List.flatMap_congr fun child member => ?_
    rw [subtrees, subtrees, List.map_cons, ih child member]

section Source

variable (source : List Char)

theorem comment_shift (node : Node) :
    (node.shift k).comment (List.replicate k '\n' ++ source) = (node.comment source).shift k := by
  simp only [comment, text_shift, span_shift]
  rfl

theorem cooked_shift (node : Node) :
    (node.shift k).cooked (List.replicate k '\n' ++ source) = node.cooked source := by
  simp only [cooked, children_shift, List.filter_map, List.flatMap_map, Function.comp_def, named_shift, kind_shift,
    text_shift]

theorem bareExpr_shift (node : Node) :
    (node.shift k).bareExpr (List.replicate k '\n' ++ source) = (node.bareExpr source).shift k := by
  simp only [bareExpr, kind_shift, cooked_shift, children_shift, List.filter_map, List.any_map, Function.comp_def,
    named_shift, text_shift, span_shift]
  rfl

theorem expr_shift (node : Node) :
    (node.shift k).expr (List.replicate k '\n' ++ source) = (node.expr source).shift k := by
  induction node using tree_induction with
  | step info children ih =>
    rw [expr_eq, expr_eq, kind_shift, children_shift, List.find?_map, span_shift, bareExpr_shift]
    simp only [Function.comp_def, isContent_shift]
    split
    · cases found : (Node.mk info children).children.find? isContent with
      | none => simp [Expr.shift]
      | some child => simpa [found] using ih child (List.mem_of_find?_eq_some found)
    · rfl

theorem contentExpr_shift (children : List Node) :
    contentExpr (List.replicate k '\n' ++ source) (children.map (shift k)) =
      (contentExpr source children).map (Expr.shift k) := by
  rw [contentExpr_eq_map_find, contentExpr_eq_map_find, List.find?_map, Option.map_map, Option.map_map]
  simp only [Function.comp_def, isContent_shift, expr_shift]

theorem stmtKind_shift (node : Node) :
    (node.shift k).stmtKind (List.replicate k '\n' ++ source) = (node.stmtKind source).shift k := by
  rw [stmtKind, stmtKind, kind_shift, children_shift, contentExpr_shift]
  split
  · cases contentExpr source node.children <;> rfl
  · rfl

theorem splitTrailing_shift (children : List Node) :
    splitTrailing (children.map (shift k)) =
      ((splitTrailing children).1.map (shift k), (splitTrailing children).2.map (shift k)) := by
  simp only [splitTrailing, ← List.map_reverse, List.takeWhile_map, Function.comp_def, isComment_shift, List.length_map,
    List.map_take]

theorem trimmed_shift (node : Node) :
    (node.shift k).trimmed (List.replicate k '\n' ++ source) =
      ((node.trimmed source).1.shift k, (node.trimmed source).2.map (Comment.shift k)) := by
  simp only [trimmed, children_shift, splitTrailing_shift, List.getLast?_map, span_shift]
  cases (splitTrailing node.children).1.getLast? with
  | none => rfl
  | some last =>
    cases (splitTrailing node.children).2 with
    | nil => rfl
    | cons first rest =>
      simp only [Option.map_some, List.map_cons, List.map_map, Function.comp_def, comment_shift, span_shift]
      rfl

theorem comments_shift (nodes : List Node) :
    ((nodes.map (shift k)).takeWhile isComment).map (comment (List.replicate k '\n' ++ source)) =
      ((nodes.takeWhile isComment).map (comment source)).map (Comment.shift k) := by
  simp only [List.takeWhile_map, List.map_map, Function.comp_def, isComment_shift, comment_shift]

theorem surroundings_shift (inner : List Comment) (before after : List Node) :
    surroundings (List.replicate k '\n' ++ source) (inner.map (Comment.shift k)) (before.map (shift k))
        (after.map (shift k)) =
      (surroundings source inner before after).shift k := by
  simp only [surroundings, List.map_reverse, comments_shift, Surroundings.shift, List.map_append, List.find?_map,
    Option.map_map, Function.comp_def, isComment_shift, firstLeaf_shift, token, kind_shift, span_shift]
  rfl

end Source

def Placed.shift (placed : Placed) : Placed :=
  { stmt := placed.stmt.shift k, surroundings := placed.surroundings.shift k }

def PlacedScope.shift (scope : PlacedScope) : PlacedScope :=
  { scope := scope.scope.shift k, placed := scope.placed.map (Placed.shift k) }

section Source

variable (source : List Char)

/-- One child after the other, statements keep their numbers. -/
theorem placeStmts_shift (next : StmtId) (before children : List Node) :
    placeStmts (List.replicate k '\n' ++ source) next (before.map (shift k)) (children.map (shift k)) =
      (placeStmts source next before children).map (Placed.shift k) := by
  induction children generalizing next before with
  | nil => rfl
  | cons child after ih =>
    rw [List.map_cons]
    cases content : child.isContent with
    | false =>
      rw [placeStmts_skip source next before after child content, placeStmts_skip _ _ _ _ _ (by simpa using content)]
      exact ih next (child :: before)
    | true =>
      rw [placeStmts_content source next before after child content,
        placeStmts_content _ _ _ _ _ (by simpa using content), List.map_cons]
      congr 1
      · rw [place, stmtKind_shift, trimmed_shift, surroundings_shift]
        rfl
      · exact ih (next + 1) (child :: before)

theorem body_shift (next : StmtId) (container : Node) :
    (container.shift k).body (List.replicate k '\n' ++ source) next =
      (container.body source next).map (Placed.shift k) := by
  rw [body, children_shift]
  exact placeStmts_shift k source next [] container.children

theorem stmts_shift (placed : List Placed) :
    (placed.map (Placed.shift k)).map Placed.stmt = (placed.map Placed.stmt).map (Stmt.shift k) := by
  rw [List.map_map, List.map_map]
  rfl

theorem functionScope_shift (next : StmtId) (node : Node) :
    (node.shift k).functionScope? (List.replicate k '\n' ++ source) next =
      (node.functionScope? source next).map (PlacedScope.shift k) := by
  have kinds : (node.shift k).functionKind? = node.functionKind? := by
    rw [functionKind?, kind_shift]
    rfl
  rw [functionScope?, functionScope?, kinds, child_shift, child_shift, Option.map_map]
  cases node.functionKind? with
  | none => rfl
  | some kind =>
    cases node.child? "body" with
    | none => rfl
    | some block =>
      simp only [Option.bind_eq_bind, Option.bind_some, Option.map_some, kind_shift, body_shift, stmts_shift,
        expr_shift, span_shift, Function.comp_def, text_shift]
      split <;> rfl

theorem functionScopes_shift (next : StmtId) (nodes : List Node) :
    functionScopes (List.replicate k '\n' ++ source) next (nodes.map (shift k)) =
      (functionScopes source next nodes).map (PlacedScope.shift k) := by
  induction nodes generalizing next with
  | nil => rfl
  | cons node rest ih =>
    rw [List.map_cons, functionScopes, functionScopes, functionScope_shift]
    cases node.functionScope? source next with
    | none => exact ih next
    | some scope =>
      have counted : (scope.shift k).placed.length = scope.placed.length := List.length_map _
      simp only [Option.map_some, List.map_cons, counted, ih]

theorem placedScopes_shift (root : Node) :
    (root.shift k).placedScopes (List.replicate k '\n' ++ source) =
      (root.placedScopes source).map (PlacedScope.shift k) := by
  have program :
      (root.shift k).programScope (List.replicate k '\n' ++ source) = (root.programScope source).shift k := by
    simp only [programScope, body_shift, stmts_shift, span_shift]
    rfl
  have counted : ((root.programScope source).shift k).placed.length = (root.programScope source).placed.length :=
    List.length_map _
  simp only [placedScopes, program, counted, descendants_shift, functionScopes_shift, List.map_cons]

end Source

end Node

namespace Trivia

variable (k : Nat)

theorem shift_insert (id : StmtId) (surroundings : Surroundings) (trivia : Trivia) :
    (trivia.shift k).insert id (surroundings.shift k) = (trivia.insert id surroundings).shift k := by
  have replaced : ∀ entries : List (StmtId × Surroundings),
      replace id (surroundings.shift k) (entries.map fun entry => (entry.1, entry.2.shift k)) =
        (replace id surroundings entries).map fun entry => (entry.1, entry.2.shift k) := by
    intro entries
    induction entries with
    | nil => rfl
    | cons entry rest ih =>
      simp only [List.map_cons, replace]
      split
      · rfl
      · rw [ih, List.map_cons]
  exact congrArg Trivia.mk (replaced trivia.entries)

theorem ofList_shift (entries : List (StmtId × Surroundings)) :
    ofList (entries.map fun entry => (entry.1, entry.2.shift k)) = (ofList entries).shift k := by
  have grown : ∀ trivia : Trivia,
      (entries.map fun entry => (entry.1, entry.2.shift k)).foldl
          (fun trivia entry => trivia.insert entry.1 entry.2) (trivia.shift k) =
        (entries.foldl (fun trivia entry => trivia.insert entry.1 entry.2) trivia).shift k := by
    induction entries with
    | nil => exact fun trivia => rfl
    | cons entry rest ih =>
      intro trivia
      rw [List.map_cons, List.foldl_cons, List.foldl_cons, shift_insert, ih]
  exact grown empty

theorem get_shift (trivia : Trivia) (id : StmtId) :
    (trivia.shift k).get? id = (trivia.get? id).map (Surroundings.shift k) := by
  have found : ∀ entries : List (StmtId × Surroundings),
      find? id (entries.map fun entry => (entry.1, entry.2.shift k)) =
        (find? id entries).map (Surroundings.shift k) := by
    intro entries
    induction entries with
    | nil => rfl
    | cons entry rest ih =>
      simp only [List.map_cons, find?]
      split
      · rfl
      · exact ih
  exact found trivia.entries

theorem leading_shift (trivia : Trivia) (id : StmtId) :
    (trivia.shift k).leading id = (trivia.leading id).map (Comment.shift k) := by
  rw [leading, leading, get_shift]
  cases trivia.get? id <;> rfl

theorem trailing_shift (trivia : Trivia) (id : StmtId) :
    (trivia.shift k).trailing id = (trivia.trailing id).map (Comment.shift k) := by
  rw [trailing, trailing, get_shift]
  cases trivia.get? id <;> rfl

theorem tokenAfter_shift (trivia : Trivia) (id : StmtId) :
    (trivia.shift k).tokenAfter id = (trivia.tokenAfter id).map (Token.shift k) := by
  rw [tokenAfter, tokenAfter, get_shift]
  cases trivia.get? id <;> rfl

end Trivia

theorem Node.triviaOf_shift (k : Nat) (scopes : List PlacedScope) :
    triviaOf (scopes.map (PlacedScope.shift k)) = (triviaOf scopes).shift k := by
  rw [triviaOf, triviaOf, ← Trivia.ofList_shift, List.flatMap_map, List.map_flatMap, List.map_map, List.map_flatMap]
  refine congrArg Trivia.ofList (List.flatMap_congr fun scope _ => ?_)
  rw [PlacedScope.shift, List.map_map]
  rfl

section Lint

variable (k : Nat)

/-- Only the distance of two lines counts. -/
theorem isBlankGap_shift (first last : Nat) : isBlankGap (first + k) (last + k) = isBlankGap first last := by
  rw [isBlankGap, isBlankGap, Nat.add_sub_add_right]

theorem blankBefore_shift (directive : Span) (leading : List Comment) :
    blankBefore? (directive.shift k) (leading.map (Comment.shift k)) = blankBefore? directive leading := by
  rw [blankBefore?, blankBefore?, List.getLast?_map, Option.map_map]
  congr 1
  funext comment
  exact isBlankGap_shift k comment.span.endLine directive.startLine

theorem followingLine_shift (trailing : List Comment) (next : Option Token) :
    followingLine? (trailing.map (Comment.shift k)) (next.map (Token.shift k)) =
      (followingLine? trailing next).map (· + k) := by
  cases trailing with
  | cons comment rest => rfl
  | nil => cases next <;> rfl

theorem blankAfter_shift (directive : Span) (trailing : List Comment) (next : Option Token) :
    blankAfter? (directive.shift k) (trailing.map (Comment.shift k)) (next.map (Token.shift k)) =
      blankAfter? directive trailing next := by
  rw [blankAfter?, blankAfter?, followingLine_shift, Option.map_map]
  congr 1
  funext line
  exact isBlankGap_shift k directive.endLine line

theorem isUseStrict_shift (stmt : Stmt) : (stmt.shift k).isUseStrict = stmt.isUseStrict := by
  obtain ⟨id, kind, span⟩ := stmt
  cases kind <;> rfl

theorem directive_shift (body : List Stmt) :
    directive? (body.map (Stmt.shift k)) = (directive? body).map (Stmt.shift k) := by
  cases body with
  | nil => rfl
  | cons stmt rest =>
    rw [List.map_cons, directive?, directive?, isUseStrict_shift]
    split <;> rfl

namespace Rule

variable (policy : Policy) (severity : Severity)

theorem sideReport_shift (span : Span) (side : Side) (blank : Option Bool) :
    sideReport policy severity (span.shift k) side blank =
      (sideReport policy severity span side blank).map (Diagnostic.shift k) := by
  unfold sideReport
  cases blank.bind (mismatch? (policy.mode side)) <;> rfl

theorem checkBody_shift (body : List Stmt) (trivia : Trivia) :
    checkBody policy severity (body.map (Stmt.shift k)) (trivia.shift k) =
      (checkBody policy severity body trivia).map (Diagnostic.shift k) := by
  rw [checkBody, checkBody, directive_shift]
  cases directive? body with
  | none => rfl
  | some stmt =>
    have fields : (stmt.shift k).id = stmt.id ∧ (stmt.shift k).span = stmt.span.shift k := ⟨rfl, rfl⟩
    simp only [Option.map_some, fields, Trivia.leading_shift, Trivia.trailing_shift, Trivia.tokenAfter_shift,
      blankBefore_shift, blankAfter_shift, sideReport_shift, List.length_map, List.map_append]
    split <;> rfl

theorem spacing_shift (scope : Scope) (trivia : Trivia) :
    (spacing policy severity).check (scope.shift k) (trivia.shift k) =
      ((spacing policy severity).check scope trivia).map (Diagnostic.shift k) := by
  have bodies : (scope.shift k).body? = scope.body?.map (List.map (Stmt.shift k)) := by
    rcases scope with ⟨body, span⟩ | ⟨kind, name, body, span⟩
    · rfl
    · cases body <;> rfl
  simp only [spacing, bodies]
  cases scope.body? with
  | none => rfl
  | some body => exact checkBody_shift k policy severity body trivia

end Rule

theorem Diagnostic.notAfter_shift (a b : Diagnostic) : (a.shift k).notAfter (b.shift k) = a.notAfter b := by
  rw [Bool.eq_iff_iff, notAfter_iff, notAfter_iff]
  simp only [Span.start, shift, Span.shift, Prod.Lex.toLex_le_toLex]
  omega

/-- Reports on a model that is moved down are those on the model, moved down and in the same order. -/
theorem Linter.lint_shift (config : Config) (scopes : List Scope) (trivia : Trivia) :
    (ofConfig config).lint (scopes.map (Scope.shift k)) (trivia.shift k) =
      ((ofConfig config).lint scopes trivia).map (Diagnostic.shift k) := by
  have each : ∀ scope, (ofConfig config).checkScope (trivia.shift k) (Scope.shift k scope) =
      ((ofConfig config).checkScope trivia scope).map (Diagnostic.shift k) := by
    intro scope
    rw [checkScope_ofConfig, checkScope_ofConfig, Rule.spacing_shift]
  rw [lint, lint, List.map_mergeSort (fun a _ b _ => (Diagnostic.notAfter_shift k a b).symm), List.flatMap_map,
    List.map_flatMap]
  simp only [each]

end Lint

namespace Node

variable (k : Nat) (source : List Char)

/-- A line keeps its text, and its number grows. -/
theorem excerpt_shift (node : Node) :
    excerpt (List.replicate k '\n' ++ source) (node.span.shift k) = excerpt source node.span := by
  have moved : (lines (List.replicate k '\n' ++ source))[(node.span.shift k).startLine - 1]? =
      (lines source)[node.span.startLine - 1]? := by
    have number : (node.span.shift k).startLine - 1 = node.info.start.row + k := by
      simp only [span, Span.shift]
      omega
    rw [number, lines_lineFeeds, List.getElem?_append_right (by simp), List.length_replicate, Nat.add_sub_cancel]
    rfl
  have shifted : (node.span.shift k).startLine ≠ 0 := by simp [span, Span.shift]
  have placed : node.span.startLine ≠ 0 := by simp [span]
  rw [excerpt, excerpt, if_neg shifted, if_neg placed, moved]
  rfl

theorem faults_shift (node : Node) :
    (node.shift k).faults (List.replicate k '\n' ++ source) = (node.faults source).map (SyntaxFault.shift k) := by
  induction node using tree_induction with
  | step info children ih =>
    have own : ∀ message, fault (List.replicate k '\n' ++ source) message ((Node.mk info children).shift k) =
        (fault source message (.mk info children)).shift k := by
      intro message
      rw [fault, span_shift, excerpt_shift]
      rfl
    have below : faultsOf (List.replicate k '\n' ++ source) (shiftAll k children) =
        (faultsOf source children).map (SyntaxFault.shift k) := by
      rw [faultsOf_eq_flatMap, faultsOf_eq_flatMap, shiftAll_eq_map, List.flatMap_map, List.map_flatMap]
      exact List.flatMap_congr ih
    rw [shift] at own ⊢
    rw [faults, faults, own, own, below, apply_ite (List.map _), apply_ite (List.map _), apply_ite (List.map _)]
    rfl

end Node

namespace SourceFile

/-- Empty lines at the head of a source move all that is read from it down by as many lines and change nothing else:
neither the scopes with their statements, the comments and tokens around these and the syntax errors, nor the reports
and their order. -/
theorem lintFile_shift (config : Config) (language : Language) (source : String) (root : Node) (k : Nat) :
    let file := ofTree language source root
    let moved := ofTree language (lineFeeds k ++ source) (root.shift k)
    moved.language = file.language ∧
    moved.scopes = file.scopes.map (Scope.shift k) ∧
    moved.trivia = file.trivia.shift k ∧
    (root.shift k).faults (lineFeeds k ++ source).toList =
      (root.faults source.toList).map (SyntaxFault.shift k) ∧
    (Linter.ofConfig config).lintFile moved = ((Linter.ofConfig config).lintFile file).map (Diagnostic.shift k) := by
  intro file moved
  have languages : moved.language = language ∧ file.language = language := ⟨rfl, rfl⟩
  have text : (lineFeeds k ++ source).toList = List.replicate k '\n' ++ source.toList := by
    rw [lineFeeds, String.toList_append, String.toList_ofList]
  have placed : (root.shift k).placedScopes (lineFeeds k ++ source).toList =
      (root.placedScopes source.toList).map (Node.PlacedScope.shift k) := by
    rw [text, Node.placedScopes_shift]
  have scopes : moved.scopes = file.scopes.map (Scope.shift k) := by
    change ((root.shift k).placedScopes _).map Node.PlacedScope.scope =
      ((root.placedScopes _).map Node.PlacedScope.scope).map (Scope.shift k)
    rw [placed, List.map_map, List.map_map]
    rfl
  have trivia : moved.trivia = file.trivia.shift k := by
    change Node.triviaOf ((root.shift k).placedScopes _) = _
    rw [placed, Node.triviaOf_shift]
    rfl
  refine ⟨languages.1.trans languages.2.symm, scopes, trivia, ?_, ?_⟩
  · rw [text, Node.faults_shift]
  · rw [Linter.lintFile, scopes, trivia, Linter.lint_shift]
    rfl

end SourceFile

end Prologue
