import Prologue.Proofs.Place
import Prologue.Proofs.Surroundings

/-! Statements and what stands around them lie in the order of the source. In a tree whose nodes are nested and do not
overlap, the leading comments of a statement, the statement, its trailing comments and the next token follow one
another, so the distances that the rule measures are never negative. -/

namespace Prologue

/-- Spans that follow one another: none ends before it starts, and none starts before an earlier one has ended. -/
def InOrder (spans : List Span) : Prop :=
  (∀ span ∈ spans, span.start ≤ span.stop) ∧ spans.Pairwise fun a b => a.stop ≤ b.start

def Span.Within (inner outer : Span) : Prop := outer.start ≤ inner.start ∧ inner.stop ≤ outer.stop

theorem Span.Within.refl (span : Span) : span.Within span := ⟨le_rfl, le_rfl⟩

theorem Span.Within.trans {a b c : Span} (first : a.Within b) (second : b.Within c) : a.Within c :=
  ⟨second.1.trans first.1, first.2.trans second.2⟩

namespace InOrder

theorem append {front back : List Span} (first : InOrder front) (second : InOrder back)
    (apart : ∀ a ∈ front, ∀ b ∈ back, a.stop ≤ b.start) : InOrder (front ++ back) := by
  refine ⟨?_, List.pairwise_append.mpr ⟨first.2, second.2, apart⟩⟩
  intro span member
  rcases List.mem_append.mp member with member | member
  · exact first.1 span member
  · exact second.1 span member

theorem sublist {spans some : List Span} (ordered : InOrder spans) (part : some.Sublist spans) : InOrder some :=
  ⟨fun span member => ordered.1 span (part.subset member), ordered.2.sublist part⟩

theorem nil : InOrder [] := ⟨by simp, .nil⟩

theorem singleton {span : Span} (forward : span.start ≤ span.stop) : InOrder [span] :=
  ⟨by simpa using forward, List.pairwise_singleton _ _⟩

end InOrder

/-- A statement between the comments before it, the comments after it and the next token. -/
def around (trivia : Trivia) (stmt : Stmt) : List Span :=
  (trivia.leading stmt.id).map Comment.span ++ stmt.span ::
    ((trivia.trailing stmt.id).map Comment.span ++ (trivia.tokenAfter stmt.id).toList.map Token.span)

/-- The row and the column of a point. -/
def Point.place (point : Point) : Place := toLex (point.row, point.col)

namespace Node

/-- A node that ends not before it starts, with children inside it that follow one another. -/
structure WellPlaced (node : Node) : Prop where
  forward : node.info.start.place ≤ node.info.stop.place
  inside : ∀ child ∈ node.children,
    node.info.start.place ≤ child.info.start.place ∧ child.info.stop.place ≤ node.info.stop.place
  apart : node.children.Pairwise fun a b => a.info.stop.place ≤ b.info.start.place

instance (node : Node) : Decidable node.WellPlaced :=
  decidable_of_iff (node.info.start.place ≤ node.info.stop.place ∧
    (∀ child ∈ node.children,
      node.info.start.place ≤ child.info.start.place ∧ child.info.stop.place ≤ node.info.stop.place) ∧
    node.children.Pairwise fun a b => a.info.stop.place ≤ b.info.start.place)
    ⟨fun ⟨forward, inside, apart⟩ => ⟨forward, inside, apart⟩,
      fun ⟨forward, inside, apart⟩ => ⟨forward, inside, apart⟩⟩

/-- A tree of such nodes. -/
def WellFormed (root : Node) : Prop := ∀ node ∈ root.subtrees, node.WellPlaced

instance (root : Node) : Decidable root.WellFormed :=
  inferInstanceAs (Decidable (∀ node ∈ root.subtrees, node.WellPlaced))

theorem WellFormed.subtree {root node : Node} (wellFormed : root.WellFormed) (member : node ∈ root.subtrees) :
    node.WellFormed :=
  fun below inside => wellFormed below (mem_subtrees_trans root node below member inside)

theorem WellFormed.child {node child : Node} (wellFormed : node.WellFormed) (member : child ∈ node.children) :
    child.WellFormed :=
  wellFormed.subtree (mem_subtrees_of_mem_descendants (child_mem_descendants node child member))

/-- Lines are counted from one and rows from zero, which does not change the order. -/
theorem place_le_iff (a b : Point) :
    a.place ≤ b.place ↔ (toLex (a.row + 1, a.col) : Place) ≤ toLex (b.row + 1, b.col) := by
  simp only [Point.place, Prod.Lex.toLex_le_toLex]
  omega

theorem WellFormed.forward {node : Node} (wellFormed : node.WellFormed) : node.span.start ≤ node.span.stop :=
  (place_le_iff ..).mp (wellFormed node (self_mem_subtrees node)).forward

theorem WellFormed.child_within {node child : Node} (wellFormed : node.WellFormed) (member : child ∈ node.children) :
    child.span.Within node.span := by
  have inside := (wellFormed node (self_mem_subtrees node)).inside child member
  exact ⟨(place_le_iff ..).mp inside.1, (place_le_iff ..).mp inside.2⟩

theorem WellFormed.children_inOrder {node : Node} (wellFormed : node.WellFormed) :
    InOrder (node.children.map span) := by
  constructor
  · intro span member
    obtain ⟨child, belongs, rfl⟩ := List.mem_map.mp member
    exact (wellFormed.child belongs).forward
  · rw [List.pairwise_map]
    exact (wellFormed node (self_mem_subtrees node)).apart.imp fun apart => (place_le_iff ..).mp apart

theorem WellFormed.within {root node : Node} (wellFormed : root.WellFormed) (member : node ∈ root.subtrees) :
    node.span.Within root.span := by
  induction root using tree_induction with
  | step info children ih =>
    rcases List.mem_cons.mp member with rfl | member
    · exact .refl _
    · obtain ⟨child, belongs, inside⟩ := (mem_descendants _ _).mp member
      exact (ih child belongs (wellFormed.child belongs) inside).trans (wellFormed.child_within belongs)

/-- The span of an expression is that of a node inside the one it is read from, since parentheses are passed over. -/
theorem expr_span_mem (source : List Char) (node : Node) :
    ∃ inner ∈ node.subtrees, (node.expr source).span = inner.span := by
  induction node using tree_induction with
  | step info children ih =>
    rw [expr]
    split
    · rw [contentExpr_eq_map_find]
      cases found : children.find? isContent with
      | none => exact ⟨.mk info children, self_mem_subtrees _, rfl⟩
      | some child =>
        have belongs := List.mem_of_find?_eq_some found
        obtain ⟨inner, inside, same⟩ := ih child belongs
        exact ⟨inner, mem_subtrees_of_child _ child inner belongs inside, same⟩
    · exact ⟨.mk info children, self_mem_subtrees _, rfl⟩

/-- A statement without its trailing comments, and these comments, follow one another inside the whole node. -/
theorem WellFormed.trimmed_inOrder {node : Node} (wellFormed : node.WellFormed) (source : List Char) :
    InOrder ((node.trimmed source).1 :: (node.trimmed source).2.map Comment.span) ∧
      ∀ span ∈ (node.trimmed source).1 :: (node.trimmed source).2.map Comment.span, span.Within node.span := by
  rcases trimmed_cases source node with whole | ⟨kept, last, comments, children, _, _, _, trimmed⟩
  · rw [whole]
    exact ⟨.singleton wellFormed.forward, by simpa using Span.Within.refl node.span⟩
  · have ordered := wellFormed.children_inOrder
    rw [children, List.map_append, List.map_cons] at ordered
    have behind := ordered.sublist (List.sublist_append_right (kept.map span) _)
    have lastWithin := wellFormed.child_within (show last ∈ node.children by simp [children])
    have commentsWithin : ∀ comment ∈ comments, comment.span.Within node.span := fun comment member =>
      wellFormed.child_within (by simp [children, member])
    have spans : (comments.map (comment source)).map Comment.span = comments.map span := by
      rw [List.map_map]
      rfl
    have lastForward : last.span.start ≤ last.span.stop := behind.1 last.span List.mem_cons_self
    rw [trimmed, spans]
    refine ⟨⟨?_, ?_⟩, ?_⟩
    · intro span member
      rcases List.mem_cons.mp member with rfl | member
      · exact lastWithin.1.trans lastForward
      · exact behind.1 span (List.mem_cons_of_mem _ member)
    · rw [List.pairwise_cons]
      exact List.pairwise_cons.mp behind.2
    · intro span member
      rcases List.mem_cons.mp member with rfl | member
      · exact ⟨le_rfl, lastWithin.2⟩
      · obtain ⟨comment, belongs, rfl⟩ := List.mem_map.mp member
        exact commentsWithin comment belongs

/-- The expression of a statement lies inside the statement without its trailing comments. -/
theorem WellFormed.stmtKind_within {node : Node} (wellFormed : node.WellFormed) (source : List Char) (expr : Expr)
    (expression : node.stmtKind source = .expression expr) : expr.span.Within (node.trimmed source).1 := by
  have found : contentExpr source node.children = some expr := by
    unfold stmtKind at expression
    split at expression
    · split at expression
      · next inner found => cases expression; exact found
      · cases expression
    · cases expression
  rw [contentExpr_eq_map_find] at found
  obtain ⟨content, first, rfl⟩ := Option.map_eq_some_iff.mp found
  have belongs := List.mem_of_find?_eq_some first
  have noComment := isComment_of_isContent (List.find?_some first)
  have inContent : (content.expr source).span.Within content.span := by
    obtain ⟨inner, inside, same⟩ := expr_span_mem source content
    rw [same]
    exact (wellFormed.child belongs).within inside
  have contentWithin := wellFormed.child_within belongs
  rcases trimmed_cases source node with whole | ⟨kept, last, comments, children, _, _, allComments, trimmed⟩
  · rw [whole]
    exact inContent.trans contentWithin
  · rw [trimmed]
    have ordered := wellFormed.children_inOrder
    rw [children, List.map_append, List.map_cons] at ordered
    -- The content is no comment, so it stands among the children that are kept.
    have notBehind : content.span.stop ≤ last.span.stop := by
      rw [children, List.mem_append, List.mem_cons] at belongs
      rcases belongs with before | rfl | comment
      · have apart := (List.pairwise_append.mp ordered.2).2.2 content.span (List.mem_map_of_mem before) last.span
          List.mem_cons_self
        exact apart.trans (ordered.1 last.span (by simp))
      · exact le_rfl
      · rw [allComments content comment] at noComment
        cases noComment
    exact inContent.trans ⟨contentWithin.1, notBehind⟩

/-- The comments behind a child and the token after them. -/
def followingSpans (after : List Node) : List Span :=
  (after.takeWhile isComment).map span ++
    ((after.find? fun node => !node.isComment).map fun node => node.firstLeaf.span).toList

/-- A statement with what stands around it. -/
def Placed.spans (placed : Placed) : List Span :=
  placed.surroundings.leading.map Comment.span ++ placed.stmt.span ::
    (placed.surroundings.trailing.map Comment.span ++ placed.surroundings.nextToken.toList.map Token.span)

/-- Three runs: the spans before a child, those inside it and those behind it. -/
theorem place_spans (source : List Char) (id : StmtId) (before after : List Node) (child : Node) :
    (place source id before child after).spans =
      (before.takeWhile isComment).reverse.map span ++
        (((child.trimmed source).1 :: (child.trimmed source).2.map Comment.span) ++ followingSpans after) := by
  have comments : ∀ nodes : List Node, (nodes.map (comment source)).map Comment.span = nodes.map span := by
    intro nodes
    rw [List.map_map]
    rfl
  simp only [Placed.spans, place, surroundings, followingSpans, List.map_append, comments, List.cons_append,
    List.append_assoc]
  cases after.find? fun node => !node.isComment <;> rfl

theorem WellFormed.following_inOrder {container : Node} (wellFormed : container.WellFormed) (front after : List Node)
    (children : container.children = front ++ after) :
    InOrder (followingSpans after) ∧ ∀ item ∈ followingSpans after, ∃ node ∈ after, node.span.start ≤ item.start := by
  have ordered := wellFormed.children_inOrder
  rw [children, List.map_append] at ordered
  have behind := ordered.sublist (List.sublist_append_right (front.map span) (after.map span))
  have comments := behind.sublist ((List.takeWhile_sublist isComment).map span)
  have commentsStart : ∀ item ∈ (after.takeWhile isComment).map span, ∃ node ∈ after, node.span.start ≤ item.start := by
    intro item member
    obtain ⟨node, belongs, rfl⟩ := List.mem_map.mp member
    exact ⟨node, (List.takeWhile_sublist isComment).subset belongs, le_rfl⟩
  unfold followingSpans
  cases found : after.find? fun node => !node.isComment with
  | none =>
    simp only [Option.map_none, Option.toList_none, List.append_nil]
    exact ⟨comments, commentsStart⟩
  | some next =>
    obtain ⟨rest, split, _⟩ := split_of_find after next found
    have belongs : next ∈ after := List.mem_of_find?_eq_some found
    have nextFormed : next.WellFormed := wellFormed.child (by rw [children]; exact List.mem_append_right _ belongs)
    have leafWithin := nextFormed.within (firstLeaf_mem_subtrees next)
    have leafForward := (nextFormed.subtree (firstLeaf_mem_subtrees next)).forward
    have apart := behind.2
    rw [split, List.map_append, List.map_cons] at apart
    simp only [Option.map_some, Option.toList_some]
    constructor
    · apply comments.append (.singleton leafForward)
      intro a before b token
      rw [List.mem_singleton.mp token]
      exact ((List.pairwise_append.mp apart).2.2 a before next.span List.mem_cons_self).trans leafWithin.1
    · intro item member
      rcases List.mem_append.mp member with member | member
      · exact commentsStart item member
      · rw [List.mem_singleton.mp member]
        exact ⟨next, belongs, leafWithin.1⟩

theorem WellFormed.place_inOrder {container : Node} (wellFormed : container.WellFormed) (source : List Char)
    (id : StmtId) (front after : List Node) (child : Node) (children : container.children = front ++ child :: after) :
    InOrder (place source id front.reverse child after).spans := by
  have ordered := wellFormed.children_inOrder
  rw [children, List.map_append, List.map_cons] at ordered
  obtain ⟨_, restOrder, frontApart⟩ := List.pairwise_append.mp ordered.2
  have behindChild := (List.pairwise_cons.mp restOrder).1
  have childFormed : child.WellFormed := wellFormed.child (by simp [children])
  obtain ⟨own, ownWithin⟩ := childFormed.trimmed_inOrder source
  obtain ⟨following, followingBehind⟩ :=
    wellFormed.following_inOrder (front ++ [child]) after (by simpa using children)
  have part : ((front.reverse.takeWhile isComment).reverse).Sublist front := by
    rw [← List.reverse_sublist, List.reverse_reverse]
    exact List.takeWhile_sublist isComment
  have leading := ordered.sublist ((part.map span).trans (List.sublist_append_left ..))
  rw [place_spans]
  apply leading.append
  · apply own.append following
    intro a inside b behind
    obtain ⟨node, later, starts⟩ := followingBehind b behind
    exact (ownWithin a inside).2.trans ((behindChild node.span (List.mem_map_of_mem later)).trans starts)
  · intro a before b notBefore
    have early := frontApart a ((part.map span).subset before)
    rcases List.mem_append.mp notBefore with inside | behind
    · exact (early child.span List.mem_cons_self).trans (ownWithin b inside).1
    · obtain ⟨node, later, starts⟩ := followingBehind b behind
      exact (early node.span (List.mem_cons_of_mem _ (List.mem_map_of_mem later))).trans starts

/-- The statements among siblings follow one another. -/
theorem placeStmts_inOrder (source : List Char) (next : StmtId) (before children : List Node)
    (formed : ∀ child ∈ children, child.WellFormed) (ordered : InOrder (children.map span)) :
    InOrder ((placeStmts source next before children).map fun placed => placed.stmt.span) := by
  induction children generalizing next before with
  | nil => exact .nil
  | cons child rest ih =>
    have restFormed : ∀ other ∈ rest, other.WellFormed := fun other member =>
      formed other (List.mem_cons_of_mem _ member)
    have restOrdered := ordered.sublist (List.sublist_cons_self child.span (rest.map span))
    cases content : child.isContent with
    | false =>
      rw [placeStmts_skip source next before rest child content]
      exact ih next (child :: before) restFormed restOrdered
    | true =>
      rw [placeStmts_content source next before rest child content, List.map_cons]
      obtain ⟨own, ownWithin⟩ := (formed child List.mem_cons_self).trimmed_inOrder source
      refine (InOrder.singleton (own.1 _ List.mem_cons_self)).append
        (ih (next + 1) (child :: before) restFormed restOrdered) ?_
      intro a same b later
      rw [List.mem_singleton.mp same]
      obtain ⟨placed, member, rfl⟩ := List.mem_map.mp later
      obtain ⟨front, other, after, id, rfl, _, rfl⟩ := mem_placeStmts _ _ _ _ _ member
      have belongs : other ∈ front ++ other :: after := by simp
      obtain ⟨_, otherWithin⟩ := (restFormed other belongs).trimmed_inOrder source
      have apart := (List.pairwise_cons.mp ordered.2).1 other.span (List.mem_map_of_mem belongs)
      exact (ownWithin _ List.mem_cons_self).2.trans (apart.trans (otherWithin _ List.mem_cons_self).1)

theorem around_eq_spans (trivia : Trivia) (placed : Placed)
    (recorded : trivia.get? placed.stmt.id = some placed.surroundings) : around trivia placed.stmt = placed.spans := by
  simp only [around, Placed.spans, Trivia.leading, Trivia.trailing, Trivia.tokenAfter, recorded]

end Node

/-- The nearest comment before a statement in order ends on no later line than the statement starts. -/
theorem endLine_le_of_around (trivia : Trivia) (stmt : Stmt) (comment : Comment)
    (ordered : InOrder (around trivia stmt)) (nearest : (trivia.leading stmt.id).getLast? = some comment) :
    comment.span.endLine ≤ stmt.span.startLine := by
  have member : comment.span ∈ (trivia.leading stmt.id).map Comment.span :=
    List.mem_map_of_mem (List.mem_of_getLast? nearest)
  have apart := (List.pairwise_append.mp ordered.2).2.2 comment.span member stmt.span List.mem_cons_self
  exact Span.endLine_le_of_stop_le_start apart

/-- A statement in order ends on no later line than what follows it starts. -/
theorem endLine_le_followingLine (trivia : Trivia) (stmt : Stmt) (line : Nat) (ordered : InOrder (around trivia stmt))
    (follows : followingLine? (trivia.trailing stmt.id) (trivia.tokenAfter stmt.id) = some line) :
    stmt.span.endLine ≤ line := by
  have behind := (List.pairwise_cons.mp (List.pairwise_append.mp ordered.2).2.1).1
  unfold followingLine? at follows
  cases trailing : trivia.trailing stmt.id with
  | cons comment rest =>
    rw [trailing] at follows behind
    cases follows
    exact Span.endLine_le_of_stop_le_start (behind comment.span (by simp))
  | nil =>
    rw [trailing] at follows
    obtain ⟨token, next, rfl⟩ := Option.map_eq_some_iff.mp follows
    exact Span.endLine_le_of_stop_le_start (behind token.span (by simp [next]))

namespace SourceFile

/-- In a well-formed tree every body is laid out in the order of the source: its statements follow one another, each
follows its leading comments and is followed by its trailing comments and the next token, and holds its expression.
So neither distance that the rule takes from a statement is cut off at zero. -/
theorem ofTree_laidOut (language : Language) (source : String) (root : Node) (wellFormed : root.WellFormed)
    (scope : Scope) (member : scope ∈ (ofTree language source root).scopes) (body : List Stmt)
    (statements : scope.body? = some body) :
    InOrder (body.map Stmt.span) ∧
    ∀ stmt ∈ body,
      InOrder (around (ofTree language source root).trivia stmt) ∧
      (∀ expr, stmt.expression? = some expr → expr.span.Within stmt.span) ∧
      (∀ comment, ((ofTree language source root).trivia.leading stmt.id).getLast? = some comment →
        comment.span.endLine ≤ stmt.span.startLine) ∧
      ∀ line, followingLine? ((ofTree language source root).trivia.trailing stmt.id)
        ((ofTree language source root).trivia.tokenAfter stmt.id) = some line → stmt.span.endLine ≤ line := by
  obtain ⟨container, isBody, next, rfl, recorded⟩ := ofTree_body language source root scope body member statements
  have formed := wellFormed.subtree isBody.mem_subtrees
  constructor
  · rw [List.map_map]
    exact Node.placeStmts_inOrder source.toList next [] container.children (fun child => formed.child)
      formed.children_inOrder
  · intro stmt belongs
    obtain ⟨placed, placedMember, rfl⟩ := List.mem_map.mp belongs
    have found := recorded placed placedMember
    obtain ⟨front, child, after, id, children, _, rfl⟩ := Node.mem_placeStmts _ _ _ _ _ placedMember
    rw [List.append_nil] at found ⊢
    have ordered := formed.place_inOrder source.toList id front after child children
    rw [← Node.around_eq_spans _ _ found] at ordered
    refine ⟨ordered, ?_, fun comment => endLine_le_of_around _ _ comment ordered,
      fun line => endLine_le_followingLine _ _ line ordered⟩
    intro expr expression
    have childFormed : child.WellFormed := formed.child (by simp [children])
    apply childFormed.stmtKind_within source.toList expr
    unfold Stmt.expression? at expression
    split at expression
    · next found => cases expression; exact found
    · cases expression

/-- A node without a role and without errors. -/
def plainNode (kind : String) (named : Bool) (start stop : Point) (children : List Node) : Node :=
  .mk { kind, named, isError := false, isMissing := false, hasError := false, field := none, start, stop } children

def spacedSource : String := "// h\n\n'use strict' // c\nvar x;\n"

/-- The tree of that text. The comment after the directive is counted as part of its statement. -/
def spacedTree : Node :=
  plainNode "program" true ⟨0, 0, 0⟩ ⟨31, 4, 0⟩
    [plainNode "comment" true ⟨0, 0, 0⟩ ⟨4, 0, 4⟩ [],
      plainNode "expression_statement" true ⟨6, 2, 0⟩ ⟨23, 2, 17⟩
        [plainNode "string" true ⟨6, 2, 0⟩ ⟨18, 2, 12⟩
          [plainNode "'" false ⟨6, 2, 0⟩ ⟨7, 2, 1⟩ [],
            plainNode "string_fragment" true ⟨7, 2, 1⟩ ⟨17, 2, 11⟩ [],
            plainNode "'" false ⟨17, 2, 11⟩ ⟨18, 2, 12⟩ []],
          plainNode "comment" true ⟨19, 2, 13⟩ ⟨23, 2, 17⟩ []],
      plainNode "variable_declaration" true ⟨24, 3, 0⟩ ⟨30, 3, 6⟩
        [plainNode "var" false ⟨24, 3, 0⟩ ⟨27, 3, 3⟩ [],
          plainNode "variable_declarator" true ⟨28, 3, 4⟩ ⟨29, 3, 5⟩
            [plainNode "identifier" true ⟨28, 3, 4⟩ ⟨29, 3, 5⟩ []],
          plainNode ";" false ⟨29, 3, 5⟩ ⟨30, 3, 6⟩ []]]

def spacedDirective : Stmt :=
  ⟨0, .expression ⟨.literal (.string "use strict"), ⟨3, 0, 3, 12⟩⟩, ⟨3, 0, 3, 12⟩⟩

def spacedBody : List Stmt := [spacedDirective, ⟨1, .other "variable_declaration", ⟨4, 0, 4, 6⟩⟩]

theorem ofTree_laidOut_spacedTree :
    spacedTree.WellFormed ∧
    .program spacedBody ⟨1, 0, 5, 0⟩ ∈ (ofTree .javaScript spacedSource spacedTree).scopes ∧
    InOrder (around (ofTree .javaScript spacedSource spacedTree).trivia spacedDirective) := by
  have wellFormed : spacedTree.WellFormed := by decide
  have member : .program spacedBody ⟨1, 0, 5, 0⟩ ∈ (ofTree .javaScript spacedSource spacedTree).scopes := by decide
  exact ⟨wellFormed, member, ((ofTree_laidOut .javaScript spacedSource spacedTree wellFormed _ member spacedBody rfl).2
    spacedDirective List.mem_cons_self).1⟩

end SourceFile

end Prologue
