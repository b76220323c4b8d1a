import Prologue.Proofs.Placement

/-! Comments at the end of a statement, and the content of one. Whatever the children of a node are, the comments at
their end are cut off unless nothing else is left. -/

namespace Prologue.Node

theorem contentExpr_eq_map_find (source : List Char) (children : List Node) :
    contentExpr source children = (children.find? isContent).map (expr source) := by
  induction children with
  | nil => rfl
  | cons child rest ih =>
    rw [contentExpr]
    cases content : child.isContent with
    | true => simp [List.find?_cons_of_pos content]
    | false => simp [content, ih]

theorem expr_eq (source : List Char) (node : Node) :
    node.expr source =
      if node.kind = "parenthesized_expression" then
        ((node.children.find? isContent).map (expr source)).getD { kind := .other node.kind, span := node.span }
      else node.bareExpr source := by
  cases node with
  | mk info children =>
    rw [expr, contentExpr_eq_map_find]
    rfl

theorem isComment_of_isContent {node : Node} (content : node.isContent = true) : node.isComment = false := by
  simp only [isContent, Bool.and_eq_true, Bool.not_eq_true'] at content
  exact content.2

theorem isContent_of_isComment {node : Node} (isComment : node.isComment = true) : node.isContent = false := by
  simp [isContent, isComment]

/-- Children split at the last one that is no comment in one way only. -/
theorem splitTrailing_append (kept comments : List Node)
    (last : ∀ node, kept.getLast? = some node → node.isComment = false)
    (allComments : ∀ node ∈ comments, node.isComment = true) :
    splitTrailing (kept ++ comments) = (kept, comments) := by
  have stops : kept.reverse.takeWhile isComment = [] := by
    cases reversed : kept.reverse with
    | nil => rfl
    | cons node rest =>
      have final := last node (by rw [← List.head?_reverse, reversed]; rfl)
      rw [List.takeWhile_cons_of_neg (by rw [final]; exact Bool.false_ne_true)]
  have taken : ((kept ++ comments).reverse.takeWhile isComment).reverse = comments := by
    rw [List.reverse_append, List.takeWhile_append_of_pos (by simpa using allComments), stops, List.append_nil,
      List.reverse_reverse]
  simp only [splitTrailing, taken, List.length_append, Nat.add_sub_cancel, List.take_left]

theorem exists_splitTrailing (children : List Node) :
    ∃ kept comments, children = kept ++ comments ∧
      (∀ node, kept.getLast? = some node → node.isComment = false) ∧
      ∀ node ∈ comments, node.isComment = true := by
  induction children with
  | nil => exact ⟨[], [], rfl, by simp, by simp⟩
  | cons child rest ih =>
    obtain ⟨kept, comments, rfl, last, allComments⟩ := ih
    cases kept with
    | cons first kept =>
      exact ⟨child :: first :: kept, comments, rfl, by simpa using last, allComments⟩
    | nil =>
      cases comment : child.isComment with
      | true => exact ⟨[], child :: comments, rfl, by simp, by simpa [comment] using allComments⟩
      | false => exact ⟨[child], comments, rfl, by simpa using comment, allComments⟩

/-- A node that does not end in comments, or holds nothing else. -/
def EndsBare (node : Node) : Prop :=
  (∀ last, node.children.getLast? = some last → last.isComment = false) ∨
    ∀ child ∈ node.children, child.isComment = true

theorem endsBare_or (node : Node) :
    node.EndsBare ∨ ∃ kept last comments, node.children = kept ++ last :: comments ∧ comments ≠ [] ∧
      last.isComment = false ∧ ∀ comment ∈ comments, comment.isComment = true := by
  obtain ⟨kept, comments, children, last, allComments⟩ := exists_splitTrailing node.children
  rcases List.eq_nil_or_concat kept with rfl | ⟨init, final, rfl⟩
  · exact Or.inl (Or.inr (by rw [children]; simpa using allComments))
  · by_cases empty : comments = []
    · refine Or.inl (Or.inl ?_)
      rw [children, empty, List.append_nil]
      exact last
    · exact Or.inr ⟨init, final, comments, by simpa using children, empty, last final (by simp), allComments⟩

/-- A statement that ends bare keeps its span. -/
theorem trimmed_whole (source : List Char) (node : Node) (bare : node.EndsBare) :
    node.trimmed source = (node.span, []) := by
  rcases bare with last | allComments
  · have split := splitTrailing_append node.children [] last (by simp)
    rw [List.append_nil] at split
    simp only [trimmed, split]
    split <;> simp_all
  · have split := splitTrailing_append [] node.children (by simp) allComments
    rw [List.nil_append] at split
    simp [trimmed, split]

/-- Otherwise it ends where the child before the comments ends. -/
theorem trimmed_of_comments (source : List Char) (node last : Node) (kept comments : List Node)
    (children : node.children = kept ++ last :: comments) (nonempty : comments ≠ [])
    (noComment : last.isComment = false) (allComments : ∀ comment ∈ comments, comment.isComment = true) :
    node.trimmed source =
      ({ node.span with endLine := last.span.endLine, endCol := last.span.endCol }, comments.map (comment source)) := by
  have split := splitTrailing_append (kept ++ [last]) comments (by simpa using noComment) allComments
  rw [List.append_assoc, List.singleton_append, ← children] at split
  cases comments with
  | nil => exact absurd rfl nonempty
  | cons first rest => simp [trimmed, split]

theorem trimmed_cases (source : List Char) (node : Node) :
    node.trimmed source = (node.span, []) ∨
    ∃ kept last comments, node.children = kept ++ last :: comments ∧ comments ≠ [] ∧ last.isComment = false ∧
      (∀ comment ∈ comments, comment.isComment = true) ∧
      node.trimmed source = ({ node.span with endLine := last.span.endLine, endCol := last.span.endCol },
        comments.map (comment source)) := by
  rcases endsBare_or node with bare | ⟨kept, last, comments, children, nonempty, noComment, allComments⟩
  · exact Or.inl (trimmed_whole source node bare)
  · exact Or.inr ⟨kept, last, comments, children, nonempty, noComment, allComments,
      trimmed_of_comments source node last kept comments children nonempty noComment allComments⟩

/-- The first sibling that is no comment stands right behind the comments that follow. -/
theorem split_of_find (after : List Node) (next : Node)
    (found : (after.find? fun node => !node.isComment) = some next) :
    ∃ rest, after = after.takeWhile isComment ++ next :: rest ∧ next.isComment = false := by
  induction after with
  | nil => cases found
  | cons node rest ih =>
    cases comment : node.isComment with
    | true =>
      rw [List.find?_cons_of_neg (by simp [comment])] at found
      obtain ⟨behind, split, noComment⟩ := ih found
      exact ⟨behind, by rw [List.takeWhile_cons_of_pos comment, List.cons_append, ← split], noComment⟩
    | false =>
      rw [List.find?_cons_of_pos (by simp [comment])] at found
      cases found
      exact ⟨rest, by rw [List.takeWhile_cons_of_neg (by simp [comment]), List.nil_append], comment⟩

end Prologue.Node

namespace Prologue.SourceFile

/-- The statements of a scope of a file come from one container of its tree, and the table of the file holds what
stands around each of them. -/
theorem ofTree_body (language : Language) (source : String) (root : Node) (scope : Scope) (body : List Stmt)
    (member : scope ∈ (ofTree language source root).scopes) (statements : scope.body? = some body) :
    ∃ container, Node.BodyOf root scope container ∧ ∃ next, body = (container.body source.toList next).map Node.Placed.stmt ∧
      ∀ placed ∈ container.body source.toList next,
        (ofTree language source root).trivia.get? placed.stmt.id = some placed.surroundings := by
  obtain ⟨placedScope, inside, rfl⟩ := List.mem_map.mp member
  rcases Node.placedScopes_cases source.toList root placedScope inside with
    ⟨container, isBody, next, placed, found⟩ | alone
  · refine ⟨container, isBody, next, ?_, ?_⟩
    · rw [← placed]
      exact Option.some.inj (statements.symm.trans found)
    · intro statement belongs
      exact Node.get_triviaOf source.toList root placedScope statement inside (placed ▸ belongs)
  · rw [alone.2] at statements
    cases statements

end Prologue.SourceFile
