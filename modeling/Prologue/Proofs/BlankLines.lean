import Mathlib.Data.List.Chain
import Mathlib.Data.List.Infix
import Prologue.Proofs.Bytes
import Prologue.Proofs.Layout
import Prologue.Proofs.Reports

/-! Measured blank lines are blank lines of the source. In a tree that covers its text up to white space, what is
measured from and what is measured to are neighbours among the leaves, so every line between them is white. -/

namespace Prologue

/-- Some line strictly between two lines of a text is of white space only. Lines are counted from one. -/
def BlankLineBetween (white : Char → Prop) (text : List Char) (first last : Nat) : Prop :=
  ∃ number line, first < number ∧ number < last ∧ (lines text)[number - 1]? = some line ∧ ∀ c ∈ line, white c

/-- The text from one byte to another is of white space only. -/
def WhiteBetween (white : Char → Prop) (text : List Char) (start stop : Nat) : Prop :=
  ∃ gap, sliceBytes text start stop = some gap ∧ ∀ c ∈ gap, white c

instance (white : Char → Prop) [DecidablePred white] (text : List Char) (start stop : Nat) :
    Decidable (WhiteBetween white text start stop) :=
  decidable_of_iff (∃ gap ∈ sliceBytes text start stop, gap.all (fun c => white c) = true)
    (by simp only [WhiteBetween, Option.mem_def, List.all_eq_true, decide_eq_true_eq])

/-- Two lines of a text that hold the ends of one piece of white space. -/
def WhiteLines (white : Char → Prop) (text : List Char) (first last : Nat) : Prop :=
  ∃ start stop, WhiteBetween white text start stop ∧ first = rowAt text start + 1 ∧ last = rowAt text stop + 1

/-- In white space a line is blank as soon as one fits. -/
theorem blankLineBetween_iff (white : Char → Prop) (text : List Char) (first last : Nat)
    (around : WhiteLines white text first last) : BlankLineBetween white text first last ↔ first + 2 ≤ last := by
  obtain ⟨start, stop, ⟨gap, sliced, allWhite⟩, rfl, rfl⟩ := around
  obtain ⟨front, back, rfl, rfl, rfl⟩ := sliceBytes_eq_some text gap start stop sliced
  have startRow := rowAt_append front (gap ++ back)
  have stopRow := rowAt_append (front ++ gap) back
  rw [List.append_assoc, List.count_append] at stopRow
  rw [startRow, stopRow]
  constructor
  · rintro ⟨number, _, behind, before, _⟩
    omega
  · intro apart
    obtain ⟨head, line, rest, rfl, unbroken, whole⟩ := exists_enclosed_line gap (by omega)
    have found := lines_between (front ++ head) line (rest ++ back) whole
    rw [List.count_append, List.count_eq_zero.mpr unbroken, Nat.add_zero] at found
    refine ⟨front.count '\n' + 1 + 1, dropReturn line, by omega, by omega, ?_, ?_⟩
    · simpa [List.append_assoc] using found
    · intro c member
      exact allWhite c (by simp [mem_of_mem_dropReturn line c member])

theorem isBlankGap_eq_iff (white : Char → Prop) (text : List Char) (first last : Nat) (blank : Bool)
    (around : WhiteLines white text first last) :
    isBlankGap first last = blank ↔ (blank = true ↔ BlankLineBetween white text first last) := by
  rw [blankLineBetween_iff white text first last around, ← isBlankGap_iff]
  cases blank <;> simp

/-- A point of a text: its row counts the line feeds before its byte, its column the bytes since the last one. -/
def Point.On (text : List Char) (point : Point) : Prop :=
  point.row = rowAt text point.byte ∧ point.col = colAt text point.byte

theorem head_of_directive (body : List Stmt) (directive : Stmt) (located : directive? body = some directive) :
    body.head? = some directive := by
  cases body with
  | nil => cases located
  | cons stmt rest =>
    simp only [directive?, Option.ite_none_right_eq_some] at located
    exact located.2

instance (text : List Char) (point : Point) : Decidable (point.On text) :=
  inferInstanceAs (Decidable (point.row = rowAt text point.byte ∧ point.col = colAt text point.byte))

namespace Node

/-- The nodes without children, in the order of the source. -/
def leaves (node : Node) : List Node := node.subtrees.filter fun node => node.children.isEmpty

/-- A tree that covers a text. Only the root may take in white space at the ends of the text. -/
structure Faithful (white : Char → Prop) (text : List Char) (root : Node) : Prop where
  points : ∀ node ∈ root.subtrees, node.info.start.On text ∧ node.info.stop.On text
  nested : ∀ node ∈ root.subtrees, node.info.start.byte ≤ node.info.stop.byte ∧ ∀ child ∈ node.children,
    node.info.start.byte ≤ child.info.start.byte ∧ child.info.stop.byte ≤ node.info.stop.byte
  apart : ∀ node ∈ root.subtrees, node.children.Pairwise fun a b => a.info.stop.byte ≤ b.info.start.byte
  starts : ∀ node ∈ root.descendants, ∀ first ∈ node.children.head?,
    node.info.start.byte = first.info.start.byte
  stops : ∀ node ∈ root.descendants, ∀ last ∈ node.children.getLast?,
    node.info.stop.byte = last.info.stop.byte
  gaps : root.leaves.IsChain fun a b => WhiteBetween white text a.info.stop.byte b.info.start.byte
  comments : ∀ node ∈ root.subtrees, node.isComment = true → node.children.isEmpty = true

instance (white : Char → Prop) [DecidablePred white] (text : List Char) (root : Node) :
    Decidable (root.Faithful white text) :=
  decidable_of_iff (
    (∀ node ∈ root.subtrees, node.info.start.On text ∧ node.info.stop.On text) ∧
    (∀ node ∈ root.subtrees, node.info.start.byte ≤ node.info.stop.byte ∧ ∀ child ∈ node.children,
      node.info.start.byte ≤ child.info.start.byte ∧ child.info.stop.byte ≤ node.info.stop.byte) ∧
    (∀ node ∈ root.subtrees, node.children.Pairwise fun a b => a.info.stop.byte ≤ b.info.start.byte) ∧
    (∀ node ∈ root.descendants, ∀ first ∈ node.children.head?, node.info.start.byte = first.info.start.byte) ∧
    (∀ node ∈ root.descendants, ∀ last ∈ node.children.getLast?, node.info.stop.byte = last.info.stop.byte) ∧
    (root.leaves.IsChain fun a b => WhiteBetween white text a.info.stop.byte b.info.start.byte) ∧
    ∀ node ∈ root.subtrees, node.isComment = true → node.children.isEmpty = true)
    ⟨fun ⟨points, nested, apart, starts, stops, gaps, comments⟩ =>
        ⟨points, nested, apart, starts, stops, gaps, comments⟩,
      fun ⟨points, nested, apart, starts, stops, gaps, comments⟩ =>
        ⟨points, nested, apart, starts, stops, gaps, comments⟩⟩

theorem leaves_of_empty (node : Node) (empty : node.children = []) : node.leaves = [node] := by
  rw [leaves, subtrees, descendants_eq_flatMap, empty]
  simp [empty]

theorem leaves_of_children (node : Node) (nonempty : node.children ≠ []) :
    node.leaves = node.children.flatMap leaves := by
  rw [leaves, subtrees, descendants_eq_flatMap, List.filter_cons_of_neg (by simpa using nonempty), List.filter_flatMap]
  rfl

theorem leaves_head (node : Node) : node.leaves.head? = some node.firstLeaf := by
  induction node using tree_induction with
  | step info children ih =>
    cases children with
    | nil =>
      rw [leaves_of_empty _ rfl]
      rfl
    | cons first rest =>
      rw [leaves_of_children _ (by simp [Node.children]), Node.children, List.flatMap_cons, List.head?_append,
        ih first List.mem_cons_self, firstLeaf]
      rfl

theorem leaves_ne_nil (node : Node) : node.leaves ≠ [] := by
  intro none
  have first := leaves_head node
  rw [none] at first
  cases first

/-- The leaves of a node stand together among those of the whole tree. -/
theorem leaves_within (root node : Node) (member : node ∈ root.subtrees) : node.leaves <:+: root.leaves := by
  induction root using tree_induction with
  | step info children ih =>
    rcases List.mem_cons.mp member with rfl | member
    · exact List.infix_rfl
    · obtain ⟨child, belongs, inside⟩ := (mem_descendants _ _).mp member
      have nonempty : children ≠ [] := List.ne_nil_of_mem belongs
      rw [leaves_of_children (.mk info children) nonempty]
      exact (ih child belongs inside).trans (List.infix_flatMap_of_mem belongs leaves)

variable {white : Char → Prop} {text : List Char} {root : Node}

theorem Faithful.start_firstLeaf (faithful : root.Faithful white text) (node : Node) (below : node ∈ root.descendants) :
    node.firstLeaf.info.start.byte = node.info.start.byte := by
  induction node using tree_induction with
  | step info children ih =>
    cases children with
    | nil => rw [firstLeaf]
    | cons first rest =>
      have deeper : first ∈ root.descendants :=
        child_mem_of_mem_subtrees (mem_subtrees_of_mem_descendants below) List.mem_cons_self
      rw [firstLeaf, ih first List.mem_cons_self deeper, faithful.starts _ below first rfl]

theorem Faithful.startRow_firstLeaf (faithful : root.Faithful white text) (node : Node)
    (below : node ∈ root.descendants) : node.firstLeaf.info.start.row = node.info.start.row := by
  have inside := mem_subtrees_of_mem_descendants below
  have leafInside := mem_subtrees_trans root node _ inside (firstLeaf_mem_subtrees node)
  rw [(faithful.points _ leafInside).1.1, (faithful.points node inside).1.1, faithful.start_firstLeaf node below]

theorem Faithful.stop_lastLeaf (faithful : root.Faithful white text) (node leaf : Node)
    (below : node ∈ root.descendants) (final : node.leaves.getLast? = some leaf) :
    leaf.info.stop.byte = node.info.stop.byte := by
  induction node using tree_induction with
  | step info children ih =>
    rcases List.eq_nil_or_concat' children with rfl | ⟨init, last, rfl⟩
    · rw [leaves_of_empty _ rfl] at final
      cases final
      rfl
    · have belongs : last ∈ init ++ [last] := by simp
      have deeper : last ∈ root.descendants :=
        child_mem_of_mem_subtrees (mem_subtrees_of_mem_descendants below) belongs
      rw [leaves_of_children _ (by simp [Node.children])] at final
      rw [Node.children, List.flatMap_append, List.flatMap_singleton,
        List.getLast?_append_of_ne_nil _ (leaves_ne_nil last)] at final
      rw [ih last belongs deeper final, faithful.stops _ below last (by simp [Node.children])]

/-- Between a node and its next sibling the text is white. -/
theorem Faithful.between (faithful : root.Faithful white text) (container a b : Node) (front after : List Node)
    (inside : container ∈ root.subtrees) (children : container.children = front ++ a :: b :: after) :
    WhiteBetween white text a.info.stop.byte b.info.start.byte := by
  have aBelow : a ∈ root.descendants := child_mem_of_mem_subtrees inside (by simp [children])
  have bBelow : b ∈ root.descendants := child_mem_of_mem_subtrees inside (by simp [children])
  have part : a.leaves ++ b.leaves <:+: root.leaves := by
    have pair : [a, b] <:+: container.children := ⟨front, after, by simp [children]⟩
    have leavesPair := List.IsInfix.flatMap pair leaves
    rw [← leaves_of_children container (by simp [children])] at leavesPair
    simpa using leavesPair.trans (leaves_within root container inside)
  -- The last leaf of the one and the first leaf of the other are neighbours among all leaves.
  have chain := List.IsChain.infix faithful.gaps part
  have joined := (List.isChain_append.mp chain).2.2
  have final := List.getLast?_eq_some_getLast (leaves_ne_nil a)
  have gap := joined _ final b.firstLeaf (leaves_head b)
  rwa [faithful.stop_lastLeaf a _ aBelow final, faithful.start_firstLeaf b bBelow] at gap

/-- So the lines that two siblings end and start on are joined by white space. -/
theorem Faithful.whiteLines (faithful : root.Faithful white text) (container a b : Node) (front after : List Node)
    (inside : container ∈ root.subtrees) (children : container.children = front ++ a :: b :: after) :
    WhiteLines white text (a.info.stop.row + 1) (b.info.start.row + 1) := by
  have aBelow : a ∈ root.descendants := child_mem_of_mem_subtrees inside (by simp [children])
  have bBelow : b ∈ root.descendants := child_mem_of_mem_subtrees inside (by simp [children])
  have stopped := (faithful.points a (mem_subtrees_of_mem_descendants aBelow)).2.1
  have started := (faithful.points b (mem_subtrees_of_mem_descendants bBelow)).1.1
  exact ⟨_, _, faithful.between container a b front after inside children, by rw [stopped], by rw [started]⟩

/-! ### What stands next to a statement -/

/-- The node of the first statement of a scope, with its siblings before and behind it. -/
structure Heads (source : List Char) (root : Node) (scope : Scope) (stmt : Stmt) (front : List Node) (child : Node)
    (after : List Node) : Prop where
  body : ∃ container, BodyOf root scope container ∧ container.children = front ++ child :: after
  content : child.named = true ∧ child.isComment = false
  first : ∀ node ∈ front, node.named = true → node.isComment = true
  kind : stmt.kind = child.stmtKind source
  start : stmt.span.start = child.span.start

/-- What a statement ends with and what follows it. Comments that the grammar counts as its last children follow it.
Otherwise the next sibling does, a comment as a whole and anything else with its first leaf. -/
inductive Followed (child : Node) (after : List Node) : (last next : Node) → Prop where
  | own (kept rest : List Node) (last first : Node) (children : child.children = kept ++ last :: first :: rest)
      (noComment : last.isComment = false) (comments : ∀ comment ∈ first :: rest, comment.isComment = true) :
      Followed child after last first
  | comment (next : Node) (bare : child.EndsBare) (here : after.head? = some next) (isComment : next.isComment = true) :
      Followed child after child next
  | token (next leaf : Node) (bare : child.EndsBare) (here : after.head? = some next)
      (noComment : next.isComment = false) (first : next.leaves.head? = some leaf) : Followed child after child leaf

theorem Faithful.whiteLines_before (faithful : root.Faithful white text) (container child comment : Node)
    (front after : List Node) (inside : container ∈ root.subtrees)
    (children : container.children = front ++ child :: after) (nearest : front.getLast? = some comment) :
    WhiteLines white text comment.span.endLine child.span.startLine := by
  obtain ⟨init, rfl⟩ := List.getLast?_eq_some_iff.mp nearest
  exact faithful.whiteLines container comment child init after inside (by simpa using children)

theorem Faithful.whiteLines_after (faithful : root.Faithful white text) (container child last next : Node)
    (front after : List Node) (inside : container ∈ root.subtrees)
    (children : container.children = front ++ child :: after) (followed : Followed child after last next) :
    WhiteLines white text last.span.endLine next.span.startLine := by
  have below : ∀ node ∈ container.children, node ∈ root.descendants := fun _ member =>
    child_mem_of_mem_subtrees inside member
  cases followed with
  | own kept rest _ _ split =>
    have here := mem_subtrees_of_mem_descendants (below child (by simp [children]))
    exact faithful.whiteLines child last next kept rest here split
  | comment _ _ here =>
    obtain ⟨rest, rfl⟩ := List.head?_eq_some_iff.mp here
    exact faithful.whiteLines container child next front rest inside children
  | token sibling _ _ here _ first =>
    obtain ⟨rest, rfl⟩ := List.head?_eq_some_iff.mp here
    have lines := faithful.whiteLines container child sibling front rest inside children
    rw [leaves_head] at first
    cases first
    rwa [← faithful.startRow_firstLeaf sibling (below sibling (by simp [children]))] at lines

section Place

variable (source : List Char) (id : StmtId) (before front after : List Node) (child : Node)

theorem start_place : (place source id before child after).stmt.span.start = child.span.start := by
  rcases trimmed_cases source child with whole | ⟨_, _, _, _, _, _, _, trimmed⟩
  · rw [place, whole]
  · rw [place, trimmed]
    rfl

/-- The last of the leading comments is the sibling right before the statement. -/
theorem getLast_leading_iff (comment : Comment) :
    (place source id front.reverse child after).surroundings.leading.getLast? = some comment ↔
      ∃ node, front.getLast? = some node ∧ node.isComment = true ∧ node.comment source = comment := by
  rcases List.eq_nil_or_concat' front with rfl | ⟨init, last, rfl⟩
  · simp [place, surroundings]
  · rw [place, surroundings, List.reverse_append, List.reverse_singleton, List.singleton_append]
    cases isComment : last.isComment with
    | true => simp [List.takeWhile_cons_of_pos isComment, isComment]
    | false => simp [List.takeWhile_cons_of_neg, isComment]

theorem exists_followed (line : Nat)
    (follows : followingLine? (place source id before child after).surroundings.trailing
      (place source id before child after).surroundings.nextToken = some line) :
    ∃ last next, Followed child after last next := by
  rcases endsBare_or child with bare | ⟨kept, last, comments, children, nonempty, noComment, allComments⟩
  · cases after with
    | nil =>
      rw [place, surroundings, trimmed_whole source child bare] at follows
      cases follows
    | cons next rest =>
      cases isComment : next.isComment with
      | true => exact ⟨child, next, .comment next bare rfl isComment⟩
      | false => exact ⟨child, _, .token next _ bare rfl isComment (leaves_head next)⟩
  · cases comments with
    | nil => exact absurd rfl nonempty
    | cons first rest => exact ⟨last, first, .own kept rest last first children noComment allComments⟩

/-- The statement ends where its node does in the tree, and what follows it there is what is recorded. -/
theorem followingLine_of_followed (last next : Node) (followed : Followed child after last next) :
    (place source id before child after).stmt.span.endLine = last.span.endLine ∧
      followingLine? (place source id before child after).surroundings.trailing
        (place source id before child after).surroundings.nextToken = some next.span.startLine := by
  cases followed with
  | own kept rest _ _ children noComment comments =>
    rw [place, surroundings,
      trimmed_of_comments source child last kept (next :: rest) children (List.cons_ne_nil _ _) noComment comments]
    exact ⟨rfl, rfl⟩
  | comment _ bare here isComment =>
    obtain ⟨rest, rfl⟩ := List.head?_eq_some_iff.mp here
    rw [place, surroundings, trimmed_whole source child bare, List.takeWhile_cons_of_pos isComment]
    exact ⟨rfl, rfl⟩
  | token sibling _ bare here noComment first =>
    obtain ⟨rest, rfl⟩ := List.head?_eq_some_iff.mp here
    rw [leaves_head] at first
    cases first
    rw [place, surroundings, trimmed_whole source child bare,
      List.takeWhile_cons_of_neg (by simp [noComment]), List.find?_cons_of_pos (by simp [noComment])]
    exact ⟨rfl, rfl⟩

/-- A blank line is measured before a statement as far as a comment stands right before it. -/
theorem Faithful.blankBefore_iff (faithful : root.Faithful white text) (container : Node)
    (inside : container ∈ root.subtrees) (children : container.children = front ++ child :: after) (blank : Bool) :
    blankBefore? (place source id front.reverse child after).stmt.span
        (place source id front.reverse child after).surroundings.leading = some blank ↔
      ∃ comment, front.getLast? = some comment ∧ comment.isComment = true ∧
        (blank = true ↔ BlankLineBetween white text comment.span.endLine
          (place source id front.reverse child after).stmt.span.startLine) := by
  have startLine : (place source id front.reverse child after).stmt.span.startLine = child.span.startLine :=
    congrArg (fun place => (ofLex place).1) (start_place source id front.reverse after child)
  have gap_iff (comment : Node) (nearest : front.getLast? = some comment) :=
    isBlankGap_eq_iff white text _ _ blank
      (faithful.whiteLines_before container child comment front after inside children nearest)
  rw [blankBefore?, Option.map_eq_some_iff, startLine]
  simp only [getLast_leading_iff]
  constructor
  · intro measured
    obtain ⟨_, ⟨comment, nearest, isComment, rfl⟩, gap⟩ := measured
    exact ⟨comment, nearest, isComment, (gap_iff comment nearest).mp gap⟩
  · intro preceded
    obtain ⟨comment, nearest, isComment, between⟩ := preceded
    exact ⟨_, ⟨comment, nearest, isComment, rfl⟩, (gap_iff comment nearest).mpr between⟩

/-- A blank line is measured after a statement as far as something follows it. -/
theorem Faithful.blankAfter_iff (faithful : root.Faithful white text) (container : Node)
    (inside : container ∈ root.subtrees) (children : container.children = front ++ child :: after) (blank : Bool) :
    blankAfter? (place source id before child after).stmt.span
        (place source id before child after).surroundings.trailing
        (place source id before child after).surroundings.nextToken = some blank ↔
      ∃ last next, Followed child after last next ∧
        (place source id before child after).stmt.span.endLine = last.span.endLine ∧
        (blank = true ↔ BlankLineBetween white text
          (place source id before child after).stmt.span.endLine next.span.startLine) := by
  have gap_iff (last next : Node) (followed : Followed child after last next) :=
    isBlankGap_eq_iff white text _ _ blank
      (faithful.whiteLines_after container child last next front after inside children followed)
  rw [blankAfter?, Option.map_eq_some_iff]
  constructor
  · intro measured
    obtain ⟨line, follows, gap⟩ := measured
    obtain ⟨last, next, followed⟩ := exists_followed source id before after child line follows
    obtain ⟨stop, same⟩ := followingLine_of_followed source id before after child last next followed
    cases same.symm.trans follows
    rw [stop] at gap ⊢
    exact ⟨last, next, followed, rfl, (gap_iff last next followed).mp gap⟩
  · intro behind
    obtain ⟨last, next, followed, stop, between⟩ := behind
    have follows := (followingLine_of_followed source id before after child last next followed).2
    rw [stop] at between ⊢
    exact ⟨_, follows, (gap_iff last next followed).mpr between⟩

end Place

end Node

namespace SourceFile

/-- Measured blank lines are blank lines of the source. In a tree that covers the text, a blank line is measured before
the directive of a scope exactly if a comment stands right before its node and a white line between the two, and after
it exactly if a comment or token follows its node and a white line stands between the two. -/
theorem ofTree_blankLines (white : Char → Prop) (language : Language) (source : String) (root : Node)
    (faithful : root.Faithful white source.toList) (scope : Scope)
    (member : scope ∈ (ofTree language source root).scopes) (body : List Stmt) (statements : scope.body? = some body)
    (directive : Stmt) (located : directive? body = some directive) :
    let trivia := (ofTree language source root).trivia
    ∃ front child after, Node.Heads source.toList root scope directive front child after ∧
    (∀ blank, blankBefore? directive.span (trivia.leading directive.id) = some blank ↔
      ∃ comment, front.getLast? = some comment ∧ comment.isComment = true ∧
        (blank = true ↔ BlankLineBetween white source.toList comment.span.endLine directive.span.startLine)) ∧
    ∀ blank, blankAfter? directive.span (trivia.trailing directive.id) (trivia.tokenAfter directive.id) = some blank ↔
      ∃ last next, Node.Followed child after last next ∧ directive.span.endLine = last.span.endLine ∧
        (blank = true ↔ BlankLineBetween white source.toList directive.span.endLine next.span.startLine) := by
  intro trivia
  obtain ⟨container, isBody, number, rfl, recorded⟩ := ofTree_body language source root scope body member statements
  have head := head_of_directive _ _ located
  rw [List.head?_map, Option.map_eq_some_iff] at head
  obtain ⟨placed, first, rfl⟩ := head
  have found : trivia.get? placed.stmt.id = some placed.surroundings := recorded placed (List.mem_of_head? first)
  obtain ⟨front, child, after, children, content, none, rfl⟩ := Node.head_placeStmts _ _ _ _ _ first
  rw [List.append_nil] at found ⊢
  refine ⟨front, child, after, ⟨⟨container, isBody, children⟩, ?_, ?_, rfl, Node.start_place ..⟩, ?_, ?_⟩
  · simpa [Node.isContent] using content
  · simpa [Node.isContent] using none
  · intro blank
    rw [Trivia.leading, found]
    exact faithful.blankBefore_iff source.toList number front after child container isBody.mem_subtrees children blank
  · intro blank
    rw [Trivia.trailing, Trivia.tokenAfter, found]
    exact faithful.blankAfter_iff source.toList number _ front after child container isBody.mem_subtrees children blank

/-- In the sample a blank line is measured above the directive and none behind it, where a comment follows. -/
theorem ofTree_blankLines_spacedTree :
    let trivia := (ofTree .javaScript spacedSource spacedTree).trivia
    spacedTree.Faithful (·.isWhitespace = true) spacedSource.toList ∧
    .program spacedBody ⟨1, 0, 5, 0⟩ ∈ (ofTree .javaScript spacedSource spacedTree).scopes ∧
    directive? spacedBody = some spacedDirective ∧
    blankBefore? spacedDirective.span (trivia.leading spacedDirective.id) = some true ∧
    BlankLineBetween (·.isWhitespace = true) spacedSource.toList 1 3 ∧
    blankAfter? spacedDirective.span (trivia.trailing spacedDirective.id) (trivia.tokenAfter spacedDirective.id) =
      some false ∧
    ¬ BlankLineBetween (·.isWhitespace = true) spacedSource.toList 3 3 := by
  intro trivia
  have faithful : spacedTree.Faithful (·.isWhitespace = true) spacedSource.toList := by decide
  have member : .program spacedBody ⟨1, 0, 5, 0⟩ ∈ (ofTree .javaScript spacedSource spacedTree).scopes := by decide
  have measuredBefore : blankBefore? spacedDirective.span (trivia.leading spacedDirective.id) = some true := by decide
  have measuredAfter : blankAfter? spacedDirective.span (trivia.trailing spacedDirective.id)
      (trivia.tokenAfter spacedDirective.id) = some false := by decide
  obtain ⟨front, child, after, heads, before, behind⟩ := ofTree_blankLines (·.isWhitespace = true) .javaScript
    spacedSource spacedTree faithful _ member spacedBody rfl spacedDirective rfl
  obtain ⟨comment, nearest, -, above⟩ := (before true).mp measuredBefore
  obtain ⟨last, next, followed, -, below⟩ := (behind false).mp measuredAfter
  obtain ⟨⟨container, isBody, children⟩, content, first, -, -⟩ := heads
  cases isBody.eq_root
  -- The statement is the second child: the first is a comment, and there is no other statement before it.
  simp only [spacedTree, plainNode, Node.children] at children
  rcases front with _ | ⟨one, _ | ⟨two, more⟩⟩
  · cases children
    exact absurd content.2 (by decide)
  · cases children
    cases nearest
    have recorded := (Node.followingLine_of_followed spacedSource.toList 0 [] _ _ last next followed).2
    have line : next.span.startLine = 3 := Option.some.inj (recorded.symm.trans (by rfl))
    rw [line] at below
    exact ⟨faithful, member, rfl, measuredBefore, above.mp rfl, measuredAfter,
      fun some => Bool.false_ne_true (below.mpr some)⟩
  · have statement := first two (by simp)
    rw [← (List.cons.inj (List.cons.inj children).2).1] at statement
    exact absurd (statement rfl) (by decide)

end SourceFile

end Prologue
