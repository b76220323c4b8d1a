import Mathlib.Data.List.Sort
import Mathlib.Data.List.TakeWhile
import Mathlib.Order.Bounds.Basic
import Prologue.Proofs.BlankLines

/-! Comments among siblings. Between two siblings that are no comments, the comments form a run. The comments before a
statement are the run that it ends, and those behind it the run that it begins, so that no comment is lost, listed twice
or moved. -/

namespace Prologue.Node

/-- A position among siblings that holds a comment. -/
def CommentAt (children : List Node) (position : Nat) : Prop :=
  ∃ node, children[position]? = some node ∧ node.isComment = true

/-- A position among siblings that holds something else. -/
def OtherAt (children : List Node) (position : Nat) : Prop :=
  ∃ node, children[position]? = some node ∧ node.isComment = false

/-- The first position behind another that holds something other than a comment. -/
def NextOther (children : List Node) (position next : Nat) : Prop :=
  IsLeast {other | position < other ∧ OtherAt children other} next

/-- The last position before another that holds something other than a comment. -/
def LastOther (children : List Node) (position last : Nat) : Prop :=
  IsGreatest {other | other < position ∧ OtherAt children other} last

/-- The comments at a set of positions: each of them once, in the order of the source. -/
def CommentsAt (source : List Char) (children : List Node) (positions : Set Nat) (comments : List Comment) : Prop :=
  ∃ order : List Nat, order.Pairwise (· < ·) ∧ (∀ position, position ∈ order ↔ position ∈ positions) ∧
    order.map (fun position => children[position]?.map (comment source)) = comments.map some

/-- A child as a statement among its siblings. Of the comments behind it, those that the grammar counts as its own
come first. -/
structure StandsAt (source : List Char) (children : List Node) (child : Node) (position : Nat) (placed : Placed) :
    Prop where
  here : children[position]? = some child
  content : child.named = true ∧ child.isComment = false
  kind : placed.stmt.kind = child.stmtKind source
  span : placed.stmt.span = (child.trimmed source).1
  leading : CommentsAt source children {comment | CommentAt children comment ∧ NextOther children comment position}
    placed.surroundings.leading
  trailing : ∃ siblings, placed.surroundings.trailing = (child.trimmed source).2 ++ siblings ∧
    CommentsAt source children {comment | CommentAt children comment ∧ LastOther children comment position} siblings
  next : ∀ other, NextOther children position other → ∃ node leaf, children[other]? = some node ∧
    node.leaves.head? = some leaf ∧ placed.surroundings.nextToken = some { kind := leaf.kind, span := leaf.span }
  last : placed.surroundings.nextToken = none ↔ ∀ other, position < other → ¬OtherAt children other

theorem CommentAt.not_otherAt {children : List Node} {position : Nat} (comment : CommentAt children position) :
    ¬OtherAt children position := by
  intro other
  obtain ⟨node, here, isComment⟩ := comment
  obtain ⟨node', found, isOther⟩ := other
  cases here.symm.trans found
  rw [isComment] at isOther
  cases isOther

theorem CommentsAt.unique {source : List Char} {children : List Node} {positions : Set Nat}
    {comments comments' : List Comment} (first : CommentsAt source children positions comments)
    (second : CommentsAt source children positions comments') : comments = comments' := by
  obtain ⟨order, sorted, members, read⟩ := first
  obtain ⟨order', sorted', members', read'⟩ := second
  have same : order = order' := sorted.eq_of_mem_iff sorted' fun position => by rw [members, members']
  rw [same, read'] at read
  exact (List.map_injective_iff.mpr (Option.some_injective _) read).symm

/-- Comments at all positions from one up to another, and at neither end one more. -/
structure CommentRun (children : List Node) (low high : Nat) : Prop where
  ordered : low ≤ high
  comments : ∀ position, low ≤ position → position < high → CommentAt children position
  before : ∀ position, position + 1 = low → OtherAt children position
  behind : high < children.length → OtherAt children high

namespace CommentRun

variable {children : List Node} {low high position : Nat}

theorem of_split (front run back : List Node) (comments : ∀ node ∈ run, node.isComment = true)
    (before : ∀ node, front.getLast? = some node → node.isComment = false)
    (behind : ∀ node, back.head? = some node → node.isComment = false) :
    CommentRun (front ++ run ++ back) front.length (front.length + run.length) := by
  refine ⟨Nat.le_add_right _ _, ?_, ?_, ?_⟩
  · intro position low high
    have bound : position - front.length < run.length := by omega
    refine ⟨run[position - front.length], ?_, comments _ (List.getElem_mem bound)⟩
    rw [List.append_assoc, List.getElem?_append_right low, List.getElem?_append_left bound,
      List.getElem?_eq_getElem bound]
  · intro position ends
    have bound : position < front.length := by omega
    have last : front.getLast? = some front[position] := by
      rw [List.getLast?_eq_getElem?, ← ends, Nat.add_sub_cancel, List.getElem?_eq_getElem bound]
    refine ⟨front[position], ?_, before _ last⟩
    rw [List.append_assoc, List.getElem?_append_left bound, List.getElem?_eq_getElem bound]
  · intro inside
    cases back with
    | nil => simp at inside
    | cons first rest =>
      refine ⟨first, ?_, behind first rfl⟩
      rw [← List.length_append, List.getElem?_append_right (Nat.le_refl _), Nat.sub_self, List.getElem?_cons_zero]

theorem le_of_otherAt (run : CommentRun children low high) (begins : low ≤ position)
    (other : OtherAt children position) : high ≤ position := by
  by_contra inside
  exact (run.comments position begins (Nat.not_le.mp inside)).not_otherAt other

theorem lt_of_otherAt (run : CommentRun children low high) (ends : position < high)
    (other : OtherAt children position) : position < low := by
  by_contra inside
  exact (run.comments position (Nat.not_lt.mp inside) ends).not_otherAt other

theorem nextOther_high (run : CommentRun children low high) (other : OtherAt children high)
    (begins : low ≤ position + 1) (ends : position < high) : NextOther children position high := by
  refine ⟨⟨ends, other⟩, ?_⟩
  intro next following
  exact run.le_of_otherAt (begins.trans following.1) following.2

/-- The comments of a run are those whose next sibling besides comments stands right behind the run. -/
theorem nextOther_iff (run : CommentRun children low high) (other : OtherAt children high) :
    CommentAt children position ∧ NextOther children position high ↔ low ≤ position ∧ position < high := by
  constructor
  · intro found
    obtain ⟨comment, ⟨ends, _⟩, least⟩ := found
    refine ⟨?_, ends⟩
    -- From before the run, the sibling right before it is met first.
    by_contra early
    have last : OtherAt children (low - 1) := run.before _ (by omega)
    by_cases same : position = low - 1
    · exact comment.not_otherAt (same ▸ last)
    · have atMost : high ≤ low - 1 := least ⟨by omega, last⟩
      have ordered := run.ordered
      omega
  · intro inside
    exact ⟨run.comments position inside.1 inside.2, run.nextOther_high other (by omega) inside.2⟩

/-- They are also those whose last sibling besides comments stands right before the run. -/
theorem lastOther_iff (run : CommentRun children low high) {last : Nat} (begins : last + 1 = low) :
    CommentAt children position ∧ LastOther children position last ↔ low ≤ position ∧ position < high := by
  constructor
  · intro found
    obtain ⟨comment, ⟨behind, _⟩, greatest⟩ := found
    refine ⟨by omega, ?_⟩
    -- A comment further on has the sibling right behind the run in between.
    by_contra late
    have inside : position < children.length := by
      obtain ⟨node, here, _⟩ := comment
      exact (List.getElem?_eq_some_iff.mp here).1
    have next : OtherAt children high := run.behind (by omega)
    by_cases same : position = high
    · exact comment.not_otherAt (same ▸ next)
    · have atLeast : high ≤ last := greatest ⟨by omega, next⟩
      have ordered := run.ordered
      omega
  · intro inside
    refine ⟨run.comments position inside.1 inside.2, ⟨by omega, run.before last begins⟩, ?_⟩
    intro other preceding
    have before := run.lt_of_otherAt (preceding.1.trans inside.2) preceding.2
    omega

/-- Behind the sibling right before a run, the next one besides comments stands right behind the run. -/
theorem eq_high_of_nextOther (run : CommentRun children low high) {last other : Nat} (begins : last + 1 = low)
    (next : NextOther children last other) : other = high := by
  have far : high ≤ other := run.le_of_otherAt (begins ▸ next.1.1) next.1.2
  have inside : other < children.length := by
    obtain ⟨node, here, _⟩ := next.1.2
    exact (List.getElem?_eq_some_iff.mp here).1
  have ordered := run.ordered
  exact next.unique (run.nextOther_high (run.behind (far.trans_lt inside)) begins.ge (by omega))

theorem getElem_high_eq_none_iff (run : CommentRun children low high) :
    children[high]? = none ↔ ∀ other, low ≤ other → ¬OtherAt children other := by
  rw [List.getElem?_eq_none_iff]
  constructor
  · intro ends other begins isOther
    have far := run.le_of_otherAt begins isOther
    obtain ⟨node, here, _⟩ := isOther
    have inside := (List.getElem?_eq_some_iff.mp here).1
    omega
  · intro alone
    by_contra inside
    exact alone high run.ordered (run.behind (Nat.not_le.mp inside))

end CommentRun

theorem commentsAt_slice (source : List Char) {children front run back : List Node} {low high : Nat}
    (split : children = front ++ run ++ back) (begins : front.length = low) (ends : low + run.length = high)
    (positions : Set Nat) (bounds : ∀ position, position ∈ positions ↔ low ≤ position ∧ position < high) :
    CommentsAt source children positions (run.map (comment source)) := by
  subst begins ends
  refine ⟨List.range' front.length run.length, List.pairwise_lt_range', ?_, ?_⟩
  · intro position
    rw [bounds, List.mem_range'_1]
  · apply List.ext_getElem?
    intro i
    by_cases inside : i < run.length
    · have found : children[front.length + i]? = some run[i] := by
        rw [split, List.append_assoc, List.getElem?_append_right (Nat.le_add_right _ _), Nat.add_sub_cancel_left,
          List.getElem?_append_left inside, List.getElem?_eq_getElem inside]
      simp [inside, found]
    · simp [inside]

section Place

variable (before after : List Node) (child : Node)

theorem siblings_leading :
    before.reverse ++ child :: after =
      (before.dropWhile isComment).reverse ++ (before.takeWhile isComment).reverse ++ child :: after := by
  rw [← List.reverse_append, List.takeWhile_append_dropWhile]

theorem siblings_trailing :
    before.reverse ++ child :: after =
      before.reverse ++ [child] ++ after.takeWhile isComment ++ after.dropWhile isComment := by
  rw [List.append_assoc, List.takeWhile_append_dropWhile, List.append_assoc, List.singleton_append]

theorem getElem_behind :
    (before.reverse ++ child :: after)[before.length + 1 + (after.takeWhile isComment).length]? =
      (after.dropWhile isComment).head? := by
  have length : (before.reverse ++ [child] ++ after.takeWhile isComment).length =
      before.length + 1 + (after.takeWhile isComment).length := by simp [Nat.add_comm, Nat.add_left_comm]
  rw [siblings_trailing, ← length, List.getElem?_append_right (Nat.le_refl _), Nat.sub_self, List.head?_eq_getElem?]

variable (noComment : child.isComment = false)

include noComment

theorem leading_run :
    CommentRun (before.reverse ++ child :: after) (before.dropWhile isComment).length before.length := by
  have stops := List.head?_dropWhile_not isComment before
  have run := CommentRun.of_split (before.dropWhile isComment).reverse (before.takeWhile isComment).reverse
    (child :: after) ?_ ?_ ?_
  · rw [← siblings_leading, ← List.length_append, ← List.reverse_append, List.takeWhile_append_dropWhile,
      List.length_reverse, List.length_reverse] at run
    exact run
  · intro node member
    exact List.mem_takeWhile_imp (List.mem_reverse.mp member)
  · intro node last
    rw [List.getLast?_reverse] at last
    rwa [last] at stops
  · intro node first
    cases first
    exact noComment

theorem trailing_run :
    CommentRun (before.reverse ++ child :: after) (before.length + 1)
      (before.length + 1 + (after.takeWhile isComment).length) := by
  have stops := List.head?_dropWhile_not isComment after
  have run := CommentRun.of_split (before.reverse ++ [child]) (after.takeWhile isComment) (after.dropWhile isComment)
    ?_ ?_ ?_
  · rw [← siblings_trailing, List.length_append, List.length_reverse, List.length_singleton] at run
    exact run
  · intro node member
    exact List.mem_takeWhile_imp member
  · intro node last
    rw [List.getLast?_append, List.getLast?_singleton] at last
    cases last
    exact noComment
  · intro node first
    rwa [first] at stops

end Place

theorem place_standsAt (source : List Char) (id : StmtId) (before after : List Node) (child : Node)
    (content : child.isContent = true) :
    StandsAt source (before.reverse ++ child :: after) child before.length (place source id before child after) := by
  have noComment := isComment_of_isContent content
  have preceding := leading_run before after child noComment
  have following := trailing_run before after child noComment
  have here : (before.reverse ++ child :: after)[before.length]? = some child := by simp
  have token : (place source id before child after).surroundings.nextToken =
      (after.dropWhile isComment).head?.map fun node => node.firstLeaf.token := by
    simp only [place, surroundings, List.find?_eq_head?_dropWhile_not, Bool.not_not]
  have behind := getElem_behind before after child
  refine ⟨here, by simpa [isContent] using content, rfl, rfl, ?_, ⟨_, rfl, ?_⟩, ?_, ?_⟩
  · have length : (before.dropWhile isComment).length + (before.takeWhile isComment).reverse.length =
        before.length := by
      rw [List.length_reverse, Nat.add_comm, ← List.length_append, List.takeWhile_append_dropWhile]
    apply commentsAt_slice source (siblings_leading before after child) List.length_reverse length
    intro position
    exact preceding.nextOther_iff ⟨child, here, noComment⟩
  · have length : (before.reverse ++ [child]).length = before.length + 1 := by simp
    apply commentsAt_slice source (siblings_trailing before after child) length rfl
    intro position
    exact following.lastOther_iff rfl
  · intro other next
    have same := following.eq_high_of_nextOther rfl next
    obtain ⟨node, found, _⟩ := next.1.2
    refine ⟨node, node.firstLeaf, found, leaves_head node, ?_⟩
    rw [same, behind] at found
    rw [token, found]
    rfl
  · rw [token, Option.map_eq_none_iff, ← behind]
    exact following.getElem_high_eq_none_iff

theorem placeStmts_standsAt (source : List Char) (next : StmtId) (before children : List Node) :
    List.Forall₂ (fun entry placed => StandsAt source (before.reverse ++ children) entry.1 entry.2 placed)
      ((children.zipIdx before.length).filter fun entry => entry.1.isContent)
      (placeStmts source next before children) := by
  induction children generalizing next before with
  | nil => exact .nil
  | cons child after ih =>
    have shift : (child :: before).reverse ++ after = before.reverse ++ child :: after := by simp
    have rest := fun next => ih next (child :: before)
    rw [shift, List.length_cons] at rest
    rw [List.zipIdx_cons, List.filter_cons]
    cases content : child.isContent with
    | true =>
      rw [placeStmts_content source next before after child content, if_pos rfl]
      exact .cons (place_standsAt source next before after child content) (rest (next + 1))
    | false =>
      rw [placeStmts_skip source next before after child content, if_neg Bool.false_ne_true]
      exact rest next

/-- Comments alone between two statements stand behind the first and before the second. -/
theorem StandsAt.trailing_eq {source : List Char} {children : List Node} {child child' : Node} {i j : Nat}
    {first second : Placed} (one : StandsAt source children child i first)
    (other : StandsAt source children child' j second) (ordered : i < j)
    (between : ∀ position, i < position → position < j → CommentAt children position) :
    first.surroundings.trailing = (child.trimmed source).2 ++ second.surroundings.leading := by
  have ends : OtherAt children j := ⟨child', other.here, other.content.2⟩
  -- Both lists are those of the one run between the two.
  have run : CommentRun children (i + 1) j := by
    refine ⟨ordered, fun position low high => between position low high, ?_, fun _ => ends⟩
    intro position begins
    cases begins
    exact ⟨child, one.here, one.content.2⟩
  obtain ⟨siblings, split, listed⟩ := one.trailing
  have same : {position | CommentAt children position ∧ LastOther children position i} =
      {position | CommentAt children position ∧ NextOther children position j} := by
    ext position
    exact (run.lastOther_iff rfl).trans (run.nextOther_iff ends).symm
  rw [same] at listed
  rw [split, listed.unique other.leading]

/-- A body has one statement for each named child that is no comment, in the order of the children, with the comments
and the token that stand around that child. -/
theorem body_comments (source : List Char) (next : StmtId) (container : Node) :
    List.Forall₂ (fun entry placed => StandsAt source container.children entry.1 entry.2 placed)
      (container.children.zipIdx.filter fun entry => entry.1.named && !entry.1.isComment)
      (container.body source next) ∧
    ∀ child child' i j first second, StandsAt source container.children child i first →
      StandsAt source container.children child' j second → i < j →
      (∀ position, i < position → position < j → CommentAt container.children position) →
      first.surroundings.trailing = (child.trimmed source).2 ++ second.surroundings.leading := by
  refine ⟨placeStmts_standsAt source next [] container.children, ?_⟩
  intro child child' i j first second one other ordered between
  exact one.trailing_eq other ordered between

def sharedSource : String := "\x7ba/*1*/\n/*2*/b\x7d"

/-- A statement with a comment of its own. -/
def commentedStatement : Node :=
  SourceFile.plainNode "expression_statement" true ⟨1, 0, 1⟩ ⟨7, 0, 7⟩
    [SourceFile.plainNode "identifier" true ⟨1, 0, 1⟩ ⟨2, 0, 2⟩ [],
      SourceFile.plainNode "comment" true ⟨2, 0, 2⟩ ⟨7, 0, 7⟩ []]

def bareStatement : Node :=
  SourceFile.plainNode "expression_statement" true ⟨13, 1, 5⟩ ⟨14, 1, 6⟩
    [SourceFile.plainNode "identifier" true ⟨13, 1, 5⟩ ⟨14, 1, 6⟩ []]

/-- A block with a comment between two statements. -/
def sharedBlock : Node :=
  SourceFile.plainNode "statement_block" true ⟨0, 0, 0⟩ ⟨15, 1, 7⟩
    [SourceFile.plainNode "\x7b" false ⟨0, 0, 0⟩ ⟨1, 0, 1⟩ [], commentedStatement,
      SourceFile.plainNode "comment" true ⟨8, 1, 0⟩ ⟨13, 1, 5⟩ [], bareStatement,
      SourceFile.plainNode "\x7d" false ⟨14, 1, 6⟩ ⟨15, 1, 7⟩ []]

theorem body_comments_sharedBlock :
    ∃ first second, sharedBlock.body sharedSource.toList 0 = [first, second] ∧
      StandsAt sharedSource.toList sharedBlock.children commentedStatement 1 first ∧
      StandsAt sharedSource.toList sharedBlock.children bareStatement 3 second ∧
      [first.surroundings.leading, second.surroundings.leading] = [[], [⟨.block, ⟨2, 0, 2, 5⟩, "/*2*/"⟩]] ∧
      first.surroundings.trailing = ⟨.block, ⟨1, 2, 1, 7⟩, "/*1*/"⟩ :: second.surroundings.leading := by
  obtain ⟨stands, shared⟩ := body_comments sharedSource.toList 0 sharedBlock
  have entries : (sharedBlock.children.zipIdx.filter fun entry => entry.1.named && !entry.1.isComment) =
      [(commentedStatement, 1), (bareStatement, 3)] := rfl
  rw [entries] at stands
  obtain ⟨first, behind, one, rest, body⟩ := List.forall₂_cons_left_iff.mp stands
  obtain ⟨second, none, two, ends, rfl⟩ := List.forall₂_cons_left_iff.mp rest
  cases ends
  have leading : (sharedBlock.body sharedSource.toList 0).map (fun placed => placed.surroundings.leading) =
      [[], [⟨.block, ⟨2, 0, 2, 5⟩, "/*2*/"⟩]] := by decide
  have inner : (commentedStatement.trimmed sharedSource.toList).2 = [⟨.block, ⟨1, 2, 1, 7⟩, "/*1*/"⟩] := by decide
  have between : ∀ position, 1 < position → position < 3 → CommentAt sharedBlock.children position := by
    intro position low high
    obtain rfl : position = 2 := by omega
    exact ⟨_, rfl, by decide⟩
  have trailing := shared commentedStatement bareStatement 1 3 first second one two (by decide) between
  rw [inner] at trailing
  rw [body] at leading
  exact ⟨first, second, body, one, two, leading, trailing⟩

end Prologue.Node
