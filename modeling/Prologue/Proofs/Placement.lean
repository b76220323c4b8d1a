import Mathlib.Data.List.Nodup
import Prologue.Proofs.Subtrees
import Prologue.SourceFile

/-! Statements between their siblings. Every statement of a file comes from one child of one container, its number is
its position among all statements of the file, and the table of the file holds under that number what stands around
that child. -/

namespace Prologue

namespace Trivia

theorem find_replace (id other : StmtId) (surroundings : Surroundings) (entries : List (StmtId × Surroundings)) :
    find? other (replace id surroundings entries) = if id = other then some surroundings else find? other entries := by
  induction entries with
  | nil => rfl
  | cons entry rest ih =>
    obtain ⟨key, value⟩ := entry
    by_cases same : key = id
    · subst same
      simp only [replace, find?, ↓reduceIte]
      split <;> rfl
    · simp only [replace, if_neg same, find?, ih]
      by_cases here : key = other
      · subst here
        simp only [↓reduceIte, if_neg (Ne.symm same)]
      · simp only [if_neg here]

theorem get_insert (trivia : Trivia) (id other : StmtId) (surroundings : Surroundings) :
    (trivia.insert id surroundings).get? other = if id = other then some surroundings else trivia.get? other :=
  find_replace id other surroundings trivia.entries

/-- Later entries for other statements do not change an entry. -/
theorem get_foldl_insert (entries : List (StmtId × Surroundings)) (trivia : Trivia) (id : StmtId)
    (absent : id ∉ entries.map Prod.fst) :
    (entries.foldl (fun trivia entry => trivia.insert entry.1 entry.2) trivia).get? id = trivia.get? id := by
  induction entries generalizing trivia with
  | nil => rfl
  | cons entry rest ih =>
    rw [List.map_cons, List.mem_cons, not_or] at absent
    rw [List.foldl_cons, ih _ absent.2, get_insert, if_neg (Ne.symm absent.1)]

theorem get_ofList (entries : List (StmtId × Surroundings)) (distinct : (entries.map Prod.fst).Nodup)
    (id : StmtId) (surroundings : Surroundings) (member : (id, surroundings) ∈ entries) :
    (ofList entries).get? id = some surroundings := by
  unfold ofList
  generalize empty = trivia
  induction entries generalizing trivia with
  | nil => cases member
  | cons entry rest ih =>
    rw [List.map_cons, List.nodup_cons] at distinct
    rw [List.foldl_cons]
    rcases List.mem_cons.mp member with rfl | member
    · rw [get_foldl_insert _ _ _ distinct.1, get_insert, if_pos rfl]
    · exact ih distinct.2 member _

end Trivia

namespace Node

/-- A child of a container as a statement with a number, its siblings before it given from the nearest on. -/
def place (source : List Char) (id : StmtId) (before : List Node) (child : Node) (after : List Node) : Placed :=
  { stmt := { id, kind := child.stmtKind source, span := (child.trimmed source).1 }
    surroundings := surroundings source (child.trimmed source).2 before after }

theorem placeStmts_content (source : List Char) (next : StmtId) (before after : List Node) (child : Node)
    (content : child.isContent = true) :
    placeStmts source next before (child :: after) =
      place source next before child after :: placeStmts source (next + 1) (child :: before) after := by
  rw [placeStmts, if_pos content]
  rfl

theorem placeStmts_skip (source : List Char) (next : StmtId) (before after : List Node) (child : Node)
    (content : child.isContent = false) :
    placeStmts source next before (child :: after) = placeStmts source next (child :: before) after := by
  rw [placeStmts, if_neg (by rw [content]; exact Bool.false_ne_true)]

/-- Every placed statement is a child of the container with its siblings around it. -/
theorem mem_placeStmts (source : List Char) (next : StmtId) (before children : List Node) (placed : Placed)
    (member : placed ∈ placeStmts source next before children) :
    ∃ front child after id, children = front ++ child :: after ∧ child.isContent = true ∧
      placed = place source id (front.reverse ++ before) child after := by
  induction children generalizing next before with
  | nil => cases member
  | cons first rest ih =>
    cases content : first.isContent with
    | true =>
      rw [placeStmts_content source next before rest first content] at member
      rcases List.mem_cons.mp member with rfl | member
      · exact ⟨[], first, rest, next, rfl, content, rfl⟩
      · obtain ⟨front, child, after, id, split, found, same⟩ := ih _ _ member
        exact ⟨first :: front, child, after, id, by rw [split, List.cons_append], found, by simpa using same⟩
    | false =>
      rw [placeStmts_skip source next before rest first content] at member
      obtain ⟨front, child, after, id, split, found, same⟩ := ih _ _ member
      exact ⟨first :: front, child, after, id, by rw [split, List.cons_append], found, by simpa using same⟩

/-- The first placed statement is the first child that is content. -/
theorem head_placeStmts (source : List Char) (next : StmtId) (before children : List Node) (placed : Placed)
    (head : (placeStmts source next before children).head? = some placed) :
    ∃ front child after, children = front ++ child :: after ∧ child.isContent = true ∧
      (∀ node ∈ front, node.isContent = false) ∧ placed = place source next (front.reverse ++ before) child after := by
  induction children generalizing before with
  | nil => cases head
  | cons first rest ih =>
    cases content : first.isContent with
    | true =>
      rw [placeStmts_content source next before rest first content] at head
      cases head
      exact ⟨[], first, rest, rfl, content, by simp, rfl⟩
    | false =>
      rw [placeStmts_skip source next before rest first content] at head
      obtain ⟨front, child, after, split, found, none, same⟩ := ih _ head
      exact ⟨first :: front, child, after, by rw [split, List.cons_append], found, by simpa [content] using none,
        by simpa using same⟩

/-- Statements are numbered without a gap. -/
theorem placeStmts_ids (source : List Char) (next : StmtId) (before children : List Node) :
    (placeStmts source next before children).map (fun placed => placed.stmt.id) =
      List.range' next (placeStmts source next before children).length := by
  induction children generalizing next before with
  | nil => rfl
  | cons first rest ih =>
    cases content : first.isContent with
    | true =>
      rw [placeStmts_content source next before rest first content, List.map_cons, ih, List.length_cons,
        List.range'_succ]
      rfl
    | false => rw [placeStmts_skip source next before rest first content, ih]

/-- A function is that of a node with a block in the role of its body. -/
structure HasBlock (node : Node) (f : Function) (block : Node) : Prop where
  kind : node.functionKind? = some f.kind
  span : f.span = node.span
  role : node.child? "body" = some block
  isBlock : block.kind = "statement_block"

/-- The scope of a function-like node holds the statements of the block in the role of its body, or an expression. -/
theorem functionScope_cases (source : List Char) (next : StmtId) (node : Node) (scope : PlacedScope)
    (found : node.functionScope? source next = some scope) :
    (∃ f block, scope.scope = .function f ∧ node.HasBlock f block ∧ scope.placed = block.body source next ∧
      scope.scope.body? = some (scope.placed.map Placed.stmt)) ∨
    (scope.placed = [] ∧ scope.scope.body? = none) := by
  unfold functionScope? at found
  cases kind : node.functionKind? with
  | none => simp [kind] at found
  | some kind' =>
    cases block : node.child? "body" with
    | none => simp [kind, block] at found
    | some block' =>
      simp only [kind, block, Option.bind_eq_bind, Option.bind_some] at found
      split at found
      · next isBlock =>
        cases found
        exact Or.inl ⟨_, block', rfl, ⟨kind, rfl, block, isBlock⟩, rfl, rfl⟩
      · cases found
        exact Or.inr ⟨rfl, rfl⟩

theorem functionScope_ids (source : List Char) (next : StmtId) (node : Node) (scope : PlacedScope)
    (found : node.functionScope? source next = some scope) :
    scope.placed.map (fun placed => placed.stmt.id) = List.range' next scope.placed.length := by
  rcases functionScope_cases source next node scope found with ⟨_, block, _, _, placed, _⟩ | ⟨placed, _⟩
  · rw [placed]
    exact placeStmts_ids source next [] block.children
  · rw [placed]
    rfl

theorem mem_functionScopes (source : List Char) (next : StmtId) (nodes : List Node) (scope : PlacedScope)
    (member : scope ∈ functionScopes source next nodes) :
    ∃ node ∈ nodes, ∃ first, node.functionScope? source first = some scope := by
  induction nodes generalizing next with
  | nil => cases member
  | cons node rest ih =>
    rw [functionScopes] at member
    split at member
    · next found =>
      rcases List.mem_cons.mp member with rfl | member
      · exact ⟨node, List.mem_cons_self, next, found⟩
      · obtain ⟨other, below, first⟩ := ih _ member
        exact ⟨other, List.mem_cons_of_mem _ below, first⟩
    · obtain ⟨other, below, first⟩ := ih _ member
      exact ⟨other, List.mem_cons_of_mem _ below, first⟩

theorem functionScopes_ids (source : List Char) (next : StmtId) (nodes : List Node) :
    ((functionScopes source next nodes).flatMap PlacedScope.placed).map (fun placed => placed.stmt.id) =
      List.range' next ((functionScopes source next nodes).flatMap PlacedScope.placed).length := by
  induction nodes generalizing next with
  | nil => rfl
  | cons node rest ih =>
    rw [functionScopes]
    split
    · next scope found =>
      rw [List.flatMap_cons, List.map_append, functionScope_ids source next node scope found, ih, List.length_append,
        ← List.range'_append_1]
    · exact ih next

/-- Statements are numbered by their position in the file. -/
theorem placedScopes_ids (source : List Char) (root : Node) :
    ((root.placedScopes source).flatMap PlacedScope.placed).map (fun placed => placed.stmt.id) =
      List.range ((root.placedScopes source).flatMap PlacedScope.placed).length := by
  rw [placedScopes, List.flatMap_cons, List.map_append, functionScopes_ids, List.length_append, List.range_eq_range',
    ← List.range'_append_1, Nat.zero_add]
  congr 1
  exact placeStmts_ids source 0 [] root.children

/-- The table of a file holds the surroundings of each of its statements. -/
theorem get_triviaOf (source : List Char) (root : Node) (scope : PlacedScope) (placed : Placed)
    (member : scope ∈ root.placedScopes source) (inside : placed ∈ scope.placed) :
    (triviaOf (root.placedScopes source)).get? placed.stmt.id = some placed.surroundings := by
  apply Trivia.get_ofList
  · rw [List.map_map]
    exact (placedScopes_ids source root).symm ▸ List.nodup_range
  · exact List.mem_map.mpr ⟨placed, List.mem_flatMap.mpr ⟨scope, member, inside⟩, rfl⟩

/-- The node whose children are the statements of a scope: the root for the program, the block of its body for a
function. -/
inductive BodyOf (root : Node) : Scope → Node → Prop where
  | program (body : List Stmt) : BodyOf root (.program body root.span) root
  | function (f : Function) (node block : Node) (below : node ∈ root.descendants) (has : node.HasBlock f block) :
      BodyOf root (.function f) block

theorem BodyOf.mem_subtrees {root container : Node} {scope : Scope} (isBody : BodyOf root scope container) :
    container ∈ root.subtrees := by
  cases isBody with
  | program => exact self_mem_subtrees root
  | function f node _ below has =>
    have child : container ∈ node.children := List.mem_of_find?_eq_some has.role
    exact mem_subtrees_of_mem_descendants (child_mem_of_mem_subtrees (mem_subtrees_of_mem_descendants below) child)

theorem BodyOf.eq_root {root container : Node} {body : List Stmt} {span : Span}
    (isBody : BodyOf root (.program body span) container) : container = root := by
  cases isBody
  rfl

theorem placedScopes_cases (source : List Char) (root : Node) (scope : PlacedScope)
    (member : scope ∈ root.placedScopes source) :
    (∃ container, BodyOf root scope.scope container ∧ ∃ next, scope.placed = container.body source next ∧
      scope.scope.body? = some (scope.placed.map Placed.stmt)) ∨
    (scope.placed = [] ∧ scope.scope.body? = none) := by
  rcases List.mem_cons.mp member with rfl | member
  · exact Or.inl ⟨root, .program _, 0, rfl, rfl⟩
  · obtain ⟨node, below, next, found⟩ := mem_functionScopes _ _ _ _ member
    rcases functionScope_cases source next node scope found with ⟨f, block, isFunction, has, placed, body⟩ | alone
    · exact Or.inl ⟨block, isFunction ▸ .function f node block below has, next, placed, body⟩
    · exact Or.inr alone

end Node

end Prologue
