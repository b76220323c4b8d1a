import Mathlib.Data.List.Forall2
import Prologue.Proofs.Layout

/-! The scopes of a file, the numbers of its statements and the keys of its table. The program comes first, and behind
it every function-like node with a body gives one scope, in the order in which the nodes are met on the way down the
tree. -/

namespace Prologue

/-- The statements of a scope; an arrow function without braces has none. -/
def Scope.statements (scope : Scope) : List Stmt := scope.body?.getD []

namespace Trivia

theorem replace_absent (id : StmtId) (surroundings : Surroundings) (entries : List (StmtId × Surroundings))
    (absent : id ∉ entries.map Prod.fst) : replace id surroundings entries = entries ++ [(id, surroundings)] := by
  induction entries with
  | nil => rfl
  | cons entry rest ih =>
    obtain ⟨key, value⟩ := entry
    rw [List.map_cons, List.mem_cons, not_or] at absent
    rw [replace, if_neg (Ne.symm absent.1), ih absent.2, List.cons_append]

/-- Entries for statements that a table does not have yet are added behind those it has. -/
theorem entries_foldl_insert (entries : List (StmtId × Surroundings)) (trivia : Trivia)
    (distinct : ((trivia.entries ++ entries).map Prod.fst).Nodup) :
    (entries.foldl (fun trivia entry => trivia.insert entry.1 entry.2) trivia).entries = trivia.entries ++ entries := by
  induction entries generalizing trivia with
  | nil => simp
  | cons entry rest ih =>
    have absent : entry.1 ∉ trivia.entries.map Prod.fst := by
      intro present
      rw [List.map_append, List.nodup_append] at distinct
      exact distinct.2.2 entry.1 present entry.1 (by simp) rfl
    have inserted : (trivia.insert entry.1 entry.2).entries = trivia.entries ++ [entry] :=
      replace_absent entry.1 entry.2 trivia.entries absent
    rw [List.foldl_cons, ih _ (by simpa [inserted] using distinct), inserted, List.append_assoc, List.singleton_append]

theorem entries_ofList (entries : List (StmtId × Surroundings)) (distinct : (entries.map Prod.fst).Nodup) :
    (ofList entries).entries = entries :=
  entries_foldl_insert entries empty distinct

end Trivia

namespace Node

/-- The grammar's names for function-like nodes, with the kind of function each of them makes. -/
def functionKinds : List (String × FunctionKind) :=
  [("function_declaration", .declaration), ("generator_function_declaration", .declaration),
    ("function_expression", .expression), ("function", .expression), ("generator_function", .expression),
    ("arrow_function", .arrow), ("method_definition", .method)]

/-- A function-like node with a child in the role of its body. The keyword that opens a function has the name of such
a node, and a signature has its kind, but neither has a body. -/
def IsFunction (node : Node) : Prop :=
  node.kind ∈ functionKinds.map Prod.fst ∧ ∃ child ∈ node.children, child.info.field = some "body"

instance : DecidablePred IsFunction := fun node =>
  inferInstanceAs (Decidable (node.kind ∈ functionKinds.map Prod.fst ∧
    ∃ child ∈ node.children, child.info.field = some "body"))

/-- The statements of a body are what a container holds besides comments and tokens, in its order, and under the number
of each statement the table has what stands around it there. -/
structure Lists (source : List Char) (trivia : Trivia) (container : Node) (body : List Stmt) : Prop where
  length : body.length = container.children.countP isContent
  each : ∀ front child after, container.children = front ++ child :: after → child.isContent = true →
    ∃ stmt, body[front.countP isContent]? = some stmt ∧ stmt.kind = child.stmtKind source ∧
      stmt.span = (child.trimmed source).1 ∧
      trivia.get? stmt.id = some (surroundings source (child.trimmed source).2 front.reverse after)

/-- A function is that of a node: it has the kind, name and span of the node, and for its body the statements of a
block, or else an expression. -/
structure Depicts (source : List Char) (trivia : Trivia) (node : Node) (f : Function) : Prop where
  kind : (node.kind, f.kind) ∈ functionKinds
  name : f.name = (node.child? "name").map (text source)
  span : f.span = node.span
  body : ∃ child, node.child? "body" = some child ∧
    if child.kind = "statement_block" then ∃ stmts, f.body = .block stmts ∧ child.Lists source trivia stmts
    else f.body = .expression (child.expr source)

theorem functionKind_eq_some_iff (node : Node) (kind : FunctionKind) :
    node.functionKind? = some kind ↔ (node.kind, kind) ∈ functionKinds := by
  unfold functionKind? functionKinds
  generalize node.kind = name
  simp only [List.mem_cons, Prod.mk.injEq, List.not_mem_nil, or_false]
  constructor
  · intro found
    split_ifs at found with declaration expression arrow method <;> cases found <;> simp_all
  · rintro (⟨rfl, rfl⟩ | ⟨rfl, rfl⟩ | ⟨rfl, rfl⟩ | ⟨rfl, rfl⟩ | ⟨rfl, rfl⟩ | ⟨rfl, rfl⟩ | ⟨rfl, rfl⟩) <;> simp

theorem isSome_functionKind_iff (node : Node) :
    node.functionKind?.isSome = true ↔ node.kind ∈ functionKinds.map Prod.fst := by
  rw [Option.isSome_iff_exists, List.mem_map]
  constructor
  · rintro ⟨kind, found⟩
    exact ⟨(node.kind, kind), (functionKind_eq_some_iff node kind).mp found, rfl⟩
  · rintro ⟨⟨name, kind⟩, listed, rfl⟩
    exact ⟨kind, (functionKind_eq_some_iff node kind).mpr listed⟩

theorem isSome_child_iff (node : Node) (field : String) :
    (node.child? field).isSome = true ↔ ∃ child ∈ node.children, child.info.field = some field := by
  rw [child?, List.find?_isSome]
  simp

/-- Exactly the functions among the nodes have a scope. -/
theorem isSome_functionScope_iff (source : List Char) (next : StmtId) (node : Node) :
    (node.functionScope? source next).isSome = true ↔ node.IsFunction := by
  rw [IsFunction, ← isSome_functionKind_iff, ← isSome_child_iff, functionScope?]
  cases node.functionKind? with
  | none => simp
  | some kind =>
    cases node.child? "body" with
    | none => simp
    | some child =>
      simp only [Option.bind_eq_bind, Option.bind_some]
      split <;> simp

theorem length_placeStmts (source : List Char) (next : StmtId) (before children : List Node) :
    (placeStmts source next before children).length = children.countP isContent := by
  induction children generalizing next before with
  | nil => rfl
  | cons child rest ih =>
    cases content : child.isContent with
    | true =>
      rw [placeStmts_content source next before rest child content, List.length_cons, ih,
        List.countP_cons_of_pos content]
    | false =>
      rw [placeStmts_skip source next before rest child content, ih, List.countP_cons_of_neg (by simp [content])]

/-- A child that is content is placed behind as many statements as there is content before it. -/
theorem getElem_placeStmts (source : List Char) (next : StmtId) (before front after : List Node) (child : Node)
    (content : child.isContent = true) :
    (placeStmts source next before (front ++ child :: after))[front.countP isContent]? =
      some (place source (next + front.countP isContent) (front.reverse ++ before) child after) := by
  induction front generalizing next before with
  | nil =>
    rw [List.nil_append, placeStmts_content source next before after child content]
    rfl
  | cons first front ih =>
    rw [List.cons_append, List.reverse_cons, List.append_assoc, List.singleton_append]
    cases firstContent : first.isContent with
    | true =>
      rw [placeStmts_content source next before _ first firstContent, List.countP_cons_of_pos firstContent,
        List.getElem?_cons_succ, ih, Nat.add_right_comm, Nat.add_assoc]
    | false =>
      rw [placeStmts_skip source next before _ first firstContent, List.countP_cons_of_neg (by simp [firstContent]), ih]

theorem body_lists (source : List Char) (trivia : Trivia) (next : StmtId) (container : Node)
    (recorded : ∀ placed ∈ container.body source next, trivia.get? placed.stmt.id = some placed.surroundings) :
    container.Lists source trivia ((container.body source next).map Placed.stmt) := by
  constructor
  · rw [List.length_map, body, length_placeStmts]
  · intro front child after children content
    have found : (container.body source next)[front.countP isContent]? =
        some (place source (next + front.countP isContent) front.reverse child after) := by
      rw [body, children, getElem_placeStmts source next [] front after child content, List.append_nil]
    refine ⟨_, by rw [List.getElem?_map, found, Option.map_some], rfl, rfl, ?_⟩
    exact recorded _ (List.mem_of_getElem? found)

/-- The scope of a node is a function that depicts the node. -/
theorem functionScope_depicts (source : List Char) (trivia : Trivia) (next : StmtId) (node : Node) (scope : PlacedScope)
    (found : node.functionScope? source next = some scope)
    (recorded : ∀ placed ∈ scope.placed, trivia.get? placed.stmt.id = some placed.surroundings) :
    ∃ f, scope.scope = .function f ∧ node.Depicts source trivia f := by
  unfold functionScope? at found
  cases kind : node.functionKind? with
  | none => simp [kind] at found
  | some kind' =>
    cases role : node.child? "body" with
    | none => simp [kind, role] at found
    | some child =>
      have listed := (functionKind_eq_some_iff node kind').mp kind
      simp only [kind, role, Option.bind_eq_bind, Option.bind_some] at found
      split at found
      · next block =>
        cases found
        refine ⟨_, rfl, listed, rfl, rfl, child, role, ?_⟩
        rw [if_pos block]
        exact ⟨_, rfl, body_lists source trivia next child recorded⟩
      · next other =>
        cases found
        refine ⟨_, rfl, listed, rfl, rfl, child, role, ?_⟩
        rw [if_neg other]

/-- Down a list of nodes, the functions among them and the scopes go together. -/
theorem functionScopes_depict (source : List Char) (trivia : Trivia) (next : StmtId) (nodes : List Node)
    (recorded : ∀ scope ∈ functionScopes source next nodes, ∀ placed ∈ scope.placed,
      trivia.get? placed.stmt.id = some placed.surroundings) :
    ∃ functions, (functionScopes source next nodes).map PlacedScope.scope = functions.map .function ∧
      List.Forall₂ (Depicts source trivia) (nodes.filter IsFunction) functions := by
  induction nodes generalizing next with
  | nil => exact ⟨[], rfl, .nil⟩
  | cons node rest ih =>
    have isFunction := isSome_functionScope_iff source next node
    rw [functionScopes] at recorded ⊢
    cases found : node.functionScope? source next with
    | none =>
      rw [found] at isFunction recorded
      rw [List.filter_cons_of_neg (by simpa using isFunction)]
      exact ih next recorded
    | some scope =>
      rw [found] at isFunction recorded
      obtain ⟨f, same, depicts⟩ := functionScope_depicts source trivia next node scope found
        (recorded scope List.mem_cons_self)
      obtain ⟨functions, scopes, depict⟩ := ih _ fun later member => recorded later (List.mem_cons_of_mem _ member)
      refine ⟨f :: functions, ?_, ?_⟩
      · rw [List.map_cons, List.map_cons, same, scopes]
      · rw [List.filter_cons_of_pos (by simpa using isFunction)]
        exact .cons depicts depict

/-- A node of a well-formed tree starts where the nodes after it start, or before. -/
theorem WellFormed.starts_sorted {root : Node} (wellFormed : root.WellFormed) :
    root.subtrees.Pairwise fun a b => a.span.start ≤ b.span.start := by
  induction root using tree_induction with
  | step info children ih =>
    rw [subtrees, List.pairwise_cons]
    constructor
    · intro below member
      exact (wellFormed.within (mem_subtrees_of_mem_descendants member)).1
    · rw [descendants_eq_flatMap, List.pairwise_flatMap]
      refine ⟨fun child member => ih child member (wellFormed.child member), ?_⟩
      have apart := (List.pairwise_map.mp wellFormed.children_inOrder.2)
      refine apart.imp_of_mem ?_
      intro a b aMember bMember ordered x inA y inB
      have xWithin := (wellFormed.child aMember).within inA
      have xForward := ((wellFormed.child aMember).subtree inA).forward
      have yWithin := (wellFormed.child bMember).within inB
      calc
        x.span.start ≤ x.span.stop := xForward
        _ ≤ a.span.stop := xWithin.2
        _ ≤ b.span.start := ordered
        _ ≤ y.span.start := yWithin.1

/-- Read scope by scope, the statements are numbered from zero on. -/
theorem statementIds_placedScopes (source : List Char) (root : Node) :
    ((root.placedScopes source).flatMap fun scope => scope.scope.statements).map Stmt.id =
      List.range ((root.placedScopes source).flatMap PlacedScope.placed).length := by
  have statements : ∀ scope ∈ root.placedScopes source, scope.scope.statements = scope.placed.map Placed.stmt := by
    intro scope member
    rcases placedScopes_cases source root scope member with ⟨_, _, _, _, body⟩ | ⟨empty, body⟩
    · rw [Scope.statements, body, Option.getD_some]
    · rw [Scope.statements, body, empty]
      rfl
  rw [List.flatMap_congr statements, ← List.map_flatMap, List.map_map]
  exact placedScopes_ids source root

theorem keys_triviaOf (source : List Char) (root : Node) :
    (triviaOf (root.placedScopes source)).entries.map Prod.fst =
      List.range ((root.placedScopes source).flatMap PlacedScope.placed).length := by
  have keys : (((root.placedScopes source).flatMap PlacedScope.placed).map fun placed =>
      (placed.stmt.id, placed.surroundings)).map Prod.fst =
      List.range ((root.placedScopes source).flatMap PlacedScope.placed).length := by
    rw [List.map_map]
    exact placedScopes_ids source root
  rw [triviaOf, Trivia.entries_ofList _ (keys ▸ List.nodup_range), keys]

end Node

namespace SourceFile

open Node in
/-- The scopes of a tree. The program comes first and is the only one; the others are the functions among the nodes
below the root, each once, in the order in which these are met on the way down. Statements are numbered by their
position in the file, the table has exactly these numbers for keys, and under the number of a statement it has what
stands around that statement. In a well-formed tree no function starts before an earlier one. -/
theorem ofTree_scopes (language : Language) (source : String) (root : Node) :
    let file := ofTree language source root
    (∃ body, file.scopes = .program body root.span :: file.functions.map .function ∧
      root.Lists source.toList file.trivia body) ∧
    List.Forall₂ (Depicts source.toList file.trivia) (root.descendants.filter IsFunction) file.functions ∧
    (∃ count, (file.scopes.flatMap Scope.statements).map Stmt.id = List.range count ∧
      file.trivia.entries.map Prod.fst = List.range count) ∧
    (root.WellFormed → file.functions.Pairwise fun a b => a.span.start ≤ b.span.start) := by
  intro file
  have recorded : ∀ scope ∈ root.placedScopes source.toList, ∀ placed ∈ scope.placed,
      file.trivia.get? placed.stmt.id = some placed.surroundings := fun scope member placed =>
    get_triviaOf source.toList root scope placed member
  obtain ⟨functions, scopes, depict⟩ := functionScopes_depict source.toList file.trivia _ root.descendants
    fun scope member => recorded scope (List.mem_cons_of_mem _ member)
  have allScopes : file.scopes =
      .program ((root.body source.toList 0).map Placed.stmt) root.span :: functions.map .function :=
    congrArg (_ :: ·) scopes
  have sameFunctions : file.functions = functions := by
    rw [SourceFile.functions, allScopes]
    simp [List.filterMap_map]
  have numbers : (file.scopes.flatMap Scope.statements).map Stmt.id =
      List.range ((root.placedScopes source.toList).flatMap PlacedScope.placed).length := by
    rw [← statementIds_placedScopes]
    change (((root.placedScopes source.toList).map PlacedScope.scope).flatMap Scope.statements).map Stmt.id = _
    rw [List.flatMap_map]
  rw [sameFunctions]
  refine ⟨⟨_, allScopes, ?_⟩, depict, ⟨_, numbers, keys_triviaOf source.toList root⟩, ?_⟩
  · exact body_lists source.toList file.trivia 0 root (recorded _ List.mem_cons_self)
  · intro wellFormed
    have spans : functions.map Function.span = (root.descendants.filter IsFunction).map span := by
      rw [← List.forall₂_eq_eq_eq, List.forall₂_map_left_iff, List.forall₂_map_right_iff]
      exact depict.flip.imp fun f node depicts => depicts.span
    have below : root.descendants.Pairwise fun a b => a.span.start ≤ b.span.start :=
      (List.pairwise_cons.mp wellFormed.starts_sorted).2
    have sorted : (functions.map Function.span).Pairwise fun a b => a.start ≤ b.start := by
      rw [spans, List.pairwise_map]
      exact below.filter _
    rwa [List.pairwise_map] at sorted

/-- A node on the first row, without errors. -/
def rowNode (kind : String) (named : Bool) (field : Option String) (start stop : Nat) (children : List Node) : Node :=
  .mk { kind, named, isError := false, isMissing := false, hasError := false, field,
        start := ⟨start, 0, start⟩, stop := ⟨stop, 0, stop⟩ } children

def nestedSource : String := "function f() { return x => x; }\n"

/-- The tree of that text, in which the keyword has the name of a function-like node. -/
def nestedTree : Node :=
  plainNode "program" true ⟨0, 0, 0⟩ ⟨32, 1, 0⟩
    [rowNode "function_declaration" true none 0 31
      [rowNode "function" false none 0 8 [],
        rowNode "identifier" true (some "name") 9 10 [],
        rowNode "formal_parameters" true (some "parameters") 10 12
          [rowNode "(" false none 10 11 [], rowNode ")" false none 11 12 []],
        rowNode "statement_block" true (some "body") 13 31
          [rowNode "\x7b" false none 13 14 [],
            rowNode "return_statement" true none 15 29
              [rowNode "return" false none 15 21 [],
                rowNode "arrow_function" true none 22 28
                  [rowNode "identifier" true (some "parameter") 22 23 [],
                    rowNode "=>" false none 24 26 [],
                    rowNode "identifier" true (some "body") 27 28 []],
                rowNode ";" false none 28 29 []],
            rowNode "\x7d" false none 30 31 []]]]

theorem ofTree_scopes_nestedTree :
    nestedTree.WellFormed ∧
    (nestedTree.descendants.filter Node.IsFunction).map Node.kind = ["function_declaration", "arrow_function"] ∧
    (ofTree .javaScript nestedSource nestedTree).functions =
      [⟨.declaration, some "f", .block [⟨1, .other "return_statement", ⟨1, 15, 1, 29⟩⟩], ⟨1, 0, 1, 31⟩⟩,
        ⟨.arrow, none, .expression ⟨.other "identifier", ⟨1, 27, 1, 28⟩⟩, ⟨1, 22, 1, 28⟩⟩] ∧
    (ofTree .javaScript nestedSource nestedTree).functions.Pairwise fun a b => a.span.start ≤ b.span.start := by
  have wellFormed : nestedTree.WellFormed := by decide
  exact ⟨wellFormed, by decide, by decide, (ofTree_scopes .javaScript nestedSource nestedTree).2.2.2 wellFormed⟩

end SourceFile

end Prologue
