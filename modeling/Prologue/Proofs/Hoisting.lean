import Prologue.Proofs.Layout
import Prologue.Proofs.Openings

/-! Comments behind a statement. A grammar may count them as the last children of the statement or as its siblings:
linting gives the same reports. All that linting can see of a node from outside is its outline, and a node keeps its
outline when such comments are moved somewhere inside it. -/

namespace Prologue.Node

/-- Siblings before and after the comments at the end of one statement among them are moved out behind it. -/
inductive Hoisted : List Node → List Node → Prop where
  | intro (before after kept comments : List Node) (info : NodeInfo) (last : Node)
      (content : (Node.mk info (kept ++ last :: comments)).isContent = true) (noComment : last.isComment = false)
      (nonempty : comments ≠ [])
      (allComments : ∀ comment ∈ comments, comment.isComment = true ∧ comment.info.field = none) :
      Hoisted (before ++ .mk info (kept ++ last :: comments) :: after)
        (before ++ .mk { info with stop := last.info.stop } (kept ++ [last]) :: (comments ++ after))

/-- Trees before and after this happens to a statement of a program or of a block, wherever that is. -/
inductive HoistedIn : Node → Node → Prop where
  | here (info : NodeInfo) (children children' : List Node)
      (container : info.kind = "program" ∨ info.kind = "statement_block") (moved : Hoisted children children') :
      HoistedIn (.mk info children) (.mk info children')
  | deeper (info : NodeInfo) (front back : List Node) (child child' : Node) (moved : HoistedIn child child') :
      HoistedIn (.mk info (front ++ child :: back)) (.mk info (front ++ child' :: back))

/-- What linting can see of a node. -/
structure Outline where
  info : NodeInfo
  token : Token
  expr : Expr
  /-- As a statement. -/
  heading : Option (Expr × Span × List Comment)
  /-- As a block. -/
  block : Option Opening
  /-- As a function. -/
  function : Option Opening
  below : List Opening

def outline (source : List Char) (node : Node) : Outline :=
  { info := node.info
    token := node.firstLeaf.token
    expr := node.expr source
    heading := node.heading? source
    block := node.blockOpening? source
    function := node.functionOpening? source
    below := node.descendants.filterMap (functionOpening? source) }

/-- A node without what is below its children. -/
def shallow (node : Node) : Node := .mk node.info (node.children.map fun child => .mk child.info [])

theorem shallow_congr (info : NodeInfo) (children children' : List Node)
    (infos : children.map Node.info = children'.map Node.info) :
    (Node.mk info children).shallow = (Node.mk info children').shallow := by
  have leaves := congrArg (List.map fun info => Node.mk info []) infos
  rw [List.map_map, List.map_map] at leaves
  exact congrArg (Node.mk info) leaves

theorem bareExpr_shallow (source : List Char) (node : Node) : node.shallow.bareExpr source = node.bareExpr source := by
  have cooked : node.shallow.cooked source = node.cooked source := by
    simp only [Node.cooked, shallow, Node.children, List.filter_map, List.flatMap_map]
    rfl
  have substituted : ((node.shallow.children.filter named).any fun child => child.kind = "template_substitution") =
      (node.children.filter named).any fun child => child.kind = "template_substitution" := by
    simp only [shallow, Node.children, List.filter_map, List.any_map]
    rfl
  rw [bareExpr, cooked, substituted]
  rfl

theorem trimmed_shallow (source : List Char) (node : Node) : node.shallow.trimmed source = node.trimmed source := by
  have split : splitTrailing node.shallow.children =
      ((splitTrailing node.children).1.map (fun child => .mk child.info []),
        (splitTrailing node.children).2.map (fun child => .mk child.info [])) := by
    simp only [splitTrailing, shallow, Node.children, ← List.map_reverse, List.takeWhile_map, List.length_map,
      List.map_take]
    rfl
  simp only [trimmed, split, List.getLast?_map]
  cases (splitTrailing node.children).1.getLast? with
  | none => rfl
  | some last =>
    cases (splitTrailing node.children).2 with
    | nil => rfl
    | cons first rest =>
      simp only [Option.map_some, List.map_cons, List.map_map]
      rfl

/-- Comments at the head of siblings are read from what the siblings say of themselves. -/
theorem comments_congr (source : List Char) (nodes nodes' : List Node)
    (infos : nodes.map Node.info = nodes'.map Node.info) :
    (nodes.takeWhile isComment).map (comment source) = (nodes'.takeWhile isComment).map (comment source) := by
  have read : ∀ nodes : List Node, (nodes.takeWhile isComment).map (comment source) =
      ((nodes.map Node.info).takeWhile fun info => (Node.mk info []).isComment).map fun info =>
        (Node.mk info []).comment source := by
    intro nodes
    rw [List.takeWhile_map, List.map_map]
    rfl
  rw [read, read, infos]

section Outlines

variable (source : List Char) {children children' : List Node}

theorem infos_congr (same : children.map (outline source) = children'.map (outline source)) :
    children.map Node.info = children'.map Node.info := by
  have infos := congrArg (List.map Outline.info) same
  rwa [List.map_map, List.map_map] at infos

/-- The first node with a property has an outline that outlines determine. -/
theorem find_congr (property : NodeInfo → Bool)
    (same : children.map (outline source) = children'.map (outline source)) :
    (children.find? fun node => property node.info).map (outline source) =
      (children'.find? fun node => property node.info).map (outline source) := by
  have found := congrArg (List.find? fun outline : Outline => property outline.info) same
  rwa [List.find?_map, List.find?_map] at found

theorem contentExpr_congr (same : children.map (outline source) = children'.map (outline source)) :
    contentExpr source children = contentExpr source children' := by
  have found := congrArg (Option.map Outline.expr)
    (find_congr source (fun info => (Node.mk info []).isContent) same)
  rw [Option.map_map, Option.map_map] at found
  rw [contentExpr_eq_map_find, contentExpr_eq_map_find]
  exact found

theorem surroundings_congr (inner : List Comment) {before before' : List Node}
    (preceding : before.map (outline source) = before'.map (outline source))
    (following : children.map (outline source) = children'.map (outline source)) :
    surroundings source inner before children = surroundings source inner before' children' := by
  have found := congrArg (Option.map Outline.token)
    (find_congr source (fun info => !(Node.mk info []).isComment) following)
  rw [Option.map_map, Option.map_map] at found
  simp only [surroundings, List.map_reverse, Surroundings.mk.injEq]
  refine ⟨?_, ?_, found⟩
  · rw [comments_congr source before before' (infos_congr source preceding)]
  · rw [comments_congr source children children' (infos_congr source following)]

theorem any_isContent_congr (same : children.map (outline source) = children'.map (outline source)) :
    children.any isContent = children'.any isContent := by
  have content := congrArg (List.any · fun info => (Node.mk info []).isContent) (infos_congr source same)
  simp only [List.any_map] at content
  exact content

theorem opening_congr {before before' : List Node} (next : StmtId)
    (preceding : before.map (outline source) = before'.map (outline source))
    (same : children.map (outline source) = children'.map (outline source)) :
    opening? (placeStmts source next before children) = opening? (placeStmts source next before' children') := by
  induction children generalizing children' before before' with
  | nil =>
    rw [List.map_eq_nil_iff.mp same.symm]
    rfl
  | cons child after ih =>
    obtain ⟨child', after', rfl, own, following⟩ := List.map_eq_cons_iff.mp same.symm
    have contents : child'.isContent = child.isContent :=
      congrArg (fun outline : Outline => (Node.mk outline.info []).isContent) own
    have behind : (child :: before).map (outline source) = (child' :: before').map (outline source) := by
      rw [List.map_cons, List.map_cons, own, preceding]
    cases content : child.isContent with
    | true =>
      have headings : child'.heading? source = child.heading? source := congrArg Outline.heading own
      rw [opening_content source next before after child content,
        opening_content source next before' after' child' (contents.trans content), headings,
        any_isContent_congr source following]
      simp only [surroundings_congr source _ preceding following.symm]
    | false =>
      rw [placeStmts_skip source next before after child content,
        placeStmts_skip source next before' after' child' (contents.trans content)]
      exact ih behind following.symm

theorem functionOpening_congr (info : NodeInfo)
    (same : children.map (outline source) = children'.map (outline source)) :
    (Node.mk info children).functionOpening? source = (Node.mk info children').functionOpening? source := by
  have read : ∀ nodes : List Node, (Node.mk info nodes).functionOpening? source =
      (Node.mk info nodes).functionKind?.bind fun _ =>
        (((Node.mk info nodes).child? "body").map (outline source)).bind fun block =>
          if block.info.kind = "statement_block" then block.block else none := by
    intro nodes
    rw [functionOpening?]
    cases (Node.mk info nodes).child? "body" <;> rfl
  have found := find_congr source (fun info => info.field = some "body") same
  rw [read, read, child?, child?, Node.children, Node.children, found]
  rfl

theorem below_eq_flatMap (node : Node) :
    node.descendants.filterMap (functionOpening? source) = node.children.flatMap fun child =>
      (child.functionOpening? source).toList ++ child.descendants.filterMap (functionOpening? source) := by
  rw [descendants_eq_flatMap, List.filterMap_flatMap]
  refine List.flatMap_congr fun child _ => ?_
  rw [subtrees, List.filterMap_cons]
  cases child.functionOpening? source <;> rfl

/-- The outline of a node is read from its own data and the outlines of its children. -/
theorem outline_congr (info : NodeInfo) (same : children.map (outline source) = children'.map (outline source)) :
    (Node.mk info children).outline source = (Node.mk info children').outline source := by
  have shallows := shallow_congr info children children' (infos_congr source same)
  have contents := contentExpr_congr source same
  have token : (Node.mk info children).firstLeaf.token = (Node.mk info children').firstLeaf.token := by
    cases children with
    | nil => rw [List.map_eq_nil_iff.mp same.symm]
    | cons child rest =>
      obtain ⟨child', rest', rfl, own, _⟩ := List.map_eq_cons_iff.mp same.symm
      exact (congrArg Outline.token own).symm
  have expr : (Node.mk info children).expr source = (Node.mk info children').expr source := by
    rw [Node.expr, Node.expr, contents, ← bareExpr_shallow, shallows, bareExpr_shallow]
    rfl
  have heading : (Node.mk info children).heading? source = (Node.mk info children').heading? source := by
    have kinds : (Node.mk info children).stmtKind source = (Node.mk info children').stmtKind source := by
      rw [stmtKind, stmtKind, Node.children, Node.children, contents]
      rfl
    rw [heading?, heading?, kinds, ← trimmed_shallow, shallows, trimmed_shallow]
  have block : (Node.mk info children).blockOpening? source = (Node.mk info children').blockOpening? source :=
    opening_congr source 0 rfl same
  have below : (Node.mk info children).descendants.filterMap (functionOpening? source) =
      (Node.mk info children').descendants.filterMap (functionOpening? source) := by
    have reached := congrArg (List.flatMap fun outline : Outline => outline.function.toList ++ outline.below) same
    rw [List.flatMap_map, List.flatMap_map] at reached
    rw [below_eq_flatMap, below_eq_flatMap]
    exact reached
  rw [outline, outline, token, expr, heading, block, functionOpening_congr source info same, below]
  rfl

end Outlines

theorem heading_eq (source : List Char) (node : Node) :
    node.heading? source =
      (if node.kind = "expression_statement" then contentExpr source node.children else none).map fun expr =>
        (expr, node.trimmed source) := by
  by_cases statement : node.kind = "expression_statement"
  · rw [heading?, stmtKind, if_pos statement, if_pos statement]
    cases contentExpr source node.children <;> rfl
  · rw [heading?, stmtKind, if_neg statement, if_neg statement]
    rfl

/-- What stands behind the next sibling that is no comment is not looked at. -/
theorem surroundings_upto (source : List Char) (inner : List Comment) (before front after after' : List Node)
    (next next' : Node) (noComment : next.isComment = false) (noComment' : next'.isComment = false)
    (token : next.firstLeaf.token = next'.firstLeaf.token) :
    surroundings source inner before (front ++ next :: after) =
      surroundings source inner before (front ++ next' :: after') := by
  have comments : (front ++ next :: after).takeWhile isComment = (front ++ next' :: after').takeWhile isComment := by
    rw [List.takeWhile_append, List.takeWhile_append, List.takeWhile_cons_of_neg (by simp [noComment]),
      List.takeWhile_cons_of_neg (by simp [noComment'])]
  simp only [surroundings, comments, List.find?_append, List.find?_cons, noComment, noComment', Bool.not_false]
  cases front.find? fun node => !node.isComment with
  | none => simp [token]
  | some first => rfl

theorem surroundings_comments (source : List Char) (before comments after : List Node)
    (allComments : ∀ comment ∈ comments, comment.isComment = true) :
    surroundings source (comments.map (comment source)) before after =
      surroundings source [] before (comments ++ after) := by
  have none : comments.find? (fun node => !node.isComment) = none := by
    rw [List.find?_eq_none]
    intro comment member
    simp [allComments comment member]
  simp [surroundings, List.takeWhile_append_of_pos allComments, none]

section Statement

variable (source : List Char) (info : NodeInfo) (kept comments : List Node) (last : Node)

theorem firstLeaf_hoisted : (Node.mk { info with stop := last.info.stop } (kept ++ [last])).firstLeaf =
    (Node.mk info (kept ++ last :: comments)).firstLeaf := by
  cases kept with
  | nil => rfl
  | cons first rest => rfl

/-- Comments at the end are not what a search finds that comments do not answer. -/
theorem find_hoisted (property : Node → Bool) (unlike : ∀ comment ∈ comments, property comment = false) :
    (kept ++ last :: comments).find? property = (kept ++ [last]).find? property := by
  have none : comments.find? property = none := by
    rw [List.find?_eq_none]
    intro comment member
    simp [unlike comment member]
  rw [List.append_cons, List.find?_append, none, Option.or_none]

theorem functionOpening_hoisted (noRole : ∀ comment ∈ comments, comment.info.field = none) :
    (Node.mk { info with stop := last.info.stop } (kept ++ [last])).functionOpening? source =
      (Node.mk info (kept ++ last :: comments)).functionOpening? source := by
  have body : (Node.mk info (kept ++ last :: comments)).child? "body" =
      (Node.mk { info with stop := last.info.stop } (kept ++ [last])).child? "body" :=
    find_hoisted kept comments last _ fun comment member => by simp [noRole comment member]
  rw [functionOpening?, functionOpening?, body]
  rfl

variable (noComment : last.isComment = false) (nonempty : comments ≠ [])
variable (allComments : ∀ comment ∈ comments, comment.isComment = true)

include noComment nonempty allComments

/-- Only the comments leave the heading of a statement. -/
theorem heading_hoisted :
    ∃ heading : Option (Expr × Span),
      (Node.mk info (kept ++ last :: comments)).heading? source =
        heading.map (fun (expr, span) => (expr, span, comments.map (comment source))) ∧
      (Node.mk { info with stop := last.info.stop } (kept ++ [last])).heading? source =
        heading.map fun (expr, span) => (expr, span, []) := by
  have expr : contentExpr source (kept ++ last :: comments) = contentExpr source (kept ++ [last]) := by
    have found := find_hoisted kept comments last isContent fun comment member =>
      isContent_of_isComment (allComments comment member)
    rw [contentExpr_eq_map_find, contentExpr_eq_map_find, found]
  have before := trimmed_of_comments source (.mk info (kept ++ last :: comments)) last kept comments rfl nonempty
    noComment allComments
  have after := trimmed_whole source (.mk { info with stop := last.info.stop } (kept ++ [last]))
    (Or.inl (by simpa [Node.children] using noComment))
  refine ⟨(if info.kind = "expression_statement" then contentExpr source (kept ++ [last]) else none).map fun expr =>
    (expr, (Node.mk { info with stop := last.info.stop } (kept ++ [last])).span), ?_, ?_⟩
  · rw [heading_eq, before, Node.children, expr, Option.map_map]
    rfl
  · rw [heading_eq, after, Option.map_map]
    rfl

end Statement

/-- The opening of siblings stays: the comments that leave a statement follow it. -/
theorem opening_hoisted (source : List Char) (next : StmtId) (before children children' : List Node)
    (moved : Hoisted children children') :
    opening? (placeStmts source next before children) = opening? (placeStmts source next before children') := by
  obtain ⟨front, after, kept, comments, info, last, content, noComment, nonempty, allComments⟩ := moved
  have onlyComments : ∀ comment ∈ comments, comment.isComment = true := fun comment member =>
    (allComments comment member).1
  have content' : (Node.mk { info with stop := last.info.stop } (kept ++ [last])).isContent = true := content
  induction front generalizing before with
  | nil =>
    -- The statement comes first: what is read as its own comments is then read as comments behind it.
    have noContent : comments.any isContent = false := by
      rw [List.any_eq_false]
      intro comment member
      simp [isContent_of_isComment (onlyComments comment member)]
    obtain ⟨heading, whole, cut⟩ := heading_hoisted source info kept comments last noComment nonempty onlyComments
    rw [List.nil_append, List.nil_append, opening_content source next before after _ content,
      opening_content source next before (comments ++ after) _ content', whole, cut, List.any_append, noContent,
      Bool.false_or]
    cases heading with
    | none => rfl
    | some heading =>
      simp only [Option.map_some, Option.bind_some, surroundings_comments source before comments after onlyComments]
  | cons first rest ih =>
    cases firstContent : first.isContent with
    | true =>
      -- An earlier statement comes first, and what follows that is read up to the changed one at most.
      rw [List.cons_append, List.cons_append, opening_content source next before _ first firstContent,
        opening_content source next before _ first firstContent]
      simp only [List.any_append, List.any_cons, content, content', Bool.true_or, Bool.or_true,
        surroundings_upto source _ before rest after (comments ++ after) _ _ (isComment_of_isContent content)
          (isComment_of_isContent content') (congrArg token (firstLeaf_hoisted info kept comments last).symm)]
    | false =>
      rw [List.cons_append, List.cons_append, placeStmts_skip source next before _ first firstContent,
        placeStmts_skip source next before _ first firstContent]
      exact ih (first :: before)

theorem below_hoisted (source : List Char) (info : NodeInfo) (children children' : List Node)
    (moved : Hoisted children children') :
    (Node.mk info children).descendants.filterMap (functionOpening? source) =
      (Node.mk info children').descendants.filterMap (functionOpening? source) := by
  obtain ⟨front, after, kept, comments, statement, last, _, _, _, allComments⟩ := moved
  have own := functionOpening_hoisted source statement kept comments last fun comment member =>
    (allComments comment member).2
  rw [below_eq_flatMap, below_eq_flatMap, Node.children, Node.children]
  simp only [List.flatMap_append, List.flatMap_cons, own]
  rw [below_eq_flatMap source (.mk statement (kept ++ last :: comments)),
    below_eq_flatMap source (.mk { statement with stop := last.info.stop } (kept ++ [last]))]
  simp only [Node.children, List.flatMap_append, List.flatMap_cons, List.flatMap_nil, List.append_nil,
    List.append_assoc]

/-- A container keeps its outline: as an expression or as a statement it shows its kind and its span only. -/
theorem outline_hoisted (source : List Char) (info : NodeInfo) (children children' : List Node)
    (container : info.kind = "program" ∨ info.kind = "statement_block") (moved : Hoisted children children') :
    (Node.mk info children).outline source = (Node.mk info children').outline source := by
  have token : (Node.mk info children).firstLeaf.token = (Node.mk info children').firstLeaf.token := by
    obtain ⟨front, after, kept, comments, statement, last, _, _, _, _⟩ := moved
    cases front with
    | nil => exact congrArg Node.token (firstLeaf_hoisted statement kept comments last).symm
    | cons first rest => rfl
  have expr : ∀ nodes, (Node.mk info nodes).expr source = ⟨.other info.kind, (Node.mk info []).span⟩ := by
    intro nodes
    rcases container with kind | kind <;> simp [Node.expr, bareExpr, Node.kind, Node.info, kind, span]
  have heading : ∀ nodes, (Node.mk info nodes).heading? source = none := by
    intro nodes
    rcases container with kind | kind <;> simp [heading_eq, Node.kind, Node.info, kind]
  have function : ∀ nodes, (Node.mk info nodes).functionOpening? source = none := by
    intro nodes
    rcases container with kind | kind <;> simp [functionOpening?, functionKind?, Node.kind, Node.info, kind]
  have block : (Node.mk info children).blockOpening? source = (Node.mk info children').blockOpening? source :=
    opening_hoisted source 0 [] children children' moved
  rw [outline, outline, token, expr, expr, heading, heading, function, function, block,
    below_hoisted source info children children' moved]
  rfl

/-- Step by step up the tree, the outlines of all nodes around a container stay. -/
theorem HoistedIn.outline_eq {root root' : Node} (moved : HoistedIn root root') (source : List Char) :
    root.outline source = root'.outline source := by
  induction moved with
  | here info children children' container moved => exact outline_hoisted source info children children' container moved
  | deeper info front back child child' _ ih =>
    apply outline_congr
    rw [List.map_append, List.map_append, List.map_cons, List.map_cons, ih]

end Prologue.Node

namespace Prologue.SourceFile

/-- Where a grammar attaches the comments behind a statement does not change the reports. -/
theorem lintFile_hoisted (config : Config) (language : Language) (source : String) (root root' : Node)
    (moved : root.HoistedIn root') :
    (Linter.ofConfig config).lintFile (ofTree language source root) =
      (Linter.ofConfig config).lintFile (ofTree language source root') := by
  have same := moved.outline_eq source.toList
  have block : root.blockOpening? source.toList = root'.blockOpening? source.toList := congrArg Node.Outline.block same
  have below : root.descendants.filterMap (Node.functionOpening? source.toList) =
      root'.descendants.filterMap (Node.functionOpening? source.toList) := congrArg Node.Outline.below same
  rw [lintFile_ofTree, lintFile_ofTree, Node.openings, Node.openings, block, below]

/-- The sample with the comment after the directive as a sibling of its statement. -/
def hoistedTree : Node :=
  plainNode "program" true ⟨0, 0, 0⟩ ⟨31, 4, 0⟩
    [plainNode "comment" true ⟨0, 0, 0⟩ ⟨4, 0, 4⟩ [],
      plainNode "expression_statement" true ⟨6, 2, 0⟩ ⟨18, 2, 12⟩
        [plainNode "string" true ⟨6, 2, 0⟩ ⟨18, 2, 12⟩
          [plainNode "'" false ⟨6, 2, 0⟩ ⟨7, 2, 1⟩ [],
            plainNode "string_fragment" true ⟨7, 2, 1⟩ ⟨17, 2, 11⟩ [],
            plainNode "'" false ⟨17, 2, 11⟩ ⟨18, 2, 12⟩ []]],
      plainNode "comment" true ⟨19, 2, 13⟩ ⟨23, 2, 17⟩ [],
      plainNode "variable_declaration" true ⟨24, 3, 0⟩ ⟨30, 3, 6⟩
        [plainNode "var" false ⟨24, 3, 0⟩ ⟨27, 3, 3⟩ [],
          plainNode "variable_declarator" true ⟨28, 3, 4⟩ ⟨29, 3, 5⟩
            [plainNode "identifier" true ⟨28, 3, 4⟩ ⟨29, 3, 5⟩ []],
          plainNode ";" false ⟨29, 3, 5⟩ ⟨30, 3, 6⟩ []]]

theorem lintFile_hoistedTree :
    spacedTree.HoistedIn hoistedTree ∧
    (Linter.ofConfig .default).lintFile (ofTree .javaScript spacedSource hoistedTree) =
      [offence .default ⟨3, 0, 3, 12⟩ .after] := by
  have moved : spacedTree.HoistedIn hoistedTree :=
    .here _ _ _ (Or.inl rfl) (.intro [_] [_] [] [_] _ _ (by decide) (by decide) (by simp) (by decide))
  have reports : (spacedTree.openings spacedSource.toList).flatMap
      (Opening.reports Config.default.policy Config.default.severity) = [offence .default ⟨3, 0, 3, 12⟩ .after] := by
    decide
  refine ⟨moved, ?_⟩
  rw [← lintFile_hoisted .default .javaScript spacedSource spacedTree hoistedTree moved, lintFile_ofTree, reports,
    List.mergeSort_singleton]

end Prologue.SourceFile
