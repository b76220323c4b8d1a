import Prologue.Parsing
import Prologue.Proofs.Scopes

/-! Syntax errors are the outermost faults of a tree. The search for them does not go below a node without the error
flag, nor below a fault; where the flags are right, it still comes to every fault that has none above it, and to these
in the order of the source. -/

namespace Prologue

namespace Node

/-- A node for text that fits no rule, or for text that is missing. -/
def IsFault (node : Node) : Prop := node.info.isError = true ∨ node.info.isMissing = true

instance : DecidablePred IsFault := fun node =>
  inferInstanceAs (Decidable (node.info.isError = true ∨ node.info.isMissing = true))

/-- The syntax error of a fault. -/
def faultReport (source : List Char) (node : Node) : SyntaxFault :=
  node.fault source (if node.info.isError then "unexpected syntax" else "missing '" ++ node.kind ++ "'")

/-- A tree whose error flags are right: a node has one if it is a fault or there is one below it. -/
def Flagged (root : Node) : Prop :=
  ∀ node ∈ root.subtrees, node.info.hasError = true ↔ ∃ below ∈ node.subtrees, below.IsFault

instance (root : Node) : Decidable root.Flagged :=
  inferInstanceAs (Decidable
    (∀ node ∈ root.subtrees, node.info.hasError = true ↔ ∃ below ∈ node.subtrees, below.IsFault))

theorem Flagged.child {node child : Node} (flagged : node.Flagged) (member : child ∈ node.children) :
    child.Flagged := by
  intro below inside
  exact flagged below (mem_subtrees_of_child node child below member inside)

theorem faults_of_not_hasError (source : List Char) (node : Node) (clear : node.info.hasError = false) :
    node.faults source = [] := by
  cases node with
  | mk info children =>
    have flag : info.hasError = false := clear
    rw [faults, flag]
    rfl

/-- One step of the search: a fault is reported, and below any other node the search goes on. -/
theorem faults_of_flagged (source : List Char) (node : Node) (flagged : node.Flagged) :
    node.faults source =
      if node.IsFault then [node.faultReport source] else node.children.flatMap (faults source) := by
  have flag := flagged node (self_mem_subtrees node)
  cases hasError : node.info.hasError with
  | false =>
    have clear : ∀ below ∈ node.subtrees, ¬ below.IsFault := by
      intro below inside fault
      rw [flag.mpr ⟨below, inside, fault⟩] at hasError
      cases hasError
    -- The flag is off in every child too, so going on would find nothing.
    have silent : ∀ child ∈ node.children, child.faults source = [] := by
      intro child member
      apply faults_of_not_hasError
      rw [Bool.eq_false_iff]
      intro set
      obtain ⟨below, inside, fault⟩ := (flagged.child member child (self_mem_subtrees child)).mp set
      exact clear below (mem_subtrees_of_child node child below member inside) fault
    rw [faults_of_not_hasError source node hasError, if_neg (clear node (self_mem_subtrees node)), eq_comm,
      List.flatMap_eq_nil_iff]
    exact silent
  | true =>
    cases node with
    | mk info children =>
      have set : info.hasError = true := hasError
      rw [faults, faultsOf_eq_flatMap]
      cases isError : info.isError with
      | true => simp [set, isError, IsFault, faultReport, Node.info]
      | false =>
        cases isMissing : info.isMissing with
        | true => simp [set, isError, isMissing, IsFault, faultReport, Node.info, Node.kind]
        | false => simp [set, isError, isMissing, IsFault, Node.info, Node.children]

/-! ### Addresses -/

/-- The node at an address, which gives the positions of the children to go down to. -/
def at? : Node → List Nat → Option Node
  | root, [] => some root
  | root, index :: address => root.children[index]?.bind fun child => child.at? address

/-- The address of a fault such that no node on the way to it is a fault. -/
def Outermost (root : Node) (address : List Nat) : Prop :=
  (∃ node, root.at? address = some node ∧ node.IsFault) ∧
    ∀ depth < address.length, ∀ above, root.at? (address.take depth) = some above → ¬ above.IsFault

theorem outermost_nil_iff (root : Node) : root.Outermost [] ↔ root.IsFault := by
  simp [Outermost, at?]

theorem outermost_cons_iff (root : Node) (index : Nat) (address : List Nat) :
    root.Outermost (index :: address) ↔
      ¬ root.IsFault ∧ ∃ child, root.children[index]? = some child ∧ child.Outermost address := by
  constructor
  · rintro ⟨⟨node, found, fault⟩, above⟩
    obtain ⟨child, here, below⟩ := Option.bind_eq_some_iff.mp found
    refine ⟨above 0 (Nat.succ_pos _) root rfl, child, here, ⟨node, below, fault⟩, ?_⟩
    intro depth less passed reached
    refine above (depth + 1) (Nat.succ_lt_succ less) passed ?_
    rw [List.take_succ_cons, at?, here]
    exact reached
  · rintro ⟨sound, child, here, ⟨node, found, fault⟩, above⟩
    refine ⟨⟨node, by rw [at?, here]; exact found, fault⟩, ?_⟩
    intro depth less passed reached
    cases depth with
    | zero =>
      cases reached
      exact sound
    | succ depth =>
      rw [List.take_succ_cons, at?, here] at reached
      exact above depth (Nat.lt_of_succ_lt_succ less) passed reached

mutual
/-- The addresses of the outermost faults. -/
def outermost : Node → List (List Nat)
  | .mk info children =>
    if info.isError = true ∨ info.isMissing = true then [[]] else outermostFrom 0 children
termination_by structural node => node

/-- The same in siblings, which are numbered from `start` on. -/
def outermostFrom (start : Nat) : List Node → List (List Nat)
  | [] => []
  | child :: rest => child.outermost.map (start :: ·) ++ outermostFrom (start + 1) rest
termination_by structural nodes => nodes
end

theorem outermostFrom_eq_flatMap (start : Nat) (nodes : List Node) :
    outermostFrom start nodes = (nodes.zipIdx start).flatMap fun entry => entry.1.outermost.map (entry.2 :: ·) := by
  induction nodes generalizing start with
  | nil => rfl
  | cons node rest ih => rw [outermostFrom, ih, List.zipIdx_cons, List.flatMap_cons]

theorem outermost_eq (node : Node) :
    node.outermost =
      if node.IsFault then [[]]
      else node.children.zipIdx.flatMap fun entry => entry.1.outermost.map (entry.2 :: ·) := by
  cases node with
  | mk info children =>
    rw [outermost, outermostFrom_eq_flatMap]
    rfl

theorem mem_outermost_iff (root : Node) (address : List Nat) : address ∈ root.outermost ↔ root.Outermost address := by
  induction root using tree_induction generalizing address with
  | step info children ih =>
    rw [outermost_eq]
    cases address with
    | nil =>
      rw [outermost_nil_iff]
      by_cases fault : (Node.mk info children).IsFault <;> simp [fault]
    | cons index address =>
      rw [outermost_cons_iff]
      by_cases fault : (Node.mk info children).IsFault
      · simp [fault]
      · rw [if_neg fault, and_iff_right fault]
        simp only [Node.children, List.mem_flatMap, List.mem_map, List.cons.injEq, Prod.exists,
          List.mem_zipIdx_iff_getElem?]
        constructor
        · rintro ⟨child, position, here, below, listed, rfl, rfl⟩
          exact ⟨child, here, (ih child (List.mem_of_getElem? here) below).mp listed⟩
        · rintro ⟨child, here, outer⟩
          exact ⟨child, index, here, address, (ih child (List.mem_of_getElem? here) address).mpr outer, rfl, rfl⟩

theorem zipIdx_sorted (nodes : List Node) (start : Nat) : (nodes.zipIdx start).Pairwise fun a b => a.2 < b.2 := by
  induction nodes generalizing start with
  | nil => exact .nil
  | cons node rest ih =>
    rw [List.zipIdx_cons, List.pairwise_cons]
    exact ⟨fun later member => List.le_snd_of_mem_zipIdx member, ih (start + 1)⟩

/-- An address comes before those below it and those further right. -/
theorem outermost_sorted (root : Node) : root.outermost.Pairwise (· < ·) := by
  induction root using tree_induction with
  | step info children ih =>
    rw [outermost_eq]
    split
    · exact List.pairwise_singleton _ _
    · rw [List.pairwise_flatMap]
      constructor
      · rintro ⟨child, index⟩ entry
        have member := List.mem_of_getElem? (List.mem_zipIdx_iff_getElem?.mp entry)
        rw [List.pairwise_map]
        exact (ih child member).imp fun before => List.cons_lt_cons_iff.mpr (Or.inr ⟨rfl, before⟩)
      · refine (zipIdx_sorted children 0).imp ?_
        rintro a b before first inA second inB
        obtain ⟨below, -, rfl⟩ := List.mem_map.mp inA
        obtain ⟨other, -, rfl⟩ := List.mem_map.mp inB
        exact List.cons_lt_cons_iff.mpr (Or.inl before)

/-- The search reports the outermost faults in the order of their addresses. -/
theorem faults_eq_outermost (source : List Char) (root : Node) (flagged : root.Flagged) :
    root.outermost.map (fun address => (root.at? address).map (faultReport source)) =
      (root.faults source).map some := by
  induction root using tree_induction with
  | step info children ih =>
    rw [outermost_eq, faults_of_flagged source _ flagged]
    split
    · rfl
    · have each : ∀ entry ∈ children.zipIdx,
          (entry.1.outermost.map (entry.2 :: ·)).map
            (fun address => ((Node.mk info children).at? address).map (faultReport source)) =
          (entry.1.faults source).map some := by
        rintro ⟨child, index⟩ entry
        have here := List.mem_zipIdx_iff_getElem?.mp entry
        have member := List.mem_of_getElem? here
        rw [← ih child member (flagged.child member), List.map_map]
        apply List.map_congr_left
        intro address _
        simp only [Function.comp_apply, at?, Node.children, here, Option.bind_some]
      have forgotten : children.flatMap (faults source) =
          children.zipIdx.flatMap fun entry => entry.1.faults source := by
        conv_lhs => rw [← List.zipIdx_map_fst 0 children, List.flatMap_map]
      simp only [Node.children, List.map_flatMap, forgotten]
      exact List.flatMap_congr each

/-! ### The first fault -/

/-- What is reported first is the first fault on the way down the tree. -/
theorem head_faults (source : List Char) (root : Node) (flagged : root.Flagged) :
    (root.faults source).head? = (root.subtrees.find? IsFault).map (faultReport source) := by
  induction root using tree_induction with
  | step info children ih =>
    rw [faults_of_flagged source _ flagged, subtrees, List.find?_cons, descendants_eq_flatMap]
    by_cases fault : (Node.mk info children).IsFault
    · simp [fault]
    · have each : ∀ child ∈ children,
          (child.faults source).head? = (child.subtrees.find? IsFault).map (faultReport source) :=
        fun child member => ih child member (flagged.child member)
      simp only [fault, if_false, decide_false, Node.children]
      calc
        (children.flatMap (faults source)).head?
            = children.findSome? fun child => (child.faults source).head? := List.head?_flatMap
        _ = children.findSome? fun child => (child.subtrees.find? IsFault).map (faultReport source) := by
            rw [← List.head?_filterMap, List.filterMap_congr each, List.head?_filterMap]
        _ = (children.findSome? fun child => child.subtrees.find? IsFault).map (faultReport source) :=
            List.map_findSome?.symm
        _ = ((children.flatMap subtrees).find? IsFault).map (faultReport source) := by rw [List.find?_flatMap]

theorem faults_eq_nil_iff (source : List Char) (root : Node) (flagged : root.Flagged) :
    root.faults source = [] ↔ ∀ node ∈ root.subtrees, ¬ node.IsFault := by
  rw [← List.head?_eq_none_iff, head_faults source root flagged, Option.map_eq_none_iff, List.find?_eq_none]
  simp

/-- Of all faults of a well-formed tree, the first on the way down starts first. -/
theorem WellFormed.find_fault_le {root first : Node} (wellFormed : root.WellFormed)
    (found : root.subtrees.find? IsFault = some first) (other : Node) (member : other ∈ root.subtrees)
    (fault : other.IsFault) : first.span.start ≤ other.span.start := by
  obtain ⟨-, front, back, split, clear⟩ := List.find?_eq_some_iff_append.mp found
  have sorted := wellFormed.starts_sorted
  rw [split] at sorted member
  rcases List.mem_append.mp member with early | late
  · have sound := clear other early
    simp [fault] at sound
  · rcases List.mem_cons.mp late with rfl | late
    · exact le_rfl
    · exact (List.pairwise_cons.mp (List.pairwise_append.mp sorted).2.1).1 other late

end Node

theorem grammarTree_known (language : Language) (root : Node) (known : language ≠ .unknown) :
    grammarTree language (some root) = .ok root := by
  cases language with
  | unknown => exact absurd rfl known
  | _ => rfl

theorem parseSource_of_head (language : Language) (source : String) (root : Node) (known : language ≠ .unknown)
    (first : SyntaxFault) (head : (root.faults source.toList).head? = some first) :
    parseSource language source (some root) = .error (.source (.malformed first)) := by
  obtain ⟨rest, faults⟩ := List.head?_eq_some_iff.mp head
  simp only [parseSource, grammarTree_known language root known, faults]

theorem parseSource_of_nil (language : Language) (source : String) (root : Node) (known : language ≠ .unknown)
    (faultless : root.faults source.toList = []) :
    parseSource language source (some root) = .ok (.ofTree language source root) := by
  simp only [parseSource, grammarTree_known language root known, faultless]

/-- A source is accepted or else refused for a syntax error. -/
theorem parseSource_ok_iff (language : Language) (source : String) (root : Node) (known : language ≠ .unknown) :
    ((∃ file, parseSource language source (some root) = .ok file) ↔ root.faults source.toList = []) ∧
      ((∃ fault, parseSource language source (some root) = .error (.source fault)) ↔
        root.faults source.toList ≠ []) := by
  cases faults : root.faults source.toList with
  | nil => simp [parseSource_of_nil language source root known faults]
  | cons first rest => simp [parseSource_of_head language source root known first (by rw [faults]; rfl)]

/-- A source is refused for its syntax if and only if its tree has syntax errors, and the first of these is told. If
the flags of the tree are right, the syntax errors are its outermost faults, each once and in the order of the nodes on
the way down, so a source is accepted if and only if there is no fault in its tree; and in a well-formed tree no fault
starts before the one that is told. -/
theorem parseSource_faults (language : Language) (source : String) (root : Node) (known : language ≠ .unknown) :
    ∃ faults, syntaxFaults language source (some root) = .ok faults ∧
      ((∃ fault, parseSource language source (some root) = .error (.source fault)) ↔ faults ≠ []) ∧
      (∀ first, faults.head? = some first →
        ∃ error, parseSource language source (some root) = .error error ∧
          error.message = "Code parse error: " ++ (first.message ++ " at " ++ toString first.span.startLine ++ ":" ++
            toString (first.span.startCol + 1) ++ " `" ++ String.ofList (trimBlank first.sourceText) ++ "`")) ∧
      (root.Flagged →
        (∃ addresses : List (List Nat), (∀ address, address ∈ addresses ↔ root.Outermost address) ∧
          addresses.Pairwise (· < ·) ∧
          addresses.map (fun address => (root.at? address).map (Node.faultReport source.toList)) = faults.map some) ∧
        ((∃ file, parseSource language source (some root) = .ok file) ↔ ∀ node ∈ root.subtrees, ¬ node.IsFault) ∧
        (root.WellFormed → ∀ first, faults.head? = some first →
          ∃ node ∈ root.subtrees, node.IsFault ∧ first = node.faultReport source.toList ∧
            ∀ other ∈ root.subtrees, other.IsFault → node.span.start ≤ other.span.start)) := by
  have outcome := parseSource_ok_iff language source root known
  have listed : syntaxFaults language source (some root) = .ok (root.faults source.toList) := by
    rw [syntaxFaults, grammarTree_known language root known]
    rfl
  refine ⟨root.faults source.toList, listed, outcome.2, ?_, ?_⟩
  · intro first head
    exact ⟨_, parseSource_of_head language source root known first head, rfl⟩
  · intro flagged
    refine ⟨⟨root.outermost, root.mem_outermost_iff, root.outermost_sorted,
      root.faults_eq_outermost source.toList flagged⟩, ?_, ?_⟩
    · rw [outcome.1, root.faults_eq_nil_iff source.toList flagged]
    · intro wellFormed first head
      rw [root.head_faults source.toList flagged] at head
      obtain ⟨node, found, rfl⟩ := Option.map_eq_some_iff.mp head
      have fault : node.IsFault := by simpa using List.find?_some found
      exact ⟨node, List.mem_of_find?_eq_some found, fault, rfl, wellFormed.find_fault_le found⟩

/-- A node on the first row with an error flag, and with a mark if it is a fault. -/
def flaggedNode (kind : String) (named isError isMissing : Bool) (start stop : Nat) (children : List Node) : Node :=
  .mk { kind, named, isError, isMissing, hasError := true, field := none,
        start := ⟨start, 0, start⟩, stop := ⟨stop, 0, stop⟩ } children

def strayCase : String := "case 1:"

/-- The tree of that text, read as a label with a number in it that does not fit and no statement behind it. -/
def strayCaseTree : Node :=
  flaggedNode "program" true false false 0 7
    [flaggedNode "labeled_statement" true false false 0 7
      [SourceFile.rowNode "statement_identifier" true (some "label") 0 4 [],
        flaggedNode "ERROR" true true false 5 6 [SourceFile.rowNode "number" true none 5 6 []],
        SourceFile.rowNode ":" false none 6 7 [],
        flaggedNode "empty_statement" true false false 7 7 [flaggedNode ";" false false true 7 7 []]]]

theorem parseSource_faults_strayCaseTree :
    strayCaseTree.Flagged ∧ strayCaseTree.WellFormed ∧
    syntaxFaults .javaScript strayCase (some strayCaseTree) =
      .ok [⟨"unexpected syntax", ⟨1, 5, 1, 6⟩, ['1', ':']⟩, ⟨"missing ';'", ⟨1, 7, 1, 7⟩, []⟩] ∧
    (∃ fault, parseSource .javaScript strayCase (some strayCaseTree) = .error (.source fault)) ∧
    ∃ node ∈ strayCaseTree.subtrees, node.IsFault ∧
      ∀ other ∈ strayCaseTree.subtrees, other.IsFault → node.span.start ≤ other.span.start := by
  have flagged : strayCaseTree.Flagged := by decide
  have wellFormed : strayCaseTree.WellFormed := by decide
  have listed : syntaxFaults .javaScript strayCase (some strayCaseTree) =
      .ok [⟨"unexpected syntax", ⟨1, 5, 1, 6⟩, ['1', ':']⟩, ⟨"missing ';'", ⟨1, 7, 1, 7⟩, []⟩] := rfl
  obtain ⟨faults, found, refused, -, below⟩ := parseSource_faults .javaScript strayCase strayCaseTree (by decide)
  cases listed.symm.trans found
  obtain ⟨node, member, fault, -, least⟩ := (below flagged).2.2 wellFormed _ rfl
  exact ⟨flagged, wellFormed, listed, refused.mpr (by simp), node, member, fault, least⟩

end Prologue
