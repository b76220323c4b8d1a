import Mathlib.Data.List.Basic
import Mathlib.Data.Prod.Lex
import Prologue.Linter

/-! Places of a source text, compared by line and then by column. Reports are sorted by the place at which they
start, and reports at one place stay in the order in which the rules made them. -/

namespace Prologue

/-- A line and a column. -/
abbrev Place := ℕ ×ₗ ℕ

namespace Span

def start (span : Span) : Place := toLex (span.startLine, span.startCol)

def stop (span : Span) : Place := toLex (span.endLine, span.endCol)

end Span

theorem Span.endLine_le_of_stop_le_start {a b : Span} (ordered : a.stop ≤ b.start) : a.endLine ≤ b.startLine :=
  Prod.Lex.monotone_fst _ _ ordered

namespace Diagnostic

theorem notAfter_iff (a b : Diagnostic) : a.notAfter b = true ↔ a.span.start ≤ b.span.start := by
  simp [notAfter, Span.start, Prod.Lex.toLex_le_toLex]

theorem notAfter_trans (a b c : Diagnostic) (first : a.notAfter b = true) (second : b.notAfter c = true) :
    a.notAfter c = true := by
  rw [notAfter_iff] at *
  exact first.trans second

theorem notAfter_total (a b : Diagnostic) : (a.notAfter b || b.notAfter a) = true := by
  rw [Bool.or_eq_true, notAfter_iff, notAfter_iff]
  exact le_total _ _

/-- A list sorted by place falls into what starts before a place, what starts at it and what starts behind it. -/
theorem sorted_split (reports : List Diagnostic) (place : Place)
    (sorted : reports.Pairwise fun a b => a.span.start ≤ b.span.start) :
    reports = reports.filter (fun d => d.span.start < place) ++ reports.filter (fun d => d.span.start = place) ++
      reports.filter (fun d => place < d.span.start) := by
  induction reports with
  | nil => rfl
  | cons d rest ih =>
    obtain ⟨later, sortedRest⟩ := List.pairwise_cons.mp sorted
    have split := ih sortedRest
    rcases lt_trichotomy d.span.start place with before | same | behind
    · simp only [List.filter_cons, before, before.ne, before.not_gt, decide_true, decide_false, ↓reduceIte,
        Bool.false_eq_true, List.cons_append]
      exact congrArg (d :: ·) split
    · have noneBefore : rest.filter (fun d => d.span.start < place) = [] := by
        rw [List.filter_eq_nil_iff]
        intro other member
        simpa [same] using later other member
      rw [noneBefore, List.nil_append] at split
      simp only [List.filter_cons, same, lt_irrefl, decide_true, decide_false, ↓reduceIte, Bool.false_eq_true,
        noneBefore, List.nil_append, List.cons_append]
      exact congrArg (d :: ·) split
    · have allBehind : ∀ other ∈ d :: rest, place < other.span.start := by
        intro other member
        rcases List.mem_cons.mp member with rfl | member
        · exact behind
        · exact behind.trans_le (later other member)
      rw [List.filter_eq_nil_iff.mpr, List.filter_eq_nil_iff.mpr, List.filter_eq_self.mpr]
      · rfl
      · intro other member
        exact decide_eq_true (allBehind other member)
      · intro other member
        simpa using (allBehind other member).ne'
      · intro other member
        simpa using (allBehind other member).le

/-- Sorting is stable: what starts at one place keeps its order. -/
theorem filter_mergeSort (reports : List Diagnostic) (place : Place) :
    (reports.mergeSort notAfter).filter (fun d => d.span.start = place) =
      reports.filter (fun d => d.span.start = place) := by
  have tied : (reports.filter fun d => d.span.start = place).Pairwise fun a b => a.notAfter b = true := by
    rw [List.pairwise_filter]
    apply List.pairwise_of_forall
    intro a b first second
    rw [notAfter_iff, of_decide_eq_true first, of_decide_eq_true second]
  have kept : (reports.filter fun d => d.span.start = place).Sublist (reports.mergeSort notAfter) :=
    List.sublist_mergeSort notAfter_trans notAfter_total tied List.filter_sublist
  have narrowed := kept.filter fun d => d.span.start = place
  rw [List.filter_filter] at narrowed
  simp only [Bool.and_self] at narrowed
  exact (narrowed.eq_of_length ((List.mergeSort_perm reports notAfter).filter _).length_eq.symm).symm

/-- The same reports ordered by place, those at one place in the order that they had. -/
structure StablySorted (reports sorted : List Diagnostic) : Prop where
  perm : sorted.Perm reports
  ordered : sorted.Pairwise fun a b => a.span.start ≤ b.span.start
  stable : ∀ place : Place, sorted.filter (fun d => d.span.start = place) =
    reports.filter fun d => d.span.start = place

theorem stablySorted_mergeSort (reports : List Diagnostic) : StablySorted reports (reports.mergeSort notAfter) := by
  refine ⟨List.mergeSort_perm _ _, ?_, filter_mergeSort reports⟩
  have sorted := List.pairwise_mergeSort notAfter_trans notAfter_total reports
  exact sorted.imp fun {a b} ordered => (notAfter_iff a b).mp ordered

theorem mem_iff_of_filter_eq {first second : List Diagnostic}
    (same : ∀ place : Place, first.filter (fun d => d.span.start = place) =
      second.filter fun d => d.span.start = place) (d : Diagnostic) : d ∈ first ↔ d ∈ second := by
  have here := congrArg (d ∈ ·) (same d.span.start)
  simpa using here

/-- Ordered lists that agree at every place are equal. -/
theorem eq_of_filter_eq (first second : List Diagnostic)
    (ordered : first.Pairwise fun a b => a.span.start ≤ b.span.start)
    (ordered' : second.Pairwise fun a b => a.span.start ≤ b.span.start)
    (same : ∀ place : Place, first.filter (fun d => d.span.start = place) =
      second.filter fun d => d.span.start = place) : first = second := by
  have members := mem_iff_of_filter_eq same
  induction first generalizing second with
  | nil =>
    cases second with
    | nil => rfl
    | cons b rest => cases (members b).mpr List.mem_cons_self
  | cons a rest ih =>
    cases second with
    | nil => cases (members a).mp List.mem_cons_self
    | cons b rest' =>
      obtain ⟨least, orderedRest⟩ := List.pairwise_cons.mp ordered
      obtain ⟨least', orderedRest'⟩ := List.pairwise_cons.mp ordered'
      -- Either list starts with a report at its least place, and that is the same place.
      have together : b.span.start = a.span.start := by
        apply le_antisymm
        · rcases List.mem_cons.mp ((members a).mp List.mem_cons_self) with rfl | member
          · exact le_rfl
          · exact least' a member
        · rcases List.mem_cons.mp ((members b).mpr List.mem_cons_self) with rfl | member
          · exact le_rfl
          · exact least b member
      have heads := same a.span.start
      rw [List.filter_cons_of_pos (by simp), List.filter_cons_of_pos (by simpa using together)] at heads
      obtain ⟨rfl, tails⟩ := List.cons.inj heads
      have sameRest : ∀ place : Place, rest.filter (fun d => d.span.start = place) =
          rest'.filter fun d => d.span.start = place := by
        intro place
        by_cases here : a.span.start = place
        · rw [← here]
          exact tails
        · have elsewhere := same place
          rwa [List.filter_cons_of_neg (by simpa using here), List.filter_cons_of_neg (by simpa using here)]
            at elsewhere
      rw [ih rest' orderedRest orderedRest' sameRest (mem_iff_of_filter_eq sameRest)]

/-- There is one stable sort. -/
theorem StablySorted.unique {reports sorted sorted' : List Diagnostic} (first : StablySorted reports sorted)
    (second : StablySorted reports sorted') : sorted = sorted' :=
  eq_of_filter_eq sorted sorted' first.ordered second.ordered fun place =>
    (first.stable place).trans (second.stable place).symm

/-- Sorting and leaving out some reports can change places. -/
theorem mergeSort_filter (reports : List Diagnostic) (keep : Diagnostic → Bool) :
    (reports.mergeSort notAfter).filter keep = (reports.filter keep).mergeSort notAfter := by
  have whole := stablySorted_mergeSort reports
  apply StablySorted.unique _ (stablySorted_mergeSort (reports.filter keep))
  refine ⟨whole.perm.filter keep, whole.ordered.filter keep, ?_⟩
  intro place
  rw [List.filter_comm, whole.stable place, List.filter_comm]

end Diagnostic

namespace Linter

variable (linter : Linter) (scopes : List Scope) (trivia : Trivia)

theorem lint_perm : (linter.lint scopes trivia).Perm (scopes.flatMap (linter.checkScope trivia)) :=
  List.mergeSort_perm _ _

theorem lint_sorted : (linter.lint scopes trivia).Pairwise fun a b => a.span.start ≤ b.span.start :=
  (Diagnostic.stablySorted_mergeSort _).ordered

/-- The reports that start at one place stand together, in the order in which the scopes gave them. -/
theorem lint_run_at (place : Place) :
    ∃ front back : List Diagnostic, (∀ d ∈ front, d.span.start ≠ place) ∧
      linter.lint scopes trivia =
        front ++ (scopes.flatMap (linter.checkScope trivia)).filter (fun d => d.span.start = place) ++ back := by
  have split := Diagnostic.sorted_split _ place (linter.lint_sorted scopes trivia)
  have run : (linter.lint scopes trivia).filter (fun d => d.span.start = place) = _ :=
    Diagnostic.filter_mergeSort _ place
  rw [run] at split
  refine ⟨_, _, ?_, split⟩
  intro d member
  exact (of_decide_eq_true (List.mem_filter.mp member).2).ne

end Linter

end Prologue
