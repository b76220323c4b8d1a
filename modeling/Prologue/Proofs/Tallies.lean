import Mathlib.Data.List.Basic
import Prologue.Report

/-! The totals of a report and its text. Both are made from the same files in separate ways, and both tell of the same
problems: the number in the last line is the number of problems written above it. -/

namespace Prologue

/-- A line in the text of a report. -/
inductive Line where
  | file (path : String)
  | fatal (error : String)
  | finding (diagnostic : Diagnostic)
  | blank
  | clean (files : Nat)
  | tally (problems errors warnings fatals files : Nat)

namespace Line

def text : Line → String
  | .file path => path
  | .fatal error => "  fatal  " ++ error
  | .finding diagnostic => "  " ++ diagnostic.render
  | .blank => ""
  | .clean files => "✓ " ++ toString files ++ " file(s) checked, no problems"
  | .tally problems errors warnings fatals files =>
    "✗ " ++ toString problems ++ " problem(s) (" ++ toString errors ++ " error(s), " ++ toString warnings ++
      " warning(s), " ++ toString fatals ++ " fatal) in " ++ toString files ++ " file(s)"

/-- Whether a line tells of a problem of a file. -/
def isProblem : Line → Bool
  | .fatal _ | .finding _ => true
  | _ => false

/-- Lines below each other, each with a line feed at its end. -/
def page (lines : List Line) : String := String.join (lines.map fun line => line.text ++ "\n")

theorem page_cons (line : Line) (lines : List Line) : page (line :: lines) = line.text ++ "\n" ++ page lines :=
  String.join_cons

theorem page_append (front back : List Line) : page (front ++ back) = page front ++ page back := by
  rw [page, List.map_append, String.join_append]
  rfl

end Line

namespace FileReport

/-- There is something to tell about a file. -/
def Notable (file : FileReport) : Prop := file.error ≠ none ∨ file.diagnostics ≠ []

instance (file : FileReport) : Decidable file.Notable := inferInstanceAs (Decidable (_ ∨ _))

/-- What is told about a file. -/
def block (file : FileReport) : List Line :=
  .file file.path :: (file.error.toList.map .fatal ++ file.diagnostics.map .finding ++ [.blank])

theorem page_block (file : FileReport) :
    Line.page file.block =
      file.path ++ "\n" ++
        (match file.error with
          | some error => "  fatal  " ++ error ++ "\n"
          | none => "") ++
        String.join (file.diagnostics.map fun diagnostic => "  " ++ diagnostic.render ++ "\n") ++ "\n" := by
  have regroup (a b c d : String) : a ++ (b ++ c ++ d) = a ++ b ++ c ++ d := by
    rw [← String.append_assoc, ← String.append_assoc]
  have fatals : Line.page (file.error.toList.map .fatal) = match file.error with
      | some error => "  fatal  " ++ error ++ "\n"
      | none => "" := by
    cases file.error <;> rfl
  have findings : Line.page (file.diagnostics.map .finding) =
      String.join (file.diagnostics.map fun diagnostic => "  " ++ diagnostic.render ++ "\n") := by
    rw [Line.page, List.map_map]
    rfl
  rw [block, Line.page_cons, Line.page_append, Line.page_append, fatals, findings]
  exact regroup _ _ _ _

theorem fileText_eq (file : FileReport) : Report.fileText file = if file.Notable then Line.page file.block else "" := by
  have silent : (file.diagnostics.isEmpty && file.error.isNone) = true ↔ ¬file.Notable := by
    simp only [Notable, Bool.and_eq_true, List.isEmpty_iff, Option.isNone_iff_eq_none, ne_eq, not_or, not_not]
    exact and_comm
  unfold Report.fileText
  by_cases notable : file.Notable
  · rw [if_neg (fun quiet => silent.mp quiet notable), if_pos notable]
    exact (page_block file).symm
  · rw [if_pos (silent.mpr notable), if_neg notable]

theorem count_add_count (file : FileReport) : file.count .error + file.count .warning = file.diagnostics.length := by
  unfold count
  induction file.diagnostics with
  | nil => rfl
  | cons diagnostic rest ih =>
    rw [List.countP_cons, List.countP_cons, List.length_cons, ← ih]
    cases diagnostic.severity <;> simp <;> omega

theorem count_error_eq_zero_iff (file : FileReport) :
    file.count .error = 0 ↔ ∀ diagnostic ∈ file.diagnostics, diagnostic.severity = .warning := by
  rw [count, List.countP_eq_zero]
  apply forall₂_congr
  intro diagnostic _
  cases diagnostic.severity <;> simp

/-- Each problem of a file takes one line. -/
theorem countP_block (file : FileReport) :
    file.block.countP Line.isProblem = file.diagnostics.length + file.error.toList.length := by
  have fatals : (file.error.toList.map Line.fatal).countP Line.isProblem = file.error.toList.length := by
    rw [List.countP_map]
    exact List.countP_eq_length.mpr fun _ _ => rfl
  have findings : (file.diagnostics.map Line.finding).countP Line.isProblem = file.diagnostics.length := by
    rw [List.countP_map]
    exact List.countP_eq_length.mpr fun _ _ => rfl
  have frame : Line.isProblem (.file file.path) = false ∧ [Line.blank].countP Line.isProblem = 0 := ⟨rfl, rfl⟩
  rw [block, List.countP_cons_of_neg (by simp [frame]), List.countP_append, List.countP_append, fatals, findings, frame.2,
    Nat.add_zero, Nat.add_comm]

end FileReport

namespace Report

/-- The lines above the last one: the blocks of the files that there is something to tell about. -/
def body (files : List FileReport) : List Line := (files.filter fun file => file.Notable).flatMap FileReport.block

theorem body_cons (file : FileReport) (files : List FileReport) :
    body (file :: files) = (if file.Notable then file.block else []) ++ body files := by
  unfold body
  by_cases notable : file.Notable
  · rw [List.filter_cons_of_pos (by simpa using notable), List.flatMap_cons, if_pos notable]
  · rw [List.filter_cons_of_neg (by simpa using notable), if_neg notable, List.nil_append]

theorem page_body (files : List FileReport) : Line.page (body files) = String.join (files.map fileText) := by
  induction files with
  | nil => rfl
  | cons file files ih =>
    rw [body_cons, Line.page_append, ih, List.map_cons, String.join_cons, file.fileText_eq]
    split <;> rfl

theorem total_add_total (files : List FileReport) :
    total .error files + total .warning files = (files.flatMap FileReport.diagnostics).length := by
  induction files with
  | nil => rfl
  | cons file files ih =>
    have counts := file.count_add_count
    rw [total, total, List.flatMap_cons, List.length_append]
    omega

theorem total_error_eq_zero_iff (files : List FileReport) :
    total .error files = 0 ↔ ∀ file ∈ files, ∀ diagnostic ∈ file.diagnostics, diagnostic.severity = .warning := by
  induction files with
  | nil => simp [total]
  | cons file files ih => rw [total, Nat.add_eq_zero_iff, ih, file.count_error_eq_zero_iff, List.forall_mem_cons]

/-- As many problems are written as the totals count. -/
theorem countP_body (files : List FileReport) :
    (body files).countP Line.isProblem =
      total .error files + total .warning files + files.countP fun file => file.error.isSome := by
  rw [total_add_total]
  induction files with
  | nil => rfl
  | cons file files ih =>
    rw [body_cons, List.countP_append, ih, List.flatMap_cons, List.length_append, List.countP_cons]
    by_cases notable : file.Notable
    · rw [if_pos notable, file.countP_block]
      cases file.error <;> simp <;> omega
    · obtain ⟨unharmed, silent⟩ := not_or.mp notable
      rw [if_neg notable, not_not.mp unharmed, not_not.mp silent]
      simp

theorem passed_ofFiles_iff (files : List FileReport) :
    (ofFiles files).passed = true ↔
      (∀ file ∈ files, file.error = none) ∧
        ∀ file ∈ files, ∀ diagnostic ∈ file.diagnostics, diagnostic.severity = .warning := by
  have unharmed : (files.countP fun file => file.error.isSome) = 0 ↔ ∀ file ∈ files, file.error = none := by
    simp [List.countP_eq_zero]
  rw [passed, Bool.and_eq_true, decide_eq_true_iff, decide_eq_true_iff]
  exact (and_congr (total_error_eq_zero_iff files) unharmed).trans and_comm

/-- The line that sums up a report, by the number of problems that it has. -/
def lastLine (report : Report) (problems : Nat) : Line :=
  if problems = 0 then .clean report.files.length
  else .tally problems report.errorCount report.warningCount report.fatalCount report.files.length

theorem summary_eq (report : Report) :
    report.summary =
      Line.page [report.lastLine (report.errorCount + report.warningCount + report.fatalCount)] := by
  have ended (front back last : String) (split : last = back ++ "\n") :
      front ++ last = front ++ back ++ "\n" ++ "" := by
    rw [split, String.append_empty, String.append_assoc]
  unfold summary lastLine
  dsimp only
  by_cases none : report.errorCount + report.warningCount + report.fatalCount = 0
  · rw [if_pos none, if_pos none, Line.page_cons]
    exact ended _ " file(s) checked, no problems" _ rfl
  · rw [if_neg none, if_neg none, Line.page_cons]
    exact ended _ " file(s)" _ rfl

/-- The totals of a report and its text tell of the same problems. The totals count all diagnostics and all files that
failed, and a report is passed if no file failed and all diagnostics are warnings. The text has a block for each file
with a problem, in order, and then one line: its number is the number of problem lines above it, or it says that there
are none. -/
theorem ofFiles_text (files : List FileReport) :
    let report := ofFiles files
    report.errorCount + report.warningCount = (files.flatMap FileReport.diagnostics).length ∧
    report.fatalCount = (files.filter fun file => file.error ≠ none).length ∧
    (report.passed = true ↔
      (∀ file ∈ files, file.error = none) ∧
        ∀ file ∈ files, ∀ diagnostic ∈ file.diagnostics, diagnostic.severity = .warning) ∧
    report.text = Line.page (body files ++ [report.lastLine ((body files).countP Line.isProblem)]) := by
  refine ⟨total_add_total files, ?_, passed_ofFiles_iff files, ?_⟩
  · rw [← List.countP_eq_length_filter]
    apply List.countP_congr
    intro file _
    simp [Option.isSome_iff_ne_none]
  · rw [Line.page_append, page_body, countP_body, text, summary_eq]
    rfl

end Report

end Prologue
