import Prologue.Proofs.Reports
import Prologue.Proofs.Runs

/-! The severity of a config. It is written into each diagnostic and decides nothing else, so runs that differ in it
alone find the same problems in the same files and count them under its name. -/

namespace Prologue

def Config.withSeverity (config : Config) (severity : Severity) : Config := { config with severity }

def Diagnostic.withSeverity (severity : Severity) (diagnostic : Diagnostic) : Diagnostic := { diagnostic with severity }

def FileReport.withSeverity (severity : Severity) (file : FileReport) : FileReport :=
  { file with diagnostics := file.diagnostics.map (.withSeverity severity) }

theorem FileReport.withSeverity_withSeverity (first second : Severity) (file : FileReport) :
    (file.withSeverity first).withSeverity second = file.withSeverity second := by
  simp only [withSeverity, List.map_map]
  rfl

namespace Rule

variable (policy : Policy) (severity other : Severity)

theorem sideReport_withSeverity (span : Span) (side : Side) (blank : Option Bool) :
    sideReport policy severity span side blank =
      (sideReport policy other span side blank).map (.withSeverity severity) := by
  unfold sideReport
  cases blank.bind (mismatch? (policy.mode side)) <;> rfl

theorem checkBody_withSeverity (body : List Stmt) (trivia : Trivia) :
    checkBody policy severity body trivia = (checkBody policy other body trivia).map (.withSeverity severity) := by
  unfold checkBody
  cases directive? body with
  | none => rfl
  | some stmt =>
    dsimp only
    rw [List.map_append, apply_ite (List.map _), ← sideReport_withSeverity, ← sideReport_withSeverity, List.map_nil]

theorem spacing_withSeverity (scope : Scope) (trivia : Trivia) :
    (spacing policy severity).check scope trivia =
      ((spacing policy other).check scope trivia).map (.withSeverity severity) := by
  simp only [spacing]
  cases scope.body? with
  | none => rfl
  | some body => exact checkBody_withSeverity policy severity other body trivia

end Rule

theorem Diagnostic.notAfter_withSeverity (severity : Severity) (a b : Diagnostic) :
    (a.withSeverity severity).notAfter (b.withSeverity severity) = a.notAfter b := rfl

/-- Reports are sorted by place, and the severity moves none. -/
theorem Linter.lintFile_withSeverity (config : Config) (severity : Severity) (file : SourceFile) :
    (ofConfig (config.withSeverity severity)).lintFile file =
      ((ofConfig config).lintFile file).map (.withSeverity severity) := by
  have each : (ofConfig (config.withSeverity severity)).checkScope file.trivia =
      fun scope => ((ofConfig config).checkScope file.trivia scope).map (.withSeverity severity) := by
    funext scope
    rw [checkScope_ofConfig, checkScope_ofConfig]
    exact Rule.spacing_withSeverity config.policy severity config.severity scope file.trivia
  rw [lintFile, lintFile, lint, lint, each,
    List.map_mergeSort (fun a _ b _ => (Diagnostic.notAfter_withSeverity severity a b).symm), List.map_flatMap]

theorem FileReport.count_withSeverity (severity other : Severity) (file : FileReport) :
    (file.withSeverity other).count severity = if other = severity then file.diagnostics.length else 0 := by
  rw [count, withSeverity, List.countP_map]
  by_cases same : other = severity
  · rw [if_pos same]
    exact List.countP_eq_length.mpr fun _ _ => decide_eq_true same
  · rw [if_neg same]
    exact List.countP_eq_zero.mpr fun _ _ named => same (of_decide_eq_true named)

namespace Report

theorem total_withSeverity (severity other : Severity) (files : List FileReport) :
    total severity (files.map (.withSeverity other)) =
      if other = severity then (files.flatMap FileReport.diagnostics).length else 0 := by
  induction files with
  | nil => rw [List.map_nil, List.flatMap_nil, total, List.length_nil, ite_self]
  | cons file files ih =>
    rw [List.map_cons, total, ih, FileReport.count_withSeverity, List.flatMap_cons, List.length_append]
    split <;> rfl

/-- A report with another severity in all diagnostics. -/
def withSeverity (severity : Severity) (report : Report) : Report := ofFiles (report.files.map (.withSeverity severity))

theorem fatalCount_withSeverity (severity : Severity) (report : Report) :
    (report.withSeverity severity).fatalCount = report.files.countP fun file => file.error.isSome := by
  rw [withSeverity, ofFiles, List.countP_map]
  rfl

end Report

namespace FileTree

variable (files : FileTree) (config : Config) (severity : Severity)

theorem lintFile_withSeverity (path : String) :
    files.lintFile (.ofConfig (config.withSeverity severity)) path =
      (files.lintFile (.ofConfig config) path).withSeverity severity := by
  unfold lintFile
  cases files.parse path with
  | error error => rfl
  | ok file =>
    dsimp only
    rw [Linter.lintFile_withSeverity]
    rfl

theorem filesAt_withSeverity (path : String) :
    files.filesAt (config.withSeverity severity) path = files.filesAt config path := by
  have alike : (config.withSeverity severity).WalksLike config := ⟨fun _ => rfl, fun _ => rfl⟩
  rw [← filesAt_outline files (Config.walksLike_refl _), filesAt_outline files alike]

/-- The severity shows in the diagnostics of a run and in the totals that count them. -/
theorem lintPaths_withSeverity (paths : List String) :
    files.lintPaths (config.withSeverity severity) paths =
      (files.lintPaths config paths).map (.withSeverity severity) := by
  rw [lintPaths_eq, lintPaths_eq]
  cases paths.find? files.leadsNowhere with
  | some path => rfl
  | none =>
    have listed := funext (files.filesAt_withSeverity config severity)
    have linted := funext (files.lintFile_withSeverity config severity)
    simp only [listed, linted, Except.map, Report.withSeverity, Report.ofFiles, List.map_map, Function.comp_def]

/-- Two runs, one for warnings and one for errors, fail alike or find the same problems in the same files. One counts them
as warnings and the other as errors, and the first fails only by files that cannot be read or parsed. -/
theorem lintPaths_severities (paths : List String) :
    (∃ error, files.lintPaths (config.withSeverity .warning) paths = .error error ∧
      files.lintPaths (config.withSeverity .error) paths = .error error) ∨
    ∃ mild strict, files.lintPaths (config.withSeverity .warning) paths = .ok mild ∧
      files.lintPaths (config.withSeverity .error) paths = .ok strict ∧
      strict.files = mild.files.map (.withSeverity .error) ∧ mild.files = strict.files.map (.withSeverity .warning) ∧
      strict.errorCount = mild.warningCount ∧ mild.errorCount = 0 ∧ strict.warningCount = 0 ∧
      strict.fatalCount = mild.fatalCount ∧ (mild.passed = true ↔ mild.fatalCount = 0) := by
  rw [lintPaths_withSeverity, lintPaths_withSeverity]
  cases files.lintPaths config paths with
  | error error => exact Or.inl ⟨error, rfl, rfl⟩
  | ok report =>
    have counted (severity other : Severity) := Report.total_withSeverity severity other report.files
    have unmarked : (report.withSeverity .warning).errorCount = 0 := counted .error .warning
    refine Or.inr ⟨_, _, rfl, rfl, ?_, ?_, ?_, unmarked, counted .warning .error, ?_, ?_⟩
    · simp only [Report.withSeverity, Report.ofFiles, List.map_map, Function.comp_def,
        FileReport.withSeverity_withSeverity]
    · simp only [Report.withSeverity, Report.ofFiles, List.map_map, Function.comp_def,
        FileReport.withSeverity_withSeverity]
    · exact (counted .error .error).trans (counted .warning .warning).symm
    · rw [Report.fatalCount_withSeverity, Report.fatalCount_withSeverity]
    · rw [Report.passed, Bool.and_eq_true, decide_eq_true_iff, decide_eq_true_iff]
      exact and_iff_right unmarked

end FileTree

end Prologue
