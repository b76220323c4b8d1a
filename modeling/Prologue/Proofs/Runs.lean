import Mathlib.Data.List.Forall2
import Prologue.Proofs.Outlines

/-! Runs over several paths. What a path stands for does not depend on the other paths, and what is reported about a
file does not depend on the other files. So a run over two lists of paths is the two runs, one behind the other. -/

namespace Prologue

namespace Report

/-- The report on the files of one run and then of another. -/
def append (first second : Report) : Report :=
  { files := first.files ++ second.files
    errorCount := first.errorCount + second.errorCount
    warningCount := first.warningCount + second.warningCount
    fatalCount := first.fatalCount + second.fatalCount }

theorem total_append (severity : Severity) (front back : List FileReport) :
    total severity (front ++ back) = total severity front + total severity back := by
  induction front with
  | nil => exact (Nat.zero_add _).symm
  | cons file front ih => rw [List.cons_append, total, total, ih, Nat.add_assoc]

theorem ofFiles_append (front back : List FileReport) :
    ofFiles (front ++ back) = (ofFiles front).append (ofFiles back) := by
  simp only [ofFiles, append, total_append, List.countP_append]

end Report

namespace FileTree

def isDirectory (files : FileTree) (path : String) : Bool :=
  match files.resolve path with
  | .ok (.directory _) => true
  | _ => false

/-- Whether there is neither a directory nor a file at a path. -/
def leadsNowhere (files : FileTree) (path : String) : Bool := !files.isDirectory path && !files.isFile path

/-- The files that one path stands for. -/
def filesAt (files : FileTree) (config : Config) (path : String) : List String :=
  match files.resolve path with
  | .ok (.directory entries) => walkDirectory config path entries
  | .ok (.file _) => [path]
  | .error _ => []

section Select

variable (files : FileTree) (config : Config)

/-- Paths are looked up one by one, so the first that leads nowhere ends the run. If there is none, each adds its own
files. -/
theorem select_eq (paths : List String) :
    files.select config paths =
      match paths.find? files.leadsNowhere with
      | some path => .error (.nothingAt path)
      | none => .ok (paths.flatMap (files.filesAt config)) := by
  induction paths with
  | nil => rfl
  | cons path paths ih =>
    rw [select, ih, List.find?_cons, List.flatMap_cons, leadsNowhere, isDirectory, isFile, filesAt]
    cases files.resolve path with
    | error fault => rfl
    | ok entry => cases entry <;> cases paths.find? files.leadsNowhere <;> rfl

theorem lintPaths_eq (paths : List String) :
    files.lintPaths config paths =
      match paths.find? files.leadsNowhere with
      | some path => .error (.file (.nothingAt path))
      | none => .ok (.ofFiles ((paths.flatMap (files.filesAt config)).map (files.lintFile (.ofConfig config)))) := by
  rw [lintPaths, select_eq]
  cases paths.find? files.leadsNowhere <;> rfl

theorem lintPaths_eq_error_iff (paths : List String) (error : Error) :
    files.lintPaths config paths = .error error ↔
      ∃ path, paths.find? files.leadsNowhere = some path ∧ error = .file (.nothingAt path) := by
  rw [lintPaths_eq]
  cases paths.find? files.leadsNowhere with
  | none => simp
  | some path => simp [eq_comm]

/-- The error names the first path that leads nowhere. -/
theorem lintPaths_eq_error_iff_first (paths : List String) (error : Error) :
    files.lintPaths config paths = .error error ↔
      ∃ front path back, paths = front ++ path :: back ∧ (∀ earlier ∈ front, files.leadsNowhere earlier = false) ∧
        files.leadsNowhere path = true ∧ error = .file (.nothingAt path) := by
  simp only [lintPaths_eq_error_iff, List.find?_eq_some_iff_append, Bool.not_eq_true']
  constructor
  · intro found
    obtain ⟨path, ⟨nowhere, front, back, split, earlier⟩, named⟩ := found
    exact ⟨front, path, back, split, earlier, nowhere, named⟩
  · intro first
    obtain ⟨front, path, back, split, earlier, nowhere, named⟩ := first
    exact ⟨path, ⟨nowhere, front, back, split, earlier⟩, named⟩

theorem exists_lintPaths_error_iff (paths : List String) :
    (∃ error, files.lintPaths config paths = .error error) ↔ ∃ path ∈ paths, files.leadsNowhere path = true := by
  rw [← List.find?_isSome, Option.isSome_iff_exists]
  simp only [lintPaths_eq_error_iff]
  rw [exists_comm]
  simp only [exists_and_left, exists_eq, and_true]

theorem lintPaths_eq_ok_iff (paths : List String) (report : Report) :
    files.lintPaths config paths = .ok report ↔
      (∀ path ∈ paths, files.leadsNowhere path = false) ∧
        report = .ofFiles ((paths.flatMap (files.filesAt config)).map (files.lintFile (.ofConfig config))) := by
  have found : paths.find? files.leadsNowhere = none ↔ ∀ path ∈ paths, files.leadsNowhere path = false := by
    simp [List.find?_eq_none]
  rw [lintPaths_eq, ← found]
  cases paths.find? files.leadsNowhere with
  | none => simp [eq_comm]
  | some path => simp

theorem exists_lintPaths_iff (paths : List String) :
    (∃ report, files.lintPaths config paths = .ok report) ↔ ∀ path ∈ paths, files.leadsNowhere path = false := by
  simp only [lintPaths_eq_ok_iff, exists_and_left, exists_eq, and_true]

end Select

/-- A report on a file that is what linting its path gives, with a hash or else an error, and no diagnostics beside an
error. -/
structure Settled (files : FileTree) (linter : Linter) (file : FileReport) : Prop where
  alone : file = files.lintFile linter file.path
  either : file.sourceHash = none ↔ file.error ≠ none
  silent : file.error ≠ none → file.diagnostics = []

theorem settled_lintFile (files : FileTree) (linter : Linter) (path : String) :
    files.Settled linter (files.lintFile linter path) := by
  constructor
  · rw [path_lintFile]
  · unfold lintFile
    cases files.parse path <;> simp
  · unfold lintFile
    cases files.parse path <;> simp

/-- What is reported about a file depends on what is read at its path. -/
theorem lintFile_congr (files other : FileTree) (linter : Linter) (path : String)
    (same : files.read path = other.read path) : files.lintFile linter path = other.lintFile linter path := by
  rw [lintFile, lintFile, parse, parse, same]

section Outline

variable (files : FileTree)

theorem leadsNowhere_outline (path : String) : files.outline.leadsNowhere path = files.leadsNowhere path := by
  simp only [leadsNowhere, isDirectory, isFile, resolve_outline]
  cases files.resolve path with
  | error fault => rfl
  | ok entry => cases entry <;> rfl

theorem filesAt_outline {config other : Config} (alike : config.WalksLike other) (path : String) :
    files.outline.filesAt config path = files.filesAt other path := by
  rw [filesAt, filesAt, resolve_outline]
  cases files.resolve path with
  | error fault => rfl
  | ok entry =>
    cases entry with
    | file content => rfl
    | directory entries => exact walkDirectory_outlines alike entries path

end Outline

/-- The reports of two runs agree on each file that is read alike. -/
def AgreeWhereRead (files other : FileTree) (first second : Report) : Prop :=
  List.Forall₂ (fun a b => a.path = b.path ∧ (files.read a.path = other.read a.path → a = b)) first.files second.files

/-- A run over trees that differ only in what some files hold lists the same files, and tells the same of all others. -/
theorem lintPaths_outline (files other : FileTree) (config : Config) (paths : List String) (report : Report)
    (outlines : other.outline = files.outline) (linted : files.lintPaths config paths = .ok report) :
    ∃ report', other.lintPaths config paths = .ok report' ∧ files.AgreeWhereRead other report report' := by
  obtain ⟨found, rfl⟩ := (files.lintPaths_eq_ok_iff config paths report).mp linted
  have nowhere (path : String) : other.leadsNowhere path = files.leadsNowhere path := by
    rw [← leadsNowhere_outline, outlines, leadsNowhere_outline]
  have listed (path : String) : other.filesAt config path = files.filesAt config path := by
    rw [← filesAt_outline other config.walksLike_refl, outlines, filesAt_outline files config.walksLike_refl]
  refine ⟨_, (other.lintPaths_eq_ok_iff config paths _).mpr ⟨fun path member => ?_, rfl⟩, ?_⟩
  · rw [nowhere, found path member]
  · simp only [AgreeWhereRead, Report.ofFiles, funext listed, List.forall₂_map_left_iff, List.forall₂_map_right_iff,
      path_lintFile]
    rw [List.forall₂_same]
    exact fun path _ => ⟨rfl, lintFile_congr files other _ path⟩

theorem message_nothingAt (path : String) :
    (Error.file (.nothingAt path)).message = "IO error: No such file or directory: " ++ path := by
  have joined : "IO error: " ++ "No such file or directory: " = "IO error: No such file or directory: " := rfl
  rw [← joined, String.append_assoc]
  rfl

/-- A run over two lists of paths succeeds if both runs do, and gives both reports in order. It fails if some path leads
nowhere, and its message names the first. Each file is reported as it would be alone, so that changing what other files
hold changes nothing about it. -/
theorem lintPaths_append (files : FileTree) (config : Config) (p q : List String) :
    ((∃ report, files.lintPaths config (p ++ q) = .ok report) ↔
      (∃ report, files.lintPaths config p = .ok report) ∧ ∃ report, files.lintPaths config q = .ok report) ∧
    (∀ first second, files.lintPaths config p = .ok first → files.lintPaths config q = .ok second →
      files.lintPaths config (p ++ q) = .ok (first.append second)) ∧
    ((∃ error, files.lintPaths config (p ++ q) = .error error) ↔ ∃ path ∈ p ++ q, files.leadsNowhere path = true) ∧
    (∀ error, files.lintPaths config (p ++ q) = .error error ↔
      ∃ front path back, p ++ q = front ++ path :: back ∧ (∀ earlier ∈ front, files.leadsNowhere earlier = false) ∧
        files.leadsNowhere path = true ∧ error = .file (.nothingAt path) ∧
        error.message = "IO error: No such file or directory: " ++ path) ∧
    ∀ report, files.lintPaths config (p ++ q) = .ok report →
      (∀ file ∈ report.files, files.Settled (.ofConfig config) file) ∧
      ∀ other : FileTree, other.outline = files.outline →
        ∃ report', other.lintPaths config (p ++ q) = .ok report' ∧ files.AgreeWhereRead other report report' := by
  refine ⟨?_, ?_, ?_, ?_, ?_⟩
  · simp only [exists_lintPaths_iff, List.forall_mem_append]
  · intro first second lintedP lintedQ
    rw [lintPaths_eq_ok_iff] at lintedP lintedQ ⊢
    obtain ⟨foundP, rfl⟩ := lintedP
    obtain ⟨foundQ, rfl⟩ := lintedQ
    rw [List.flatMap_append, List.map_append, Report.ofFiles_append]
    exact ⟨List.forall_mem_append.mpr ⟨foundP, foundQ⟩, rfl⟩
  · exact files.exists_lintPaths_error_iff config (p ++ q)
  · intro error
    rw [files.lintPaths_eq_error_iff_first config (p ++ q) error]
    constructor
    · intro first
      obtain ⟨front, path, back, split, reached, nowhere, rfl⟩ := first
      exact ⟨front, path, back, split, reached, nowhere, rfl, message_nothingAt path⟩
    · intro first
      obtain ⟨front, path, back, split, reached, nowhere, named, -⟩ := first
      exact ⟨front, path, back, split, reached, nowhere, named⟩
  · intro report linted
    refine ⟨?_, fun other outlines => files.lintPaths_outline other config _ report outlines linted⟩
    obtain ⟨-, rfl⟩ := (files.lintPaths_eq_ok_iff config _ report).mp linted
    intro file member
    obtain ⟨path, -, rfl⟩ := List.mem_map.mp member
    exact files.settled_lintFile _ path

/-- The tree of an empty source. -/
def emptyProgram : Node := .mk ⟨"program", true, false, false, false, none, ⟨0, 0, 0⟩, ⟨0, 0, 0⟩⟩ []

/-- A directory of two files, one of which holds a program. -/
def twoFiles (content : Content) : FileTree :=
  ⟨.directory [("lib", .directory [("a.js", .file content), ("b.js", .file (.text "" (some emptyProgram)))])], []⟩

theorem lintPaths_append_twoFiles :
    ∃ first second, (twoFiles .binary).lintPaths .default ["lib"] = .ok first ∧
      (twoFiles .binary).lintPaths .default ["lib/b.js", "lib/../lib/b.js"] = .ok second ∧
      (twoFiles .binary).lintPaths .default (["lib"] ++ ["lib/b.js", "lib/../lib/b.js"]) = .ok (first.append second) ∧
      (∀ file ∈ (first.append second).files, (twoFiles .binary).Settled (.ofConfig .default) file) ∧
      (twoFiles (.text "(" none)).outline = (twoFiles .binary).outline ∧
      (∃ report, (twoFiles (.text "(" none)).lintPaths .default (["lib"] ++ ["lib/b.js", "lib/../lib/b.js"]) =
        .ok report ∧ (twoFiles .binary).AgreeWhereRead (twoFiles (.text "(" none)) (first.append second) report) ∧
      (twoFiles .binary).lintPaths .default (["lib", "b.js"] ++ ["lib/c.js"]) = .error (.file (.nothingAt "b.js")) := by
  obtain ⟨first, lintedFirst⟩ := ((twoFiles .binary).exists_lintPaths_iff .default ["lib"]).mpr
    (List.forall_mem_singleton.mpr rfl)
  obtain ⟨second, lintedSecond⟩ := ((twoFiles .binary).exists_lintPaths_iff .default ["lib/b.js", "lib/../lib/b.js"]).mpr
    (List.forall_mem_cons.mpr ⟨rfl, List.forall_mem_singleton.mpr rfl⟩)
  obtain ⟨-, joined, -, -, reports⟩ :=
    lintPaths_append (twoFiles .binary) .default ["lib"] ["lib/b.js", "lib/../lib/b.js"]
  obtain ⟨-, -, -, failed, -⟩ := lintPaths_append (twoFiles .binary) .default ["lib", "b.js"] ["lib/c.js"]
  have whole := joined first second lintedFirst lintedSecond
  have outlines : (twoFiles (.text "(" none)).outline = (twoFiles .binary).outline := rfl
  refine ⟨first, second, lintedFirst, lintedSecond, whole, (reports _ whole).1, outlines,
    (reports _ whole).2 _ outlines, (failed _).mpr ?_⟩
  exact ⟨["lib"], "b.js", ["lib/c.js"], rfl, List.forall_mem_singleton.mpr rfl, rfl, rfl, rfl⟩

end FileTree

end Prologue
