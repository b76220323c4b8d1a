import Prologue.Linter
import Prologue.Parsing
import Prologue.Walk

/-! What a run finds, file by file. -/

namespace Prologue

structure FileReport where
  path : String
  language : Language
  sourceHash : Option String
  diagnostics : List Diagnostic
  /-- Why the file could not be read or parsed. -/
  error : Option String
deriving DecidableEq, Repr

def FileReport.count (report : FileReport) (severity : Severity) : Nat :=
  report.diagnostics.countP fun diagnostic => diagnostic.severity = severity

structure Report where
  files : List FileReport
  errorCount : Nat
  warningCount : Nat
  /-- How many files could not be read or parsed. -/
  fatalCount : Nat
deriving DecidableEq, Repr

namespace Report

/-- How many diagnostics of a severity the files have together. -/
def total (severity : Severity) : List FileReport → Nat
  | [] => 0
  | file :: files => file.count severity + total severity files

def ofFiles (files : List FileReport) : Report :=
  { files
    errorCount := total .error files
    warningCount := total .warning files
    fatalCount := files.countP fun file => file.error.isSome }

/-- Warnings do not fail a run. -/
def passed (report : Report) : Bool := report.errorCount = 0 && report.fatalCount = 0

/-- The section of a file, if there is something to tell about it. -/
def fileText (file : FileReport) : String :=
  if file.diagnostics.isEmpty && file.error.isNone then ""
  else
    file.path ++ "\n" ++
      (match file.error with
        | some error => "  fatal  " ++ error ++ "\n"
        | none => "") ++
      String.join (file.diagnostics.map fun diagnostic => "  " ++ diagnostic.render ++ "\n") ++ "\n"

def summary (report : Report) : String :=
  let problems := report.errorCount + report.warningCount + report.fatalCount
  if problems = 0 then "✓ " ++ toString report.files.length ++ " file(s) checked, no problems\n"
  else
    "✗ " ++ toString problems ++ " problem(s) (" ++ toString report.errorCount ++ " error(s), " ++
      toString report.warningCount ++ " warning(s), " ++ toString report.fatalCount ++ " fatal) in " ++
      toString report.files.length ++ " file(s)\n"

def text (report : Report) : String := String.join (report.files.map fileText) ++ report.summary

end Report

namespace FileTree

/-- Reads and parses a file; its path tells the language. -/
def parse (files : FileTree) (path : String) : Except Error SourceFile :=
  if Language.detect path = .unknown then .error (.unsupportedLanguage path)
  else
    match files.read path with
    | .error fault => .error (.file fault)
    | .ok (source, tree) => parseSource (Language.detect path) source tree

def lintFile (files : FileTree) (linter : Linter) (path : String) : FileReport :=
  let language := Language.detect path
  match files.parse path with
  | .ok file =>
    { path, language, sourceHash := some file.sourceHash, diagnostics := linter.lintFile file, error := none }
  | .error error => { path, language, sourceHash := none, diagnostics := [], error := some error.message }

/-- Lints the files that paths stand for. -/
def lintPaths (files : FileTree) (config : Config) (paths : List String) : Except Error Report :=
  match files.select config paths with
  | .error fault => .error (.file fault)
  | .ok found => .ok (.ofFiles (found.map (files.lintFile (.ofConfig config))))

end FileTree

end Prologue
