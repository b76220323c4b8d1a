import Prologue.Arguments
import Prologue.Config.Schema
import Prologue.Encoding.Report
import Prologue.Json.Printer

/-! The commands. Each is a function of the files, the time and its arguments. -/

namespace Prologue.CommandLine

def programName : String := "strict-spacing"

def version : String := "0.1.0"

/-- What a command prints before it is done, and the error it ends with. -/
structure Progress where
  stdout : String
  stderr : String
  error : Option Error
deriving Repr

namespace Progress

def printing (stdout : String) : Progress := ⟨stdout, "", none⟩

def failing (error : Error) : Progress := ⟨"", "", some error⟩

def failWith (progress : Progress) (message : String) : Progress := { progress with error := some (.other message) }

end Progress

structure Outcome where
  exitCode : Nat
  stdout : String
  stderr : String
deriving DecidableEq, Repr

/-- An error goes to the error stream and makes the exit code one. -/
def Progress.finish (progress : Progress) : Outcome :=
  match progress.error with
  | none => ⟨0, progress.stdout, progress.stderr⟩
  | some error => ⟨1, progress.stdout, progress.stderr ++ "Error: " ++ error.message ++ "\n"⟩

def usage : String :=
  "
strict-spacing - blank lines around 'use strict' directives

USAGE:
    strict-spacing <COMMAND> [OPTIONS]

COMMANDS:
    check <path>...                  Lint files and directories
    config check                     Validate the nearest config file
    schema                           Print JSON schema for the config file
    sexp <file>                      Print the tree-sitter tree of a file
    version                          Print version

OPTIONS:
    --config <file>                  Config file (default: nearest .strict-spacing.yaml)
    --newline <always|never>         Policy for both sides
    --before <always|never>          Policy before the directive (with --after)
    --after <always|never>           Policy after the directive (with --before)
    --severity <error|warning>       Severity of reported problems
    --json                           JSON output format (check, config check)

EXAMPLES:
    strict-spacing check src/
    strict-spacing check lib/index.js --newline never
    strict-spacing check . --before never --after always --json

"

/-- The config that a flag names, else the nearest one, else the default. -/
def chooseConfig (files : FileTree) (args : List String) : Except Error Config :=
  match Arguments.flagValue? "--config" args with
  | some path => Config.load files path
  | none => (Config.discover files files.currentPath).map fun found => (found.map Prod.snd).getD Config.default

def lintWith (files : FileTree) (args paths : List String) : Except Error Report := do
  let overrides ← (Arguments.overrides args).mapError Error.config
  let config ← chooseConfig files args
  files.lintPaths (config.merge overrides) paths

def check (files : FileTree) (time : String) (args : List String) : Progress :=
  match Arguments.positional args with
  | [] =>
    .failing (.other ("Usage: " ++ programName ++ " check <path>... [--newline always|never] [--json]"))
  | paths =>
    match lintWith files args paths with
    | .error error => .failing error
    | .ok report =>
      let printed := Progress.printing
        (if Arguments.hasFlag "--json" args then (report.toJson time).pretty ++ "\n" else report.text)
      if report.passed then printed else printed.failWith "Lint failed"

def issueText (issue : Config.Issue) : String :=
  let head := match issue.problem.level with
    | .error => "✗ [" ++ issue.problem.code ++ "] ERROR: "
    | .warning => "⚠ [" ++ issue.problem.code ++ "] WARN: "
  head ++ issue.problem.message ++ "\n  File: " ++ issue.file ++ "\n"

def issuesText (issues : List Config.Issue) : String :=
  if issues.isEmpty then "✓ Configuration is valid\n"
  else
    let errors := Config.countLevel .error issues
    let warnings := Config.countLevel .warning issues
    String.join (issues.map issueText) ++ "\n" ++
      (if Config.hasErrors issues then
        "✗ " ++ toString errors ++ " error(s), " ++ toString warnings ++ " warning(s)\n"
      else "✓ " ++ toString warnings ++ " warning(s) (no errors)\n")

def checkConfigFile (files : FileTree) (json : Bool) (path : String) : Progress :=
  let issues := Config.issues files path
  let printed := Progress.printing
    (if json then (Config.issuesToJson issues).pretty ++ "\n" else issuesText issues)
  if Config.hasErrors issues then printed.failWith "Configuration validation failed" else printed

def config (files : FileTree) (args : List String) : Progress :=
  match args with
  | [] => .failing (.other ("Usage: " ++ programName ++ " config check [--config <file>] [--json]"))
  | command :: _ =>
    if command ≠ "check" then .failing (.other ("Unknown config subcommand: " ++ command))
    else
      match (Arguments.flagValue? "--config" args).or (Config.find? files files.currentPath) with
      | some path => checkConfigFile files (Arguments.hasFlag "--json" args) path
      | none => .printing "No config file found; defaults apply (newline: always)\n"

def sexp (files : FileTree) (args : List String) : Progress :=
  match Arguments.positional args with
  | [] => .failing (.other ("Usage: " ++ programName ++ " sexp <file>"))
  | path :: _ =>
    match files.read path with
    | .error fault => .failing (.file fault)
    | .ok (_, tree) =>
      match sourceSexp (Language.detect path) tree with
      | .error error => .failing error
      | .ok text => .printing (text ++ "\n")

/-- Runs the command that the first argument names. -/
def run (files : FileTree) (time : String) : List String → Outcome
  | [] => ⟨1, usage, ""⟩
  | command :: args =>
    let progress : Progress :=
      if command = "check" then check files time args
      else if command = "config" then config files args
      else if command = "schema" then .printing (Config.schema.pretty ++ "\n")
      else if command = "sexp" then sexp files args
      else if ["version", "--version", "-v"].contains command then
        .printing (programName ++ " " ++ version ++ "\n")
      else if ["help", "--help", "-h"].contains command then .printing usage
      else
        { stdout := usage, stderr := "Unknown command: " ++ command ++ "\n", error := some (.other "Unknown command") }
    progress.finish

end Prologue.CommandLine
