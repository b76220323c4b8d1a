import Prologue.Config.Encoding
import Prologue.Config.Issue
import Prologue.Encoding.Scope
import Prologue.Report

/-! The JSON forms of what is reported. -/

namespace Prologue

open Json (record? plainVariant? list? optional? text?)

def Severity.ofJson? (value : Json) : Option Severity := (plainVariant? value).bind Severity.ofName?

def Language.ofJson? (value : Json) : Option Language := (plainVariant? value).bind Language.ofText?

def Side.ofJson? (value : Json) : Option Side :=
  (plainVariant? value).bind fun name => [Side.before, .after].find? fun side => side.text = name

def Expectation.ofJson? (value : Json) : Option Expectation :=
  (plainVariant? value).bind fun name =>
    [Expectation.expected, .unexpected].find? fun expectation => expectation.text = name

def Diagnostic.toJson (d : Diagnostic) : Json :=
  .object
    [("rule", .string d.rule), ("severity", .string d.severity.text), ("span", d.span.toJson),
      ("side", .string d.side.text), ("expectation", .string d.expectation.text), ("message", .string d.message)]

def Diagnostic.ofJson? (value : Json) : Option Diagnostic :=
  match record? ["rule", "severity", "span", "side", "expectation", "message"] value with
  | some [some rule, some severity, some span, some side, some expectation, some message] => do
    some
      ⟨← text? rule, ← Severity.ofJson? severity, ← Span.ofJson? span, ← Side.ofJson? side,
        ← Expectation.ofJson? expectation, ← text? message⟩
  | _ => none

/-- A member that is left out when there is nothing to say. -/
def optionalMember (name : String) : Option String → List (String × Json)
  | some value => [(name, .string value)]
  | none => []

def FileReport.toJson (report : FileReport) : Json :=
  .object
    ([("path", .string report.path), ("language", .string report.language.text)] ++
      optionalMember "source_hash" report.sourceHash ++
      [("diagnostics", .ofList Diagnostic.toJson report.diagnostics)] ++
      optionalMember "error" report.error)

def FileReport.ofJson? (value : Json) : Option FileReport :=
  match record? ["path", "language", "source_hash", "diagnostics", "error"] value with
  | some [some path, some language, hash, some diagnostics, error] => do
    some
      ⟨← text? path, ← Language.ofJson? language, ← optional? text? hash, ← list? Diagnostic.ofJson? diagnostics,
        ← optional? text? error⟩
  | _ => none

/-- The files and totals of a report. -/
def Report.members (report : Report) : List (String × Json) :=
  [("files", .ofList FileReport.toJson report.files), ("error_count", .nat report.errorCount),
    ("warning_count", .nat report.warningCount), ("fatal_count", .nat report.fatalCount)]

/-- A report with the time it was made. -/
def Report.toJson (report : Report) (time : String) : Json :=
  .object (report.members ++ [("generated_at", .string time)])

def SyntaxFault.toJson (fault : SyntaxFault) : Json :=
  .object
    [("message", .string fault.message), ("span", fault.span.toJson),
      ("source_text", .string (String.ofList fault.sourceText))]

namespace Config

def IssueLevel.text : IssueLevel → String
  | .error => "error"
  | .warning => "warning"

def Issue.toJson (issue : Issue) : Json :=
  .object
    [("code", .string issue.problem.code), ("file", .string issue.file), ("message", .string issue.problem.message),
      ("severity", .string issue.problem.level.text)]

/-- The outcome of a check: whether the config is valid, with all that was found. -/
def issuesToJson (issues : List Issue) : Json :=
  .object
    [("errors", .nat (countLevel .error issues)), ("issues", .ofList Issue.toJson issues),
      ("valid", .bool (!hasErrors issues)), ("warnings", .nat (countLevel .warning issues))]

end Config

end Prologue
