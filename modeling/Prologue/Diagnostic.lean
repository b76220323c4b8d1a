import Prologue.Policy
import Prologue.Span

/-! What rules report. -/

namespace Prologue

inductive Severity where
  | warning
  | error
deriving DecidableEq, Repr

def Severity.text : Severity → String
  | .warning => "warning"
  | .error => "error"

/-- The severity with exactly this name. -/
def Severity.ofName? (name : String) : Option Severity :=
  if name = "warning" then some .warning else if name = "error" then some .error else none

/-- The severity that a text names, the short form of a warning included. -/
def Severity.ofText? (text : String) : Option Severity :=
  if text = "warn" then some .warning else ofName? text

/-- Whether a newline is missing, or present where it should not be. -/
inductive Expectation where
  | expected
  | unexpected
deriving DecidableEq, Repr

def Expectation.text : Expectation → String
  | .expected => "expected"
  | .unexpected => "unexpected"

/-- The first word of a message. -/
def Expectation.word : Expectation → String
  | .expected => "Expected"
  | .unexpected => "Unexpected"

structure Diagnostic where
  rule : String
  severity : Severity
  span : Span
  side : Side
  expectation : Expectation
  message : String
deriving DecidableEq, Repr

/-- The line of a report; columns are shown from one. -/
def Diagnostic.render (d : Diagnostic) : String :=
  toString d.span.startLine ++ ":" ++ toString (d.span.startCol + 1) ++ "  " ++ d.severity.text ++ "  " ++
    d.message ++ "  " ++ d.rule

/-- Diagnostics are ordered by the line and then the column of their start. -/
def Diagnostic.notAfter (a b : Diagnostic) : Bool :=
  a.span.startLine < b.span.startLine ||
    (a.span.startLine = b.span.startLine && a.span.startCol ≤ b.span.startCol)

end Prologue
