import Prologue.Diagnostic
import Prologue.Directive
import Prologue.Spacing

/-! Rules, and the rule about blank lines around the directive. -/

namespace Prologue

/-- A check of every scope of the kinds it subscribes to. A kind that is listed twice is checked twice. -/
structure Rule where
  name : String
  kinds : List ScopeKind
  check : Scope → Trivia → List Diagnostic

namespace Rule

def spacingName : String := "lines-around-use-strict"

def spacingMessage (expectation : Expectation) (side : Side) : String :=
  expectation.word ++ " newline " ++ side.text ++ " '" ++ useStrict ++ "' directive."

/-- How a measured side offends against its mode, if it does. -/
def mismatch? : Mode → (blank : Bool) → Option Expectation
  | .always, false => some .expected
  | .never, true => some .unexpected
  | _, _ => none

def spacingReport (severity : Severity) (span : Span) (side : Side) (expectation : Expectation) : Diagnostic :=
  { rule := spacingName, severity, span, side, expectation, message := spacingMessage expectation side }

/-- The report on one side of a directive, whose spacing may be unknown. -/
def sideReport (policy : Policy) (severity : Severity) (span : Span) (side : Side) (blank : Option Bool) :
    List Diagnostic :=
  match blank.bind (mismatch? (policy.mode side)) with
  | some expectation => [spacingReport severity span side expectation]
  | none => []

/-- Reports on the directive of a body. What follows a directive that stands alone is not looked at. -/
def checkBody (policy : Policy) (severity : Severity) (body : List Stmt) (trivia : Trivia) : List Diagnostic :=
  match directive? body with
  | none => []
  | some stmt =>
    sideReport policy severity stmt.span .before (blankBefore? stmt.span (trivia.leading stmt.id)) ++
      (if body.length = 1 then []
        else sideReport policy severity stmt.span .after
          (blankAfter? stmt.span (trivia.trailing stmt.id) (trivia.tokenAfter stmt.id)))

/-- Blank lines around the directive of every scope. -/
def spacing (policy : Policy) (severity : Severity) : Rule :=
  { name := spacingName
    kinds := ScopeKind.all
    check := fun scope trivia =>
      match scope.body? with
      | some body => checkBody policy severity body trivia
      | none => [] }

end Rule

end Prologue
