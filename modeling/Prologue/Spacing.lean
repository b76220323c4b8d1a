import Prologue.Trivia

/-! Blank lines around a directive. They are measured to the nearest comment, which belongs to the directive
when it touches it, and only without a comment to the next token. -/

namespace Prologue

/-- Two elements with an empty line between them are at least this many lines apart. -/
def blankGap : Nat := 2

/-- Whether a line fits between the end of one element and the start of the next. -/
def isBlankGap (fromLine toLine : Nat) : Bool := toLine - fromLine ≥ blankGap

/-- Whether a blank line stands between the last leading comment and the directive; unknown without a comment. -/
def blankBefore? (directive : Span) (leading : List Comment) : Option Bool :=
  leading.getLast?.map fun comment => isBlankGap comment.span.endLine directive.startLine

/-- The line on which the first element after a directive starts. -/
def followingLine? (trailing : List Comment) (next : Option Token) : Option Nat :=
  match trailing with
  | comment :: _ => some comment.span.startLine
  | [] => next.map fun token => token.span.startLine

/-- Whether a blank line stands between the directive and what follows; unknown if nothing follows. -/
def blankAfter? (directive : Span) (trailing : List Comment) (next : Option Token) : Option Bool :=
  (followingLine? trailing next).map (isBlankGap directive.endLine)

end Prologue
