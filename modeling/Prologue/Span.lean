/-! Places in a source text. -/

namespace Prologue

/-- A range of a source text. Lines are counted from one, columns in bytes from zero. -/
structure Span where
  startLine : Nat
  startCol : Nat
  endLine : Nat
  endCol : Nat
deriving DecidableEq, Repr

end Prologue
