import Prologue.Directive
import Prologue.Encoding.Scope
import Prologue.SourceFile

/-! The JSON form of a parsed file, with what can be read off its scopes. -/

namespace Prologue

/-- The number of the directive of a scope, if it has one. -/
def Scope.directiveId? (scope : Scope) : Option StmtId := (scope.body?.bind directive?).map Stmt.id

def Function.toPair (f : Function) : Json := .array [.string f.kind.text, .ofOption .string f.name]

def Surroundings.toRow (entry : StmtId × Surroundings) : Json :=
  .array
    [.nat entry.1, .ofList Comment.toJson entry.2.leading, .ofList Comment.toJson entry.2.trailing,
      .ofOption Token.toJson entry.2.nextToken]

/-- The entries of a table in the order of the statements. -/
def Trivia.toJson (trivia : Trivia) : Json :=
  let entries := trivia.entries.mergeSort fun a b => a.1 ≤ b.1
  .object [("len", .nat trivia.size), ("entries", .ofList Surroundings.toRow entries)]

def SourceFile.toJson (file : SourceFile) : Json :=
  .object
    [("language", .string file.language.text),
      ("source_hash", .string file.sourceHash),
      ("scopes", .ofList Scope.toJson file.scopes),
      ("kinds", .ofList (fun scope => .string scope.kind.text) file.scopes),
      ("spans", .ofList (fun scope => scope.span.toJson) file.scopes),
      ("directives", .ofList (fun scope => .ofOption .nat scope.directiveId?) file.scopes),
      ("program_len", .nat (file.programBody?.getD []).length),
      ("functions", .ofList Function.toPair file.functions),
      ("trivia", file.trivia.toJson)]

end Prologue
