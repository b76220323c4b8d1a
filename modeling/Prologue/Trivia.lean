import Prologue.Scope.Basic

/-! What stands around statements: the comments right before and after one, and the token that follows. -/

namespace Prologue

inductive CommentKind where
  | line
  | block
deriving DecidableEq, Repr

structure Comment where
  kind : CommentKind
  span : Span
  text : String
deriving DecidableEq, Repr

/-- A token, by the grammar's name. -/
structure Token where
  kind : String
  span : Span
deriving DecidableEq, Repr

/-- The surroundings of a statement. Both lists of comments are in the order of the source. -/
structure Surroundings where
  leading : List Comment
  trailing : List Comment
  nextToken : Option Token
deriving DecidableEq, Repr

/-- A table of surroundings by statement, with one entry a statement. -/
structure Trivia where
  entries : List (StmtId × Surroundings)
deriving Repr

namespace Trivia

def empty : Trivia := ⟨[]⟩

def replace (id : StmtId) (surroundings : Surroundings) :
    List (StmtId × Surroundings) → List (StmtId × Surroundings)
  | [] => [(id, surroundings)]
  | (key, value) :: rest =>
    if key = id then (id, surroundings) :: rest else (key, value) :: replace id surroundings rest

/-- Sets the entry of a statement. -/
def insert (id : StmtId) (surroundings : Surroundings) (trivia : Trivia) : Trivia :=
  ⟨replace id surroundings trivia.entries⟩

def ofList (entries : List (StmtId × Surroundings)) : Trivia :=
  entries.foldl (fun trivia entry => trivia.insert entry.1 entry.2) empty

def find? (id : StmtId) : List (StmtId × Surroundings) → Option Surroundings
  | [] => none
  | (key, value) :: rest => if key = id then some value else find? id rest

def get? (trivia : Trivia) (id : StmtId) : Option Surroundings := find? id trivia.entries

def size (trivia : Trivia) : Nat := trivia.entries.length

/-- The comments before a statement; none are known of a statement without an entry. -/
def leading (trivia : Trivia) (id : StmtId) : List Comment :=
  match trivia.get? id with
  | some surroundings => surroundings.leading
  | none => []

def trailing (trivia : Trivia) (id : StmtId) : List Comment :=
  match trivia.get? id with
  | some surroundings => surroundings.trailing
  | none => []

def tokenAfter (trivia : Trivia) (id : StmtId) : Option Token :=
  match trivia.get? id with
  | some surroundings => surroundings.nextToken
  | none => none

end Trivia

end Prologue
