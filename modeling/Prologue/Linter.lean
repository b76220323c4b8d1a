import Prologue.Config.Basic
import Prologue.Rule
import Prologue.SourceFile

/-! Rules at work on the scopes of a file. -/

namespace Prologue

/-- The places of rules by the kind of scope that they subscribe to. -/
abbrev Dispatch := List (ScopeKind × List Nat)

namespace Dispatch

/-- Enters the place of a rule under a kind, behind the places that are there. -/
def subscribe (index : Nat) (kind : ScopeKind) : Dispatch → Dispatch
  | [] => [(kind, [index])]
  | (key, places) :: rest =>
    if key = kind then (key, places ++ [index]) :: rest else (key, places) :: subscribe index kind rest

/-- Enters a rule under every kind that it lists, as often as it lists it. -/
def add (dispatch : Dispatch) (rule : Rule) (index : Nat) : Dispatch :=
  rule.kinds.foldl (fun dispatch kind => dispatch.subscribe index kind) dispatch

def ofRules (rules : List Rule) : Dispatch :=
  rules.zipIdx.foldl (fun dispatch entry => dispatch.add entry.1 entry.2) []

/-- The places of the rules for a kind; none are known of a kind without an entry. -/
def places (kind : ScopeKind) : Dispatch → List Nat
  | [] => []
  | (key, places) :: rest => if key = kind then places else Dispatch.places kind rest

end Dispatch

/-- Rules with the table made from them. -/
structure Linter where
  rules : List Rule
  dispatch : Dispatch

namespace Linter

def ofRules (rules : List Rule) : Linter := { rules, dispatch := .ofRules rules }

def ofConfig (config : Config) : Linter := ofRules [.spacing config.policy config.severity]

def ruleNames (linter : Linter) : List String := linter.rules.map Rule.name

/-- The rules that are run on a scope of a kind, in order. -/
def subscribers (linter : Linter) (kind : ScopeKind) : List Rule :=
  (linter.dispatch.places kind).filterMap fun index => linter.rules[index]?

def checkScope (linter : Linter) (trivia : Trivia) (scope : Scope) : List Diagnostic :=
  (linter.subscribers scope.kind).flatMap fun rule => rule.check scope trivia

/-- The reports on all scopes, ordered by place. Those at one place keep their order. -/
def lint (linter : Linter) (scopes : List Scope) (trivia : Trivia) : List Diagnostic :=
  (scopes.flatMap (linter.checkScope trivia)).mergeSort Diagnostic.notAfter

def lintFile (linter : Linter) (file : SourceFile) : List Diagnostic := linter.lint file.scopes file.trivia

end Linter

end Prologue
