import Prologue.Diagnostic

/-! The configuration of the linter. -/

namespace Prologue

structure Config where
  version : Nat
  severity : Severity
  newline : Option NewlineOption
  /-- Extensions of the files that a walk lints. -/
  extensions : List String
  /-- Names of the directories that a walk skips. -/
  ignore : List String
deriving DecidableEq, Repr

namespace Config

def defaultExtensions : List String := ["js", "mjs", "cjs", "jsx", "ts", "mts", "cts", "tsx"]

def default : Config :=
  { version := 1
    severity := .error
    newline := none
    extensions := defaultExtensions
    ignore := ["node_modules"] }

/-- The names of config files, in the order in which they are looked for. -/
def fileNames : List String := [".strict-spacing.yaml", ".strict-spacing.yml", ".strict-spacing.json"]

/-- What the command line sets over a config. -/
structure Overrides where
  newline : Option NewlineOption
  severity : Option Severity
deriving DecidableEq, Repr

def merge (config : Config) (overrides : Overrides) : Config :=
  { config with
    newline := overrides.newline.or config.newline
    severity := overrides.severity.getD config.severity }

def policy (config : Config) : Policy := .resolve config.newline

def equalIgnoringCase (a b : String) : Bool := a.toList.map Char.toLower = b.toList.map Char.toLower

/-- Whether a walk lints files with this extension, in any letter case. -/
def acceptsExtension (config : Config) (extension : String) : Bool :=
  config.extensions.any fun accepted => equalIgnoringCase accepted extension

/-- The fields of a config file. -/
inductive Field where
  | version
  | severity
  | newline
  | extensions
  | ignore
deriving DecidableEq, Repr

def Field.all : List Field := [.version, .severity, .newline, .extensions, .ignore]

def Field.name : Field → String
  | .version => "version"
  | .severity => "severity"
  | .newline => "newline"
  | .extensions => "extensions"
  | .ignore => "ignore"

def Field.ofName? (name : String) : Option Field := Field.all.find? fun field => field.name = name

/-- A config whose fields are read one by one; a field that is never read takes its default. -/
structure Draft where
  version : Option Nat
  severity : Option Severity
  newline : Option (Option NewlineOption)
  extensions : Option (List String)
  ignore : Option (List String)
deriving DecidableEq, Repr

def Draft.empty : Draft := ⟨none, none, none, none, none⟩

def Draft.has (draft : Draft) : Field → Bool
  | .version => draft.version.isSome
  | .severity => draft.severity.isSome
  | .newline => draft.newline.isSome
  | .extensions => draft.extensions.isSome
  | .ignore => draft.ignore.isSome

def Draft.finish (draft : Draft) : Config :=
  { version := draft.version.getD default.version
    severity := draft.severity.getD default.severity
    newline := draft.newline.getD default.newline
    extensions := draft.extensions.getD default.extensions
    ignore := draft.ignore.getD default.ignore }

def severityNames : List String := ["warning", "error"]

def fieldNames : List String := Field.all.map Field.name

end Config

end Prologue
