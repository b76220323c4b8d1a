import Prologue.Config.File
import Prologue.Json.Reader

/-! Checking a config field by field, so that every problem is reported and not just the first. -/

namespace Prologue.Config

inductive IssueLevel where
  | error
  | warning
deriving DecidableEq, Repr

/-- What can be wrong with a config. -/
inductive Problem where
  | unreadable (fault : FileFault)
  | badJson (fault : Json.Fault) (text : String)
  | badYaml (trouble : Yaml.Trouble)
  | notMapping
  | unknownKey (key : String)
  | badNewline (error : OptionError)
  | badVersion (found : Json)
  | badSeverity (found : Json)
  | unknownExtension (extension : String)
  | badExtension (found : Json)
  | extensionsNotList
  | badIgnore
  | noNewline
deriving Repr

namespace Problem

def level : Problem → IssueLevel
  | .unknownExtension _ | .noNewline => .warning
  | _ => .error

def code : Problem → String
  | .unreadable _ => "E001"
  | .badJson _ _ | .badYaml _ | .notMapping => "E002"
  | .badNewline _ => "E003"
  | .badVersion _ => "E004"
  | .unknownKey _ => "E005"
  | .badSeverity _ => "E006"
  | .badExtension _ | .extensionsNotList => "E007"
  | .badIgnore => "E008"
  | .unknownExtension _ => "W001"
  | .noNewline => "W002"

def message : Problem → String
  | .unreadable fault => "Cannot read file: " ++ fault.message
  | .badJson fault text => "Invalid JSON: " ++ fault.message text.toList
  | .badYaml trouble => "Invalid YAML: " ++ trouble.message
  | .notMapping => "Config must be a mapping"
  | .unknownKey key => "Unknown key '" ++ key ++ "'"
  | .badNewline error => "Invalid 'newline': " ++ error.fullMessage
  | .badVersion found => "Unsupported version: " ++ found.compact ++ ". Only version 1 is supported."
  | .badSeverity found => "Invalid 'severity': " ++ found.compact ++ ". Use \"error\" or \"warning\"."
  | .unknownExtension extension =>
    "Extension '" ++ extension ++ "' has no JavaScript/TypeScript grammar and will be skipped"
  | .badExtension found => "Extensions must be strings, got " ++ found.compact
  | .extensionsNotList => "'extensions' must be a list"
  | .badIgnore => "'ignore' must be a list of directory names"
  | .noNewline => "No 'newline' option set. Defaulting to \"always\"."

end Problem

/-- A problem of a file. -/
structure Issue where
  problem : Problem
  file : String
deriving Repr

/-- What is wrong with a field that may be absent. -/
def checkField (value : Option Json) (check : Json → List Problem) : List Problem :=
  match value with
  | some value => check value
  | none => []

def checkNewline (value : Json) : List Problem :=
  match NewlineOption.ofJson value with
  | .ok _ => []
  | .error error => [.badNewline error]

def checkVersionValue (value : Json) : List Problem :=
  match value with
  | .number (.int 1) => []
  | _ => [.badVersion value]

def checkSeverity (value : Json) : List Problem :=
  match value with
  | .string text => if (Severity.ofText? text).isSome then [] else [.badSeverity value]
  | _ => [.badSeverity value]

def checkExtension (value : Json) : List Problem :=
  match value with
  | .string extension => if defaultExtensions.contains extension then [] else [.unknownExtension extension]
  | _ => [.badExtension value]

def checkExtensions (value : Json) : List Problem :=
  match value with
  | .array items => items.flatMap checkExtension
  | _ => [.extensionsNotList]

def isString : Json → Bool
  | .string _ => true
  | _ => false

def checkIgnore (value : Json) : List Problem :=
  match value with
  | .array items => if items.all isString then [] else [.badIgnore]
  | _ => [.badIgnore]

/-- The problems of the members of a config. -/
def checkMembers (members : List (String × Json)) : List Problem :=
  let field (name : String) := Json.lookup name members
  ((members.map Prod.fst).filter fun key => !fieldNames.contains key).map .unknownKey ++
    checkField (field "newline") checkNewline ++
    checkField (field "version") checkVersionValue ++
    checkField (field "severity") checkSeverity ++
    checkField (field "extensions") checkExtensions ++
    checkField (field "ignore") checkIgnore ++
    (if (field "newline").isNone then [.noNewline] else [])

/-- The problems of a value as a config. -/
def problems : Json → List Problem
  | .object members => checkMembers members
  | _ => [.notMapping]

/-- The value of a config text. -/
def readValue (isJson : Bool) (text : String) : Except Problem Json :=
  if isJson then (Json.parse text).mapError fun fault => .badJson fault text
  else (Yaml.parse text).mapError .badYaml

/-- The problems of a config file. A file that holds nothing has none. -/
def fileProblems (files : FileTree) (path : String) : List Problem :=
  match files.read path with
  | .error fault => [.unreadable fault]
  | .ok (text, _) =>
    match readValue (isJsonPath path) text with
    | .error problem => [problem]
    | .ok .null => []
    | .ok value => problems value

def issues (files : FileTree) (path : String) : List Issue := (fileProblems files path).map fun p => ⟨p, path⟩

def countLevel (level : IssueLevel) (issues : List Issue) : Nat :=
  issues.countP fun issue => issue.problem.level = level

def hasErrors (issues : List Issue) : Bool := issues.any fun issue => issue.problem.level = .error

def hasWarnings (issues : List Issue) : Bool := issues.any fun issue => issue.problem.level = .warning

end Prologue.Config
