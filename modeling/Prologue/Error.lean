import Prologue.Config.JsonForm
import Prologue.Config.YamlForm
import Prologue.Tree.Fault

/-! What can fail, and how it is told. -/

namespace Prologue

/-- Why a file cannot be read. -/
inductive FileFault where
  | notFound
  | isDirectory
  | notDirectory
  | nameTooLong
  | nulInPath
  | notText
  /-- A path to be linted that leads nowhere. -/
  | nothingAt (path : String)
deriving DecidableEq, Repr

def FileFault.message : FileFault → String
  | .notFound => "No such file or directory (os error 2)"
  | .isDirectory => "Is a directory (os error 21)"
  | .notDirectory => "Not a directory (os error 20)"
  | .nameTooLong => "File name too long (os error 36)"
  | .nulInPath => "file name contained an unexpected NUL byte"
  | .notText => "stream did not contain valid UTF-8"
  | .nothingAt path => "No such file or directory: " ++ path

/-- Why a config is refused. -/
inductive ConfigFault where
  | badOption (error : OptionError)
  | badJson (fault : Config.JsonFault) (text : String)
  | badYaml (trouble : Yaml.Trouble)
  | unsupportedVersion (version : Nat)
  | badMode (flag value : String)
  | badSeverity (value : String)
  | uniformAndSplit
  | oneSideOnly
  | inFile (path : String) (fault : ConfigFault)
deriving Repr

def ConfigFault.message : ConfigFault → String
  | .badOption error => error.message
  | .badJson fault text => fault.message text.toList
  | .badYaml trouble => trouble.message
  | .unsupportedVersion version => "Unsupported config version: " ++ toString version
  | .badMode flag value => flag ++ " expects \"always\" or \"never\", got \"" ++ value ++ "\""
  | .badSeverity value => "--severity expects \"error\" or \"warning\", got \"" ++ value ++ "\""
  | .uniformAndSplit => "--newline cannot be combined with --before/--after"
  | .oneSideOnly => "--before and --after must be given together"
  | .inFile path fault => path ++ ": " ++ fault.message

/-- Why a source has no scopes. -/
inductive SourceFault where
  | noTree
  | malformed (first : SyntaxFault)
deriving DecidableEq, Repr

def SourceFault.message : SourceFault → String
  | .noTree => "Failed to parse source"
  | .malformed first =>
    first.message ++ " at " ++ toString first.span.startLine ++ ":" ++ toString (first.span.startCol + 1) ++ " `" ++
      String.ofList (trimBlank first.sourceText) ++ "`"

inductive Error where
  | config (fault : ConfigFault)
  | source (fault : SourceFault)
  | unsupportedLanguage (what : String)
  | file (fault : FileFault)
  | yaml (trouble : Yaml.Trouble)
  | json (fault : Json.Fault) (text : String)
  | other (message : String)
deriving Repr

def Error.message : Error → String
  | .config fault => "Config error: " ++ fault.message
  | .source fault => "Code parse error: " ++ fault.message
  | .unsupportedLanguage what => "Unsupported language: " ++ what
  | .file fault => "IO error: " ++ fault.message
  | .yaml trouble => "YAML error: " ++ trouble.message
  | .json fault text => "JSON error: " ++ fault.message text.toList
  | .other message => message

end Prologue
