import Prologue.FileTree

/-! Config files: reading one, and finding the nearest. -/

namespace Prologue.Config

/-- Only one version is supported. -/
def checkVersion (config : Config) : Except Error Unit :=
  if config.version = 1 then .ok () else .error (.config (.unsupportedVersion config.version))

def checked (config : Config) : Except Error Config := config.checkVersion.map fun _ => config

def ofYamlText (text : String) : Except Error Config :=
  match YamlForm.decode (Yaml.Document.ofText text.toList) with
  | .ok config => config.checked
  | .error trouble => .error (.config (.badYaml trouble))

def ofJsonText (text : String) : Except Error Config :=
  match JsonForm.decode (Json.tokens text.toList) with
  | .ok config => config.checked
  | .error fault => .error (.config (.badJson fault text))

/-- Only files with this very extension are read as JSON; all others are YAML. -/
def isJsonPath (path : String) : Bool := Path.extension? path = some "json"

/-- Tells in which file a config is refused. -/
def inFile (path : String) : Error → Error
  | .config fault => .config (.inFile path fault)
  | error => error

def load (files : FileTree) (path : String) : Except Error Config :=
  match files.read path with
  | .error fault => .error (.file fault)
  | .ok (text, _) => (if isJsonPath path then ofJsonText text else ofYamlText text).mapError (inFile path)

/-- The config file in a directory that comes first in the order of names. -/
def findIn? (files : FileTree) (directory : String) : Option String :=
  (fileNames.map (Path.join directory)).find? files.isFile

/-- The nearest config file in a directory or above it. -/
def find? (files : FileTree) (directory : String) : Option String :=
  (Path.ancestors directory).findSome? (findIn? files)

/-- The nearest config file with what it holds. -/
def discover (files : FileTree) (directory : String) : Except Error (Option (String × Config)) :=
  match find? files directory with
  | none => .ok none
  | some path => (load files path).map fun config => some (path, config)

end Prologue.Config
