import Prologue.Config.Basic
import Prologue.FileTree
import Prologue.Language

/-! The files below a directory that are linted. -/

namespace Prologue

/-- Whether a walk goes into a directory: not if its name starts with a dot, or if the config ignores it. -/
def Config.enters (config : Config) (name : String) : Bool :=
  name.toList.head? ≠ some '.' && !config.ignore.contains name

/-- Whether a walk lints a file: its extension must be accepted and its language known. -/
def Config.selects (config : Config) (name : String) : Bool :=
  config.acceptsExtension ((Path.extension? name).getD "") && Language.detect name ≠ .unknown

/-- What a walk finds under a name, in the order of the names. -/
abbrev Finding := String × List String

def Finding.notAfter (a b : Finding) : Bool := decide (¬ b.1 < a.1)

mutual
/-- The paths that a walk finds in the entry `path`. -/
def Entry.files (config : Config) (path name : String) : Entry → List String
  | .file _ => if config.selects name then [path] else []
  | .directory entries =>
    if config.enters name then
      ((Entry.findings config path entries).mergeSort Finding.notAfter).flatMap Prod.snd
    else []
termination_by structural entry => entry

/-- What each entry of a directory gives, in any order. -/
def Entry.findings (config : Config) (path : String) : List (String × Entry) → List Finding
  | [] => []
  | entry :: rest => Entry.finding config path entry :: Entry.findings config path rest
termination_by structural entries => entries

def Entry.finding (config : Config) (path : String) : String × Entry → Finding
  | (name, entry) => (name, Entry.files config (Path.join path name) name entry)
termination_by structural entry => entry
end

/-- The files of a directory that is walked whatever its own name. -/
def walkDirectory (config : Config) (path : String) (entries : List (String × Entry)) : List String :=
  ((Entry.findings config path entries).mergeSort Finding.notAfter).flatMap Prod.snd

/-- The files that paths stand for. A file that is given is taken whatever its name, a directory is walked. -/
def FileTree.select (files : FileTree) (config : Config) : List String → Except FileFault (List String)
  | [] => .ok []
  | path :: paths =>
    let found := match files.resolve path with
      | .ok (.directory entries) => some (walkDirectory config path entries)
      | .ok (.file _) => some [path]
      | .error _ => none
    match found with
    | none => .error (.nothingAt path)
    | some found =>
      match files.select config paths with
      | .error fault => .error fault
      | .ok rest => .ok (found ++ rest)

end Prologue
