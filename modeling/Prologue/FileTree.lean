import Prologue.Error
import Prologue.Path
import Prologue.Tree.Node

/-! Files and directories as a value. A source file comes with the syntax tree of its text. -/

namespace Prologue

inductive Content where
  | text (content : String) (tree : Option Node)
  /-- Bytes that are no text. -/
  | binary
deriving Repr

inductive Entry where
  | file (content : Content)
  | directory (entries : List (String × Entry))
deriving Repr

namespace Entry

def lookup (name : String) : List (String × Entry) → Option Entry
  | [] => none
  | (key, entry) :: rest => if key = name then some entry else lookup name rest

def replace (name : String) (entry : Entry) : List (String × Entry) → List (String × Entry)
  | [] => [(name, entry)]
  | (key, old) :: rest => if key = name then (name, entry) :: rest else (key, old) :: replace name entry rest

/-- Puts an entry at the end of a way of names. Directories that are missing on the way are made, and a file on the
way gives place to one. -/
def put (entry : Entry) : List String → Entry → Entry
  | [], _ => entry
  | name :: names, .directory entries =>
    .directory (replace name (put entry names ((lookup name entries).getD (.directory []))) entries)
  | name :: names, .file _ => .directory [(name, put entry names (.directory []))]

/-- Makes a directory at the end of a way of names and leaves what is there. -/
def makeDirectory : List String → Entry → Entry
  | [], .directory entries => .directory entries
  | [], .file content => .file content
  | name :: names, .directory entries =>
    .directory (replace name (makeDirectory names ((lookup name entries).getD (.directory []))) entries)
  | _ :: _, .file content => .file content

/-- Removes what is at the end of a way of names. -/
def remove : List String → Entry → Entry
  | [], entry => entry
  | [name], .directory entries => .directory (entries.filter fun entry => entry.1 ≠ name)
  | name :: names, .directory entries =>
    match lookup name entries with
    | some inner => .directory (replace name (remove names inner) entries)
    | none => .directory entries
  | _ :: _, .file content => .file content

end Entry

/-- All files, and the names that lead from the root to the current directory. -/
structure FileTree where
  root : Entry
  current : List String
deriving Repr

namespace FileTree

/-- The greatest length of a name, in bytes. -/
def longestName : Nat := 255

/-- Walks along the parts of a path. The directories passed so far are kept with the innermost first; two dots lead
back to the one before. -/
def walk : (passed : List Entry) → List (List Char) → Except FileFault (List Entry)
  | passed, [] => .ok passed
  | passed, segment :: segments =>
    match passed with
    | [] => .error .notFound
    | .file _ :: _ => .error .notDirectory
    | .directory entries :: outer =>
      if segment = [] ∨ segment = ['.'] then walk (.directory entries :: outer) segments
      else if segment = ['.', '.'] then
        walk (if outer.isEmpty then [.directory entries] else outer) segments
      else if longestName < (String.ofList segment).utf8ByteSize then .error .nameTooLong
      else
        match Entry.lookup (String.ofList segment) entries with
        | some entry => walk (entry :: .directory entries :: outer) segments
        | none => .error .notFound

/-- The entry that a path leads to. A relative path starts at the current directory. -/
def resolve (files : FileTree) (path : String) : Except FileFault Entry :=
  if path = "" then .error .notFound
  else if path.toList.contains '\x00' then .error .nulInPath
  else
    let start := if Path.isAbsolute path then [] else files.current.map String.toList
    match walk [files.root] (start ++ Path.segments path) with
    | .error fault => .error fault
    | .ok [] => .error .notFound
    | .ok (entry :: _) => .ok entry

def isFile (files : FileTree) (path : String) : Bool :=
  match files.resolve path with
  | .ok (.file _) => true
  | _ => false

/-- The text of a file, with its syntax tree. -/
def read (files : FileTree) (path : String) : Except FileFault (String × Option Node) :=
  match files.resolve path with
  | .error fault => .error fault
  | .ok (.directory _) => .error .isDirectory
  | .ok (.file .binary) => .error .notText
  | .ok (.file (.text content tree)) => .ok (content, tree)

/-- Follows a part of a path; the names so far are given from the last on. -/
def followName (names : List String) (segment : List Char) : List String :=
  if segment = [] ∨ segment = ['.'] then names
  else if segment = ['.', '.'] then names.drop 1
  else String.ofList segment :: names

/-- The names from the root to what a path is about, whether it exists or not. -/
def way (files : FileTree) (path : String) : List String :=
  let start := if Path.isAbsolute path then [] else files.current.reverse
  ((Path.segments path).foldl followName start).reverse

def write (files : FileTree) (path : String) (content : Content) : FileTree :=
  { files with root := Entry.put (.file content) (files.way path) files.root }

def makeDirectory (files : FileTree) (path : String) : FileTree :=
  { files with root := files.root.makeDirectory (files.way path) }

def remove (files : FileTree) (path : String) : FileTree :=
  { files with root := files.root.remove (files.way path) }

/-- The absolute path of the current directory. -/
def currentPath (files : FileTree) : String := "/" ++ "/".intercalate files.current

end FileTree

end Prologue
