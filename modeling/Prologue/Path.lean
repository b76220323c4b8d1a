/-! Paths as texts of names between slashes. -/

namespace Prologue.Path

/-- The parts of a text between slashes. -/
def splitSlash : List Char → List (List Char)
  | [] => [[]]
  | c :: rest =>
    if c = '/' then [] :: splitSlash rest
    else
      match splitSlash rest with
      | [] => [[c]]
      | segment :: segments => (c :: segment) :: segments

def joinSlash : List (List Char) → List Char
  | [] => []
  | [segment] => segment
  | segment :: segments => segment ++ '/' :: joinSlash segments

def isAbsolute (path : String) : Bool := path.toList.head? = some '/'

/-- The parts after the slash of the root. -/
def segments (path : String) : List (List Char) :=
  splitSlash (if isAbsolute path then path.toList.drop 1 else path.toList)

/-- Whether a part names something. Doubled slashes and single dots do not, but a dot at the start of a relative path
does. -/
def isName (atStart : Bool) (segment : List Char) : Bool :=
  segment ≠ [] && (segment ≠ ['.'] || atStart)

/-- Without the parts at the end that name nothing. The parts are given from the last on. -/
def dropUnnamed (absolute : Bool) : List (List Char) → List (List Char)
  | [] => []
  | segment :: before =>
    if isName (!absolute && before.isEmpty) segment then segment :: before else dropUnnamed absolute before

/-- The named parts up to the last one, from the last on. -/
def named (path : String) : List (List Char) := dropUnnamed (isAbsolute path) (segments path).reverse

/-- The path without its last name. The root and the empty path have none. -/
def parent? (path : String) : Option String :=
  match named path with
  | [] => none
  | _ :: before =>
    let kept := joinSlash (dropUnnamed (isAbsolute path) before).reverse
    some (String.ofList (if isAbsolute path then '/' :: kept else kept))

/-- The last name, unless it is a dot or two. -/
def fileName? (path : String) : Option (List Char) :=
  match named path with
  | [] => none
  | name :: _ => if name = ['.'] ∨ name = ['.', '.'] then none else some name

/-- What follows the last dot of a name, if there is a dot that is not its first character. -/
def nameExtension? (name : List Char) : Option (List Char) :=
  let after := (name.reverse.takeWhile (· ≠ '.')).reverse
  if after.length + 1 < name.length then some after else none

def extension? (path : String) : Option String :=
  ((fileName? path).bind nameExtension?).map String.ofList

/-- A path inside another. -/
def join (path name : String) : String :=
  if isAbsolute name || path = "" then name
  else if path.toList.getLast? = some '/' then path ++ name
  else path ++ "/" ++ name

/-- A path and those above it, from the inside out. Each is shorter than the one before. -/
def ancestorsWithin : (fuel : Nat) → String → List String
  | 0, path => [path]
  | fuel + 1, path =>
    match parent? path with
    | some above => path :: ancestorsWithin fuel above
    | none => [path]

def ancestors (path : String) : List String := ancestorsWithin path.length path

end Prologue.Path
