/-! The languages of source files. -/

namespace Prologue

inductive Language where
  | javaScript
  | jsx
  | typeScript
  | tsx
  | unknown
deriving DecidableEq, Repr

namespace Language

def text : Language → String
  | .javaScript => "javascript"
  | .jsx => "jsx"
  | .typeScript => "typescript"
  | .tsx => "tsx"
  | .unknown => "unknown"

def ofText? (text : String) : Option Language :=
  [javaScript, jsx, typeScript, tsx, unknown].find? fun language => language.text = text

/-- What follows the last dot of a text; the whole text if it has none. -/
def afterLastDot (path : List Char) : List Char :=
  (path.reverse.takeWhile (· ≠ '.')).reverse

def ofExtension (extension : String) : Language :=
  if extension = "js" ∨ extension = "mjs" ∨ extension = "cjs" then .javaScript
  else if extension = "jsx" then .jsx
  else if extension = "ts" ∨ extension = "mts" ∨ extension = "cts" then .typeScript
  else if extension = "tsx" then .tsx
  else .unknown

/-- The language of a file by its path. The letter case of the extension counts. -/
def detect (path : String) : Language := ofExtension (String.ofList (afterLastDot path.toList))

end Language

end Prologue
