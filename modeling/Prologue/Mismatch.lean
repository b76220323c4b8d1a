import Prologue.Policy
import Prologue.Text.Quoted

/-! How a document differs from the structure it is read into. -/

namespace Prologue

/-- What stands in a document where something else is wanted. -/
inductive Found where
  | null
  | bool (value : Bool)
  | int (value : Int)
  /-- An integer beyond 64 bits, with or without a sign. -/
  | wideInt (value : Int)
  | float (value : Binary64)
  | string (value : String)
  | sequence
  | mapping
  | tagged
deriving DecidableEq, Repr

/-- How a format names what it found. -/
structure Found.Style where
  null : String
  float : Binary64.Layout

def Found.text (style : Found.Style) : Found → String
  | .null => style.null
  | .bool value => "boolean `" ++ (if value then "true" else "false") ++ "`"
  | .int value => "integer `" ++ toString value ++ "`"
  | .wideInt value => "integer `" ++ toString value ++ "` as " ++ (if value < 0 then "i128" else "u128")
  | .float value => "floating point `" ++ style.float.write value ++ "`"
  | .string value => "string " ++ quoted value
  | .sequence => "sequence"
  | .mapping => "map"
  | .tagged => "enum"

inductive Mismatch where
  | wrongType (found : Found) (wanted : String)
  | wrongValue (found : Found) (wanted : String)
  | unknownField (key : String) (known : List String)
  | unknownVariant (name : String) (known : List String)
  | duplicateField (key : String)
  /-- A value that is no option for the policy. -/
  | badOption (error : OptionError)
  /-- A number that a generic value cannot hold. -/
  | numberRange
deriving Repr

/-- The names a reader may choose from. -/
def choices : List String → String
  | [a, b] => "`" ++ a ++ "` or `" ++ b ++ "`"
  | names => "one of " ++ ", ".intercalate (names.map fun name => "`" ++ name ++ "`")

def OptionError.fullMessage (error : OptionError) : String := "Config error: " ++ error.message

def Mismatch.message (style : Found.Style) : Mismatch → String
  | .wrongType found wanted => "invalid type: " ++ found.text style ++ ", expected " ++ wanted
  | .wrongValue found wanted => "invalid value: " ++ found.text style ++ ", expected " ++ wanted
  | .unknownField key known => "unknown field `" ++ key ++ "`, expected " ++ choices known
  | .unknownVariant name known => "unknown variant `" ++ name ++ "`, expected " ++ choices known
  | .duplicateField key => "duplicate field `" ++ key ++ "`"
  | .badOption error => error.fullMessage
  | .numberRange => "JSON number out of range"

end Prologue
