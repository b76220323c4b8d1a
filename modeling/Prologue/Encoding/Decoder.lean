import Prologue.Json.Basic

/-! Taking typed values out of JSON. A value of the wrong type gives none. -/

namespace Prologue.Json

def text? : Json → Option String
  | .string value => some value
  | _ => none

def boolean? : Json → Option Bool
  | .bool value => some value
  | _ => none

/-- A natural number below a limit. -/
def natBelow? (limit : Nat) : Json → Option Nat
  | .number (.int value) => if 0 ≤ value ∧ value < limit then some value.toNat else none
  | _ => none

/-- An unsigned number of 32 bits. -/
def word32? : Json → Option Nat := natBelow? (powerOfTwo 32)

/-- An unsigned number of 64 bits. -/
def word64? : Json → Option Nat := natBelow? (powerOfTwo 64)

def binary64? : Json → Option Binary64
  | .number value => some value.toBinary64
  | _ => none

/-- All items of a list, if each is of the type. -/
def list? {α : Type} (item? : Json → Option α) : Json → Option (List α)
  | .array items => items.mapM item?
  | _ => none

/-- A value that may be null. -/
def nullable? {α : Type} (value? : Json → Option α) : Json → Option (Option α)
  | .null => some none
  | value => (value? value).map some

/-- A member that may be absent or null. -/
def optional? {α : Type} (value? : Json → Option α) : Option Json → Option (Option α)
  | none => some none
  | some value => nullable? value? value

/-- The values of a record's fields in their order: by name, or by position in a list of all of them. -/
def record? (names : List String) : Json → Option (List (Option Json))
  | .object members => some (names.map fun name => lookup name members)
  | .array items => if items.length = names.length then some (items.map some) else none
  | _ => none

/-- A variant by its name alone, or by its name with what it holds. -/
def variant? : Json → Option (String × Option Json)
  | .string name => some (name, none)
  | .object [(name, value)] => some (name, some value)
  | _ => none

/-- The name of a variant that holds nothing. -/
def plainVariant? (value : Json) : Option String :=
  match variant? value with
  | some (name, none) => some name
  | some (name, some .null) => some name
  | _ => none

end Prologue.Json
