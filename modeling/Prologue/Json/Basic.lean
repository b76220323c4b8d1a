import Prologue.Binary64.Decimal

/-! JSON values. The members of an object that was read stand in the order of their keys; an object that is
written keeps the order it was given. -/

namespace Prologue

/-- A number: an integer of 64 bits, with or without a sign, or a double. -/
inductive Number where
  | int (value : Int)
  | float (value : Binary64)
deriving DecidableEq, Repr

inductive Json where
  | null
  | bool (value : Bool)
  | number (value : Number)
  | string (value : String)
  | array (items : List Json)
  | object (members : List (String × Json))
deriving Repr

namespace Json

def nat (n : Nat) : Json := .number (.int n)

/-- The value of the first member with a key. -/
def lookup (key : String) : List (String × Json) → Option Json
  | [] => none
  | (k, value) :: rest => if k = key then some value else lookup key rest

def field? (key : String) : Json → Option Json
  | .object members => lookup key members
  | _ => none

/-- Adds a member in the order of the keys; a member with the same key is replaced. -/
def insertMember (key : String) (value : Json) : List (String × Json) → List (String × Json)
  | [] => [(key, value)]
  | (k, v) :: rest =>
    if key = k then (key, value) :: rest
    else if key < k then (key, value) :: (k, v) :: rest
    else (k, v) :: insertMember key value rest

end Json

/-- Numbers are written in plain notation from a hundred-thousandth up to sixteen digits before the point, and else
with an exponent. -/
def Number.layout : Binary64.Layout := { leastPlain := -5, greatestPlain := 15, tieUp := false }

def Number.text : Number → String
  | .int value => toString value
  | .float value => if value.isFinite then Number.layout.write value else "null"

/-- The nearest double. -/
def Number.toBinary64 : Number → Binary64
  | .int value => .ofInt value
  | .float value => value

end Prologue
