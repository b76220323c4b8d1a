/-! Natural numbers written in a radix. -/

namespace Prologue

/-- The value of a digit, letters of either case standing for ten and above. -/
def digitValue? (c : Char) : Option Nat :=
  if '0' ≤ c ∧ c ≤ '9' then some (c.toNat - '0'.toNat)
  else if 'a' ≤ c ∧ c ≤ 'z' then some (c.toNat - 'a'.toNat + 10)
  else if 'A' ≤ c ∧ c ≤ 'Z' then some (c.toNat - 'A'.toNat + 10)
  else none

def isDigitOf (radix : Nat) (c : Char) : Bool :=
  match digitValue? c with
  | some digit => digit < radix
  | none => false

/-- Appends the digits of a text to a value; `none` if a character is no digit of the radix. -/
def appendDigits (radix : Nat) : (value : Nat) → List Char → Option Nat
  | value, [] => some value
  | value, c :: rest =>
    match digitValue? c with
    | some digit => if digit < radix then appendDigits radix (value * radix + digit) rest else none
    | none => none

/-- The number that a run of digits denotes; an empty run denotes none. -/
def digitsValue? (radix : Nat) : List Char → Option Nat
  | [] => none
  | c :: rest => appendDigits radix 0 (c :: rest)

/-- The number below `limit` that a text denotes, which may start with a plus sign. -/
def boundedValue? (radix limit : Nat) (text : List Char) : Option Nat :=
  let digits := match text with
    | '+' :: rest => rest
    | _ => text
  match digitsValue? radix digits with
  | some value => if value < limit then some value else none
  | none => none

/-- Lower-case hexadecimal digits, padded with zeros to a width. -/
def hexText (width value : Nat) : String :=
  let digits := Nat.toDigits 16 value
  String.ofList (List.replicate (width - digits.length) '0' ++ digits)

end Prologue
