import Prologue.Binary64.Decimal

/-! The values of literals as they are written in a source text. -/

namespace Prologue

/-- The character with a code point written in a radix. -/
def codePoint? (radix : Nat) (digits : List Char) : Option Char :=
  match boundedValue? radix (powerOfTwo 32) digits with
  | some value => if value.isValidChar then some (Char.ofNat value) else none
  | none => none

def dropTrailing (c : Char) (text : List Char) : List Char := (text.reverse.dropWhile (· = c)).reverse

/-- The text that an escape sequence stands for, given without its backslash; `none` if it stands for none. -/
def escapeValue? : List Char → Option (List Char)
  | [] => some []
  | first :: rest =>
    if first = 'n' then some ['\n']
    else if first = 't' then some ['\t']
    else if first = 'r' then some ['\r']
    else if first = 'b' then some ['\x08']
    else if first = 'f' then some ['\x0c']
    else if first = 'v' then some ['\x0b']
    else if first = '\n' ∨ first = '\r' ∨ first = '\u2028' ∨ first = '\u2029' then some []
    else if first = 'x' then (codePoint? 16 rest).map fun c => [c]
    else if first = 'u' then
      match rest with
      | '\x7b' :: braced => (codePoint? 16 (dropTrailing '\x7d' braced)).map fun c => [c]
      | _ => (codePoint? 16 rest).map fun c => [c]
    else if isDigitOf 8 first then (codePoint? 8 (first :: rest)).map fun c => [c]
    else some [first]

/-- The value of an escape sequence with its backslash; one that stands for no character is kept as it is. A
backslash at the end of a line continues the string. -/
def decodeEscape (raw : List Char) : List Char :=
  let body := match raw with
    | '\\' :: rest => rest
    | _ => raw
  (escapeValue? body).getD raw

/-- The digits of a number without separators, in lower case, and without the mark of a big integer. -/
def plainDigits (text : List Char) : List Char :=
  let digits := (text.filter (· ≠ '_')).map Char.toLower
  if digits.getLast? = some 'n' then digits.dropLast else digits

/-- An integer of at most 64 bits written in a radix. -/
def radixNumber (radix : Nat) (digits : List Char) : Binary64 :=
  match boundedValue? radix (powerOfTwo 64) digits with
  | some value => .ofNat value
  | none => .nan

/-- The value of a number literal; not a number if the text is none, or is an integer in another radix than ten
that does not fit 64 bits. -/
def numberValue (text : List Char) : Binary64 :=
  match plainDigits text with
  | '0' :: 'x' :: digits => radixNumber 16 digits
  | '0' :: 'o' :: digits => radixNumber 8 digits
  | '0' :: 'b' :: digits => radixNumber 2 digits
  | digits => (Binary64.ofText? digits).getD .nan

end Prologue
