import Prologue.Mismatch
import Prologue.Yaml.Token

/-! What a scalar means. -/

namespace Prologue.Yaml

def isNullText (text : String) : Bool := ["null", "Null", "NULL", "~"].contains text

def boolean? (text : String) : Option Bool :=
  if ["true", "True", "TRUE"].contains text then some true
  else if ["false", "False", "FALSE"].contains text then some false
  else none

/-- More than one digit, the first of them a zero: that is no number. -/
def isPaddedDigits (text : List Char) : Bool :=
  let digits := match text with
    | '-' :: rest | '+' :: rest => rest
    | _ => text
  match digits with
  | '0' :: c :: rest => (c :: rest).all Char.isDigit
  | _ => false

/-- The digits after a radix mark. -/
def radixValue? : List Char → Option Nat
  | '0' :: 'x' :: rest => digitsValue? 16 rest
  | '0' :: 'o' :: rest => digitsValue? 8 rest
  | '0' :: 'b' :: rest => digitsValue? 2 rest
  | _ => none

/-- A natural number, with an optional plus sign. -/
def natural? (text : List Char) : Option Nat :=
  let digits := match text with
    | '+' :: rest => rest
    | _ => text
  match radixValue? digits with
  | some value => some value
  | none => if isPaddedDigits text then none else digitsValue? 10 digits

/-- A number with a minus sign. -/
def negative? (text : List Char) : Option Nat :=
  match text with
  | '-' :: digits =>
    match radixValue? digits with
    | some value => some value
    | none => if isPaddedDigits text then none else digitsValue? 10 digits
  | _ => none

/-- An integer, if it has a place in 128 bits. -/
def integer? (text : List Char) : Option Found :=
  match natural? text with
  | some value =>
    if value < powerOfTwo 64 then some (.int value)
    else if value < powerOfTwo 128 then some (.wideInt value)
    else none
  | none =>
    match negative? text with
    | some value =>
      if value ≤ powerOfTwo 63 then some (.int (-value))
      else if value ≤ powerOfTwo 127 then some (.wideInt (-value))
      else none
    | none => none

/-- A floating point number. Those without a value are written with a point. -/
def float? (text : List Char) : Option Binary64 :=
  let word := String.ofList text
  let unsigned := match text with
    | '+' :: rest => rest
    | _ => text
  let signedTwice := text.head? = some '+' && (unsigned.head? = some '+' || unsigned.head? = some '-')
  if signedTwice then none
  else if [".inf", ".Inf", ".INF"].contains (String.ofList unsigned) then some (.infinite false)
  else if ["-.inf", "-.Inf", "-.INF"].contains word then some (.infinite true)
  else if [".nan", ".NaN", ".NAN"].contains word then some .nan
  else
    match Binary64.ofText? unsigned with
    | some value => if value.isFinite then some value else none
    | none => none

/-- The meaning of a scalar without quotes and tag. -/
def plainMeaning (text : String) : Found :=
  if text = "" || isNullText text then .null
  else
    match boolean? text with
    | some value => .bool value
    | none =>
      match integer? text.toList with
      | some found => found
      | none =>
        if isPaddedDigits text.toList then .string text
        else
          match float? text.toList with
          | some value => .float value
          | none => .string text

def coreTag (name : String) : Tag := .ofString ("tag:yaml.org,2002:" ++ name)

def required (text wanted : String) : Option Found → Except Mismatch Found
  | some found => .ok found
  | none => .error (.wrongValue (.string text) wanted)

/-- A tag of the text's own starts with an exclamation mark. -/
def Tag.isOwn (tag : Tag) : Bool := tag.bytes.head? = some 0x21

/-- The name in a tag of the text's own: what follows the exclamation mark, or the mark itself if it stands alone. Bytes
that are no text are no name. -/
def ownName? (tag : Option Tag) : Option String :=
  match tag with
  | some ⟨mark :: name⟩ =>
    if mark = 0x21 then String.fromUTF8? (if name.isEmpty then [mark] else name).toByteArray else none
  | _ => none

/-- The meaning of a scalar. A core tag fixes the type; any other tag makes it a text, unless it is one of the text's
own and the scalar has no quotes. -/
def meaning (tag : Option Tag) (text : String) (style : ScalarStyle) : Except Mismatch Found :=
  match tag with
  | none => .ok (if style = .plain then plainMeaning text else .string text)
  | some tag =>
    if tag = coreTag "bool" then required text "a boolean" ((boolean? text).map .bool)
    else if tag = coreTag "int" then required text "an integer" (integer? text.toList)
    else if tag = coreTag "float" then required text "a float" ((float? text.toList).map .float)
    else if tag = coreTag "null" then required text "null" (if isNullText text then some .null else none)
    else if tag.isOwn && style = .plain then .ok (plainMeaning text)
    else .ok (.string text)

end Prologue.Yaml
