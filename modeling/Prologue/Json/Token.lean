import Prologue.Json.Basic
import Prologue.Text.Blank

/-! The tokens of a JSON text with the bytes they stand at. Scanning stops at the first token that is malformed;
what is wrong with it is kept, because a reader may object to the place of the token before it looks inside. -/

namespace Prologue.Json

/-- What can be wrong with a JSON text. -/
inductive Cause where
  | endInValue
  | endInList
  | endInObject
  | endInString
  | expectedColon
  | expectedItemEnd
  | expectedMemberEnd
  | expectedWord
  | expectedValue
  | invalidEscape
  | invalidNumber
  | numberOutOfRange
  | loneSurrogate
  | cutSurrogate
  | controlCharacter
  | keyNotString
  | trailingComma
  | trailingCharacters
  | tooDeep
deriving DecidableEq, Repr

def Cause.message : Cause → String
  | .endInValue => "EOF while parsing a value"
  | .endInList => "EOF while parsing a list"
  | .endInObject => "EOF while parsing an object"
  | .endInString => "EOF while parsing a string"
  | .expectedColon => "expected `:`"
  | .expectedItemEnd => "expected `,` or `]`"
  | .expectedMemberEnd => "expected `,` or `\x7d`"
  | .expectedWord => "expected ident"
  | .expectedValue => "expected value"
  | .invalidEscape => "invalid escape"
  | .invalidNumber => "invalid number"
  | .numberOutOfRange => "number out of range"
  | .loneSurrogate => "lone leading surrogate in hex escape"
  | .cutSurrogate => "unexpected end of hex escape"
  | .controlCharacter => "control character (\\u0000-\\u001F) found while parsing a string"
  | .keyNotString => "key must be a string"
  | .trailingComma => "trailing comma"
  | .trailingCharacters => "trailing characters"
  | .tooDeep => "recursion limit exceeded"

/-- A cause and the number of bytes after which it was noticed. -/
structure Fault where
  cause : Cause
  offset : Nat
deriving DecidableEq, Repr

inductive Token where
  | openObject
  | closeObject
  | openArray
  | closeArray
  | colon
  | comma
  | null
  | bool (value : Bool)
  | number (value : Number)
  | string (value : String)
  /-- A string that is malformed inside. -/
  | brokenString (fault : Fault)
  /-- A word or a number that is malformed inside. -/
  | brokenScalar (fault : Fault)
  /-- A character that starts no token. -/
  | stray
deriving DecidableEq, Repr

/-- Tokens with the offsets of their first byte and of the byte after them, up to the end of the text. -/
inductive Tokens where
  | finish (offset : Nat)
  | next (token : Token) (start stop : Nat) (rest : Tokens)
deriving DecidableEq, Repr

/-- The offset at which the next token, or else the end of the text, stands. -/
def Tokens.offset : Tokens → Nat
  | .finish offset => offset
  | .next _ start _ _ => start

def Tokens.count : Tokens → Nat
  | .finish _ => 0
  | .next _ _ _ rest => rest.count + 1

/-- A scanned piece, the characters after it and the offset of these. -/
structure Scanned (α : Type) where
  value : α
  rest : List Char
  offset : Nat

def isSpace (c : Char) : Bool := c = ' ' || c = '\n' || c = '\t' || c = '\r'

/-- Four hexadecimal digits. Too short a text ends in the string; any other four bytes are no escape. -/
def scanHex (text : List Char) (offset : Nat) : Except Fault (Scanned Nat) :=
  match text with
  | a :: b :: c :: d :: rest =>
    match digitsValue? 16 [a, b, c, d] with
    | some value => .ok ⟨value, rest, offset + 4⟩
    | none => .error ⟨.invalidEscape, offset + 4⟩
  | _ =>
    if byteLength text ≥ 4 then .error ⟨.invalidEscape, offset + 4⟩
    else .error ⟨.endInString, offset + byteLength text⟩

/-- The second half of a surrogate pair, of which `high` is the first. -/
def scanLowSurrogate (high : Nat) (text : List Char) (offset : Nat) : Except Fault (Scanned Char) :=
  match text with
  | [] => .error ⟨.endInString, offset⟩
  | '\\' :: [] => .error ⟨.endInString, offset + 1⟩
  | '\\' :: 'u' :: rest =>
    match scanHex rest (offset + 2) with
    | .error fault => .error fault
    | .ok low =>
      if 0xdc00 ≤ low.value ∧ low.value ≤ 0xdfff then
        .ok ⟨Char.ofNat (0x10000 + (high - 0xd800) * 0x400 + (low.value - 0xdc00)), low.rest, low.offset⟩
      else .error ⟨.loneSurrogate, low.offset⟩
  | '\\' :: _ => .error ⟨.cutSurrogate, offset + 2⟩
  | _ => .error ⟨.cutSurrogate, offset + 1⟩

/-- The character that an escape stands for; the backslash has been read. -/
def scanEscape (text : List Char) (offset : Nat) : Except Fault (Scanned Char) :=
  match text with
  | [] => .error ⟨.endInString, offset⟩
  | 'u' :: rest =>
    match scanHex rest (offset + 1) with
    | .error fault => .error fault
    | .ok unit =>
      if 0xdc00 ≤ unit.value ∧ unit.value ≤ 0xdfff then .error ⟨.loneSurrogate, unit.offset⟩
      else if 0xd800 ≤ unit.value ∧ unit.value ≤ 0xdbff then scanLowSurrogate unit.value unit.rest unit.offset
      else .ok ⟨Char.ofNat unit.value, unit.rest, unit.offset⟩
  | c :: rest =>
    let plain (value : Char) : Except Fault (Scanned Char) := .ok ⟨value, rest, offset + 1⟩
    if c = '"' || c = '\\' || c = '/' then plain c
    else if c = 'b' then plain '\x08'
    else if c = 'f' then plain '\x0c'
    else if c = 'n' then plain '\n'
    else if c = 'r' then plain '\r'
    else if c = 't' then plain '\t'
    else .error ⟨.invalidEscape, offset + 1⟩

/-- The characters up to the closing quote. The fuel is the length of the text. -/
def scanString : (fuel : Nat) → (seen : List Char) → List Char → (offset : Nat) → Except Fault (Scanned String)
  | 0, _, _, offset => .error ⟨.endInString, offset⟩
  | _ + 1, _, [], offset => .error ⟨.endInString, offset⟩
  | fuel + 1, seen, c :: rest, offset =>
    if c = '"' then .ok ⟨String.ofList seen.reverse, rest, offset + 1⟩
    else if c = '\\' then
      match scanEscape rest (offset + 1) with
      | .error fault => .error fault
      | .ok escaped => scanString fuel (escaped.value :: seen) escaped.rest escaped.offset
    else if c.toNat < 0x20 then .error ⟨.controlCharacter, offset + 1⟩
    else scanString fuel (c :: seen) rest (offset + c.utf8Size)

/-- Reads the rest of a word. -/
def scanWord (token : Token) : (expected : List Char) → List Char → (offset : Nat) → Except Fault (Scanned Token)
  | [], text, offset => .ok ⟨token, text, offset⟩
  | _ :: _, [], offset => .error ⟨.endInValue, offset⟩
  | e :: expected, c :: rest, offset =>
    if c = e then scanWord token expected rest (offset + 1) else .error ⟨.expectedWord, offset + 1⟩

/-- Appends digits to a significand while it stays below `2 ^ 64`; the digits that do not fit are left. -/
def fillSignificand : (significand : Nat) → List Char → Nat × List Char
  | significand, [] => (significand, [])
  | significand, c :: rest =>
    let grown := significand * 10 + (c.toNat - '0'.toNat)
    if grown < powerOfTwo 64 then fillSignificand grown rest else (significand, c :: rest)

def tenTo (exponent : Nat) : Binary64 := .ofDecimal false 1 exponent

/-- `significand * 10 ^ exponent`, one rounding a step; powers of ten beyond a double are applied in steps. `none`
if the number is too large. -/
def scaleByTen : (fuel : Nat) → Binary64 → (exponent : Int) → Option Binary64
  | 0, value, _ => some value
  | fuel + 1, value, exponent =>
    if exponent.natAbs ≤ 308 then
      if exponent ≥ 0 then
        let product := value.times (tenTo exponent.toNat)
        if product.isFinite then some product else none
      else some (value.quotient (tenTo exponent.natAbs))
    else if value.isZero then some value
    else if exponent ≥ 0 then none
    else scaleByTen fuel (value.quotient (tenTo 308)) (exponent + 308)

def makeFloat (negative : Bool) (significand : Nat) (exponent : Int) (rest : List Char) (offset : Nat) :
    Except Fault (Scanned Number) :=
  match scaleByTen 8 (.ofNat significand) exponent with
  | some value => .ok ⟨.float (if negative then value.negate else value), rest, offset⟩
  | none => .error ⟨.numberOutOfRange, offset⟩

/-- Exponent digits up to the one that takes the exponent past 31 bits, and whether there is such a one. -/
def fillExponent : (exponent : Nat) → List Char → (offset : Nat) → Nat × List Char × Nat × Bool
  | exponent, [], offset => (exponent, [], offset, false)
  | exponent, c :: rest, offset =>
    if c.isDigit then
      let grown := exponent * 10 + (c.toNat - '0'.toNat)
      if grown < powerOfTwo 31 then fillExponent grown rest (offset + 1) else (exponent, rest, offset + 1, true)
    else (exponent, c :: rest, offset, false)

/-- The exponent after its mark. -/
def scanExponent (negative : Bool) (significand : Nat) (shift : Int) (text : List Char) (offset : Nat) :
    Except Fault (Scanned Number) :=
  let (down, text, offset) := match text with
    | '+' :: rest => (false, rest, offset + 1)
    | '-' :: rest => (true, rest, offset + 1)
    | _ => (false, text, offset)
  match text with
  | [] => .error ⟨.endInValue, offset⟩
  | c :: _ =>
    if c.isDigit then
      let (exponent, rest, offset, tooLarge) := fillExponent 0 text offset
      if tooLarge then
        if significand ≠ 0 ∧ !down then .error ⟨.numberOutOfRange, offset⟩
        else
          let digits := rest.takeWhile Char.isDigit
          .ok ⟨.float (.zero negative), rest.dropWhile Char.isDigit, offset + digits.length⟩
      else makeFloat negative significand (shift + (if down then -(exponent : Int) else exponent)) rest offset
    else .error ⟨.invalidNumber, offset + 1⟩

/-- What follows the digits of the significand: an exponent or the end of the number. -/
def scanScale (negative : Bool) (significand : Nat) (shift : Int) (text : List Char) (offset : Nat) :
    Except Fault (Scanned Number) :=
  match text with
  | c :: rest =>
    if c = 'e' || c = 'E' then scanExponent negative significand shift rest (offset + 1)
    else makeFloat negative significand shift text offset
  | [] => makeFloat negative significand shift text offset

/-- The digits after the point. -/
def scanFraction (negative : Bool) (significand : Nat) (dropped : Nat) (text : List Char) (offset : Nat) :
    Except Fault (Scanned Number) :=
  let digits := text.takeWhile Char.isDigit
  let rest := text.dropWhile Char.isDigit
  if digits.isEmpty then
    .error (if text.isEmpty then ⟨.endInValue, offset⟩ else ⟨.invalidNumber, offset + 1⟩)
  else
    let (filled, left) := fillSignificand significand digits
    let used := digits.length - left.length
    scanScale negative filled ((dropped : Int) - used) rest (offset + digits.length)

/-- An integer without fraction and exponent: it is kept exactly if it fits 64 bits. -/
def integerOf (negative : Bool) (significand : Nat) : Number :=
  if !negative then .int significand
  else if 1 ≤ significand ∧ significand ≤ powerOfTwo 63 then .int (-(significand : Int))
  else .float (Binary64.ofNat significand).negate

/-- A number after its sign. -/
def scanNumber (negative : Bool) (text : List Char) (offset : Nat) : Except Fault (Scanned Number) :=
  match text with
  | [] => .error ⟨.endInValue, offset⟩
  | '0' :: rest =>
    match rest with
    | '.' :: rest => scanFraction negative 0 0 rest (offset + 2)
    | c :: _ =>
      if c.isDigit then .error ⟨.invalidNumber, offset + 2⟩
      else if c = 'e' || c = 'E' then scanScale negative 0 0 rest (offset + 1)
      else .ok ⟨integerOf negative 0, rest, offset + 1⟩
    | [] => .ok ⟨integerOf negative 0, rest, offset + 1⟩
  | c :: _ =>
    if c.isDigit then
      let digits := text.takeWhile Char.isDigit
      let rest := text.dropWhile Char.isDigit
      let offset := offset + digits.length
      let (significand, left) := fillSignificand 0 digits
      match rest with
      | '.' :: rest => scanFraction negative significand left.length rest (offset + 1)
      | 'e' :: _ => scanScale negative significand left.length rest offset
      | 'E' :: _ => scanScale negative significand left.length rest offset
      | _ =>
        if left.isEmpty then .ok ⟨integerOf negative significand, rest, offset⟩
        else makeFloat negative significand left.length rest offset
    else .error ⟨.invalidNumber, offset + 1⟩

def ofScalar (scanned : Except Fault (Scanned Token)) (rest : List Char) (offset : Nat) : Scanned Token :=
  match scanned with
  | .ok token => token
  | .error fault => ⟨.brokenScalar fault, rest, offset⟩

def ofNumber (scanned : Except Fault (Scanned Number)) : Except Fault (Scanned Token) :=
  scanned.map fun s => ⟨.number s.value, s.rest, s.offset⟩

/-- The token that starts with `c`. -/
def scanToken (c : Char) (rest : List Char) (offset : Nat) : Scanned Token :=
  let next := offset + c.utf8Size
  let single (token : Token) : Scanned Token := ⟨token, rest, next⟩
  if c = '\x7b' then single .openObject
  else if c = '\x7d' then single .closeObject
  else if c = '[' then single .openArray
  else if c = ']' then single .closeArray
  else if c = ':' then single .colon
  else if c = ',' then single .comma
  else if c = '"' then
    match scanString (rest.length + 1) [] rest next with
    | .ok scanned => ⟨.string scanned.value, scanned.rest, scanned.offset⟩
    | .error fault => ⟨.brokenString fault, rest, next⟩
  else if c = 'n' then ofScalar (scanWord .null ['u', 'l', 'l'] rest next) rest next
  else if c = 't' then ofScalar (scanWord (.bool true) ['r', 'u', 'e'] rest next) rest next
  else if c = 'f' then ofScalar (scanWord (.bool false) ['a', 'l', 's', 'e'] rest next) rest next
  else if c = '-' then ofScalar (ofNumber (scanNumber true rest next)) rest next
  else if c.isDigit then ofScalar (ofNumber (scanNumber false (c :: rest) offset)) rest next
  else single .stray

/-- Whether nothing is scanned after a token. -/
def Token.ends : Token → Bool
  | .brokenString _ => true
  | .brokenScalar _ => true
  | .stray => true
  | _ => false

/-- The tokens of a text. The fuel is the length of the text. -/
def scanTokens : (fuel : Nat) → List Char → (offset : Nat) → Tokens
  | 0, _, offset => .finish offset
  | _ + 1, [], offset => .finish offset
  | fuel + 1, c :: rest, offset =>
    if isSpace c then scanTokens fuel rest (offset + 1)
    else
      let scanned := scanToken c rest offset
      .next scanned.value offset scanned.offset
        (if scanned.value.ends then .finish scanned.offset else scanTokens fuel scanned.rest scanned.offset)

def tokens (text : List Char) : Tokens := scanTokens (text.length + 1) text 0

mutual
/-- The tokens of a value that was not read from a text: all stand at the start. -/
def push : Json → Tokens → Tokens
  | .null, rest => .next .null 0 0 rest
  | .bool value, rest => .next (.bool value) 0 0 rest
  | .number value, rest => .next (.number value) 0 0 rest
  | .string value, rest => .next (.string value) 0 0 rest
  | .array items, rest => .next .openArray 0 0 (pushItems items true (.next .closeArray 0 0 rest))
  | .object members, rest => .next .openObject 0 0 (pushMembers members true (.next .closeObject 0 0 rest))
termination_by structural value => value

def pushItems : List Json → (first : Bool) → Tokens → Tokens
  | [], _, rest => rest
  | item :: items, first, rest =>
    let tokens := item.push (pushItems items false rest)
    if first then tokens else .next .comma 0 0 tokens
termination_by structural items => items

def pushMembers : List (String × Json) → (first : Bool) → Tokens → Tokens
  | [], _, rest => rest
  | (key, value) :: members, first, rest =>
    let tokens := .next (.string key) 0 0 (.next .colon 0 0 (value.push (pushMembers members false rest)))
    if first then tokens else .next .comma 0 0 tokens
termination_by structural members => members
end

def toTokens (value : Json) : Tokens := value.push (.finish 0)

/-- The line of a byte offset, counted from one, and the number of bytes on that line before it. -/
def place : (line column : Nat) → (offset : Nat) → List Char → Nat × Nat
  | line, column, offset, [] => (line, column + offset)
  | line, column, offset, c :: rest =>
    if offset < c.utf8Size then (line, column + offset)
    else if c = '\n' then place (line + 1) 0 (offset - 1) rest
    else place line (column + c.utf8Size) (offset - c.utf8Size) rest

/-- A message with the place of an offset in a text. -/
def located (message : String) (text : List Char) (offset : Nat) : String :=
  let (line, column) := place 1 0 offset text
  message ++ " at line " ++ toString line ++ " column " ++ toString column

end Prologue.Json
