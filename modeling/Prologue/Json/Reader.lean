import Prologue.Json.Printer
import Prologue.Json.Token

/-! Reading a JSON value from tokens. The readers for lists and objects take the reader of their elements, so that
a typed reader can share them. -/

namespace Prologue.Json

/-- What a reader makes of tokens: a result and the tokens after it. -/
abbrev Read (α : Type) := Except Fault (α × Tokens)

/-- The nesting that is allowed, the outermost list or object included. -/
def depthLimit : Nat := 128

/-- One byte past a token's first byte, where a reader notices an unwanted token. -/
def Tokens.peekOffset : Tokens → Nat
  | .finish offset => offset
  | .next _ start _ _ => start + 1

/-- Whether another item of a list follows, and the tokens from it on. -/
def nextItem? (first : Bool) : Tokens → Read Bool
  | .finish offset => .error ⟨.endInList, offset⟩
  | .next .closeArray start stop rest => .ok (false, .next .closeArray start stop rest)
  | .next token start stop rest =>
    if first then .ok (true, .next token start stop rest)
    else
      match token with
      | .comma =>
        match rest with
        | .finish offset => .error ⟨.endInValue, offset⟩
        | .next .closeArray start _ _ => .error ⟨.trailingComma, start + 1⟩
        | _ => .ok (true, rest)
      | _ => .error ⟨.expectedItemEnd, start + 1⟩

/-- The end of a list whose items have been read. -/
def endArray : Tokens → Except Fault Tokens
  | .next .closeArray _ _ rest => .ok rest
  | .next .comma _ _ (.next .closeArray start _ _) => .error ⟨.trailingComma, start + 1⟩
  | .next .comma _ _ rest => .error ⟨.trailingCharacters, rest.peekOffset⟩
  | .next _ start _ _ => .error ⟨.trailingCharacters, start + 1⟩
  | .finish offset => .error ⟨.endInList, offset⟩

/-- The key of the next member, if another follows. -/
def nextKey? (first : Bool) : Tokens → Read (Option String)
  | .finish offset => .error ⟨.endInObject, offset⟩
  | .next .closeObject start stop rest => .ok (none, .next .closeObject start stop rest)
  | .next token start stop rest =>
    if first then keyAt (.next token start stop rest)
    else
      match token with
      | .comma =>
        match rest with
        | .finish offset => .error ⟨.endInValue, offset⟩
        | .next .closeObject start _ _ => .error ⟨.trailingComma, start + 1⟩
        | _ => keyAt rest
      | _ => .error ⟨.expectedMemberEnd, start + 1⟩
where
  keyAt : Tokens → Read (Option String)
    | .next (.string key) _ _ rest => .ok (some key, rest)
    | .next (.brokenString fault) _ _ _ => .error fault
    | rest => .error ⟨.keyNotString, rest.peekOffset⟩

/-- The colon between a key and its value. -/
def colon : Tokens → Except Fault Tokens
  | .next .colon _ _ rest => .ok rest
  | .next _ start _ _ => .error ⟨.expectedColon, start + 1⟩
  | .finish offset => .error ⟨.endInObject, offset⟩

/-- The items up to the end of a list. The fuel is the number of tokens. -/
def readItems (item : Tokens → Read Json) : (fuel : Nat) → (first : Bool) → Tokens → Read (List Json)
  | 0, _, tokens => .error ⟨.endInList, tokens.offset⟩
  | fuel + 1, first, tokens =>
    match nextItem? first tokens with
    | .error fault => .error fault
    | .ok (false, rest) => .ok ([], rest)
    | .ok (true, rest) =>
      match item rest with
      | .error fault => .error fault
      | .ok (value, rest) =>
        match readItems item fuel false rest with
        | .error fault => .error fault
        | .ok (values, rest) => .ok (value :: values, rest)

/-- The members up to the end of an object, added to those read before. -/
def readMembers (value : Tokens → Read Json) :
    (fuel : Nat) → (first : Bool) → (seen : List (String × Json)) → Tokens → Read (List (String × Json))
  | 0, _, _, tokens => .error ⟨.endInObject, tokens.offset⟩
  | fuel + 1, first, seen, tokens =>
    match nextKey? first tokens with
    | .error fault => .error fault
    | .ok (none, rest) => .ok (seen, rest)
    | .ok (some key, rest) =>
      match colon rest with
      | .error fault => .error fault
      | .ok rest =>
        match value rest with
        | .error fault => .error fault
        | .ok (json, rest) => readMembers value fuel false (insertMember key json seen) rest

/-- Reads one value with at most `depth - 1` levels of nesting. -/
def readValue : (depth : Nat) → Tokens → Read Json
  | 0, tokens => .error ⟨.tooDeep, tokens.peekOffset⟩
  | depth + 1, tokens =>
    match tokens with
    | .finish offset => .error ⟨.endInValue, offset⟩
    | .next .null _ _ rest => .ok (.null, rest)
    | .next (.bool value) _ _ rest => .ok (.bool value, rest)
    | .next (.number value) _ _ rest => .ok (.number value, rest)
    | .next (.string value) _ _ rest => .ok (.string value, rest)
    | .next (.brokenString fault) _ _ _ => .error fault
    | .next (.brokenScalar fault) _ _ _ => .error fault
    | .next .openArray start _ rest =>
      if depth = 0 then .error ⟨.tooDeep, start + 1⟩
      else
        match readItems (readValue depth) (rest.count + 1) true rest with
        | .error fault => .error fault
        | .ok (items, rest) =>
          match endArray rest with
          | .error fault => .error fault
          | .ok rest => .ok (.array items, rest)
    | .next .openObject start _ rest =>
      if depth = 0 then .error ⟨.tooDeep, start + 1⟩
      else
        match readMembers (readValue depth) (rest.count + 1) true [] rest with
        | .error fault => .error fault
        | .ok (members, .next .closeObject _ _ rest) => .ok (.object members, rest)
        | .ok (_, rest) => .error ⟨.trailingCharacters, rest.peekOffset⟩
    | .next _ start _ _ => .error ⟨.expectedValue, start + 1⟩

/-- Nothing may follow the value of a document. -/
def finish : Tokens → Except Fault Unit
  | .finish _ => .ok ()
  | .next _ start _ _ => .error ⟨.trailingCharacters, start + 1⟩

/-- The value of a whole text. -/
def readAll (tokens : Tokens) : Except Fault Json :=
  match readValue depthLimit tokens with
  | .error fault => .error fault
  | .ok (value, rest) => (finish rest).map fun _ => value

def parse (text : String) : Except Fault Json := readAll (tokens text.toList)

def Fault.message (fault : Fault) (text : List Char) : String :=
  located fault.cause.message text fault.offset

end Prologue.Json
