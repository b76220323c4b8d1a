import Prologue.Config.Basic
import Prologue.Json.Reader
import Prologue.Mismatch

/-! Reading a config from JSON. The fields are read in the order of the text, so the first thing that is wrong is
reported even if the text is malformed further on. -/

namespace Prologue.Config

/-- What is wrong with a JSON text as a config. -/
inductive JsonProblem where
  | malformed (cause : Json.Cause)
  | mismatch (mismatch : Mismatch)
deriving Repr

structure JsonFault where
  problem : JsonProblem
  offset : Nat
deriving Repr

/-- A fault whose place is known, or a mismatch that is placed where the reader stands once it has tried to close
the enclosing list or object. -/
inductive JsonTrouble where
  | placed (fault : JsonFault)
  | pending (mismatch : Mismatch) (rest : Json.Tokens)
deriving Repr

abbrev JsonRead (α : Type) := Except JsonTrouble (α × Json.Tokens)

namespace JsonForm

open Json (Tokens)

def malformed (fault : Json.Fault) : JsonTrouble := .placed ⟨.malformed fault.cause, fault.offset⟩

def mismatched (mismatch : Mismatch) (offset : Nat) : JsonTrouble := .placed ⟨.mismatch mismatch, offset⟩

def foundNumber : Number → Found
  | .int value => .int value
  | .float value => .float value

/-- What is wrong with the next value where another is wanted. A list or object is refused before its bracket, any
other value after it. -/
def refusal (wanted : String) : Tokens → JsonTrouble
  | .finish offset => malformed ⟨.endInValue, offset⟩
  | .next .null _ stop _ => mismatched (.wrongType .null wanted) stop
  | .next (.bool value) _ stop _ => mismatched (.wrongType (.bool value) wanted) stop
  | .next (.number value) _ stop _ => mismatched (.wrongType (foundNumber value) wanted) stop
  | .next (.string value) _ stop _ => mismatched (.wrongType (.string value) wanted) stop
  | .next .openArray start _ _ => mismatched (.wrongType .sequence wanted) start
  | .next .openObject start _ _ => mismatched (.wrongType .mapping wanted) start
  | .next (.brokenString fault) _ _ _ => malformed fault
  | .next (.brokenScalar fault) _ _ _ => malformed fault
  | .next _ start _ _ => malformed ⟨.expectedValue, start + 1⟩

def readVersion : Tokens → JsonRead Nat
  | .next (.number (.int value)) _ stop rest =>
    if 0 ≤ value ∧ value < powerOfTwo 32 then .ok (value.toNat, rest)
    else .error (mismatched (.wrongValue (.int value) "u32") stop)
  | tokens => .error (refusal "u32" tokens)

/-- The severity of a name that ends at the given offset. -/
def severityNamed (name : String) (stop : Nat) : Except JsonTrouble Severity :=
  match Severity.ofName? name with
  | some severity => .ok severity
  | none => .error (mismatched (.unknownVariant name severityNames) stop)

/-- The name that an object starts with. -/
def readVariant : Tokens → JsonRead Severity
  | .next (.string name) _ stop rest => (severityNamed name stop).map fun severity => (severity, rest)
  | .next (.brokenString fault) _ _ _ => .error (malformed fault)
  | .next .closeObject start _ _ => .error (malformed ⟨.expectedValue, start + 1⟩)
  | .next _ start _ _ => .error (malformed ⟨.keyNotString, start + 1⟩)
  | .finish offset => .error (malformed ⟨.endInObject, offset⟩)

/-- The end of a severity that is written as an object. -/
def endVariant (severity : Severity) : Tokens → JsonRead Severity
  | .next .closeObject _ _ rest => .ok (severity, rest)
  | .next _ start _ _ => .error (malformed ⟨.expectedValue, start⟩)
  | .finish offset => .error (malformed ⟨.endInObject, offset⟩)

/-- A severity is its name, or an object that maps its name to null. -/
def readSeverity : Tokens → JsonRead Severity
  | .finish offset => .error (malformed ⟨.endInValue, offset⟩)
  | .next (.string name) _ stop rest => (severityNamed name stop).map fun severity => (severity, rest)
  | .next (.brokenString fault) _ _ _ => .error (malformed fault)
  | .next .openObject _ _ rest =>
    match readVariant rest with
    | .error trouble => .error trouble
    | .ok (severity, rest) =>
      match Json.colon rest with
      | .error fault => .error (malformed fault)
      | .ok (.next .null _ _ rest) => endVariant severity rest
      | .ok rest => .error (refusal "unit" rest)
  | .next _ start _ _ => .error (malformed ⟨.expectedValue, start + 1⟩)

/-- A null option is none; any other value must be an option. -/
def readNewline : Tokens → JsonRead (Option NewlineOption)
  | .next .null _ _ rest => .ok (none, rest)
  | tokens =>
    match Json.readValue (Json.depthLimit - 1) tokens with
    | .error fault => .error (malformed fault)
    | .ok (value, rest) =>
      match NewlineOption.ofJson value with
      | .ok option => .ok (some option, rest)
      | .error error => .error (.pending (.badOption error) rest)

/-- The strings up to the end of a list. The fuel is the number of tokens. -/
def readStringItems : (fuel : Nat) → (first : Bool) → Tokens → JsonRead (List String)
  | 0, _, tokens => .error (malformed ⟨.endInList, tokens.offset⟩)
  | fuel + 1, first, tokens =>
    match Json.nextItem? first tokens with
    | .error fault => .error (malformed fault)
    | .ok (false, rest) => .ok ([], rest)
    | .ok (true, .next (.string value) _ _ rest) =>
      match readStringItems fuel false rest with
      | .error trouble => .error trouble
      | .ok (values, rest) => .ok (value :: values, rest)
    | .ok (true, rest) => .error (refusal "a string" rest)

def readStrings : Tokens → JsonRead (List String)
  | .next .openArray _ _ rest =>
    match readStringItems (rest.count + 1) true rest with
    | .error trouble => .error trouble
    | .ok (values, rest) =>
      match Json.endArray rest with
      | .error fault => .error (malformed fault)
      | .ok rest => .ok (values, rest)
  | tokens => .error (refusal "a sequence" tokens)

/-- Reads the value of a field. -/
def readField (draft : Draft) (field : Field) (tokens : Tokens) : JsonRead Draft :=
  match field with
  | .version => (readVersion tokens).map fun r => ({ draft with version := some r.1 }, r.2)
  | .severity => (readSeverity tokens).map fun r => ({ draft with severity := some r.1 }, r.2)
  | .newline => (readNewline tokens).map fun r => ({ draft with newline := some r.1 }, r.2)
  | .extensions => (readStrings tokens).map fun r => ({ draft with extensions := some r.1 }, r.2)
  | .ignore => (readStrings tokens).map fun r => ({ draft with ignore := some r.1 }, r.2)

/-- The members up to the end of an object. The fuel is the number of tokens. -/
def readFields : (fuel : Nat) → (first : Bool) → Draft → Tokens → JsonRead Draft
  | 0, _, _, tokens => .error (malformed ⟨.endInObject, tokens.offset⟩)
  | fuel + 1, first, draft, tokens =>
    match Json.nextKey? first tokens with
    | .error fault => .error (malformed fault)
    | .ok (none, rest) => .ok (draft, rest)
    | .ok (some key, rest) =>
      match Field.ofName? key with
      | none => .error (.pending (.unknownField key fieldNames) rest)
      | some field =>
        if draft.has field then .error (.pending (.duplicateField key) rest)
        else
          match Json.colon rest with
          | .error fault => .error (malformed fault)
          | .ok rest =>
            match readField draft field rest with
            | .error trouble => .error trouble
            | .ok (draft, rest) => readFields fuel false draft rest

/-- The items of a list that gives the fields in their order. -/
def readPositions : List Field → (first : Bool) → Draft → Tokens → JsonRead Draft
  | [], _, draft, tokens => .ok (draft, tokens)
  | field :: fields, first, draft, tokens =>
    match Json.nextItem? first tokens with
    | .error fault => .error (malformed fault)
    | .ok (false, rest) => .ok (draft, rest)
    | .ok (true, rest) =>
      match readField draft field rest with
      | .error trouble => .error trouble
      | .ok (draft, rest) => readPositions fields false draft rest

/-- Where the reader stands after it has tried to close an object. -/
def afterObject : Tokens → Nat
  | .next .closeObject _ stop _ => stop
  | tokens => tokens.offset

/-- Where the reader stands after it has tried to close a list. -/
def afterArray : Tokens → Nat
  | .next .closeArray _ stop _ => stop
  | .next .comma _ _ rest => rest.offset
  | tokens => tokens.offset

def settle (place : Tokens → Nat) : JsonTrouble → JsonFault
  | .placed fault => fault
  | .pending mismatch rest => ⟨.mismatch mismatch, place rest⟩

/-- A config is an object of its fields, or a list of their values. -/
def readConfig (tokens : Tokens) : Except JsonFault (Config × Tokens) :=
  match tokens with
  | .next .openObject _ _ rest =>
    match readFields (rest.count + 1) true .empty rest with
    | .error trouble => .error (settle afterObject trouble)
    | .ok (draft, .next .closeObject _ _ rest) => .ok (draft.finish, rest)
    | .ok (_, rest) => .error ⟨.malformed .trailingCharacters, rest.peekOffset⟩
  | .next .openArray _ _ rest =>
    match readPositions Field.all true .empty rest with
    | .error trouble => .error (settle afterArray trouble)
    | .ok (draft, rest) =>
      match Json.endArray rest with
      | .ok rest => .ok (draft.finish, rest)
      | .error fault => .error ⟨.malformed fault.cause, fault.offset⟩
  | tokens => .error (settle Tokens.offset (refusal "struct LintConfig" tokens))

/-- The config of a whole document. -/
def decode (tokens : Tokens) : Except JsonFault Config :=
  match readConfig tokens with
  | .error fault => .error fault
  | .ok (config, rest) =>
    match Json.finish rest with
    | .ok () => .ok config
    | .error fault => .error ⟨.malformed fault.cause, fault.offset⟩

/-- In JSON a missing value is called null, and numbers are named as they are written. -/
def style : Found.Style := { null := "null", float := Number.layout }

end JsonForm

def JsonFault.message (text : List Char) (fault : JsonFault) : String :=
  let problem := match fault.problem with
    | .malformed cause => cause.message
    | .mismatch mismatch => mismatch.message JsonForm.style
  Json.located problem text fault.offset

/-- Reads a value that is already parsed. -/
def ofJson (value : Json) : Except JsonFault Config := JsonForm.decode value.toTokens

end Prologue.Config
