import Prologue.Yaml.Cursor

/-! What can be wrong with a YAML text. -/

namespace Prologue.Yaml

inductive Cause where
  | controlCharacter
  | cannotStartToken
  | valueNotAllowed
  | keyNotAllowed
  | entryNotAllowed
  | expectedColon
  | unknownDirective
  | expectedLineEnd
  | expectedDirectiveName
  | nonAlphabetic
  | expectedVersionPoint
  | longVersion
  | expectedVersion
  | expectedBlank
  | expectedBlankOrBreak
  | expectedAlphanumeric
  | expectedTagClose
  | expectedTagMark
  | expectedTagText
  | expectedOctet
  | badLeadingOctet
  | badTrailingOctet
  | zeroIndentation
  | tabIndentation
  | documentMarkInQuotes
  | endInQuotes
  | unknownEscape
  | expectedHexadecimal
  | badCodePoint
  | colonInPlain
  | tabInPlain
  | expectedDocumentStart
  | undefinedHandle
  | expectedContent
  | expectedDash
  | expectedKey
  | expectedSequenceEnd
  | expectedMappingEnd
  | duplicateVersion
  | incompatibleVersion
  | duplicateHandle
deriving DecidableEq, Repr

def Cause.message : Cause → String
  | .controlCharacter => "control characters are not allowed"
  | .cannotStartToken => "found character that cannot start any token"
  | .valueNotAllowed => "mapping values are not allowed in this context"
  | .keyNotAllowed => "mapping keys are not allowed in this context"
  | .entryNotAllowed => "block sequence entries are not allowed in this context"
  | .expectedColon => "could not find expected ':'"
  | .unknownDirective => "found unknown directive name"
  | .expectedLineEnd => "did not find expected comment or line break"
  | .expectedDirectiveName => "could not find expected directive name"
  | .nonAlphabetic => "found unexpected non-alphabetical character"
  | .expectedVersionPoint => "did not find expected digit or '.' character"
  | .longVersion => "found extremely long version number"
  | .expectedVersion => "did not find expected version number"
  | .expectedBlank => "did not find expected whitespace"
  | .expectedBlankOrBreak => "did not find expected whitespace or line break"
  | .expectedAlphanumeric => "did not find expected alphabetic or numeric character"
  | .expectedTagClose => "did not find the expected '>'"
  | .expectedTagMark => "did not find expected '!'"
  | .expectedTagText => "did not find expected tag URI"
  | .expectedOctet => "did not find URI escaped octet"
  | .badLeadingOctet => "found an incorrect leading UTF-8 octet"
  | .badTrailingOctet => "found an incorrect trailing UTF-8 octet"
  | .zeroIndentation => "found an indentation indicator equal to 0"
  | .tabIndentation => "found a tab character where an indentation space is expected"
  | .documentMarkInQuotes => "found unexpected document indicator"
  | .endInQuotes => "found unexpected end of stream"
  | .unknownEscape => "found unknown escape character"
  | .expectedHexadecimal => "did not find expected hexadecimal number"
  | .badCodePoint => "found invalid Unicode character escape code"
  | .colonInPlain => "found unexpected ':'"
  | .tabInPlain => "found a tab character that violates indentation"
  | .expectedDocumentStart => "did not find expected <document start>"
  | .undefinedHandle => "found undefined tag handle"
  | .expectedContent => "did not find expected node content"
  | .expectedDash => "did not find expected '-' indicator"
  | .expectedKey => "did not find expected key"
  | .expectedSequenceEnd => "did not find expected ',' or ']'"
  | .expectedMappingEnd => "did not find expected ',' or '\x7d'"
  | .duplicateVersion => "found duplicate %YAML directive"
  | .incompatibleVersion => "found incompatible YAML document"
  | .duplicateHandle => "found duplicate %TAG directive"

/-- What the reader was about when it met a fault. -/
inductive Activity where
  | scanToken
  | scanSimpleKey
  | scanDirective
  | scanVersion
  | scanTagDirective
  | scanHandle
  | parseHandle
  | scanAnchor
  | scanAlias
  | scanTag
  | parseTag
  | parseTagDirective
  | scanBlockScalar
  | scanQuoted
  | parseQuoted
  | scanPlain
  | parseNode
  | parseBlockNode
  | parseFlowNode
  | parseBlockSequence
  | parseBlockMapping
  | parseFlowSequence
  | parseFlowMapping
deriving DecidableEq, Repr

def Activity.text : Activity → String
  | .scanToken => "while scanning for the next token"
  | .scanSimpleKey => "while scanning a simple key"
  | .scanDirective => "while scanning a directive"
  | .scanVersion => "while scanning a %YAML directive"
  | .scanTagDirective => "while scanning a %TAG directive"
  | .scanHandle => "while scanning a tag directive"
  | .parseHandle => "while parsing a tag directive"
  | .scanAnchor => "while scanning an anchor"
  | .scanAlias => "while scanning an alias"
  | .scanTag => "while scanning a tag"
  | .parseTag => "while parsing a tag"
  | .parseTagDirective => "while parsing a %TAG directive"
  | .scanBlockScalar => "while scanning a block scalar"
  | .scanQuoted => "while scanning a quoted scalar"
  | .parseQuoted => "while parsing a quoted scalar"
  | .scanPlain => "while scanning a plain scalar"
  | .parseNode => "while parsing a node"
  | .parseBlockNode => "while parsing a block node"
  | .parseFlowNode => "while parsing a flow node"
  | .parseBlockSequence => "while parsing a block collection"
  | .parseBlockMapping => "while parsing a block mapping"
  | .parseFlowSequence => "while parsing a flow sequence"
  | .parseFlowMapping => "while parsing a flow mapping"

/-- A fault with its place and, where one is given, the activity and the place at which that began. -/
structure Fault where
  cause : Cause
  mark : Mark
  context : Option (Activity × Mark)
deriving DecidableEq, Repr

def Fault.within (activity : Activity) (begun : Mark) (cause : Cause) (mark : Mark) : Fault :=
  ⟨cause, mark, some (activity, begun)⟩

/-- Whether a place is on the first column of the first line, where it is not shown. -/
def Mark.isOrigin (mark : Mark) : Bool := mark.line = 0 && mark.column = 0

/-- A place in a message; lines and columns are shown from one. -/
def Mark.text (mark : Mark) : String :=
  "line " ++ toString (mark.line + 1) ++ " column " ++ toString (mark.column + 1)

/-- The end of a message about a place. -/
def Mark.suffix (mark : Mark) : String := if mark.isOrigin then "" else " at " ++ mark.text

/-- A character that no text may hold is reported by its byte, all else by line and column. The start of an
activity is left out where it is the origin or the place of the fault. -/
def Fault.message (fault : Fault) : String :=
  let place :=
    if fault.cause = .controlCharacter then
      if fault.mark.index = 0 then "" else " at position " ++ toString fault.mark.index
    else fault.mark.suffix
  let context := match fault.context with
    | none => ""
    | some (activity, begun) =>
      let same := begun.line = fault.mark.line && begun.column = fault.mark.column
      ", " ++ activity.text ++ (if same then "" else begun.suffix)
  fault.cause.message ++ place ++ context

end Prologue.Yaml
