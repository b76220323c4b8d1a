import Prologue.Yaml.Text.Name
import Prologue.Yaml.Text.Quoted

/-! The tokens of a YAML text in order. A word before a colon is a key, which shows only at the colon: until then
its place is kept, and the key token goes in there afterwards. A reader of the tokens may rely on those before the
first such place only, so a fault leaves just these. -/

namespace Prologue.Yaml

/-- The place of a token that may turn out to be a key. -/
structure PossibleKey where
  /-- Here nothing but a key may stand. -/
  required : Bool
  /-- The number of tokens before it. -/
  number : Nat
  mark : Mark
deriving DecidableEq, Repr

structure Scanner where
  cursor : Cursor
  tokens : Array Located
  /-- The column of the innermost block collection; minus one outside of all. -/
  indent : Int
  /-- The columns of those around it. -/
  outer : List Int
  /-- The possible key of the innermost collection. -/
  possible : Option PossibleKey
  /-- Those around the brackets that are open, one for each. -/
  around : List (Option PossibleKey)
  /-- A key may start here. -/
  keyAllowed : Bool
deriving Repr

namespace Scanner

def start (text : List Char) : Scanner :=
  { cursor := ⟨text, .start⟩, tokens := #[⟨.streamStart, .start, .start⟩], indent := -1, outer := [],
    possible := none, around := [], keyAllowed := true }

def inFlow (s : Scanner) : Bool := !s.around.isEmpty

def push (s : Scanner) (token : Token) (start stop : Mark) : Scanner :=
  { s with tokens := s.tokens.push ⟨token, start, stop⟩ }

/-- A token of `count` characters that come next. -/
def pushNext (s : Scanner) (token : Token) (count : Nat) : Scanner :=
  let after := s.cursor.advanceBy count
  { s.push token s.cursor.mark after.mark with cursor := after }

/-- How many tokens are certain to keep their place. -/
def settled (s : Scanner) : Nat :=
  (s.possible :: s.around).foldl (fun least key => (key.map (·.number)).elim least (min least)) s.tokens.size

def missingColon (key : PossibleKey) (place : Mark) : Fault :=
  .within .scanSimpleKey key.mark .expectedColon place

/-- A key has to end on its line and within 1024 bytes. -/
def isStale (place : Mark) (key : PossibleKey) : Bool :=
  key.mark.line < place.line || key.mark.index + 1024 < place.index

/-- Drops the possible keys that are none any more, the outermost first. -/
def dropStaleFrom (place : Mark) : List (Option PossibleKey) → Except Fault (List (Option PossibleKey))
  | [] => .ok []
  | key :: outer =>
    match dropStaleFrom place outer with
    | .error fault => .error fault
    | .ok outer =>
      match key with
      | none => .ok (none :: outer)
      | some key =>
        if isStale place key then
          if key.required then .error (missingColon key place) else .ok (none :: outer)
        else .ok (some key :: outer)

def dropStale (s : Scanner) : Except Fault Scanner :=
  match dropStaleFrom s.cursor.mark (s.possible :: s.around) with
  | .error fault => .error fault
  | .ok [] => .ok s
  | .ok (possible :: around) => .ok { s with possible, around }

/-- There is no key here. -/
def noKey (s : Scanner) : Except Fault Scanner :=
  match s.possible with
  | some key =>
    if key.required then .error (missingColon key s.cursor.mark)
    else .ok { s with possible := none }
  | none => .ok s

/-- A key may start with the token that comes next. -/
def saveKey (s : Scanner) : Except Fault Scanner :=
  if s.keyAllowed then
    match s.noKey with
    | .error fault => .error fault
    | .ok s =>
      let required := !s.inFlow && s.indent = s.cursor.mark.column
      .ok { s with possible := some ⟨required, s.tokens.size, s.cursor.mark⟩ }
  else .ok s

/-- Ends the block collections that stand to the right of a column. -/
def closeBlocks (column : Int) : (outer : List Int) → Scanner → Scanner
  | [], s =>
    if column < s.indent then { s.push .blockEnd s.cursor.mark s.cursor.mark with indent := -1, outer := [] } else s
  | next :: outer, s =>
    if column < s.indent then
      closeBlocks column outer { s.push .blockEnd s.cursor.mark s.cursor.mark with indent := next, outer }
    else s

def unroll (s : Scanner) (column : Int) : Scanner :=
  if s.inFlow then s else closeBlocks column s.outer s

/-- Opens a block collection at a column unless one is open there. Its token goes before the token of the given
number. -/
def roll (s : Scanner) (column : Nat) (number : Nat) (token : Token) (mark : Mark) : Scanner :=
  if s.inFlow then s
  else if s.indent < column then
    { s with
      indent := column
      outer := s.indent :: s.outer
      tokens := s.tokens.insertIdxIfInBounds number ⟨token, mark, mark⟩ }
  else s

/-- Opens a block collection at the token that comes next. -/
def rollHere (s : Scanner) (token : Token) : Scanner :=
  s.roll s.cursor.mark.column s.tokens.size token s.cursor.mark

/-- Past blanks, comments and line breaks. At the start of a line a byte order mark is passed too, and takes up a
column; a tab is not passed there. -/
def skipToToken : (fuel : Nat) → Scanner → Scanner
  | 0, s => s
  | fuel + 1, s =>
    let cursor := if s.cursor.mark.column = 0 && s.cursor.isAt '\ufeff' then s.cursor.advance else s.cursor
    let tabs := s.inFlow || !s.keyAllowed
    let cursor := (cursor.skipWhile fun c => c = ' ' || (tabs && c = '\t')).skipComment
    if cursor.head?.any isBreak then
      skipToToken fuel { s with cursor := cursor.takeBreak.2, keyAllowed := s.keyAllowed || !s.inFlow }
    else { s with cursor }

def streamEnd (s : Scanner) : Except Fault Scanner :=
  let mark := s.cursor.mark
  let mark := if mark.column = 0 then mark else { mark with line := mark.line + 1, column := 0 }
  let s := { s with cursor := { s.cursor with mark } }
  match (s.unroll (-1)).noKey with
  | .error fault => .error fault
  | .ok s => .ok ({ s with keyAllowed := false }.push .streamEnd mark mark)

def directive (s : Scanner) : Except Fault Scanner :=
  match (s.unroll (-1)).noKey with
  | .error fault => .error fault
  | .ok s =>
    match scanDirective s.cursor with
    | .error fault => .error fault
    | .ok (token, stop, after) =>
      .ok { s.push token s.cursor.mark stop with cursor := after, keyAllowed := false }

def documentMark (s : Scanner) (token : Token) : Except Fault Scanner :=
  match (s.unroll (-1)).noKey with
  | .error fault => .error fault
  | .ok s => .ok ({ s with keyAllowed := false }.pushNext token 3)

def openFlow (s : Scanner) (token : Token) : Except Fault Scanner :=
  match s.saveKey with
  | .error fault => .error fault
  | .ok s =>
    .ok ({ s with possible := none, around := s.possible :: s.around, keyAllowed := true }.pushNext token 1)

def closeFlow (s : Scanner) (token : Token) : Except Fault Scanner :=
  match s.noKey with
  | .error fault => .error fault
  | .ok s =>
    let s := match s.around with
      | [] => s
      | possible :: around => { s with possible, around }
    .ok ({ s with keyAllowed := false }.pushNext token 1)

def flowEntry (s : Scanner) : Except Fault Scanner :=
  match s.noKey with
  | .error fault => .error fault
  | .ok s => .ok ({ s with keyAllowed := true }.pushNext .flowEntry 1)

def blockEntry (s : Scanner) : Except Fault Scanner :=
  if !s.inFlow && !s.keyAllowed then .error ⟨.entryNotAllowed, s.cursor.mark, none⟩
  else
    match (s.rollHere .blockSequenceStart).noKey with
    | .error fault => .error fault
    | .ok s => .ok ({ s with keyAllowed := true }.pushNext .blockEntry 1)

def key (s : Scanner) : Except Fault Scanner :=
  if !s.inFlow && !s.keyAllowed then .error ⟨.keyNotAllowed, s.cursor.mark, none⟩
  else
    match (s.rollHere .blockMappingStart).noKey with
    | .error fault => .error fault
    | .ok s => .ok ({ s with keyAllowed := !s.inFlow }.pushNext .key 1)

/-- A colon: if a key is possible it is one, and its token and that of a new mapping go before it. -/
def value (s : Scanner) : Except Fault Scanner :=
  match s.possible with
  | some key =>
    let s := { s with tokens := s.tokens.insertIdxIfInBounds key.number ⟨.key, key.mark, key.mark⟩ }
    let s := s.roll key.mark.column key.number .blockMappingStart key.mark
    .ok ({ s with possible := none, keyAllowed := false }.pushNext .value 1)
  | none =>
    if !s.inFlow && !s.keyAllowed then .error ⟨.valueNotAllowed, s.cursor.mark, none⟩
    else
      let s := s.rollHere .blockMappingStart
      .ok ({ s with keyAllowed := !s.inFlow }.pushNext .value 1)

def anchor (s : Scanner) (isReference : Bool) : Except Fault Scanner :=
  match s.saveKey with
  | .error fault => .error fault
  | .ok s =>
    match scanAnchor (if isReference then .scanAlias else .scanAnchor) s.cursor with
    | .error fault => .error fault
    | .ok (name, after) =>
      let token := if isReference then Token.reference name else .anchor name
      .ok { s.push token s.cursor.mark after.mark with cursor := after, keyAllowed := false }

def tag (s : Scanner) : Except Fault Scanner :=
  match s.saveKey with
  | .error fault => .error fault
  | .ok s =>
    match scanTag s.inFlow s.cursor with
    | .error fault => .error fault
    | .ok (token, after) =>
      .ok { s.push token s.cursor.mark after.mark with cursor := after, keyAllowed := false }

def scalar (s : Scanner) (style : ScalarStyle) (scanned : ScannedScalar) (keyAllowed : Bool) : Scanner :=
  { s.push (.scalar (String.ofList scanned.text) style) s.cursor.mark scanned.stop with
    cursor := scanned.after, keyAllowed }

def block (s : Scanner) (folded : Bool) : Except Fault Scanner :=
  match s.noKey with
  | .error fault => .error fault
  | .ok s =>
    match scanBlock folded s.indent s.cursor with
    | .error fault => .error fault
    | .ok scanned => .ok (s.scalar (if folded then .folded else .literal) scanned true)

def quoted (s : Scanner) (single : Bool) : Except Fault Scanner :=
  match s.saveKey with
  | .error fault => .error fault
  | .ok s =>
    match scanQuoted single s.cursor with
    | .error fault => .error fault
    | .ok scanned => .ok (s.scalar (if single then .singleQuoted else .doubleQuoted) scanned false)

def plain (s : Scanner) : Except Fault Scanner :=
  match s.saveKey with
  | .error fault => .error fault
  | .ok s =>
    match scanPlain s.inFlow (s.indent + 1) s.cursor with
    | .error fault => .error fault
    | .ok scanned => .ok (s.scalar .plain scanned scanned.broken)

/-- Whether a scalar without quotes may start with a character, `rest` being what follows it. -/
def startsPlain (inFlow : Bool) (c : Char) (rest : List Char) : Bool :=
  if c = '-' then !rest.head?.any isGap
  else if c = '?' || c = ':' then !inFlow && !atGap rest
  else !(isGap c || isBreak c || ",[]\x7b\x7d#&*!|>'\"%@\x60".toList.contains c)

/-- The next token, by the character it starts with. -/
def fetchAt (s : Scanner) (c : Char) (rest : List Char) : Except Fault Scanner :=
  let atLineStart := s.cursor.mark.column = 0
  if atLineStart && c = '%' then s.directive
  else if atLineStart && atDocumentMark (c :: rest) then
    s.documentMark (if c = '-' then .documentStart else .documentEnd)
  else if c = '[' then s.openFlow .flowSequenceStart
  else if c = '\x7b' then s.openFlow .flowMappingStart
  else if c = ']' then s.closeFlow .flowSequenceEnd
  else if c = '\x7d' then s.closeFlow .flowMappingEnd
  else if c = ',' then s.flowEntry
  else if c = '-' && atGap rest then s.blockEntry
  else if c = '?' && (s.inFlow || atGap rest) then s.key
  else if c = ':' && (s.inFlow || atGap rest) then s.value
  else if c = '*' then s.anchor true
  else if c = '&' then s.anchor false
  else if c = '!' then s.tag
  else if c = '|' && !s.inFlow then s.block false
  else if c = '>' && !s.inFlow then s.block true
  else if c = '\'' then s.quoted true
  else if c = '"' then s.quoted false
  else if startsPlain s.inFlow c rest then s.plain
  else .error (.within .scanToken s.cursor.mark .cannotStartToken s.cursor.mark)

/-- One more token, with those that end block collections before it. -/
def fetch (s : Scanner) : Except Fault Scanner :=
  match (s.skipToToken (s.cursor.rest.length + 1)).dropStale with
  | .error fault => .error fault
  | .ok s =>
    let s := s.unroll s.cursor.mark.column
    match s.cursor.rest with
    | [] => s.streamEnd
    | c :: rest => s.fetchAt c rest

end Scanner

/-- The tokens that can be relied on, and the fault that ends them. -/
structure TokenStream where
  tokens : List Located
  fault : Option Fault
deriving DecidableEq, Repr

namespace TokenStream

/-- Scans to the end of the text. Every step passes a character, so the length of the text is fuel enough. -/
def scan : (fuel : Nat) → Scanner → TokenStream
  | 0, s => ⟨s.tokens.toList, none⟩
  | fuel + 1, s =>
    match s.fetch with
    | .error fault => ⟨s.tokens.toList.take s.settled, some fault⟩
    | .ok next =>
      match next.dropStale with
      | .error fault => ⟨s.tokens.toList.take s.settled, some fault⟩
      | .ok next =>
        if (next.tokens.back?.map (·.token)) = some .streamEnd then ⟨next.tokens.toList, none⟩
        else scan fuel next

/-- A character that may stand in a text. -/
def isAllowed (c : Char) : Bool :=
  let code := c.toNat
  c = '\t' || c = '\n' || c = '\r' || (0x20 ≤ code && code ≤ 0x7e) || code = 0x85
    || (0xa0 ≤ code && code ≤ 0xd7ff) || (0xe000 ≤ code && code ≤ 0xfffd) || 0x10000 ≤ code

/-- The byte at which the first character stands that no text may hold. -/
def firstForbidden? : (offset : Nat) → List Char → Option Nat
  | _, [] => none
  | offset, c :: rest => if isAllowed c then firstForbidden? (offset + c.utf8Size) rest else some offset

/-- The tokens of a text. -/
def ofText (text : List Char) : TokenStream :=
  match firstForbidden? 0 text with
  | some offset => ⟨[], some ⟨.controlCharacter, ⟨offset, 0, 0⟩, none⟩⟩
  | none => scan (text.length + 2) (.start text)

end TokenStream

end Prologue.Yaml
