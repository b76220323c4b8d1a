import Prologue.Yaml.TokenStream

/-! The events of a YAML text: its scalars and references in order, with the starts and ends of the collections and
documents around them. -/

namespace Prologue.Yaml

inductive Event where
  | documentStart
  | documentEnd
  | streamEnd
  | reference (anchor : String)
  | scalar (anchor : Option String) (tag : Option Tag) (text : String) (style : ScalarStyle)
  | sequenceStart (anchor : Option String) (tag : Option Tag)
  | sequenceEnd
  | mappingStart (anchor : Option String) (tag : Option Tag)
  | mappingEnd
deriving DecidableEq, Repr

/-- What the next token belongs to. A collection is known by the place where it began. -/
inductive Phase where
  | documentStart
  | laterDocumentStart
  | documentContent
  | documentEnd
  | blockNode
  | blockSequenceEntry (begun : Mark)
  /-- The entries of a sequence that is not set off from the mapping it is a value of. -/
  | flushSequenceEntry
  | blockMappingKey (begun : Mark)
  | blockMappingValue (begun : Mark)
  | flowSequenceEntry (begun : Mark) (isFirst : Bool)
  | pairKey (begun : Mark)
  | pairValue (begun : Mark)
  | pairEnd (begun : Mark)
  | flowMappingKey (begun : Mark) (isFirst : Bool)
  | flowMappingValue (begun : Mark)
  | flowMappingNoValue (begun : Mark)
  | finished
deriving DecidableEq, Repr

structure Parser where
  tokens : List Located
  /-- The fault that comes after the last token. -/
  fault : Option Fault
  phase : Phase
  /-- The phases to go back to after the present node. -/
  later : List Phase
  /-- The tag handles with what they stand for. -/
  handles : List (String × Tag)
deriving DecidableEq, Repr

/-- An event with its place, and the parser after it. -/
abbrev Stepped : Type := Except (Option Fault) (Event × Mark × Parser)

namespace Parser

def peek (p : Parser) : Except (Option Fault) Located :=
  match p.tokens with
  | [] => .error p.fault
  | token :: _ => .ok token

def skip (p : Parser) : Parser := { p with tokens := p.tokens.drop 1 }

/-- Goes back to the phase around the present node. -/
def back (p : Parser) : Parser :=
  match p.later with
  | [] => { p with phase := .finished }
  | phase :: later => { p with phase, later }

/-- Comes back to a phase after the node that follows. -/
def andThen (p : Parser) (phase : Phase) : Parser := { p with later := phase :: p.later }

def empty (p : Parser) (phase : Phase) (mark : Mark) : Stepped :=
  .ok (.scalar none none "" .plain, mark, { p with phase })

def fail (activity : Activity) (begun : Mark) (cause : Cause) (mark : Mark) : Stepped :=
  .error (some (.within activity begun cause mark))

/-- What stands before the content of a node. -/
structure Properties where
  anchor : Option String
  tag : Option (String × Tag × Mark)
  start : Mark
deriving DecidableEq, Repr

def anchorNext (p : Parser) : Except (Option Fault) (Option String × Parser) := do
  match (← p.peek).token with
  | .anchor name => .ok (some name, p.skip)
  | _ => .ok (none, p)

def tagNext (p : Parser) : Except (Option Fault) (Option (String × Tag × Mark) × Parser) := do
  let token ← p.peek
  match token.token with
  | .tag handle text => .ok (some (handle, text, token.start), p.skip)
  | _ => .ok (none, p)

/-- An anchor and a tag in either order. -/
def properties (p : Parser) : Except (Option Fault) (Properties × Parser) := do
  let first ← p.peek
  let (anchor, p) ← p.anchorNext
  let (tag, p) ← p.tagNext
  match anchor, tag with
  | none, some tag =>
    let (anchor, p) ← p.anchorNext
    .ok (⟨anchor, some tag, first.start⟩, p)
  | anchor, tag => .ok (⟨anchor, tag, first.start⟩, p)

/-- The full tag of a node. -/
def resolveTag (p : Parser) (properties : Properties) : Except (Option Fault) (Option Tag) :=
  match properties.tag with
  | none => .ok none
  | some (handle, text, mark) =>
    if handle = "" then .ok (some text)
    else
      match p.handles.lookup handle with
      | some stem => .ok (some (stem.append text))
      | none => .error (some (.within .parseNode properties.start .undefinedHandle mark))

/-- A node that starts with the next token. Only outside of brackets it may be a block collection, and only as the
value of a block mapping a sequence that is not set off. -/
def node (p : Parser) (block flush : Bool) : Stepped := do
  let first ← p.peek
  match first.token with
  | .reference anchor => .ok (.reference anchor, first.start, p.skip.back)
  | _ =>
    let (properties, p) ← p.properties
    let token ← p.peek
    let tag ← p.resolveTag properties
    let anchor := properties.anchor
    let mark := properties.start
    if flush && token.token = .blockEntry then
      .ok (.sequenceStart anchor tag, mark, { p with phase := .flushSequenceEntry })
    else
      match token.token with
      | .scalar text style => .ok (.scalar anchor tag text style, mark, p.skip.back)
      | .flowSequenceStart =>
        .ok (.sequenceStart anchor tag, mark, { p.skip with phase := .flowSequenceEntry token.start true })
      | .flowMappingStart =>
        .ok (.mappingStart anchor tag, mark, { p.skip with phase := .flowMappingKey token.start true })
      | other =>
        if block && other = .blockSequenceStart then
          .ok (.sequenceStart anchor tag, mark, { p.skip with phase := .blockSequenceEntry token.start })
        else if block && other = .blockMappingStart then
          .ok (.mappingStart anchor tag, mark, { p.skip with phase := .blockMappingKey token.start })
        else if anchor.isSome || tag.isSome then
          .ok (.scalar anchor tag "" .plain, mark, p.back)
        else fail (if block then .parseBlockNode else .parseFlowNode) mark .expectedContent token.start

def standardHandles : List (String × Tag) := [("!", .ofString "!"), ("!!", .ofString "tag:yaml.org,2002:")]

/-- The directives of a document. Handles that none of them defines have their standard meaning. -/
def directives : (tokens : List Located) → (version : Bool) → Parser → Except (Option Fault) Parser
  | [], _, p => .error p.fault
  | token :: rest, version, p =>
    match token.token with
    | .version major minor =>
      if version then .error (some ⟨.duplicateVersion, token.start, none⟩)
      else if major = 1 && (minor = 1 || minor = 2) then directives rest true p.skip
      else .error (some ⟨.incompatibleVersion, token.start, none⟩)
    | .tagDirective handle stem =>
      if (p.handles.lookup handle).isSome then .error (some ⟨.duplicateHandle, token.start, none⟩)
      else directives rest version { p.skip with handles := p.handles ++ [(handle, stem)] }
    | _ =>
      let missing := standardHandles.filter fun (handle, _) => (p.handles.lookup handle).isNone
      .ok { p with handles := p.handles ++ missing }

/-- Past the marks between documents. -/
def skipDocumentEnds : (tokens : List Located) → Parser → Parser
  | [], p => p
  | token :: rest, p => if token.token = .documentEnd then skipDocumentEnds rest p.skip else p

def endsDocument : Token → Bool
  | .version _ _ | .tagDirective _ _ | .documentStart | .documentEnd | .streamEnd => true
  | _ => false

/-- The start of a document or the end of the text. Only the first document may do without a mark at its start. -/
def documentStart (p : Parser) (isFirst : Bool) : Stepped := do
  let p := if isFirst then p else skipDocumentEnds p.tokens p
  let token ← p.peek
  if isFirst && (!endsDocument token.token || token.token = .documentEnd) then
    let p ← directives p.tokens false p
    .ok (.documentStart, token.start, { p.andThen .documentEnd with phase := .blockNode })
  else if token.token = .streamEnd then
    .ok (.streamEnd, token.start, { p.skip with phase := .finished })
  else
    let p ← directives p.tokens false p
    let mark ← p.peek
    if mark.token = .documentStart then
      .ok (.documentStart, token.start, { p.skip.andThen .documentEnd with phase := .documentContent })
    else .error (some ⟨.expectedDocumentStart, mark.start, none⟩)

def documentEnd (p : Parser) : Stepped := do
  let token ← p.peek
  let p := if token.token = .documentEnd then p.skip else p
  .ok (.documentEnd, token.start, { p with phase := .laterDocumentStart, handles := [] })

def blockSequenceEntry (p : Parser) (begun : Mark) : Stepped := do
  let token ← p.peek
  if token.token = .blockEntry then
    let p := p.skip
    let next ← p.peek
    if next.token = .blockEntry || next.token = .blockEnd then p.empty (.blockSequenceEntry begun) token.stop
    else (p.andThen (.blockSequenceEntry begun)).node true false
  else if token.token = .blockEnd then .ok (.sequenceEnd, token.start, p.skip.back)
  else fail .parseBlockSequence begun .expectedDash token.start

def endsMappingNode (token : Token) : Bool :=
  token = .key || token = .value || token = .blockEnd

def flushSequenceEntry (p : Parser) : Stepped := do
  let token ← p.peek
  if token.token = .blockEntry then
    let p := p.skip
    let next ← p.peek
    if next.token = .blockEntry || endsMappingNode next.token then p.empty .flushSequenceEntry token.stop
    else (p.andThen .flushSequenceEntry).node true false
  else .ok (.sequenceEnd, token.start, p.back)

def blockMappingKey (p : Parser) (begun : Mark) : Stepped := do
  let token ← p.peek
  if token.token = .key then
    let p := p.skip
    let next ← p.peek
    if endsMappingNode next.token then p.empty (.blockMappingValue begun) token.stop
    else (p.andThen (.blockMappingValue begun)).node true true
  else if token.token = .blockEnd then .ok (.mappingEnd, token.start, p.skip.back)
  else fail .parseBlockMapping begun .expectedKey token.start

def blockMappingValue (p : Parser) (begun : Mark) : Stepped := do
  let token ← p.peek
  if token.token = .value then
    let p := p.skip
    let next ← p.peek
    if endsMappingNode next.token then p.empty (.blockMappingKey begun) token.stop
    else (p.andThen (.blockMappingKey begun)).node true true
  else p.empty (.blockMappingKey begun) token.start

/-- Past the comma before an entry in brackets; the first has none. -/
def separator (p : Parser) (activity : Activity) (begun : Mark) (isFirst : Bool) (cause : Cause) :
    Except (Option Fault) Parser := do
  let token ← p.peek
  if isFirst then .ok p
  else if token.token = .flowEntry then .ok p.skip
  else .error (some (.within activity begun cause token.start))

def flowSequenceEntry (p : Parser) (begun : Mark) (isFirst : Bool) : Stepped := do
  let token ← p.peek
  if token.token = .flowSequenceEnd then .ok (.sequenceEnd, token.start, p.skip.back)
  else
    let p ← p.separator .parseFlowSequence begun isFirst .expectedSequenceEnd
    let token ← p.peek
    if token.token = .key then .ok (.mappingStart none none, token.start, { p.skip with phase := .pairKey begun })
    else if token.token = .flowSequenceEnd then .ok (.sequenceEnd, token.start, p.skip.back)
    else (p.andThen (.flowSequenceEntry begun false)).node false false

def endsPairNode (token : Token) : Bool := token = .flowEntry || token = .flowSequenceEnd

/-- The key of a mapping that is one pair in a sequence. Where there is none, the token in its place is passed. -/
def pairKey (p : Parser) (begun : Mark) : Stepped := do
  let token ← p.peek
  if token.token = .value || endsPairNode token.token then p.skip.empty (.pairValue begun) token.stop
  else (p.andThen (.pairValue begun)).node false false

def pairValue (p : Parser) (begun : Mark) : Stepped := do
  let token ← p.peek
  if token.token = .value then
    let p := p.skip
    let next ← p.peek
    if endsPairNode next.token then p.empty (.pairEnd begun) next.start
    else (p.andThen (.pairEnd begun)).node false false
  else p.empty (.pairEnd begun) token.start

def pairEnd (p : Parser) (begun : Mark) : Stepped := do
  let token ← p.peek
  .ok (.mappingEnd, token.start, { p with phase := .flowSequenceEntry begun false })

def endsFlowNode (token : Token) : Bool := token = .flowEntry || token = .flowMappingEnd

def flowMappingKey (p : Parser) (begun : Mark) (isFirst : Bool) : Stepped := do
  let token ← p.peek
  if token.token = .flowMappingEnd then .ok (.mappingEnd, token.start, p.skip.back)
  else
    let p ← p.separator .parseFlowMapping begun isFirst .expectedMappingEnd
    let token ← p.peek
    if token.token = .key then
      let p := p.skip
      let next ← p.peek
      if next.token = .value || endsFlowNode next.token then p.empty (.flowMappingValue begun) next.start
      else (p.andThen (.flowMappingValue begun)).node false false
    else if token.token = .flowMappingEnd then .ok (.mappingEnd, token.start, p.skip.back)
    else (p.andThen (.flowMappingNoValue begun)).node false false

def flowMappingValue (p : Parser) (begun : Mark) : Stepped := do
  let token ← p.peek
  if token.token = .value then
    let p := p.skip
    let next ← p.peek
    if endsFlowNode next.token then p.empty (.flowMappingKey begun false) next.start
    else (p.andThen (.flowMappingKey begun false)).node false false
  else p.empty (.flowMappingKey begun false) token.start

def documentContent (p : Parser) : Stepped := do
  let token ← p.peek
  if endsDocument token.token then .ok (.scalar none none "" .plain, token.start, p.back)
  else p.node true false

/-- The next event. -/
def step (p : Parser) : Stepped :=
  match p.phase with
  | .documentStart => p.documentStart true
  | .laterDocumentStart => p.documentStart false
  | .documentContent => p.documentContent
  | .documentEnd => p.documentEnd
  | .blockNode => p.node true false
  | .blockSequenceEntry begun => p.blockSequenceEntry begun
  | .flushSequenceEntry => p.flushSequenceEntry
  | .blockMappingKey begun => p.blockMappingKey begun
  | .blockMappingValue begun => p.blockMappingValue begun
  | .flowSequenceEntry begun isFirst => p.flowSequenceEntry begun isFirst
  | .pairKey begun => p.pairKey begun
  | .pairValue begun => p.pairValue begun
  | .pairEnd begun => p.pairEnd begun
  | .flowMappingKey begun isFirst => p.flowMappingKey begun isFirst
  | .flowMappingValue begun => p.flowMappingValue begun
  | .flowMappingNoValue begun => do p.empty (.flowMappingKey begun false) (← p.peek).start
  | .finished => .error none

/-- All events up to the end or the fault that comes first. -/
def run : (fuel : Nat) → Parser → List (Event × Mark) × Option Fault
  | 0, _ => ([], none)
  | fuel + 1, p =>
    match p.step with
    | .error fault => ([], fault)
    | .ok (event, mark, next) =>
      let (events, fault) := run fuel next
      ((event, mark) :: events, fault)

end Parser

/-- The events of a text, each with its place, and the fault that ends them. No token gives more than four
events. -/
def eventsOf (text : List Char) : List (Event × Mark) × Option Fault :=
  let stream := TokenStream.ofText text
  match stream.tokens with
  | [] => ([], stream.fault)
  | _ :: tokens =>
    Parser.run (4 * tokens.length + 8)
      { tokens, fault := stream.fault, phase := .documentStart, later := [], handles := [] }

end Prologue.Yaml
