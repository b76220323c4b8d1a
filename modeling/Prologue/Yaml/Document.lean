import Prologue.Yaml.Event

/-! The first document of a YAML text, as its events with the places that references lead to. -/

namespace Prologue.Yaml

inductive Part where
  /-- The document of a text that has none. -/
  | void
  /-- A reference, by the number of the anchor. -/
  | reference (anchor : Nat)
  | scalar (tag : Option Tag) (text : String) (style : ScalarStyle)
  | sequenceStart (tag : Option Tag)
  | sequenceEnd
  | mappingStart (tag : Option Tag)
  | mappingEnd
deriving DecidableEq, Repr

/-- Why a text cannot be read to its end, whatever is wanted of it. -/
inductive DocumentFault where
  | malformed (fault : Fault)
  | unknownAnchor (mark : Mark)
  | endOfText
  | severalDocuments
  | tooDeep (mark : Mark)
  | tooManyReferences
deriving DecidableEq, Repr

def DocumentFault.message : DocumentFault → String
  | .malformed fault => fault.message
  | .unknownAnchor mark => "unknown anchor" ++ mark.suffix
  | .endOfText => "EOF while parsing a value"
  | .severalDocuments => "deserializing from YAML containing more than one document is not supported"
  | .tooDeep mark => "recursion limit exceeded" ++ mark.suffix
  | .tooManyReferences => "repetition limit exceeded"

structure Document where
  parts : Array (Part × Mark)
  /-- The part that each anchor's number stands for; the latest comes first. -/
  anchors : List (Nat × Nat)
  /-- The fault that comes after the last part. -/
  fault : Option DocumentFault
  /-- Something follows the document. -/
  more : Bool
deriving Repr

namespace Document

/-- The names of the anchors so far with their numbers. A number is the count of other names before it. -/
abbrev Names : Type := List (String × Nat)

def Names.set (names : Names) (name : String) : Names :=
  (name, names.length) :: names.filter fun entry => entry.1 ≠ name

def addAnchor (document : Document) (names : Names) : Option String → Document × Names
  | none => (document, names)
  | some name =>
    ({ document with anchors := (names.length, document.parts.size) :: document.anchors }, names.set name)

def add (document : Document) (part : Part) (mark : Mark) : Document :=
  { document with parts := document.parts.push (part, mark) }

/-- Collects events up to the end of the document. -/
def collect (fault : Option Fault) : List (Event × Mark) → Names → Document → Document
  | [], _, document => { document with fault := fault.map .malformed }
  | (event, mark) :: rest, names, document =>
    match event with
    | .documentStart => collect fault rest names document
    | .documentEnd =>
      let more := match rest with
        | [(.streamEnd, _)] => false
        | _ => true
      { document with more }
    | .streamEnd => if document.parts.isEmpty then document.add .void mark else document
    | .reference anchor =>
      match names.lookup anchor with
      | some number => collect fault rest names (document.add (.reference number) mark)
      | none => { document with fault := some (.unknownAnchor mark), more := true }
    | .scalar anchor tag text style =>
      let (document, names) := document.addAnchor names anchor
      collect fault rest names (document.add (.scalar tag text style) mark)
    | .sequenceStart anchor tag =>
      let (document, names) := document.addAnchor names anchor
      collect fault rest names (document.add (.sequenceStart tag) mark)
    | .sequenceEnd => collect fault rest names (document.add .sequenceEnd mark)
    | .mappingStart anchor tag =>
      let (document, names) := document.addAnchor names anchor
      collect fault rest names (document.add (.mappingStart tag) mark)
    | .mappingEnd => collect fault rest names (document.add .mappingEnd mark)

def ofText (text : List Char) : Document :=
  let (events, fault) := eventsOf text
  collect fault events [] { parts := #[], anchors := [], fault := none, more := false }

end Document

end Prologue.Yaml
