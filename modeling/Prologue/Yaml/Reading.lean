import Prologue.Json.Basic
import Prologue.Yaml.Document
import Prologue.Yaml.Scalar

/-! Reading values off a document, part by part. -/

namespace Prologue.Yaml

/-- The way from the root of a document to a value. -/
inductive Path where
  | root
  | item (parent : Path) (index : Nat)
  | member (parent : Path) (key : String)
  /-- The value of a key that is no scalar. -/
  | unknown (parent : Path)
deriving DecidableEq, Repr

def Path.text : Path → String
  | .root => "."
  | .item parent index => parent.text ++ "[" ++ toString index ++ "]"
  | .member .root key => key
  | .member parent key => parent.text ++ "." ++ key
  | .unknown .root => "?"
  | .unknown parent => parent.text ++ ".?"

/-- Why reading stopped. A mismatch is placed at the innermost value around it that has a place. -/
inductive Trouble where
  | broken (fault : DocumentFault)
  | unplaced (mismatch : Mismatch)
  | placed (mismatch : Mismatch) (path : Path) (mark : Mark)
deriving Repr

/-- In YAML a missing value is called a unit value, and numbers are named in plain notation. -/
def style : Found.Style :=
  { null := "unit value", float := { leastPlain := -1000, greatestPlain := 1000, tieUp := true } }

def Trouble.message : Trouble → String
  | .broken fault => fault.message
  | .unplaced mismatch => mismatch.message style
  | .placed mismatch path mark =>
    (if path.text = "." then "" else path.text ++ ": ") ++ mismatch.message style ++ mark.suffix

def Trouble.place (path : Path) (mark : Mark) : Trouble → Trouble
  | .unplaced mismatch => .placed mismatch path mark
  | trouble => trouble

/-- Where reading stands: the part that comes next, and how many references were followed. -/
structure Progress where
  next : Nat
  followed : Nat
deriving DecidableEq, Repr

abbrev Reading (α : Type) := Except Trouble (α × Progress)

namespace Document

/-- The part at a position; at the end, what ended the document. -/
def part (document : Document) (position : Nat) : Except Trouble (Part × Mark) :=
  match document.parts[position]? with
  | some part => .ok part
  | none => .error (.broken (document.fault.getD .endOfText))

/-- How deep collections may be nested. -/
def depthLimit : Nat := 128

/-- The value that comes next, or that a reference leads to: its first part with the place and the position of
that part. -/
structure Target where
  part : Part
  mark : Mark
  position : Nat
  /-- The reference that led to it: its place and the position after it. -/
  reference : Option (Mark × Nat)
  followed : Nat
deriving Repr

/-- Follows a reference, but only a hundred times as often as there are parts. -/
def target (document : Document) (progress : Progress) : Except Trouble Target :=
  match document.part progress.next with
  | .error trouble => .error trouble
  | .ok (.reference anchor, place) =>
    if 100 * document.parts.size < progress.followed + 1 then .error (.broken .tooManyReferences)
    else
      let position := (document.anchors.lookup anchor).getD 0
      match document.part position with
      | .error trouble => .error trouble
      | .ok (part, mark) => .ok ⟨part, mark, position, some (place, progress.next + 1), progress.followed + 1⟩
  | .ok (part, mark) => .ok ⟨part, mark, progress.next, none, progress.followed⟩

/-- Past the first part of a value. -/
def Target.inside (target : Target) : Progress := ⟨target.position + 1, target.followed⟩

/-- Goes on after a value that ended with the given progress: after the reference to it, if it was reached by one. -/
def Target.finish (target : Target) (progress : Progress) : Progress :=
  { progress with next := (target.reference.map (·.2)).getD progress.next }

/-- Places a trouble with a value at the reference to it, if there is one. -/
def Target.placeReference (target : Target) (path : Path) (trouble : Trouble) : Trouble :=
  match target.reference with
  | some (mark, _) => trouble.place path mark
  | none => trouble

def endsCollection : Part → Bool
  | .sequenceEnd | .mappingEnd | .void => true
  | _ => false

/-- Reads items up to the end of a sequence, each at its index. The fuel bounds their number. -/
def readItems (document : Document) {α : Type} (item : Nat → Progress → Reading α) :
    (fuel : Nat) → (index : Nat) → Progress → Reading (List α)
  | 0, _, progress => .ok ([], progress)
  | fuel + 1, index, progress =>
    match document.part progress.next with
    | .error trouble => .error trouble
    | .ok (part, _) =>
      if endsCollection part then .ok ([], { progress with next := progress.next + 1 })
      else
        match item index progress with
        | .error trouble => .error trouble
        | .ok (value, progress) =>
          match readItems document item fuel (index + 1) progress with
          | .error trouble => .error trouble
          | .ok (values, progress) => .ok (value :: values, progress)

/-- The path to the value of a key that starts with the given part. -/
def memberPath (parent : Path) : Part → Path
  | .scalar _ text _ => .member parent text
  | _ => .unknown parent

/-- What a part is called where another is wanted. -/
def refusal (wanted : String) : Part → Trouble
  | .scalar tag text style =>
    match meaning tag text style with
    | .ok found => .unplaced (.wrongType found wanted)
    | .error mismatch => .unplaced mismatch
  | .sequenceStart _ => .unplaced (.wrongType .sequence wanted)
  | .mappingStart _ => .unplaced (.wrongType .mapping wanted)
  | _ => .broken .endOfText

/-- A scalar as its text, whatever it looks like. -/
def readText (document : Document) (wanted : String) (path : Path) (progress : Progress) : Reading String :=
  match document.target progress with
  | .error trouble => .error trouble
  | .ok target =>
    match target.part with
    | .scalar _ text _ => .ok (text, target.finish target.inside)
    | part => .error ((refusal wanted part).place path target.mark)

/-- Reads members up to the end of a mapping: the key, then the value at its path, both added to what was read
before. The fuel bounds their number. -/
def readMembers (document : Document) {α : Type} (path : Path)
    (member : α → Path → Progress → Reading α) : (fuel : Nat) → α → Progress → Reading α
  | 0, state, progress => .ok (state, progress)
  | fuel + 1, state, progress =>
    match document.part progress.next with
    | .error trouble => .error trouble
    | .ok (part, _) =>
      if endsCollection part then .ok (state, { progress with next := progress.next + 1 })
      else
        match member state (memberPath path part) progress with
        | .error trouble => .error trouble
        | .ok (state, progress) => readMembers document path member fuel state progress

def ofFound : Found → Except Mismatch Json
  | .null => .ok .null
  | .bool value => .ok (.bool value)
  | .int value => .ok (.number (.int value))
  | .wideInt _ => .error .numberRange
  | .float value => .ok (if value.isFinite then .number (.float value) else .null)
  | .string value => .ok (.string value)
  | .sequence | .mapping | .tagged => .ok .null

/-- A scalar as a value. A tag of the text's own is refused. -/
def scalarValue (tag : Option Tag) (text : String) (style : ScalarStyle) : Except Mismatch Json :=
  if (ownName? tag).isSome then .error (.wrongType .tagged "any valid JSON value")
  else
    match meaning tag text style with
    | .error mismatch => .error mismatch
    | .ok found => ofFound found

/-- A member of a mapping: its key, which must be a scalar, and its value. The first key is asked for in other
words than the later ones. -/
def readPair (document : Document) (value : Path → Progress → Reading Json) (path : Path)
    (state : Bool × List (String × Json)) (memberPath : Path) (progress : Progress) :
    Reading (Bool × List (String × Json)) :=
  match document.readText (if state.1 then "a string key" else "a string") path progress with
  | .error trouble => .error trouble
  | .ok (key, progress) =>
    match value memberPath progress with
    | .error trouble => .error trouble
    | .ok (value, progress) => .ok ((false, Json.insertMember key value state.2), progress)

/-- Reads any value. Of members with the same key the last one counts. -/
def readValue (document : Document) : (depth : Nat) → Path → Progress → Reading Json
  | depth, path, progress =>
    match document.target progress with
    | .error trouble => .error trouble
    | .ok target =>
      let tagged := Trouble.placed (.wrongType .tagged "any valid JSON value") path target.mark
      match target.part with
      | .scalar tag text style =>
        match scalarValue tag text style with
        | .error mismatch => .error (.placed mismatch path target.mark)
        | .ok value => .ok (value, target.finish target.inside)
      | .sequenceStart tag =>
        if (ownName? tag).isSome then .error tagged
        else
          match depth with
          | 0 => .error (.broken (.tooDeep target.mark))
          | depth + 1 =>
            let item (index : Nat) := document.readValue depth (.item path index)
            match document.readItems item (document.parts.size + 1) 0 target.inside with
            | .error trouble => .error (trouble.place path target.mark)
            | .ok (values, progress) => .ok (.array values, target.finish progress)
      | .mappingStart tag =>
        if (ownName? tag).isSome then .error tagged
        else
          match depth with
          | 0 => .error (.broken (.tooDeep target.mark))
          | depth + 1 =>
            let member := document.readPair (document.readValue depth) path
            match document.readMembers path member (document.parts.size + 1) (true, []) target.inside with
            | .error trouble => .error (trouble.place path target.mark)
            | .ok ((_, members), progress) => .ok (.object members, target.finish progress)
      | _ => .ok (.null, target.finish target.inside)

/-- Reads a whole document: after the value there may be no fault and no other document. -/
def readWhole (document : Document) {α : Type} (value : Progress → Reading α) : Except Trouble α :=
  match value ⟨0, 0⟩ with
  | .error trouble => .error trouble
  | .ok (value, _) =>
    match document.fault with
    | some fault => .error (.broken fault)
    | none => if document.more then .error (.broken .severalDocuments) else .ok value

end Document

/-- Reads a text as a value. -/
def parse (text : String) : Except Trouble Json :=
  let document := Document.ofText text.toList
  document.readWhole (document.readValue Document.depthLimit .root)

end Prologue.Yaml
