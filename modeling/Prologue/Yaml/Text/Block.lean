import Prologue.Yaml.Text.Plain

/-! Scalars set off by indentation: `|` keeps line breaks, `>` folds them. -/

namespace Prologue.Yaml

/-- What becomes of the line breaks at the end. -/
inductive Chomping where
  | strip
  | clip
  | keep
deriving DecidableEq, Repr

def chomping? (c : Char) : Option Chomping :=
  if c = '+' then some .keep else if c = '-' then some .strip else none

structure BlockHeader where
  chomping : Chomping
  /-- The indentation relative to the collection around the scalar; zero where the text decides. -/
  increment : Nat
deriving DecidableEq, Repr

def headerDigit (start : Mark) (cursor : Cursor) : Except Fault (Nat × Cursor) :=
  match cursor.head? with
  | some c =>
    if c = '0' then .error (.within .scanBlockScalar start .zeroIndentation cursor.mark)
    else if c.isDigit then .ok (c.toNat - '0'.toNat, cursor.advance)
    else .ok (0, cursor)
  | none => .ok (0, cursor)

def headerChomping (cursor : Cursor) : Chomping × Cursor :=
  match cursor.head?.bind chomping? with
  | some chomping => (chomping, cursor.advance)
  | none => (.clip, cursor)

/-- The marks after the indicator, in either order. -/
def blockHeader (start : Mark) (cursor : Cursor) : Except Fault (BlockHeader × Cursor) :=
  match cursor.head?.bind chomping? with
  | some chomping =>
    match headerDigit start cursor.advance with
    | .error fault => .error fault
    | .ok (increment, after) => .ok (⟨chomping, increment⟩, after)
  | none =>
    match headerDigit start cursor with
    | .error fault => .error fault
    | .ok (0, after) => .ok (⟨.clip, 0⟩, after)
    | .ok (increment, after) =>
      let (chomping, after) := headerChomping after
      .ok (⟨chomping, increment⟩, after)

/-- Past blanks and a comment to the end of the line, and past its break. -/
def finishLine (activity : Activity) (start : Mark) (cursor : Cursor) : Except Fault Cursor :=
  let after := (cursor.skipWhile isGap).skipComment
  if atBreak after.rest then .ok after.takeBreak.2
  else .error (.within activity start .expectedLineEnd after.mark)

/-- Empty lines and the indentation after them. -/
structure BlankLines where
  /-- The breaks, the latest first. -/
  breaks : List Char
  /-- The widest indentation met. -/
  widest : Nat
  /-- The place after the last break. -/
  stop : Mark
  after : Cursor
deriving Repr

def blankLines (indent : Nat) (start : Mark) :
    (fuel : Nat) → (breaks : List Char) → (widest : Nat) → (stop : Mark) → Cursor → Except Fault BlankLines
  | 0, breaks, widest, stop, cursor => .ok ⟨breaks, widest, stop, cursor⟩
  | fuel + 1, breaks, widest, stop, cursor =>
    let spaces := (cursor.rest.takeWhile (· = ' ')).length
    let skipped := if indent = 0 then spaces else min spaces (indent - cursor.mark.column)
    let cursor := cursor.advanceBy skipped
    let widest := max widest cursor.mark.column
    if (indent = 0 || cursor.mark.column < indent) && cursor.isAt '\t' then
      .error (.within .scanBlockScalar start .tabIndentation cursor.mark)
    else if cursor.head?.any isBreak then
      let (taken, after) := cursor.takeBreak
      blankLines indent start fuel (taken ++ breaks) widest after.mark after
    else .ok ⟨breaks, widest, stop, cursor⟩

/-- The breaks between two lines, the latest first. A single break between two lines that start with a word becomes
a space in a folded scalar. -/
def lineJoint (folded : Bool) (leading trailing : List Char) (wasBlank isBlank : Bool) : List Char :=
  if folded && leading = ['\n'] && !wasBlank && !isBlank then
    if trailing.isEmpty then [' '] else trailing
  else trailing ++ leading

/-- The lines of a block scalar. The text is kept with the latest character first. -/
def blockLines (folded : Bool) (chomping : Chomping) (indent : Nat) (start : Mark) :
    (fuel : Nat) → (text leading trailing : List Char) → (wasBlank : Bool) → (stop : Mark) → Cursor →
      Except Fault ScannedScalar
  | 0, text, _, _, _, stop, cursor => .ok ⟨text.reverse, stop, cursor, false⟩
  | fuel + 1, text, leading, trailing, wasBlank, stop, cursor =>
    if cursor.mark.column = indent && !cursor.atEnd then
      let isBlank := cursor.head?.any isGap
      let (line, lineEnd) := cursor.takeWhile fun c => !isBreak c
      let text := line.reverse ++ lineJoint folded leading trailing wasBlank isBlank ++ text
      let (leading, after) := lineEnd.takeBreak
      match blankLines indent start (after.rest.length + 1) [] 0 after.mark after with
      | .error fault => .error fault
      | .ok blank =>
        blockLines folded chomping indent start fuel text leading blank.breaks isBlank blank.stop blank.after
    else
      let tail := match chomping with
        | .strip => []
        | .clip => leading
        | .keep => trailing ++ leading
      .ok ⟨(tail ++ text).reverse, stop, cursor, false⟩

/-- A block scalar whose indicator comes next, inside a collection with the given indentation. -/
def scanBlock (folded : Bool) (parent : Int) (cursor : Cursor) : Except Fault ScannedScalar :=
  let start := cursor.mark
  match blockHeader start cursor.advance with
  | .error fault => .error fault
  | .ok (header, after) =>
    match finishLine .scanBlockScalar start after with
    | .error fault => .error fault
    | .ok first =>
      let given := if header.increment = 0 then 0 else parent.toNat + header.increment
      match blankLines given start (first.rest.length + 1) [] 0 first.mark first with
      | .error fault => .error fault
      | .ok blank =>
        let indent := if given = 0 then max (max blank.widest (parent + 1).toNat) 1 else given
        blockLines folded header.chomping indent start (first.rest.length + 2) [] [] blank.breaks false blank.stop
          blank.after

end Prologue.Yaml
