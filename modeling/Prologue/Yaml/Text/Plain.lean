import Prologue.Yaml.Text.Folding

/-! Scalars without quotes. -/

namespace Prologue.Yaml

/-- A scanned scalar: its text, the place after its last character, and where scanning goes on. -/
structure ScannedScalar where
  text : List Char
  stop : Mark
  after : Cursor
  /-- A line break was passed after the text. -/
  broken : Bool
deriving Repr

def isFlowIndicator (c : Char) : Bool :=
  c = ',' || c = '[' || c = ']' || c = '\x7b' || c = '\x7d'

/-- How many characters of a word come next, and whether the word stops at a colon that may not stand there. A word
stops at white space, at a colon before white space, and inside brackets at the indicators of a collection. -/
def plainWord (inFlow : Bool) : List Char → Nat × Bool
  | [] => (0, false)
  | c :: rest =>
    if isGap c || isBreak c then (0, false)
    else if inFlow && c = ':' && (rest.head?.any fun d => isFlowIndicator d || d = '?') then (0, true)
    else if c = ':' && atGap rest then (0, false)
    else if inFlow && isFlowIndicator c then (0, false)
    else
      let (count, wrongColon) := plainWord inFlow rest
      (count + 1, wrongColon)

/-- Words and the white space between them. The text is kept with the latest character first. -/
def plainWords (inFlow : Bool) (indentation : Int) (start : Mark) :
    (fuel : Nat) → (text : List Char) → (stop : Mark) → Folding → Cursor → Except Fault ScannedScalar
  | 0, text, stop, folding, cursor => .ok ⟨text.reverse, stop, cursor, folding.broken⟩
  | fuel + 1, text, stop, folding, cursor =>
    if (cursor.mark.column = 0 && atDocumentMark cursor.rest) || cursor.isAt '#' then
      .ok ⟨text.reverse, stop, cursor, folding.broken⟩
    else
      let (count, wrongColon) := plainWord inFlow cursor.rest
      let word := cursor.rest.take count
      let after := cursor.advanceBy count
      if wrongColon then .error (.within .scanPlain start .colonInPlain after.mark)
      else
        let (text, stop, folding) :=
          if count = 0 then (text, stop, folding)
          else (word.reverse ++ folding.joined ++ text, after.mark, Folding.none)
        if after.rest.head?.any fun c => isGap c || isBreak c then
          match folding.take (some indentation) (after.rest.length + 1) after with
          | .error mark => .error (.within .scanPlain start .tabInPlain mark)
          | .ok (folding, next) =>
            if !inFlow && (next.mark.column : Int) < indentation then
              .ok ⟨text.reverse, stop, next, folding.broken⟩
            else plainWords inFlow indentation start fuel text stop folding next
        else .ok ⟨text.reverse, stop, after, folding.broken⟩

def scanPlain (inFlow : Bool) (indentation : Int) (cursor : Cursor) : Except Fault ScannedScalar :=
  plainWords inFlow indentation cursor.mark (cursor.rest.length + 1) [] cursor.mark .none cursor

end Prologue.Yaml
