import Prologue.Yaml.Fault

/-! White space inside scalars that run over several lines. A single line break between two words counts as a
space; of several, all but the first are kept. -/

namespace Prologue.Yaml

/-- The white space since the last word. Lists are kept with the latest character first. -/
structure Folding where
  spaces : List Char
  firstBreak : List Char
  otherBreaks : List Char
  broken : Bool
deriving DecidableEq, Repr

namespace Folding

def none : Folding := ⟨[], [], [], false⟩

/-- Nothing but a break that does not count. -/
def continued : Folding := ⟨[], [], [], true⟩

/-- The characters that the white space counts as, the latest first. -/
def joined (folding : Folding) : List Char :=
  if folding.broken then
    if folding.firstBreak = ['\n'] then
      if folding.otherBreaks.isEmpty then [' '] else folding.otherBreaks
    else folding.otherBreaks ++ folding.firstBreak
  else folding.spaces

/-- Takes up the white space that follows. With an indentation, a tab in the blanks of a later line that stands
before it is refused; its place is the error. The fuel is the length of the text. -/
def take (indentation : Option Int) : (fuel : Nat) → Folding → Cursor → Except Mark (Folding × Cursor)
  | 0, folding, cursor => .ok (folding, cursor)
  | fuel + 1, folding, cursor =>
    match cursor.rest with
    | [] => .ok (folding, cursor)
    | c :: _ =>
      if isGap c then
        let early := match indentation with
          | some least => decide ((cursor.mark.column : Int) < least)
          | Option.none => false
        if folding.broken && early && c = '\t' then .error cursor.mark
        else if folding.broken then take indentation fuel folding cursor.advance
        else take indentation fuel { folding with spaces := c :: folding.spaces } cursor.advance
      else if isBreak c then
        let (taken, after) := cursor.takeBreak
        if folding.broken then
          take indentation fuel { folding with otherBreaks := taken ++ folding.otherBreaks } after
        else take indentation fuel { folding with spaces := [], firstBreak := taken, broken := true } after
      else .ok (folding, cursor)

end Folding

end Prologue.Yaml
