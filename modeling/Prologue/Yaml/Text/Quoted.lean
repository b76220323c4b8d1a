import Prologue.Text.Digits
import Prologue.Yaml.Text.Plain

/-! Scalars between quotes. -/

namespace Prologue.Yaml

/-- The character of an escape with one letter. -/
def simpleEscape? (c : Char) : Option Char :=
  if c = '0' then some '\x00'
  else if c = 'a' then some '\x07'
  else if c = 'b' then some '\x08'
  else if c = 't' || c = '\t' then some '\t'
  else if c = 'n' then some '\n'
  else if c = 'v' then some '\x0b'
  else if c = 'f' then some '\x0c'
  else if c = 'r' then some '\r'
  else if c = 'e' then some '\x1b'
  else if c = ' ' || c = '"' || c = '/' || c = '\\' then some c
  else if c = 'N' then some '\x85'
  else if c = '_' then some '\xa0'
  else if c = 'L' then some '\u2028'
  else if c = 'P' then some '\u2029'
  else none

/-- The number of digits of an escape by code point. -/
def escapeWidth? (c : Char) : Option Nat :=
  if c = 'x' then some 2 else if c = 'u' then some 4 else if c = 'U' then some 8 else none

/-- The character of an escape whose backslash comes next. -/
def scanEscape (start : Mark) (cursor : Cursor) : Except Fault (Char × Cursor) :=
  let letter := cursor.advance
  match letter.head? with
  | none => .error (.within .parseQuoted start .unknownEscape cursor.mark)
  | some c =>
    match simpleEscape? c with
    | some value => .ok (value, letter.advance)
    | none =>
      match escapeWidth? c with
      | none => .error (.within .parseQuoted start .unknownEscape cursor.mark)
      | some width =>
        let digits := letter.advance
        let code := digits.rest.take width
        match digitsValue? 16 code with
        | none => .error (.within .parseQuoted start .expectedHexadecimal digits.mark)
        | some value =>
          if code.length < width then .error (.within .parseQuoted start .expectedHexadecimal digits.mark)
          else if value.isValidChar then .ok (Char.ofNat value, digits.advanceBy width)
          else .error (.within .parseQuoted start .badCodePoint digits.mark)

/-- The characters up to white space or the closing quote, added to a text that is kept with the latest first. Also
whether they end in a line break that is escaped. The fuel is the length of the text. -/
def quotedWord (single : Bool) (start : Mark) :
    (fuel : Nat) → (text : List Char) → Cursor → Except Fault (List Char × Cursor × Bool)
  | 0, text, cursor => .ok (text, cursor, false)
  | fuel + 1, text, cursor =>
    match cursor.rest with
    | [] => .ok (text, cursor, false)
    | c :: rest =>
      if isGap c || isBreak c then .ok (text, cursor, false)
      else if single then
        if c = '\'' then
          if rest.head? = some '\'' then quotedWord single start fuel ('\'' :: text) (cursor.advanceBy 2)
          else .ok (text, cursor, false)
        else quotedWord single start fuel (c :: text) cursor.advance
      else if c = '"' then .ok (text, cursor, false)
      else if c = '\\' then
        if rest.head?.any isBreak then .ok (text, cursor.advance.takeBreak.2, true)
        else
          match scanEscape start cursor with
          | .error fault => .error fault
          | .ok (value, after) => quotedWord single start fuel (value :: text) after
      else quotedWord single start fuel (c :: text) cursor.advance

/-- Words and the white space between them up to the closing quote. -/
def quotedWords (single : Bool) (start : Mark) :
    (fuel : Nat) → (text : List Char) → Cursor → Except Fault ScannedScalar
  | 0, _, cursor => .error (.within .scanQuoted start .endInQuotes cursor.mark)
  | fuel + 1, text, cursor =>
    if cursor.mark.column = 0 && atDocumentMark cursor.rest then
      .error (.within .scanQuoted start .documentMarkInQuotes cursor.mark)
    else if cursor.atEnd then .error (.within .scanQuoted start .endInQuotes cursor.mark)
    else
      match quotedWord single start (cursor.rest.length + 1) text cursor with
      | .error fault => .error fault
      | .ok (text, after, continued) =>
        if after.isAt (if single then '\'' else '"') then
          let closed := after.advance
          .ok ⟨text.reverse, closed.mark, closed, false⟩
        else
          let folding := if continued then Folding.continued else Folding.none
          match folding.take none (after.rest.length + 1) after with
          | .error mark => .error (.within .scanQuoted start .tabInPlain mark)
          | .ok (folding, next) => quotedWords single start fuel (folding.joined ++ text) next

def scanQuoted (single : Bool) (cursor : Cursor) : Except Fault ScannedScalar :=
  quotedWords single cursor.mark (cursor.rest.length + 2) [] cursor.advance

end Prologue.Yaml
