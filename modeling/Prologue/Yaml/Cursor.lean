/-! Places in a YAML text, and the classes of its characters. -/

namespace Prologue.Yaml

/-- A place: the bytes before it, the line and the column, all counted from zero. Columns count characters. -/
structure Mark where
  index : Nat
  line : Nat
  column : Nat
deriving DecidableEq, Repr

def Mark.start : Mark := ⟨0, 0, 0⟩

/-- The text that is left and the place where it starts. -/
structure Cursor where
  rest : List Char
  mark : Mark
deriving DecidableEq, Repr

/-- A space or a tab. -/
def isGap (c : Char) : Bool := c = ' ' || c = '\t'

/-- A character that ends a line. -/
def isBreak (c : Char) : Bool :=
  c = '\n' || c = '\r' || c = '\x85' || c = '\u2028' || c = '\u2029'

/-- A character of a name: a letter or digit of ASCII, a dash or a low line. -/
def isWordChar (c : Char) : Bool := c.isAlphanum || c = '_' || c = '-'

/-- Whether a line ends here, or the text does. -/
def atBreak : List Char → Bool
  | [] => true
  | c :: _ => isBreak c

/-- Whether a word ends here: at a gap, a line break or the end of the text. -/
def atGap : List Char → Bool
  | [] => true
  | c :: _ => isGap c || isBreak c

/-- Whether one of the marks between documents stands here. -/
def atDocumentMark : List Char → Bool
  | '-' :: '-' :: '-' :: rest => atGap rest
  | '.' :: '.' :: '.' :: rest => atGap rest
  | _ => false

namespace Cursor

def head? (cursor : Cursor) : Option Char := cursor.rest.head?

def atEnd (cursor : Cursor) : Bool := cursor.rest.isEmpty

/-- Whether the next character is `c`. -/
def isAt (c : Char) (cursor : Cursor) : Bool := cursor.rest.head? = some c

/-- Past one character that is no line break. -/
def advance (cursor : Cursor) : Cursor :=
  match cursor.rest with
  | [] => cursor
  | c :: rest =>
    { rest, mark := { cursor.mark with index := cursor.mark.index + c.utf8Size, column := cursor.mark.column + 1 } }

def advanceBy : (count : Nat) → Cursor → Cursor
  | 0, cursor => cursor
  | count + 1, cursor => advanceBy count cursor.advance

/-- Past a line break, with the break as it counts in a text: all but the two separators of Unicode become a line
feed, and a carriage return before a line feed is part of it. -/
def takeBreak (cursor : Cursor) : List Char × Cursor :=
  let past (bytes : Nat) (rest : List Char) : Cursor :=
    { rest, mark := { index := cursor.mark.index + bytes, line := cursor.mark.line + 1, column := 0 } }
  match cursor.rest with
  | '\r' :: '\n' :: rest => (['\n'], past 2 rest)
  | c :: rest =>
    if c = '\u2028' || c = '\u2029' then ([c], past c.utf8Size rest)
    else if isBreak c then (['\n'], past c.utf8Size rest)
    else ([], cursor)
  | [] => ([], cursor)

/-- The characters of a class that come next, and the place after them. -/
def takeWhile (p : Char → Bool) (cursor : Cursor) : List Char × Cursor :=
  let taken := cursor.rest.takeWhile p
  (taken, cursor.advanceBy taken.length)

def skipWhile (p : Char → Bool) (cursor : Cursor) : Cursor := (cursor.takeWhile p).2

/-- Past a comment, if one starts here, up to the end of its line. -/
def skipComment (cursor : Cursor) : Cursor :=
  if cursor.isAt '#' then cursor.skipWhile fun c => !isBreak c else cursor

end Cursor

end Prologue.Yaml
