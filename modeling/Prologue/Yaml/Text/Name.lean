import Prologue.Text.Digits
import Prologue.Yaml.Text.Block
import Prologue.Yaml.Token

/-! Anchors, tags and directives. -/

namespace Prologue.Yaml

/-- A character that may follow the name of an anchor directly. -/
def endsAnchor (c : Char) : Bool :=
  c = '?' || c = ':' || c = ',' || c = ']' || c = '\x7d' || c = '%' || c = '@' || c = '\x60'

/-- The name of an anchor or of a reference to one, whose mark comes next. -/
def scanAnchor (activity : Activity) (cursor : Cursor) : Except Fault (String × Cursor) :=
  let (name, after) := cursor.advance.takeWhile isWordChar
  if !name.isEmpty && (atGap after.rest || after.head?.any endsAnchor) then .ok (String.ofList name, after)
  else .error (.within activity cursor.mark .expectedAlphanumeric after.mark)

/-- A character of a tag; some only in a tag between angle brackets. -/
def isTagChar (bracketed : Bool) (c : Char) : Bool :=
  isWordChar c || ";/?:@&=+$.%!~*'()".toList.contains c || (bracketed && (c = ',' || c = '[' || c = ']'))

/-- The length of a character's encoding, by its first byte. -/
def octetWidth? (octet : Nat) : Option Nat :=
  if octet < 0x80 then some 1
  else if octet / 0x20 = 6 then some 2
  else if octet / 0x10 = 14 then some 3
  else if octet / 8 = 30 then some 4
  else none

def escapedOctet? : List Char → Option Nat
  | '%' :: a :: b :: _ => digitsValue? 16 [a, b]
  | _ => none

/-- The bytes after the first of an escaped character. -/
def trailingOctets (activity : Activity) (start : Mark) :
    (count : Nat) → Cursor → Except Fault (List UInt8 × Cursor)
  | 0, cursor => .ok ([], cursor)
  | count + 1, cursor =>
    match escapedOctet? cursor.rest with
    | none => .error (.within activity start .expectedOctet cursor.mark)
    | some octet =>
      if octet / 0x40 = 2 then
        match trailingOctets activity start count (cursor.advanceBy 3) with
        | .error fault => .error fault
        | .ok (octets, after) => .ok (octet.toUInt8 :: octets, after)
      else .error (.within activity start .badTrailingOctet cursor.mark)

/-- A character written as percent signs and hexadecimal bytes. Only the form of the bytes is looked at. -/
def escapedChar (activity : Activity) (start : Mark) (cursor : Cursor) : Except Fault (List UInt8 × Cursor) :=
  match escapedOctet? cursor.rest with
  | none => .error (.within activity start .expectedOctet cursor.mark)
  | some octet =>
    match octetWidth? octet with
    | none => .error (.within activity start .badLeadingOctet cursor.mark)
    | some width =>
      match trailingOctets activity start (width - 1) (cursor.advanceBy 3) with
      | .error fault => .error fault
      | .ok (octets, after) => .ok (octet.toUInt8 :: octets, after)

/-- The bytes of a tag after its handle. Its characters are all of ASCII. -/
def tagBytes (bracketed : Bool) (activity : Activity) (start : Mark) :
    (fuel : Nat) → Cursor → Except Fault (List UInt8 × Cursor)
  | 0, cursor => .ok ([], cursor)
  | fuel + 1, cursor =>
    match cursor.head? with
    | none => .ok ([], cursor)
    | some c =>
      if !isTagChar bracketed c then .ok ([], cursor)
      else
        let first := if c = '%' then escapedChar activity start cursor else .ok ([c.toNat.toUInt8], cursor.advance)
        match first with
        | .error fault => .error fault
        | .ok (bytes, after) =>
          match tagBytes bracketed activity start fuel after with
          | .error fault => .error fault
          | .ok (rest, after) => .ok (bytes ++ rest, after)

/-- A tag, or a part of one, with a head that was read before it and whose exclamation mark does not count. It may be
empty only if there is a head. A zero byte ends it, and what follows that is lost. -/
def scanTagText (bracketed : Bool) (activity : Activity) (start : Mark) (head : Option (List Char))
    (cursor : Cursor) : Except Fault (Tag × Cursor) :=
  match tagBytes bracketed activity start cursor.rest.length cursor with
  | .error fault => .error fault
  | .ok (bytes, after) =>
    if bytes.isEmpty && (head.getD []).isEmpty then
      .error (.within activity start .expectedTagText after.mark)
    else
      let bytes := ((head.getD []).drop 1).map (·.toNat.toUInt8) ++ bytes
      .ok (⟨bytes.takeWhile (· ≠ 0)⟩, after)

/-- A handle: an exclamation mark, or a name between two. Without the second one it is only the start of a tag. -/
def scanHandle (directive : Bool) (start : Mark) (cursor : Cursor) : Except Fault (List Char × Cursor) :=
  if !cursor.isAt '!' then
    .error (.within (if directive then .scanHandle else .scanTag) start .expectedTagMark cursor.mark)
  else
    let (name, after) := cursor.advance.takeWhile isWordChar
    if after.isAt '!' then .ok ('!' :: name ++ ['!'], after.advance)
    else if directive && !name.isEmpty then .error (.within .parseHandle start .expectedTagMark after.mark)
    else .ok ('!' :: name, after)

/-- Handle and text of a tag whose exclamation mark comes next. A tag between angle brackets has no handle, nor has
a lone exclamation mark. -/
def scanTagParts (cursor : Cursor) : Except Fault (String × Tag × Cursor) :=
  let start := cursor.mark
  if cursor.advance.isAt '<' then
    match scanTagText true .parseTag start none (cursor.advanceBy 2) with
    | .error fault => .error fault
    | .ok (text, after) =>
      if after.isAt '>' then .ok ("", text, after.advance)
      else .error (.within .scanTag start .expectedTagClose after.mark)
  else
    match scanHandle false start cursor with
    | .error fault => .error fault
    | .ok (handle, after) =>
      if 1 < handle.length && handle.getLast? = some '!' then
        match scanTagText false .parseTag start none after with
        | .error fault => .error fault
        | .ok (text, after) => .ok (String.ofList handle, text, after)
      else
        match scanTagText false .parseTag start (some handle) after with
        | .error fault => .error fault
        | .ok (text, after) => .ok (if text.bytes.isEmpty then ("", .ofString "!", after) else ("!", text, after))

/-- A tag, which white space must follow, or a comma inside brackets. -/
def scanTag (inFlow : Bool) (cursor : Cursor) : Except Fault (Token × Cursor) :=
  match scanTagParts cursor with
  | .error fault => .error fault
  | .ok (handle, text, after) =>
    if (inFlow && after.isAt ',') || atGap after.rest then .ok (.tag handle text, after)
    else .error (.within .scanTag cursor.mark .expectedBlankOrBreak after.mark)

/-- One of the two numbers of a version, of at most nine digits. -/
def versionNumber (start : Mark) (cursor : Cursor) : Except Fault (Nat × Cursor) :=
  let (digits, after) := cursor.takeWhile (·.isDigit)
  if digits.isEmpty then .error (.within .scanVersion start .expectedVersion cursor.mark)
  else if 9 < digits.length then .error (.within .scanVersion start .longVersion (cursor.advanceBy 9).mark)
  else .ok ((digitsValue? 10 digits).getD 0, after)

def versionDirective (start : Mark) (cursor : Cursor) : Except Fault (Token × Cursor) :=
  match versionNumber start (cursor.skipWhile isGap) with
  | .error fault => .error fault
  | .ok (major, point) =>
    if !point.isAt '.' then .error (.within .scanVersion start .expectedVersionPoint point.mark)
    else
      match versionNumber start point.advance with
      | .error fault => .error fault
      | .ok (minor, after) => .ok (.version major minor, after)

def handleDirective (start : Mark) (cursor : Cursor) : Except Fault (Token × Cursor) :=
  match scanHandle true start (cursor.skipWhile isGap) with
  | .error fault => .error fault
  | .ok (handle, after) =>
    if !after.head?.any isGap then .error (.within .scanTagDirective start .expectedBlank after.mark)
    else
      match scanTagText true .parseTagDirective start none (after.skipWhile isGap) with
      | .error fault => .error fault
      | .ok (stem, after) =>
        if atGap after.rest then .ok (.tagDirective (String.ofList handle) stem, after)
        else .error (.within .scanTagDirective start .expectedBlankOrBreak after.mark)

/-- A directive whose percent sign comes next, and the place after its line. The place after its last character comes
with it. -/
def scanDirective (cursor : Cursor) : Except Fault (Token × Mark × Cursor) :=
  let start := cursor.mark
  let (name, after) := cursor.advance.takeWhile isWordChar
  if name.isEmpty then .error (.within .scanDirective start .expectedDirectiveName after.mark)
  else if !atGap after.rest then .error (.within .scanDirective start .nonAlphabetic after.mark)
  else
    let scanned :=
      if name = "YAML".toList then versionDirective start after
      else if name = "TAG".toList then handleDirective start after
      else .error (.within .scanDirective start .unknownDirective after.mark)
    match scanned with
    | .error fault => .error fault
    | .ok (token, after) =>
      match finishLine .scanDirective start after with
      | .error fault => .error fault
      | .ok next => .ok (token, after.mark, next)

end Prologue.Yaml
