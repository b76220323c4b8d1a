import Prologue.Encoding.Decoder
import Prologue.FileTree
import Prologue.Tree.Preorder

/-! Files given as JSON: each with its path and its text, bytes or syntax tree. -/

namespace Prologue

open Json (list? text? word64?)

/-- A node's flags as letters: named, an error, missing, with an error below. -/
def NodeInfo.withFlags (info : NodeInfo) (flags : List Char) : NodeInfo :=
  { info with
    named := flags.contains 'n'
    isError := flags.contains 'e'
    isMissing := flags.contains 'm'
    hasError := flags.contains 'h' }

/-- One row of a flat tree: kind, flags, role, number of children, and start and end by byte, row and column. -/
def PreorderEntry.ofJson? : Json → Option PreorderEntry
  | .array
      [.string kind, .string flags, .string field, count, startByte, startRow, startCol, stopByte, stopRow, stopCol] => do
    let start : Point := ⟨← word64? startByte, ← word64? startRow, ← word64? startCol⟩
    let stop : Point := ⟨← word64? stopByte, ← word64? stopRow, ← word64? stopCol⟩
    let info : NodeInfo :=
      { kind, named := false, isError := false, isMissing := false, hasError := false,
        field := if field = "" then none else some field, start, stop }
    some ⟨info.withFlags flags.toList, ← word64? count⟩
  | _ => none

/-- A syntax tree as a list of rows. -/
def Node.ofJson? (value : Json) : Option Node := (list? PreorderEntry.ofJson? value).bind Node.ofPreorder?

def byte? (value : Json) : Option UInt8 := (Json.natBelow? 256 value).map Nat.toUInt8

/-- The content of a file: a text with the tree that may be given, or bytes. -/
def Content.ofJson? (entry : Json) : Option Content :=
  match entry.field? "bytes" with
  | some bytes => do
    let bytes ← list? byte? bytes
    match String.fromUTF8? (ByteArray.mk bytes.toArray) with
    | some decoded => some (.text decoded none)
    | none => some .binary
  | none => do
    let content ← text? ((entry.field? "content").getD (.string ""))
    some (.text content ((entry.field? "tree").bind Node.ofJson?))

/-- Writes an entry to the files: a directory, a removal, or a file. -/
def FileTree.applyJson? (files : FileTree) (entry : Json) : Option FileTree := do
  let path ← text? ((entry.field? "path").getD (.string ""))
  if ((entry.field? "dir").bind Json.boolean?).getD false then some (files.makeDirectory path)
  else if ((entry.field? "remove").bind Json.boolean?).getD false then some (files.remove path)
  else some (files.write path (← Content.ofJson? entry))

/-- The files of a list of entries, made in order in a directory. -/
def FileTree.ofJson? (directory : List String) (entries : Json) : Option FileTree :=
  match entries with
  | .array entries =>
    let start : FileTree := { root := Entry.makeDirectory directory (.directory []), current := directory }
    entries.foldlM FileTree.applyJson? start
  | _ => none

end Prologue
