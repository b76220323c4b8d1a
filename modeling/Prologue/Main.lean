import Prologue.CommandLine
import Prologue.Encoding.Snapshot
import Prologue.Json.Reader

/-! The program. It reads a snapshot of the files from standard input, a JSON object of the time, the current
directory and the files, and runs the command of its arguments on it. -/

namespace Prologue

/-- The files and the time of a snapshot. -/
def snapshot? (text : String) : Option (FileTree × String) :=
  match Json.parse text with
  | .error _ => none
  | .ok value => do
    let directory := ((value.field? "cwd").bind Json.text?).getD "/"
    let names := ((Path.segments directory).filter fun segment => segment ≠ []).map String.ofList
    let files ← FileTree.ofJson? names ((value.field? "files").getD (.array []))
    some (files, ((value.field? "time").bind Json.text?).getD "")

end Prologue

def main (args : List String) : IO UInt32 := do
  let input ← (← IO.getStdin).readToEnd
  match Prologue.snapshot? input with
  | none =>
    IO.eprintln "Error: no snapshot of files on standard input"
    return 2
  | some (files, time) =>
    let outcome := Prologue.CommandLine.run files time args
    IO.print outcome.stdout
    IO.eprint outcome.stderr
    return outcome.exitCode.toUInt32
