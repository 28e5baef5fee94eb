import Kitchen.CommandLine.Execution
import Kitchen.Number.Power

/-!
# The program

The commands in the system that runs the program.
-/

namespace Kitchen

/-- Turns that a bake may take, more than any machine gets through. -/
def turnBound : Nat := twoTo 60

/-- What stands at a path of the system. -/
def systemKind (path : String) : IO (Option FileKind) := do
  try
    let found ← (System.mkFilePath [path]).metadata
    return match found.type with
      | .file => some .file
      | .dir => some .directory
      | _ => none
  catch _ => return none

/-- Does something, and says whether it succeeded. -/
def succeeds (action : IO Unit) : IO Bool := do
  try
    action
    return true
  catch _ => return false

/-- The content of a file of the system. -/
def systemFile (path : String) : IO (Option (List UInt8)) := do
  try return some (← IO.FS.readBinFile path).toList
  catch _ => return none

/-- The names in a directory of the system. -/
def systemNames (path : String) : IO (List String) := do
  try
    let entries ← (System.mkFilePath [path]).readDir
    return entries.toList.map fun entry => entry.fileName
  catch _ => return []

/-- Reads a stream to its end. -/
partial def readToEnd (stream : IO.FS.Stream) (read : ByteArray) : IO ByteArray := do
  let more ← stream.read 65536
  if more.isEmpty then return read else readToEnd stream (read ++ more)

/-- The system that runs the program. -/
def system : Host IO where
  readFile := systemFile
  writeFile path content := succeeds (IO.FS.writeBinFile path ⟨content.toArray⟩)
  makeDirectory path := succeeds (IO.FS.createDirAll path)
  kindAt := systemKind
  list := systemNames
  input := do return (← readToEnd (← IO.getStdin) .empty).toList
  output bytes := do
    let stream ← IO.getStdout
    stream.write ⟨bytes.toArray⟩
    stream.flush
  note line := IO.eprintln line

end Kitchen

open Kitchen in
/-- Runs a command and ends with its code. -/
def main (arguments : List String) : IO UInt32 := do
  let ending ← system.execute turnBound arguments
  match ending.message with
  | some message => IO.eprintln ("Error: " ++ message)
  | none => if ending.code ≠ 0 then IO.eprintln helpText
  return ending.code.toUInt32
