import InlineNotes.Command.Reach

/-!
# The program

Looks at the places that a run can reach, does the run on what it saw there, and
carries out what the run changed. Whatever is neither a folder nor a plain file
counts as not there.
-/
namespace InlineNotes.Program

def asText (s : String) : Text := s.toList

def asBytes (b : ByteArray) : Bytes := b.toList

def asByteArray (b : Bytes) : ByteArray := ⟨b.toArray⟩

def spelling (l : Location) : String := String.ofList ('/' :: Text.join '/' l)

def lookAt (l : Location) : IO (Option Node) := do
  try
    let path ← IO.FS.realPath (spelling l)
    match (← path.metadata).type with
    | .dir => return some .folder
    | .file => return some (.file (asBytes (← IO.FS.readBinFile path)))
    | _ => return none
  catch _ => return none

def lookAround (here : Location) (places : List Location) : IO Disk := do
  let mut seen := []
  for l in places do
    if let some n ← lookAt l then
      seen := (l, n) :: seen
  return ⟨.ofList seen, here⟩

def carryOut : Location × Node → IO Unit
  | (l, .folder) => IO.FS.createDir (spelling l)
  | (l, .file content) => IO.FS.writeBinFile (spelling l) (asByteArray content)

partial def readAll (input : IO.FS.Stream) (sofar : ByteArray) : IO ByteArray := do
  let more ← input.read 65536
  if more.isEmpty then return sofar else readAll input (sofar ++ more)

def run (args : List Text) : IO UInt32 := do
  let here := (Path.ofText (asText (← IO.currentDir).toString)).parts
  let places := Command.reachedPlaces here args
  let before ← lookAround here places
  let input ← if Command.readsInput args then readAll (← IO.getStdin) .empty else pure .empty
  let o := Command.run args (asBytes input) before
  (before.changes o.disk places).forM carryOut
  let output ← IO.getStdout
  output.write (asByteArray o.output)
  output.flush
  IO.eprint (String.ofList o.messages)
  if let some fault := o.escaped then
    IO.eprintln (String.ofList fault.message)
  return o.exitCode.toUInt32

end InlineNotes.Program

def main (args : List String) : IO UInt32 :=
  InlineNotes.Program.run (args.map InlineNotes.Program.asText)
