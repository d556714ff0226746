import InlineNotes.Storage.Disk
import InlineNotes.Text.Lines
import InlineNotes.Text.Utf8

/-!
# Documents on disk

A document is loaded as UTF-8 with its newlines unified, and saved as UTF-8 just
as it is. Saving makes the folders above the file. `resolveOutput` says where a
converted document goes: into a folder under its own name, or to the very path
that was asked for.
-/
namespace InlineNotes

inductive StorageFault
  | encoding (fault : Utf8.Fault)
  | file (error : FileError)
  deriving DecidableEq

def StorageFault.message : StorageFault → Text
  | .encoding fault => fault.message
  | .file e => e.message

def decodeDocument (bytes : Bytes) : Except Utf8.Fault Text :=
  (Utf8.decode bytes).map Text.unifyNewlines

namespace Disk

def loadDocument (d : Disk) (p : Path) : Except StorageFault Text :=
  match d.readFile p with
  | .error e => .error (.file e)
  | .ok bytes => (decodeDocument bytes).mapError .encoding

/-- Writes a file after making the folders above it. -/
def saveBytes (d : Disk) (p : Path) (content : Bytes) : Disk × Option FileError :=
  match d.ensureFolder p.parent with
  | (d, some e) => (d, some e)
  | (d, none) =>
    match d.writeFile p content with
    | .error e => (d, some e)
    | .ok d => (d, none)

def saveDocument (d : Disk) (p : Path) (t : Text) : Disk × Option FileError :=
  d.saveBytes p (Utf8.encode t)

/-- A folder, or an output that is spelled as one, is made if it is missing and
takes a file of the given name. -/
def resolveOutput (d : Disk) (output fileName : Text) : Disk × Except FileError Path :=
  let p := Path.ofText output
  match d.look p with
  | .error e => (d, .error e)
  | .ok there =>
    if there = some .folder ∨ output.getLast? = some '/' then
      match d.ensureFolder p with
      | (d, some e) => (d, .error e)
      | (d, none) => (d, .ok (p.append (Path.ofText fileName)))
    else (d, .ok p)

end Disk

end InlineNotes
