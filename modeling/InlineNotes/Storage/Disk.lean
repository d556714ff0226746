import InlineNotes.Table
import InlineNotes.Storage.Path
import InlineNotes.Text.Utf8

/-!
# Disks

A disk is a tree of folders and files together with the folder from which
relative paths start. Following a path needs a folder at every step but the last;
two points lead back to the folder above. Lengths are limited in bytes, and a name
is measured only where the path has come to its folder. Making a folder together
with the folders above it, and writing a file, are the only changes. A change that
fails half way keeps what it has done, so both return the disk in either case.
-/
namespace InlineNotes

/-- The parts that lead from the root of the tree to a place in it. -/
abbrev Location := List Text

inductive Node
  | folder
  | file (content : Bytes)
  deriving DecidableEq

inductive FileProblem
  | notFound
  | occupied
  | notFolder
  | isFolder
  | tooLong
  | nulCharacter
  deriving DecidableEq

structure FileError where
  problem : FileProblem
  path : Path
  deriving DecidableEq

def FileProblem.message : FileProblem → Text
  | .notFound => "[Errno 2] No such file or directory".toList
  | .occupied => "[Errno 17] File exists".toList
  | .notFolder => "[Errno 20] Not a directory".toList
  | .isFolder => "[Errno 21] Is a directory".toList
  | .tooLong => "[Errno 36] File name too long".toList
  | .nulCharacter => "embedded null byte".toList

/-- A path with a NUL character is not shown. -/
def FileError.message (e : FileError) : Text :=
  if e.problem = .nulCharacter then e.problem.message
  else e.problem.message ++ ':' :: ' ' :: e.path.write.quoted

structure Disk where
  nodes : Table Location Node
  here : Location

namespace Disk

def node? (d : Disk) : Location → Option Node
  | [] => some .folder
  | part :: rest => d.nodes.get? (part :: rest)

def up : Text := ['.', '.']

/-- The bytes that a name may have. -/
def maxNameSize : Nat := 255

/-- The bytes that a whole written path may have. -/
def maxPathSize : Nat := 4095

def size (t : Text) : Nat := (Utf8.encode t).length

/-- Follows parts from a location. The place itself may be empty, the places on
the way are folders. -/
def follow (d : Disk) (place : Location) : List Text → Except FileProblem Location
  | [] => .ok place
  | part :: rest =>
    match d.node? place with
    | none => .error .notFound
    | some (.file _) => .error .notFolder
    | some .folder =>
      if maxNameSize < size part then .error .tooLong
      else d.follow (if part = up then place.dropLast else place ++ [part]) rest

def start (d : Disk) : Root → Location
  | .here => d.here
  | _ => []

def locate (d : Disk) (p : Path) : Except FileProblem Location :=
  if '\x00' ∈ p.write then .error .nulCharacter
  else if maxPathSize < size p.write then .error .tooLong
  else d.follow (d.start p.root) p.parts

/-- What stands at a path, if anything does. -/
def find? (d : Disk) (p : Path) : Option Node :=
  match d.locate p with
  | .error _ => none
  | .ok l => d.node? l

def isFolder (d : Disk) (p : Path) : Bool := d.find? p = some .folder

/-- Looks what stands at a path. There is nothing to see where no way leads, but a
path that is too long cannot be looked at. -/
def look (d : Disk) (p : Path) : Except FileError (Option Node) :=
  match d.locate p with
  | .ok l => .ok (d.node? l)
  | .error problem => if problem = .tooLong then .error ⟨problem, p⟩ else .ok none

def set (d : Disk) (l : Location) (n : Node) : Disk := { d with nodes := d.nodes.put l n }

def readFile (d : Disk) (p : Path) : Except FileError Bytes :=
  match d.locate p with
  | .error problem => .error ⟨problem, p⟩
  | .ok l =>
    match d.node? l with
    | none => .error ⟨.notFound, p⟩
    | some .folder => .error ⟨.isFolder, p⟩
    | some (.file content) => .ok content

/-- Writes a whole file, a new one or over an old one. -/
def writeFile (d : Disk) (p : Path) (content : Bytes) : Except FileError Disk :=
  match d.locate p with
  | .error problem => .error ⟨problem, p⟩
  | .ok l =>
    match d.node? l with
    | some .folder => .error ⟨.isFolder, p⟩
    | _ => .ok (d.set l (.file content))

/-- Makes one folder, where nothing stands yet. -/
def makeFolder (d : Disk) (p : Path) : Except FileError Disk :=
  match d.locate p with
  | .error problem => .error ⟨problem, p⟩
  | .ok l =>
    match d.node? l with
    | some _ => .error ⟨.occupied, p⟩
    | none => .ok (d.set l .folder)

/-- A failure to make a folder is none if the folder is there. -/
def settle (d : Disk) (p : Path) (e : FileError) : Disk × Option FileError :=
  if d.isFolder p then (d, none) else (d, some e)

/-- Makes a folder unless it is there, and first, where they are missing, the
folders above it. The parts are given from the last to the first. -/
def ensureParts (root : Root) (d : Disk) : List Text → Disk × Option FileError
  | [] =>
    let p : Path := ⟨root, []⟩
    match d.makeFolder p with
    | .ok d => (d, none)
    | .error e => if e.problem = .notFound then (d, some e) else d.settle p e
  | part :: above =>
    let p : Path := ⟨root, (part :: above).reverse⟩
    match d.makeFolder p with
    | .ok d => (d, none)
    | .error e =>
      if e.problem = .notFound then
        match ensureParts root d above with
        | (d, some e) => (d, some e)
        | (d, none) =>
          match d.makeFolder p with
          | .ok d => (d, none)
          | .error e => if e.problem = .notFound then (d, some e) else d.settle p e
      else d.settle p e

def ensureFolder (d : Disk) (p : Path) : Disk × Option FileError :=
  d.ensureParts p.root p.parts.reverse

end Disk

end InlineNotes
