import InlineNotes.Storage.Disk

/-!
# Listings

What stands below the starting folder of a disk, each thing under its relative
path. The order is that of the written paths, code point by code point, so a
folder need not come right before what it holds.
-/
namespace InlineNotes.Disk

/-- A disk with nothing on it but the folders that lead to the starting folder. -/
def bare (here : Location) : Disk where
  nodes := .ofList ((List.range here.length).map fun n => (here.take (n + 1), .folder))
  here := here

def below (d : Disk) : List (Text × Node) :=
  d.nodes.entries.filterMap fun (l, n) =>
    if d.here <+: l ∧ d.here ≠ l then some (Text.join '/' (l.drop d.here.length), n) else none

def sortByPath {α : Type} (xs : List (Text × α)) : List (Text × α) :=
  xs.mergeSort fun a b => !decide (b.1 < a.1)

def folders (d : Disk) : List Text :=
  (sortByPath d.below).filterMap fun (path, n) => if n = .folder then some path else none

def files (d : Disk) : List (Text × Bytes) :=
  (sortByPath d.below).filterMap fun
    | (path, .file content) => some (path, content)
    | (_, .folder) => none

end InlineNotes.Disk
