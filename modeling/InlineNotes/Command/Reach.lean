import InlineNotes.Command.Run

/-!
# What a run can reach

A run looks at its source, at the output it was given and at the file that it
would make in it, and at the folders that lead to them. These are all the places
that a disk has to show to the run, and all in which the run can change it
(`Proofs.Footprint`). Arguments that ask for no run reach nothing.
-/
namespace InlineNotes

/-- The places to which the parts lead one after the other. -/
def route (place : Location) : List Text → List Location
  | [] => [place]
  | part :: rest => place :: route (if part = Disk.up then place.dropLast else place ++ [part]) rest

/-- The folders that lead to a location, and the location itself. -/
def leading (l : Location) : List Location := (List.range (l.length + 1)).map l.take

def Path.places (here : Location) (p : Path) : List Location :=
  (route (if p.root = .here then here else []) p.parts).flatMap leading

namespace Command

def Invocation.outputPaths (i : Invocation) : List Path :=
  match i.output with
  | none => []
  | some output => [.ofText output, (Path.ofText output).append (.ofText i.fileName)]

def Invocation.places (here : Location) (i : Invocation) : List Location :=
  ((i.sourcePath?.toList ++ i.outputPaths).flatMap (Path.places here)).eraseDups

def Invocation.readsInput (i : Invocation) : Bool := i.sourcePath?.isNone

def reachedPlaces (here : Location) (args : List Text) : List Location :=
  match Request.read args with
  | .ok (.run i) => i.places here
  | _ => []

def readsInput (args : List Text) : Bool :=
  match Request.read args with
  | .ok (.run i) => i.readsInput
  | _ => false

end Command

/-- The nodes at the given places that one disk has and another has not. -/
def Disk.changes (before after : Disk) (places : List Location) : List (Location × Node) :=
  places.filterMap fun l =>
    match after.node? l with
    | none => none
    | some n => if before.node? l = some n then none else some (l, n)

end InlineNotes
