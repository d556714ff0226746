import InlineNotes.Text.Quoted

/-!
# Paths

A path is read from a text part by part. Empty parts and parts that are a single
point are dropped; a part of two points stays, because where it leads depends on
the folders. A leading slash makes the path absolute, two of them are kept as
two, and more are as good as one.
-/
namespace InlineNotes

inductive Root
  | here
  | single
  | double
  deriving DecidableEq

def Root.write : Root → Text
  | .here => []
  | .single => ['/']
  | .double => ['/', '/']

structure Path where
  root : Root
  parts : List Text
  deriving DecidableEq

namespace Path

def rootOf : Text → Root
  | '/' :: '/' :: '/' :: _ => .single
  | '/' :: '/' :: _ => .double
  | '/' :: _ => .single
  | _ => .here

def ofText (t : Text) : Path :=
  ⟨rootOf t, (Text.split '/' t).filter fun part => part ≠ [] ∧ part ≠ ['.']⟩

/-- The path without parts and without a root is written as a point. -/
def write (p : Path) : Text :=
  if p.root = .here ∧ p.parts = [] then ['.'] else p.root.write ++ Text.join '/' p.parts

def parent (p : Path) : Path := { p with parts := p.parts.dropLast }

/-- An absolute path on the right replaces the left one. -/
def append (p q : Path) : Path :=
  if q.root = .here then ⟨p.root, p.parts ++ q.parts⟩ else q

def name (p : Path) : Text := p.parts.getLastD []

/-- The name up to its last point, if there is something on both sides of it. -/
def stem (p : Path) : Text :=
  let ending := p.name.reverse.takeWhile (· ≠ '.')
  let before := (p.name.reverse.dropWhile (· ≠ '.')).tail.reverse
  if ending = [] ∨ before = [] then p.name else before

end Path

end InlineNotes
