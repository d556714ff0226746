import InlineNotes.Table
import InlineNotes.Note.Definition

/-!
# Segments

A document is handled as a list of segments: literal text, and references to
footnotes that the document defines. A reference is opaque. It has a number and
its label, and whatever moves segments around moves it as one thing.

`protectReferences` cuts a text into segments. Its literals are never empty and
never adjacent, and its references are numbered from zero in the order of the
text. `restore` is the way back: it writes every reference as the table of
labels says, or as its own label where the table says nothing.
-/
namespace InlineNotes

structure Reference where
  index : Int
  label : Text
  deriving DecidableEq

inductive Segment
  | literal (text : Text)
  | reference (ref : Reference)
  deriving DecidableEq

namespace Segment

/-- The segments of a literal text: none when it is empty. -/
def ofText : Text → List Segment
  | [] => []
  | c :: r => [.literal (c :: r)]

/-- Puts a character in front of the first literal, or makes a literal of it. -/
def consChar (c : Char) : List Segment → List Segment
  | .literal t :: rest => .literal (c :: t) :: rest
  | rest => .literal [c] :: rest

def reference? : Segment → Option Reference
  | .literal _ => none
  | .reference ref => some ref

def write (labels : Table Int Text) : Segment → Text
  | .literal t => t
  | .reference ref => (labels.get? ref.index).getD ref.label

end Segment

/-- The label at the start of a text and what follows it, if the label refers to
one of the given ids. Before a colon it would be a definition. -/
def readReference? (ids : IdSet) (t : Text) : Option (Text × Text) :=
  match Label.read? t with
  | some (_, ':' :: _) => none
  | some (id, rest) => if id ∈ ids then some (Label.write id, rest) else none
  | none => none

theorem eq_append_of_readReference? {ids : IdSet} {t label rest : Text}
    (h : readReference? ids t = some (label, rest)) : t = label ++ rest := by
  unfold readReference? at h
  split at h
  · cases h
  · next hr =>
    split at h
    · cases h
      exact (Label.eq_write_of_read? hr).2
    · cases h
  · cases h

theorem length_lt_of_readReference? {ids : IdSet} {t label rest : Text}
    (h : readReference? ids t = some (label, rest)) : rest.length < t.length := by
  unfold readReference? at h
  split at h
  · cases h
  · next hr =>
    split at h
    · cases h
      exact Label.length_lt_of_read? hr
    · cases h
  · cases h

/-- Cuts out the references to the given ids, numbered from `index` on. -/
def protectFrom (ids : IdSet) (index : Int) : Text → List Segment
  | [] => []
  | c :: r =>
    match h : readReference? ids (c :: r) with
    | some (label, rest) => .reference ⟨index, label⟩ :: protectFrom ids (index + 1) rest
    | none => Segment.consChar c (protectFrom ids index r)
  termination_by t => t.length
  decreasing_by
    · exact length_lt_of_readReference? h
    · simp

@[simp] theorem protectFrom_nil (ids : IdSet) (index : Int) : protectFrom ids index [] = [] := by
  rw [protectFrom]

theorem protectFrom_of_reference {ids : IdSet} {index : Int} {t label rest : Text}
    (h : readReference? ids t = some (label, rest)) :
    protectFrom ids index t = .reference ⟨index, label⟩ :: protectFrom ids (index + 1) rest := by
  cases t with
  | nil => cases h
  | cons c r =>
    rw [protectFrom]
    split
    · next h' => rw [h] at h'; cases h'; rfl
    · next h' => rw [h] at h'; cases h'

theorem protectFrom_of_char {ids : IdSet} {index : Int} {c : Char} {r : Text}
    (h : readReference? ids (c :: r) = none) :
    protectFrom ids index (c :: r) = Segment.consChar c (protectFrom ids index r) := by
  rw [protectFrom]
  split
  · next h' => rw [h] at h'; cases h'
  · rfl

def protectReferences (ids : IdSet) (t : Text) : List Segment := protectFrom ids 0 t

/-- The label of every reference under its number. -/
def labelTable (segments : List Segment) : Table Int Text :=
  .ofList ((segments.filterMap Segment.reference?).map fun ref => (ref.index, ref.label))

def restore (labels : Table Int Text) (segments : List Segment) : Text :=
  segments.flatMap (Segment.write labels)

end InlineNotes
