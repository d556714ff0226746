import InlineNotes.Outline

/-!
# Deferral

Deferring a footnote puts a label in its place and its body into a table under
the label's id. Ids are numbered: the given stem of the id and a decimal. The
definitions of all footnotes of the table then follow the document as one block.

The table may hold footnotes already. They are defined again with the new ones,
and a new footnote takes the place of an old one with the same id.
-/
namespace InlineNotes

structure Deferral where
  pieces : List Segment
  notes : Table Text (List Segment)
  next : Int

/-- Numbers of any size make an id (see `Text.decimal`). -/
def numberedId (stem : Text) (number : Int) : Text := stem ++ Text.decimal number

namespace Deferral

/-- Replaces the footnotes of an outline by their labels, one number each. -/
def ofItems (stem : Text) : Table Text (List Segment) → Int → List Item → Deferral
  | notes, number, [] => ⟨[], notes, number⟩
  | notes, number, .plain piece :: rest =>
    let others := ofItems stem notes number rest
    ⟨piece :: others.pieces, others.notes, others.next⟩
  | notes, number, .note body :: rest =>
    let id := numberedId stem number
    let others := ofItems stem (notes.put id body) (number + 1) rest
    ⟨.literal (Label.write id) :: others.pieces, others.notes, others.next⟩

theorem ofItems_append (stem : Text) (notes : Table Text (List Segment)) (number : Int)
    (xs ys : List Item) :
    let first := ofItems stem notes number xs
    let others := ofItems stem first.notes first.next ys
    ofItems stem notes number (xs ++ ys) =
      ⟨first.pieces ++ others.pieces, others.notes, others.next⟩ := by
  induction xs generalizing notes number with
  | nil => rfl
  | cons x xs ih => cases x <;> simp [ofItems, ih]

end Deferral

def definition (id : Text) (body : List Segment) : List Segment :=
  .literal (Label.write id ++ [':', ' ']) :: body ++ [.literal ['\n']]

/-- One definition for every footnote of the table, after a blank line. -/
def definitionBlock (notes : Table Text (List Segment)) : List Segment :=
  if notes.isEmpty then []
  else .literal ['\n', '\n'] :: notes.entries.flatMap fun (id, body) => definition id body

/-- Defers all footnotes of a list of segments, numbered from `number` on. -/
def deferNotes (stem : Text) (notes : Table Text (List Segment)) (number : Int)
    (segments : List Segment) : Deferral :=
  let outline := Outline.ofSegments segments
  let d := Deferral.ofItems stem notes number outline.items
  { d with pieces := d.pieces ++ outline.tail ++ definitionBlock d.notes }

end InlineNotes
