import InlineNotes.Deferral
import InlineNotes.Text.Quoted

/-!
# Conversion

Converting a document defers its inline footnotes and keeps the references to
footnotes that it defines itself. Ids that come out twice are not told apart: a
footnote that the document already calls `inline1` stays beside the first one
that the conversion numbers.

Two things are checked first, in this order: that the stem of the new ids is
made of id characters, and that the document is no longer than a limit, if
there is one. A document without `[^` comes back as it is, and then nothing else
is reported about it.
-/
namespace InlineNotes

inductive ConversionError
  | invalidStem (stem : Text)
  | tooLong (length : Nat) (limit : Int)
  deriving DecidableEq

def ConversionError.message : ConversionError → Text
  | .invalidStem stem => "Invalid footnote id prefix: ".toList ++ stem.quoted
  | .tooLong length limit =>
    "Document is ".toList ++ Text.decimal length ++ " characters, limit is ".toList ++
      Text.decimal limit

structure Conversion where
  text : Text
  notes : Table Text Text
  kept : List Text
  defined : IdSet

namespace Conversion

def changed (r : Conversion) : Bool := !r.notes.isEmpty

theorem changed_eq_true_iff (r : Conversion) : r.changed = true ↔ r.notes.entries ≠ [] := by
  rw [changed, Bool.not_eq_true', ← Bool.not_eq_true, Table.isEmpty_iff]

/-- The result for a document in which no footnote can start. -/
def unchanged (t : Text) : Conversion := ⟨t, .empty, [], .empty⟩

/-- The result that deferring the segments of a document amounts to. -/
def ofSegments (stem : Text) (ids : IdSet) (segments : List Segment) : Conversion :=
  let labels := labelTable segments
  let d := deferNotes stem .empty 1 segments
  { text := restore labels d.pieces
    notes := d.notes.map (restore labels)
    kept := labels.entries.map (·.2)
    defined := ids }

end Conversion

def defaultStem : Text := "inline".toList

/-- What is wrong with the stem, or else with the length of a document. -/
def checkRequest (stem : Text) (limit : Option Int) (t : Text) : Option ConversionError :=
  if ¬IsId stem then some (.invalidStem stem)
  else match limit with
    | none => none
    | some limit => if limit < t.length then some (.tooLong t.length limit) else none

def convertValid (stem : Text) (t : Text) : Conversion :=
  if (cutAtOpener? t).isNone then .unchanged t
  else
    let ids := definedIds t
    .ofSegments stem ids (protectReferences ids t)

def convert (stem : Text) (limit : Option Int) (t : Text) : Except ConversionError Conversion :=
  match checkRequest stem limit t with
  | some e => .error e
  | none => .ok (convertValid stem t)

/-- The text of a conversion with the usual stem and without a limit. -/
def deferredText (t : Text) : Text := (convertValid defaultStem t).text

end InlineNotes
