import InlineNotes.Conversion
import InlineNotes.Json.Basic

/-!
# Reports

A report tells what a conversion did: where the document came from, whether it
changed, the footnotes that were deferred, the references that were kept and the
ids that the document defines. It is written as one JSON object.
-/
namespace InlineNotes.Conversion

def noteObject (id body : Text) : Json :=
  .object [("id".toList, .string id), ("body".toList, .string body)]

def summary (source : Text) (r : Conversion) : Json :=
  .object [
    ("source".toList, .string source),
    ("changed".toList, .bool r.changed),
    ("footnotes".toList, .array (r.notes.entries.map fun (id, body) => noteObject id body)),
    ("protected_references".toList, .array (r.kept.map .string)),
    ("defined_ids".toList, .array (r.defined.toList.map .string))]

def report (source : Text) (r : Conversion) : Text := (r.summary source).write

end InlineNotes.Conversion
