import InlineNotes.Report
import InlineNotes.Proofs.Encoding
import InlineNotes.Proofs.JsonReading

/-!
# What a report says

A report is bytes: the UTF-8 of one JSON object. Reading the bytes and then the JSON
gives this object back, and no other value has the same text, so everything that a
report shows can be taken from its bytes: the source, the notes in the order of their
table, the kept references in theirs, and the defined ids. These come as a strictly
increasing list, which a set of ids has only one of. Whether the document changed is
told beside the notes and agrees with them.
-/
namespace InlineNotes

/-- The value that the bytes of a JSON document are. -/
def Json.readBytes? (bytes : Bytes) : Option Json :=
  match Utf8.decode bytes with
  | .ok t => read? t
  | .error _ => none

theorem Json.readBytes?_encode_write (v : Json) : readBytes? (Utf8.encode v.write) = some v := by
  rw [readBytes?, Utf8.decode_encode]
  exact read?_eq_some_iff.mpr (spellsValue_write v)

theorem Json.write_injective {v w : Json} (h : v.write = w.write) : v = w :=
  (spellsValue_write v).unique (h ▸ spellsValue_write w)

theorem map_string_injective {xs ys : List Text} (h : xs.map Json.string = ys.map Json.string) :
    xs = ys :=
  (List.map_inj_right fun _ _ => Json.string.inj).mp h

namespace Conversion

theorem map_noteObject_injective {ps qs : List (Text × Text)}
    (h : (ps.map fun (id, body) => noteObject id body) =
      qs.map fun (id, body) => noteObject id body) : ps = qs := by
  refine (List.map_inj_right ?_).mp h
  rintro ⟨id, body⟩ ⟨id', body'⟩ heq
  simpa [noteObject] using heq

/-- The object of a report leaves nothing out that the report is about. -/
theorem summary_eq_iff {source source' : Text} {r s : Conversion} :
    r.summary source = s.summary source' ↔
      source = source' ∧ r.notes = s.notes ∧ r.kept = s.kept ∧ r.defined = s.defined := by
  constructor
  · intro h
    simp only [summary, Json.object.injEq, List.cons.injEq, Prod.mk.injEq, Json.string.injEq,
      Json.array.injEq, true_and, and_true] at h
    obtain ⟨hsource, -, hnotes, hkept, hdefined⟩ := h
    refine ⟨hsource, Table.eq_of_entries_eq (map_noteObject_injective hnotes),
      map_string_injective hkept, ?_⟩
    have hlist := map_string_injective hdefined
    cases hr : r.defined
    cases hs : s.defined
    rw [hr, hs] at hlist
    cases hlist
    rfl
  · rintro ⟨rfl, hnotes, hkept, hdefined⟩
    rw [summary, summary, changed, changed, hnotes, hkept, hdefined]

/-- The bytes of a report are one JSON document and say one value, which is the object
of all that the report is about: no field is lost on the way, and reports with the same
bytes agree in every field. -/
theorem report_reads_back (source : Text) (r : Conversion) :
    ∃ (value : Json) (changed : Bool) (ids : List Text),
      value = .object [
        ("source".toList, .string source),
        ("changed".toList, .bool changed),
        ("footnotes".toList, .array (r.notes.entries.map fun (id, body) =>
          .object [("id".toList, .string id), ("body".toList, .string body)])),
        ("protected_references".toList, .array (r.kept.map .string)),
        ("defined_ids".toList, .array (ids.map .string))] ∧
      (changed = true ↔ r.notes.entries ≠ []) ∧
      ids.Pairwise (· < ·) ∧ (∀ id, id ∈ ids ↔ id ∈ r.defined) ∧
      (∀ v, Json.SpellsValue v (r.report source) ↔ v = value) ∧
      Json.readBytes? (Utf8.encode (r.report source)) = some value ∧
      ∀ (source' : Text) (s : Conversion),
        Utf8.encode (r.report source) = Utf8.encode (s.report source') ↔
          source = source' ∧ r.notes = s.notes ∧ r.kept = s.kept ∧ r.defined = s.defined := by
  have hspells : Json.SpellsValue (r.summary source) (r.report source) :=
    Json.spellsValue_write _
  refine ⟨r.summary source, r.changed, r.defined.toList, rfl, r.changed_eq_true_iff,
    r.defined.sorted, fun id => Iff.rfl, fun v => ?_, Json.readBytes?_encode_write _,
    fun source' s => ?_⟩
  · constructor
    · exact fun h => h.unique hspells
    · rintro rfl
      exact hspells
  · rw [← summary_eq_iff]
    constructor
    · exact fun h => Json.write_injective (Utf8.encode_injective h)
    · exact fun h => congrArg (fun v => Utf8.encode v.write) h

end Conversion

end InlineNotes
