import InlineNotes.Note.Label
import InlineNotes.Note.IdSet

/-!
# Definitions

A label that is followed by a colon defines its id, wherever it stands: inside
other brackets and after an opener that never closes too. Labels cannot overlap,
because an opening bracket is no id character, so looking at every place of the
text finds each of them once.
-/
namespace InlineNotes

/-- The id that is defined at the start of a text. -/
def definedId? (t : Text) : Option Text :=
  match Label.read? t with
  | some (id, ':' :: _) => some id
  | _ => none

/-- The ids that a text defines, in the order of their definitions. -/
def definedIdList : Text → List Text
  | [] => []
  | c :: r => (definedId? (c :: r)).toList ++ definedIdList r

def definedIds (t : Text) : IdSet := .ofList (definedIdList t)

theorem definedId?_eq_some_iff {t id : Text} :
    definedId? t = some id ↔ IsId id ∧ (Label.write id ++ [':']) <+: t := by
  constructor
  · intro h
    unfold definedId? at h
    split at h
    · next id' rest hr =>
      cases h
      obtain ⟨hid, rfl⟩ := Label.eq_write_of_read? hr
      exact ⟨hid, rest, by simp⟩
    · cases h
  · rintro ⟨hid, rest, rfl⟩
    have := Label.read?_write hid (':' :: rest)
    simp only [List.append_assoc, List.cons_append, List.nil_append] at *
    simp [definedId?, this]

end InlineNotes
