import InlineNotes.Text.Basic

/-!
# Labels

A footnote is referred to by its label `[^id]`. An id is a non-empty run of
ASCII letters, digits and the four marks `_`, `-`, `:` and `.`. A closing
bracket is no id character, so at most one label starts at any place of a text,
and `Label.read?` finds it: `Label.read?_eq_some_iff` says that reading is the
exact inverse of writing. Nothing here says whether a label refers to a footnote
or defines one; that depends on what follows it.
-/
namespace InlineNotes

def isIdChar (c : Char) : Bool :=
  c.isAlphanum || c == '_' || c == '-' || c == ':' || c == '.'

def IsId (id : Text) : Prop := id ≠ [] ∧ ∀ c ∈ id, isIdChar c = true

-- The characters of the id are looked at, not all characters that there are.
instance (id : Text) : Decidable (IsId id) :=
  @instDecidableAnd _ _ inferInstance (List.decidableBAll (fun c => isIdChar c = true) id)

namespace Label

/-- The two characters with which labels and inline footnotes start. -/
def opener : Text := ['[', '^']

def write (id : Text) : Text := opener ++ id ++ [']']

/-- The id of the label at the start of a text, and what follows the label. -/
def read? : Text → Option (Text × Text)
  | '[' :: '^' :: r =>
    match r.dropWhile isIdChar with
    | ']' :: rest =>
      if r.takeWhile isIdChar = [] then none else some (r.takeWhile isIdChar, rest)
    | _ => none
  | _ => none

theorem length_write (id : Text) : (write id).length = id.length + 3 := by
  simp [write, opener]

theorem not_isIdChar_close : isIdChar ']' = false := by decide

theorem not_isIdChar_open : isIdChar '[' = false := by decide

theorem takeWhile_id {id : Text} (h : IsId id) (rest : Text) :
    (id ++ ']' :: rest).takeWhile isIdChar = id := by
  rw [List.takeWhile_append_of_pos h.2]
  simp [not_isIdChar_close]

theorem dropWhile_id {id : Text} (h : IsId id) (rest : Text) :
    (id ++ ']' :: rest).dropWhile isIdChar = ']' :: rest := by
  rw [List.dropWhile_append_of_pos h.2]
  simp [not_isIdChar_close]

theorem read?_write {id : Text} (h : IsId id) (rest : Text) :
    read? (write id ++ rest) = some (id, rest) := by
  simp [write, opener, read?, takeWhile_id h, dropWhile_id h, h.1]

theorem eq_write_of_read? {t id rest : Text} (h : read? t = some (id, rest)) :
    IsId id ∧ t = write id ++ rest := by
  unfold read? at h
  split at h
  · next r =>
    split at h
    · next rest' hd =>
      split at h
      · cases h
      · next hne =>
        cases h
        refine ⟨⟨hne, List.all_eq_true.mp List.all_takeWhile⟩, ?_⟩
        conv => lhs; rw [← List.takeWhile_append_dropWhile (p := isIdChar) (l := r), hd]
        simp [write, opener]
    · cases h
  · cases h

/-- Reading accepts exactly what writing produces. -/
theorem read?_eq_some_iff {t id rest : Text} :
    read? t = some (id, rest) ↔ IsId id ∧ t = write id ++ rest :=
  ⟨eq_write_of_read?, fun ⟨hid, ht⟩ => ht ▸ read?_write hid rest⟩

theorem length_lt_of_read? {t id rest : Text} (h : read? t = some (id, rest)) :
    rest.length < t.length := by
  rw [(eq_write_of_read? h).2]
  simp [write, opener]
  omega

end Label

end InlineNotes
