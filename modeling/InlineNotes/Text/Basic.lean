/-!
# Texts and byte strings

A text is its list of code points, and its length counts code points. Surrogates
are no characters here, so a text has none of them, not even alone. No encoding is
involved until a text meets a file or a stream; `Text.Utf8` holds that step.
Cutting at a separator and joining again are the two operations on whole texts that
lines and paths share.
-/
namespace InlineNotes

abbrev Text := List Char

abbrev Bytes := List UInt8

namespace Text

/-- Decimal digits, with a minus sign in front of a negative number. A number may have
any length here: the limit of 4300 digits, which `Numeral` keeps when numbers are read,
holds for writing them as well and is left out. -/
def decimal : Int → Text
  | .ofNat n => Nat.toDigits 10 n
  | .negSucc n => '-' :: Nat.toDigits 10 (n + 1)

/-- The parts between the separators: one more than there are separators. -/
def split (sep : Char) : Text → List Text
  | [] => [[]]
  | c :: r =>
    if c = sep then [] :: split sep r
    else match split sep r with
      | [] => [[c]]
      | part :: parts => (c :: part) :: parts

def join (sep : Char) : List Text → Text
  | [] => []
  | [part] => part
  | part :: parts => part ++ sep :: join sep parts

theorem split_ne_nil (sep : Char) (t : Text) : split sep t ≠ [] := by
  cases t with
  | nil => simp [split]
  | cons c r =>
    rw [split]
    by_cases hc : c = sep
    · rw [if_pos hc]
      exact List.cons_ne_nil _ _
    · rw [if_neg hc]
      cases split sep r with
      | nil => exact List.cons_ne_nil _ _
      | cons part parts => exact List.cons_ne_nil _ _

@[simp] theorem join_singleton (sep : Char) (part : Text) : join sep [part] = part := rfl

theorem join_cons (sep : Char) (part : Text) {parts : List Text} (h : parts ≠ []) :
    join sep (part :: parts) = part ++ sep :: join sep parts := by
  cases parts with
  | nil => exact absurd rfl h
  | cons _ _ => rfl

@[simp] theorem join_split (sep : Char) (t : Text) : join sep (split sep t) = t := by
  induction t with
  | nil => rfl
  | cons c r ih =>
    have hne := split_ne_nil sep r
    unfold split
    by_cases hc : c = sep
    · simp [hc, join_cons sep [] hne, ih]
    · simp only [hc, if_false]
      match hr : split sep r with
      | [] => exact absurd hr hne
      | [part] => simp [hr] at ih; simp [ih]
      | part :: p :: parts =>
        rw [hr, join_cons sep part (by simp)] at ih
        rw [join_cons sep (c :: part) (by simp)]
        simp [← ih]

theorem not_mem_of_mem_split {sep : Char} {t part : Text} (h : part ∈ split sep t) :
    sep ∉ part := by
  induction t generalizing part with
  | nil => simp [split] at h; simp [h]
  | cons c r ih =>
    unfold split at h
    by_cases hc : c = sep
    · simp only [hc, if_true, List.mem_cons] at h
      rcases h with rfl | h
      · simp
      · exact ih h
    · simp only [hc, if_false] at h
      match hr : split sep r with
      | [] => exact absurd hr (split_ne_nil sep r)
      | p :: ps =>
        rw [hr] at h ih
        rcases List.mem_cons.mp h with rfl | h
        · simp [Ne.symm hc, ih List.mem_cons_self]
        · exact ih (List.mem_cons_of_mem _ h)

theorem mem_join_of_mem {sep c : Char} {parts : List Text} {part : Text} (hpart : part ∈ parts)
    (hc : c ∈ part) : c ∈ join sep parts := by
  induction parts with
  | nil => cases hpart
  | cons first rest ih =>
    by_cases hrest : rest = []
    · subst hrest
      rw [List.mem_singleton.mp hpart] at hc
      exact hc
    · rw [join_cons sep first hrest, List.mem_append, List.mem_cons]
      rcases List.mem_cons.mp hpart with rfl | hpart
      · exact Or.inl hc
      · exact Or.inr (Or.inr (ih hpart))

theorem eq_or_mem_of_mem_join {sep c : Char} {parts : List Text} (h : c ∈ join sep parts) :
    c = sep ∨ ∃ part ∈ parts, c ∈ part := by
  induction parts with
  | nil => cases h
  | cons first rest ih =>
    by_cases hrest : rest = []
    · subst hrest
      exact Or.inr ⟨first, List.mem_singleton_self _, h⟩
    · rw [join_cons sep first hrest, List.mem_append, List.mem_cons] at h
      rcases h with h | rfl | h
      · exact Or.inr ⟨first, List.mem_cons_self, h⟩
      · exact Or.inl rfl
      · rcases ih h with rfl | ⟨part, hpart, hc⟩
        · exact Or.inl rfl
        · exact Or.inr ⟨part, List.mem_cons_of_mem _ hpart, hc⟩

theorem split_of_not_mem {sep : Char} {t : Text} (h : sep ∉ t) : split sep t = [t] := by
  induction t with
  | nil => rfl
  | cons c r ih =>
    rw [List.mem_cons, not_or] at h
    rw [split, if_neg (Ne.symm h.1), ih h.2]

/-- A separator ends the last part before it. -/
theorem split_append_cons (sep : Char) (s t : Text) :
    split sep (s ++ sep :: t) = split sep s ++ split sep t := by
  induction s with
  | nil => simp [split]
  | cons c r ih =>
    by_cases hc : c = sep
    · simp [split, hc, ih]
    · match hr : split sep r with
      | [] => exact absurd hr (split_ne_nil sep r)
      | part :: parts => simp [split, hc, ih, hr]

theorem split_join {sep : Char} {parts : List Text} (hne : parts ≠ [])
    (h : ∀ part ∈ parts, sep ∉ part) : split sep (join sep parts) = parts := by
  induction parts with
  | nil => exact absurd rfl hne
  | cons part parts ih =>
    have hpart := split_of_not_mem (h part List.mem_cons_self)
    by_cases hparts : parts = []
    · rw [hparts, join_singleton, hpart]
    · rw [join_cons sep part hparts, split_append_cons, hpart,
        ih hparts fun p hp => h p (List.mem_cons_of_mem _ hp)]
      rfl

theorem mem_of_mem_split {sep c : Char} {t part : Text} (hpart : part ∈ split sep t)
    (hc : c ∈ part) : c ∈ t := by
  rw [← join_split sep t]
  exact mem_join_of_mem hpart hc

end Text

end InlineNotes
