import InlineNotes.Text.Basic

/-!
# Sets of ids

A set of ids is kept as its strictly increasing list, in the order of code
points. Two sets with the same members are therefore the same value, and the
list is already in the order in which reports show it.
-/
namespace InlineNotes

structure IdSet where
  toList : List Text
  sorted : toList.Pairwise (· < ·)
  deriving DecidableEq

namespace IdSet

def insertList (id : Text) : List Text → List Text
  | [] => [id]
  | x :: xs => if id < x then id :: x :: xs else if id = x then x :: xs else x :: insertList id xs

theorem mem_insertList {id x : Text} {xs : List Text} :
    x ∈ insertList id xs ↔ x = id ∨ x ∈ xs := by
  induction xs with
  | nil => simp [insertList]
  | cons y ys ih =>
    unfold insertList
    split
    · simp
    · split
      · next h => simp [h]
      · simp only [List.mem_cons, ih]
        constructor
        · rintro (h | h | h) <;> simp [h]
        · rintro (h | h | h) <;> simp [h]

theorem pairwise_insertList {id : Text} {xs : List Text} (h : xs.Pairwise (· < ·)) :
    (insertList id xs).Pairwise (· < ·) := by
  induction xs with
  | nil => simp [insertList]
  | cons y ys ih =>
    have ⟨hy, hys⟩ := List.pairwise_cons.mp h
    unfold insertList
    split
    · next hlt =>
      refine List.pairwise_cons.mpr ⟨fun z hz => ?_, h⟩
      rcases List.mem_cons.mp hz with rfl | hz
      · exact hlt
      · exact List.lt_trans hlt (hy z hz)
    · split
      · exact h
      · next hlt hne =>
        refine List.pairwise_cons.mpr ⟨fun z hz => ?_, ih hys⟩
        rcases mem_insertList.mp hz with rfl | hz
        · exact ((Std.lt_trichotomy z y).resolve_left hlt).resolve_left hne
        · exact hy z hz

def empty : IdSet := ⟨[], .nil⟩

def insert (id : Text) (s : IdSet) : IdSet := ⟨insertList id s.toList, pairwise_insertList s.sorted⟩

def ofList (ids : List Text) : IdSet := ids.foldr insert empty

instance : Membership Text IdSet := ⟨fun s id => id ∈ s.toList⟩

instance (id : Text) (s : IdSet) : Decidable (id ∈ s) := inferInstanceAs (Decidable (id ∈ s.toList))

@[simp] theorem not_mem_empty (id : Text) : id ∉ empty := List.not_mem_nil

@[simp] theorem mem_insert {id x : Text} {s : IdSet} : x ∈ s.insert id ↔ x = id ∨ x ∈ s :=
  mem_insertList

@[simp] theorem mem_ofList {id : Text} {ids : List Text} : id ∈ ofList ids ↔ id ∈ ids := by
  induction ids with
  | nil => simp [ofList]
  | cons x xs ih => simpa [ofList] using or_congr Iff.rfl ih

end IdSet

end InlineNotes
