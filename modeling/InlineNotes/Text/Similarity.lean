import InlineNotes.Text.Basic

/-!
# Similar words

Two words are compared by the characters that they share in blocks: their longest
common block, and again what is left of both before it and after it. Of several
longest blocks the one that starts first counts, in the first word and then in
the second. The words are close if six tenths of their characters are shared.
-/
namespace InlineNotes.Similarity

/-- How many characters two texts have in common from their starts on. -/
def commonLength : Text → Text → Nat
  | a :: as, b :: bs => if a = b then commonLength as bs + 1 else 0
  | _, _ => 0

structure Block where
  first : Nat
  second : Nat
  size : Nat

def Block.larger (x y : Block) : Block := if x.size < y.size then y else x

/-- All pairs of places, with what the texts have in common from there on. -/
def blocks (a b : Text) : List Block :=
  (List.range a.length).flatMap fun i =>
    (List.range b.length).map fun j => ⟨i, j, commonLength (a.drop i) (b.drop j)⟩

def longestBlock (a b : Text) : Block := (blocks a b).foldl Block.larger ⟨0, 0, 0⟩

def sharedLength (a b : Text) : Nat :=
  match longestBlock a b with
  | ⟨first, second, size⟩ =>
    if _h : size = 0 ∨ a.length ≤ first then 0
    else
      sharedLength (a.take first) (b.take second) + size +
        sharedLength (a.drop (first + size)) (b.drop (second + size))
  termination_by a.length
  decreasing_by
    · simp; omega
    · simp; omega

def isClose (a b : Text) : Bool := 3 * (a.length + b.length) ≤ 10 * sharedLength a b

/-- Whether the first word is at least as close to `word` as the second; of two
equally close words the later one in the order of code points is preferred. -/
def closerOrEqual (word a b : Text) : Bool :=
  let left := sharedLength a word * (b.length + word.length)
  let right := sharedLength b word * (a.length + word.length)
  right < left || (left == right && !decide (a < b))

/-- The three words closest to `word`, if they are close at all, in order. -/
def closest (word : Text) (words : List Text) : List Text :=
  (((words.filter (isClose · word)).mergeSort (closerOrEqual word)).take 3).mergeSort
    fun a b => !decide (b < a)

end InlineNotes.Similarity
