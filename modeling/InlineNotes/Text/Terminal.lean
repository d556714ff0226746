import InlineNotes.Text.Basic

/-!
# Terminal sequences

A terminal takes `ESC [` as the start of a control sequence: any number of
parameter characters, any number of intermediate characters, and one final
character that ends it. The three classes are neighbouring ranges of ASCII. Streams
that are no terminal get texts without such sequences. An escape character that
starts none stays.
-/
namespace InlineNotes.Text

/-- Digits, the colon, the semicolon and `<`, `=`, `>`, `?`. -/
def isParameterChar (c : Char) : Bool := 0x30 ≤ c.toNat && c.toNat ≤ 0x3f

/-- The space and the signs up to the slash. -/
def isIntermediateChar (c : Char) : Bool := 0x20 ≤ c.toNat && c.toNat ≤ 0x2f

/-- Letters and the signs between and around them. -/
def isFinalChar (c : Char) : Bool := 0x40 ≤ c.toNat && c.toNat ≤ 0x7e

/-- What follows the terminal sequence at the start of a text. -/
def afterSequence? : Text → Option Text
  | '\x1b' :: '[' :: r =>
    match (r.dropWhile isParameterChar).dropWhile isIntermediateChar with
    | c :: rest => if isFinalChar c then some rest else none
    | [] => none
  | _ => none

theorem length_lt_of_afterSequence? {t rest : Text} (h : afterSequence? t = some rest) :
    rest.length < t.length := by
  unfold afterSequence? at h
  split at h
  · next r =>
    have hp := (List.dropWhile_sublist (p := isParameterChar) (l := r)).length_le
    have hi := (List.dropWhile_sublist (p := isIntermediateChar)
      (l := r.dropWhile isParameterChar)).length_le
    split at h
    · next c rest' he =>
      split at h
      · cases h
        rw [he] at hi
        simp at hi ⊢
        omega
      · cases h
    · cases h
  · cases h

def stripSequences : Text → Text
  | [] => []
  | c :: r =>
    match _h : afterSequence? (c :: r) with
    | some rest => stripSequences rest
    | none => c :: stripSequences r
  termination_by t => t.length
  decreasing_by
    · exact length_lt_of_afterSequence? _h
    · simp

end InlineNotes.Text
