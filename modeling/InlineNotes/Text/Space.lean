import InlineNotes.Text.Numeral

/-!
# White space

The characters that separate words: the blanks that may stand around a numeral, and
the four information separators of ASCII. A text is cut into words at its white
space, and trimmed of what stands around it.
-/
namespace InlineNotes.Text

def isSpace (c : Char) : Bool := Numeral.isBlank c || (0x1c ≤ c.toNat && c.toNat ≤ 0x1f)

def trimRight (t : Text) : Text := (t.reverse.dropWhile isSpace).reverse

def trim (t : Text) : Text := trimRight (t.dropWhile isSpace)

/-- The longest runs without white space. -/
def words : Text → List Text
  | [] => []
  | c :: r =>
    if isSpace c then words r
    else if r.head?.all isSpace then [c] :: words r
    else match words r with
      | [] => [[c]]
      | w :: ws => (c :: w) :: ws

end InlineNotes.Text
