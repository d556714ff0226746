import InlineNotes.Text.Lines

/-!
# White space before the first stage

A document enters the pipeline with its white space in one form: no start and end
marks, newlines of one kind, no tabs, two newlines at the end, and nothing on a
line of blanks unless it is the first line.
-/
namespace InlineNotes

/-- The control characters U+0002 and U+0003, which the pipeline keeps for
itself. -/
def isReserved (c : Char) : Bool := c == '\x02' || c == '\x03'

/-- Fills up with blanks to the next column that `width` divides. -/
def expandTabs (width : Nat) : (column : Nat) → Text → Text
  | _, [] => []
  | _, '\n' :: r => '\n' :: expandTabs width 0 r
  | column, '\t' :: r =>
    let blanks := width - column % width
    List.replicate blanks ' ' ++ expandTabs width (column + blanks) r
  | column, c :: r => c :: expandTabs width (column + 1) r

def clearBlankLine (line : Text) : Text := if line.all (· == ' ') then [] else line

/-- Clears the lines of blanks after the first line. -/
def clearBlankLines : List Text → List Text
  | [] => []
  | first :: rest => first :: rest.map clearBlankLine

def normalizeWhitespace (t : Text) : Text :=
  let unified := Text.unifyNewlines (t.filter (!isReserved ·)) ++ ['\n', '\n']
  Text.unlines (clearBlankLines (Text.lines (expandTabs 4 0 unified)))

end InlineNotes
