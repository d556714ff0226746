import InlineNotes.Message.Markup
import InlineNotes.Message.Wrap

/-!
# Messages

A message is written in markup and shown as lines of at most eighty columns, or in a
box that is as narrow as its longest line allows. Messages are shown one after the
other, and the first one in error ends them.

What a run does with its messages does not depend on how they are shown, so a run takes
the screen that shows them (`Screen`). The one above is `console`.
-/
namespace InlineNotes.Message

/-- Shows a message on lines of its own or in a box, or says what is wrong with it. -/
structure Screen where
  line : Text → Except MarkupError Text
  box : Text → Except MarkupError Text
  getLast?_box {message t : Text} : box message = .ok t → t.getLast? = some '\n'

/-- The shown messages, and the error of the first one that cannot be shown. -/
def Screen.lines (screen : Screen) : List Text → Text × Option MarkupError
  | [] => ([], none)
  | m :: ms =>
    match screen.line m with
    | .error e => ([], some e)
    | .ok t =>
      let others := screen.lines ms
      (t ++ others.1, others.2)

def screenWidth : Nat := 80

/-- One line that is not broken, and has no tabs either. -/
def isUnbroken (width : Nat) (t : Text) : Bool :=
  '\n' ∉ t && '\t' ∉ t && (breakLine width t).length = 1

def render (message : Text) : Except MarkupError Text :=
  match Marked.ofMessage message with
  | .error e => .error e
  | .ok m =>
    match m.fault? (isUnbroken screenWidth m.text) with
    | some fault => .error (.numeral fault)
    | none => .ok (Text.unlines (wrap screenWidth m.text) ++ ['\n'])

/-- The characters at which a text is cut to be measured. -/
def endsLine (c : Char) : Bool := c.toNat ∈ [0xa, 0x1c, 0x1d, 0x1e, 0x85, 0x2028, 0x2029]

def widest (t : Text) : Nat :=
  ((Text.lines (t.map fun c => if endsLine c then '\n' else c)).map columns).foldl max 0

def boxLine (width : Nat) (line : Text) : Text :=
  '│' :: ' ' :: line ++ List.replicate (width - columns line) ' ' ++ [' ', '│', '\n']

/-- Rounded corners around lines of text, with a blank on each side. -/
def boxed (width : Nat) (ls : List Text) : Text :=
  '╭' :: List.replicate (width + 2) '─' ++ ['╮', '\n'] ++ ls.flatMap (boxLine width) ++
    '╰' :: List.replicate (width + 2) '─' ++ ['╯', '\n']

theorem getLast?_boxed (width : Nat) (ls : List Text) : (boxed width ls).getLast? = some '\n' := by
  have hend : ['╯', '\n'] = ['╯'] ++ ['\n'] := rfl
  rw [boxed, hend, ← List.append_assoc, List.getLast?_concat]

def renderBox (message : Text) : Except MarkupError Text :=
  match Marked.ofMessage message with
  | .error e => .error e
  | .ok m =>
    match m.fault? false with
    | some fault => .error (.numeral fault)
    | none =>
      let width := min (widest m.text) (screenWidth - 4)
      .ok (boxed width (wrap width m.text))

theorem getLast?_renderBox {message t : Text} (h : renderBox message = .ok t) :
    t.getLast? = some '\n' := by
  unfold renderBox at h
  split at h
  · cases h
  · split at h
    · cases h
    · cases h
      exact getLast?_boxed _ _

/-- The screen of eighty columns. -/
def console : Screen := ⟨render, renderBox, getLast?_renderBox⟩

end InlineNotes.Message
