import InlineNotes.Message.Emoji
import InlineNotes.Message.Literal
import InlineNotes.Message.Style
import InlineNotes.Text.Quoted

/-!
# Markup

Messages are written with tags in square brackets. A tag opens a style, and a tag that
starts with a slash closes one: the last open style of its name, or the last one of all
if it has no name. A style may stay open. A backslash takes a tag literally, and two
backslashes before a tag are one. Brackets that do not start like a tag are plain text,
in which emoji have names between colons.

A name that starts with `@` is that of a handler, whose parameters are read as a literal
when its tag is closed. The parameters of other tags are more words of their style.

A stream that is no terminal gets the text without the styles, so that all a tag can do
to it is to be in error. The styles are read all the same, and a number in one of them may
be at fault: in the name of a tag at once, and in its parameters when text in that style is
shown. A line that nothing breaks is shown with all its styles, those without text included.
-/
namespace InlineNotes.Message

/-- A name and what follows the first `=`. -/
structure Tag where
  name : Text
  parameters : Option Text
  deriving DecidableEq

namespace Tag

def ofText (t : Text) : Tag :=
  ⟨t.takeWhile (· ≠ '='),
    match t.dropWhile (· ≠ '=') with
    | [] => none
    | _ :: parameters => some parameters⟩

def write (tag : Tag) : Text :=
  '[' :: tag.name ++ tag.parameters.elim [] ('=' :: ·) ++ [']']

end Tag

/-- A tag as it stands in a text, and the text after it. -/
structure Bracket where
  backslashes : Nat
  inside : Text
  rest : Text
  deriving DecidableEq

def startsTag (c : Char) : Bool :=
  ('a' ≤ c && c ≤ 'z') || c = '#' || c = '/' || c = '@'

def isBackslash (c : Char) : Bool := c = '\\'

def isInside (c : Char) : Bool := c ≠ '[' && c ≠ ']'

def bracket? (t : Text) : Option Bracket :=
  match t.dropWhile isBackslash with
  | '[' :: c :: r =>
    match r.dropWhile isInside with
    | ']' :: rest =>
      if startsTag c then
        some ⟨(t.takeWhile isBackslash).length, c :: r.takeWhile isInside, rest⟩
      else none
    | _ => none
  | _ => none

/-- The characters that a bracket takes up. -/
def Bracket.size (b : Bracket) : Nat := b.backslashes + b.inside.length + 2

theorem size_add_length_rest {t : Text} {b : Bracket} (h : bracket? t = some b) :
    b.size + b.rest.length = t.length := by
  unfold bracket? at h
  have ht := congrArg List.length (List.takeWhile_append_dropWhile (p := isBackslash) (l := t))
  split at h
  · next c r he =>
    have hr := congrArg List.length (List.takeWhile_append_dropWhile (p := isInside) (l := r))
    split at h
    · next rest hd =>
      split at h
      · cases h
        rw [he] at ht
        rw [hd] at hr
        simp [Bracket.size] at ht hr ⊢
        omega
      · cases h
    · cases h
  · cases h

/-- The text before the next bracket, and the text from there on. -/
def beforeBracket : Text → Text × Text
  | [] => ([], [])
  | c :: r =>
    if (bracket? (c :: r)).isSome then ([], c :: r)
    else
      let split := beforeBracket r
      (c :: split.1, split.2)

inductive Piece
  | plain (t : Text)
  /-- A tag with its place in the text. -/
  | tag (position : Nat) (tag : Tag)
  deriving DecidableEq

/-- Every second backslash stays. If one is left over, the tag is taken literally. -/
def Bracket.pieces (b : Bracket) (position : Nat) : List Piece :=
  let kept := b.backslashes / 2
  (if kept = 0 then [] else [.plain (List.replicate kept '\\')]) ++
    [if b.backslashes % 2 = 1 then .plain ('[' :: b.inside ++ [']'])
      else .tag (position + 2 * kept) (.ofText b.inside)]

theorem beforeBracket_append (t : Text) : (beforeBracket t).1 ++ (beforeBracket t).2 = t := by
  induction t with
  | nil => rfl
  | cons c r ih =>
    unfold beforeBracket
    split
    · rfl
    · simp [ih]

theorem bracket?_eq_none_of_not_mem {t : Text} (h : '[' ∉ t) : bracket? t = none := by
  unfold bracket?
  split
  · next he =>
    have hm : '[' ∈ t.dropWhile isBackslash := by rw [he]; exact List.mem_cons_self
    exact absurd ((List.dropWhile_sublist _).mem hm) h
  · rfl

theorem beforeBracket_of_not_mem {t : Text} (h : '[' ∉ t) : beforeBracket t = (t, []) := by
  induction t with
  | nil => rfl
  | cons c r ih =>
    have hr : '[' ∉ r := fun hm => h (List.mem_cons_of_mem _ hm)
    simp [beforeBracket, bracket?_eq_none_of_not_mem h, ih hr]

theorem length_rest_lt {t : Text} {b : Bracket} (h : bracket? (beforeBracket t).2 = some b) :
    b.rest.length < t.length := by
  have hb := size_add_length_rest h
  have ht := congrArg List.length (beforeBracket_append t)
  rw [List.length_append] at ht
  have hs : 2 ≤ b.size := by unfold Bracket.size; omega
  omega

/-- The pieces of a text that starts at a place in a message. -/
def pieces (position : Nat) (t : Text) : List Piece :=
  let split := beforeBracket t
  let start := position + split.1.length
  (if split.1 = [] then [] else [.plain split.1]) ++
    match _h : bracket? split.2 with
    | none => []
    | some b => b.pieces start ++ pieces (start + b.size) b.rest
  termination_by t.length
  decreasing_by exact length_rest_lt _h

/-- Without brackets all is plain. -/
theorem pieces_of_not_mem {t : Text} (h : '[' ∉ t) (position : Nat) :
    pieces position t = if t = [] then [] else [.plain t] := by
  unfold pieces
  dsimp only
  rw [beforeBracket_of_not_mem h]
  exact List.append_nil _

inductive MarkupError
  | nothingOpen (position : Nat)
  | notOpen (tag : Tag) (position : Nat)
  | unreadParameters (parameters : Text)
  /-- A colour in a style cannot be read. -/
  | numeral (fault : Numeral.Fault)
  deriving DecidableEq

/-- What the reader of literals says about parameters is left out. -/
def MarkupError.message : MarkupError → Text
  | .nothingOpen position =>
    "closing tag '[/]' at position ".toList ++ Text.decimal position ++
      " has nothing to close".toList
  | .notOpen tag position =>
    "closing tag '".toList ++ tag.write ++ "' at position ".toList ++ Text.decimal position ++
      " doesn't match any open tag".toList
  | .unreadParameters parameters => "error parsing ".toList ++ Text.quoted parameters
  | .numeral fault => fault.message

namespace Tag

def isHandler (tag : Tag) : Bool := tag.name.head? = some '@'

/-- Characters beyond ASCII are taken for letters. -/
def isHandlerChar (c : Char) : Bool := Literal.isLetter c || Literal.isDecimal c || c = '.'

/-- Parameters are the name of a function with or without arguments in brackets behind it,
or they are all a literal. -/
def readsParameters (tag : Tag) : Bool :=
  let parameters := Text.trim (tag.parameters.getD [])
  match parameters.dropWhile isHandlerChar with
  | [] => true
  | '(' :: r =>
    if '\n' ∉ r ∧ r.getLast? = some ')' then Literal.isLiteral ('(' :: r)
    else Literal.isLiteral parameters
  | _ => Literal.isLiteral parameters

end Tag

/-- A backslash before a bracket that starts no tag is dropped. -/
def dropEscapes : Text → Text
  | '\\' :: '[' :: r => '[' :: dropEscapes r
  | c :: r => c :: dropEscapes r
  | [] => []

/-- Bell, backspace, vertical tab, form feed and carriage return would move the cursor. -/
def movesCursor (c : Char) : Bool := c.toNat ∈ [7, 8, 11, 12, 13]

def showPlain (t : Text) : Text :=
  (Emoji.replaceCodes (dropEscapes t)).filter fun c => !movesCursor c

/-- A tag that is not closed yet, its name in normal form, and where its text starts. -/
structure OpenTag where
  tag : Tag
  start : Nat

/-- A stretch of text and its style, in words. -/
structure Span where
  start : Nat
  stop : Nat
  style : Text

def OpenTag.span (o : OpenTag) (stop : Nat) : Span :=
  ⟨o.start, stop, o.tag.name ++ o.tag.parameters.elim [] (' ' :: ·)⟩

def Span.fault? (s : Span) : Option Numeral.Fault :=
  match Style.ofText? s.style with
  | .error fault => some fault
  | .ok _ => none

/-- Text with the tags that are open behind it and the styles of those that were closed,
the last one first. -/
structure Marked where
  text : Text := []
  opened : List OpenTag := []
  closed : List Span := []

namespace Marked

def putOpening (m : Marked) (tag : Tag) : Except MarkupError Marked :=
  match Style.normalForm tag.name with
  | .error fault => .error (.numeral fault)
  | .ok name => .ok { m with opened := ⟨{ tag with name }, m.text.length⟩ :: m.opened }

/-- Closes one of the open tags. A handler gives no style. -/
def close (m : Marked) (o : OpenTag) (others : List OpenTag) : Except MarkupError Marked :=
  if o.tag.isHandler then
    if o.tag.readsParameters then .ok { m with opened := others }
    else .error (.unreadParameters (o.tag.parameters.getD []))
  else .ok { m with opened := others, closed := o.span m.text.length :: m.closed }

def putTag (m : Marked) (tag : Tag) (position : Nat) : Except MarkupError Marked :=
  match tag.name with
  | '/' :: name =>
    if Text.trim name = [] then
      match m.opened with
      | [] => .error (.nothingOpen position)
      | o :: others => m.close o others
    else
      match Style.normalForm (Text.trim name) with
      | .error fault => .error (.numeral fault)
      | .ok style =>
        match m.opened.find? (·.tag.name = style) with
        | none => .error (.notOpen tag position)
        | some o => m.close o (m.opened.eraseP (·.tag.name = style))
  | _ => m.putOpening tag

def put (m : Marked) : Piece → Except MarkupError Marked
  | .plain t => .ok { m with text := m.text ++ showPlain t }
  | .tag position tag => m.putTag tag position

def ofMessage (message : Text) : Except MarkupError Marked := (pieces 0 message).foldlM put {}

/-- The styles of the text, in the order in which they start. -/
def spans (m : Marked) : List Span :=
  ((m.opened.map (·.span m.text.length)).reverse ++ m.closed).mergeSort fun a b =>
    decide (a.start ≤ b.start)

/-- Something of the stretch stands on a line. -/
def isSeen (m : Marked) (s : Span) : Bool :=
  ((m.text.drop s.start).take (s.stop - s.start)).any (· ≠ '\n')

/-- What is at fault with the styles when the text is shown, unbroken or not. Text that is
cut off at the end of a line counts as shown. -/
def fault? (m : Marked) (unbroken : Bool) : Option Numeral.Fault :=
  m.spans.findSome? fun s => s.fault?.filter fun _ => unbroken || m.isSeen s

end Marked

end InlineNotes.Message
