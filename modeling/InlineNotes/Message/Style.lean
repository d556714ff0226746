import InlineNotes.Table
import InlineNotes.Text.LowerCase
import InlineNotes.Text.Space

/-!
# Styles

A style is written in words: what text looks like, its colour, the colour behind it,
and where a link leads. Styles with the same effect have one normal form, in which the
words have a fixed order and no word has two spellings. A text that says no style is
its own normal form but for its case.

One mistake is not taken for a text that says no style: a colour of three parts of which
one is no number, or too long a number. Reading such a text fails.
-/
namespace InlineNotes.Message

inductive Attribute
  | bold
  | dim
  | italic
  | underline
  | blink
  | fastBlink
  | reverse
  | conceal
  | strike
  | doubleUnderline
  | frame
  | encircle
  | overline
  deriving DecidableEq

namespace Attribute

def all : List Attribute :=
  [bold, dim, italic, underline, blink, fastBlink, reverse, conceal, strike, doubleUnderline,
    frame, encircle, overline]

def name : Attribute → String
  | bold => "bold"
  | dim => "dim"
  | italic => "italic"
  | underline => "underline"
  | blink => "blink"
  | fastBlink => "blink2"
  | reverse => "reverse"
  | conceal => "conceal"
  | strike => "strike"
  | doubleUnderline => "underline2"
  | frame => "frame"
  | encircle => "encircle"
  | overline => "overline"

def abbreviation? : Attribute → Option String
  | bold => some "b"
  | dim => some "d"
  | italic => some "i"
  | underline => some "u"
  | reverse => some "r"
  | conceal => some "c"
  | strike => some "s"
  | doubleUnderline => some "uu"
  | overline => some "o"
  | _ => none

def ofText? (t : Text) : Option Attribute :=
  all.find? fun a => a.name.toList = t ∨ a.abbreviation?.map String.toList = some t

end Attribute

namespace Colour

def names : List String := [
    "black", "red", "green", "yellow", "blue", "magenta", "cyan", "white", "bright_black",
    "bright_red", "bright_green", "bright_yellow", "bright_blue", "bright_magenta",
    "bright_cyan", "bright_white", "grey0", "gray0", "navy_blue", "dark_blue", "blue3",
    "blue1", "dark_green", "deep_sky_blue4", "dodger_blue3", "dodger_blue2", "green4",
    "spring_green4", "turquoise4", "deep_sky_blue3", "dodger_blue1", "green3",
    "spring_green3", "dark_cyan", "light_sea_green", "deep_sky_blue2", "deep_sky_blue1",
    "spring_green2", "cyan3", "dark_turquoise", "turquoise2", "green1", "spring_green1",
    "medium_spring_green", "cyan2", "cyan1", "dark_red", "deep_pink4", "purple4", "purple3",
    "blue_violet", "orange4", "grey37", "gray37", "medium_purple4", "slate_blue3",
    "royal_blue1", "chartreuse4", "dark_sea_green4", "pale_turquoise4", "steel_blue",
    "steel_blue3", "cornflower_blue", "chartreuse3", "cadet_blue", "sky_blue3", "steel_blue1",
    "pale_green3", "sea_green3", "aquamarine3", "medium_turquoise", "chartreuse2",
    "sea_green2", "sea_green1", "aquamarine1", "dark_slate_gray2", "dark_magenta",
    "dark_violet", "purple", "light_pink4", "plum4", "medium_purple3", "slate_blue1",
    "yellow4", "wheat4", "grey53", "gray53", "light_slate_grey", "light_slate_gray",
    "medium_purple", "light_slate_blue", "dark_olive_green3", "dark_sea_green",
    "light_sky_blue3", "sky_blue2", "dark_sea_green3", "dark_slate_gray3", "sky_blue1",
    "chartreuse1", "light_green", "pale_green1", "dark_slate_gray1", "red3",
    "medium_violet_red", "magenta3", "dark_orange3", "indian_red", "hot_pink3",
    "medium_orchid3", "medium_orchid", "medium_purple2", "dark_goldenrod", "light_salmon3",
    "rosy_brown", "grey63", "gray63", "medium_purple1", "gold3", "dark_khaki",
    "navajo_white3", "grey69", "gray69", "light_steel_blue3", "light_steel_blue", "yellow3",
    "dark_sea_green2", "light_cyan3", "light_sky_blue1", "green_yellow", "dark_olive_green2",
    "dark_sea_green1", "pale_turquoise1", "deep_pink3", "magenta2", "hot_pink2", "orchid",
    "medium_orchid1", "orange3", "light_pink3", "pink3", "plum3", "violet",
    "light_goldenrod3", "tan", "misty_rose3", "thistle3", "plum2", "khaki3",
    "light_goldenrod2", "light_yellow3", "grey84", "gray84", "light_steel_blue1", "yellow2",
    "dark_olive_green1", "honeydew2", "light_cyan1", "red1", "deep_pink2", "deep_pink1",
    "magenta1", "orange_red1", "indian_red1", "hot_pink", "dark_orange", "salmon1",
    "light_coral", "pale_violet_red1", "orchid2", "orchid1", "orange1", "sandy_brown",
    "light_salmon1", "light_pink1", "pink1", "plum1", "gold1", "navajo_white1", "misty_rose1",
    "thistle1", "yellow1", "light_goldenrod1", "khaki1", "wheat1", "cornsilk1", "grey100",
    "gray100", "grey3", "gray3", "grey7", "gray7", "grey11", "gray11", "grey15", "gray15",
    "grey19", "gray19", "grey23", "gray23", "grey27", "gray27", "grey30", "gray30", "grey35",
    "gray35", "grey39", "gray39", "grey42", "gray42", "grey46", "gray46", "grey50", "gray50",
    "grey54", "gray54", "grey58", "gray58", "grey62", "gray62", "grey66", "gray66", "grey70",
    "gray70", "grey74", "gray74", "grey78", "gray78", "grey82", "gray82", "grey85", "gray85",
    "grey89", "gray89", "grey93", "gray93"]

/-- Six hexadecimal digits after a number sign. -/
def isHex (t : Text) : Bool :=
  match t with
  | '#' :: digits =>
    digits.length = 6 && digits.all fun c => c.isDigit || ('a' ≤ c && c ≤ 'f')
  | _ => false

/-- What stands between brackets after a word. -/
def bracketed? (word : Text) (t : Text) : Option Text :=
  if (word ++ ['(']).isPrefixOf t && t.getLast? = some ')' then
    some (t.drop (word.length + 1)).dropLast
  else none

def number? (t : Text) : Option Nat :=
  if t = [] then none else (t.mapM Numeral.digit?).map Numeral.ofDigits

/-- One number of the palette, in at most three digits of ASCII. -/
def isIndexed (t : Text) : Bool :=
  match bracketed? "color".toList t with
  | none => false
  | some digits =>
    digits.length ≤ 3 && digits.all Char.isDigit && (number? digits).any (· ≤ 255)

/-- Three parts of light, which are read before it is known whether they are too large. -/
def isMixed (t : Text) : Except Numeral.Fault Bool :=
  match bracketed? "rgb".toList t with
  | none => .ok false
  | some components =>
    let parts := Text.split ',' components
    if parts.length = 3 ∧ parts.all (·.all fun c => (Numeral.digit? c).isSome) then
      (parts.mapM Numeral.ofDecimals).map (·.all (· ≤ 255))
    else .ok false

def isColour (t : Text) : Except Numeral.Fault Bool :=
  if t = "default".toList || names.any (·.toList = t) || isHex t || isIndexed t then .ok true
  else isMixed t

end Colour

structure Style where
  attributes : Table Attribute Bool := .empty
  colour : Option Text := none
  background : Option Text := none
  link : Option Text := none

namespace Style

def set (s : Style) (a : Attribute) (on : Bool) : Style :=
  { s with attributes := s.attributes.put a on }

/-- Adds words to a style, if they say one. Only the word after `not` and the address of
a link are read in the case in which they are written. -/
def add? (s : Style) : List Text → Except Numeral.Fault (Option Style)
  | [] => .ok (some s)
  | word :: rest =>
    let lowered := Text.lower word
    if lowered = "on".toList then
      match rest with
      | [] => .ok none
      | colour :: rest =>
        match Colour.isColour (Text.lower colour) with
        | .error fault => .error fault
        | .ok false => .ok none
        | .ok true => add? { s with background := some (Text.lower colour) } rest
    else if lowered = "not".toList then
      match rest with
      | [] => .ok none
      | name :: rest =>
        match Attribute.ofText? name with
        | none => .ok none
        | some a => add? (s.set a false) rest
    else if lowered = "link".toList then
      match rest with
      | [] => .ok none
      | address :: rest => add? { s with link := some address } rest
    else
      match Attribute.ofText? lowered with
      | some a => add? (s.set a true) rest
      | none =>
        match Colour.isColour lowered with
        | .error fault => .error fault
        | .ok false => .ok none
        | .ok true => add? { s with colour := some lowered } rest

def noStyle : Text := "none".toList

def ofText? (t : Text) : Except Numeral.Fault (Option Style) :=
  if Text.trim t = noStyle then .ok (some {}) else add? {} (Text.words t)

def attributeWords (s : Style) : List Text :=
  Attribute.all.flatMap fun a =>
    match s.attributes.get? a with
    | none => []
    | some on => (if on then [] else ["not".toList]) ++ [a.name.toList]

def write (s : Style) : Text :=
  let words := s.attributeWords ++ s.colour.toList ++
    s.background.elim [] (fun c => ["on".toList, c]) ++
    s.link.elim [] fun address => ["link".toList, address]
  if words = [] then noStyle else Text.join ' ' words

def normalForm (t : Text) : Except Numeral.Fault Text :=
  (ofText? t).map fun
    | some s => s.write
    | none => Text.lower (Text.trim t)

end Style

end InlineNotes.Message
