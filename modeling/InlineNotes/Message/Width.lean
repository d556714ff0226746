import InlineNotes.Message.WidthTable
import InlineNotes.Text.Basic

/-!
# Columns

How many columns of a terminal a text takes. Characters are not counted one by one:
marks belong to the character before them, a joiner makes one picture of the
characters on both sides of it, and a selector can turn a narrow sign into a wide
picture. A glyph is such a group, and no glyph is ever cut.
-/
namespace InlineNotes.Message

def isIn (table : List (Nat × Nat)) (c : Char) : Bool :=
  table.any fun (first, last) => first ≤ c.toNat && c.toNat ≤ last

def charWidth (c : Char) : Nat :=
  if isIn zeroWidth c then 0 else if isIn doubleWidth c then 2 else 1

structure Glyph where
  text : Text
  width : Nat
  deriving DecidableEq

/-- The glyph with more characters, and with more columns. -/
def Glyph.extend (g : Glyph) (more : Text) (columns : Nat) : Glyph :=
  ⟨g.text ++ more, g.width + columns⟩

def joiner : Char := Char.ofNat 0x200d

def pictureSelector : Char := Char.ofNat 0xfe0f

/-- The glyphs of a text that goes on with a glyph. The base is the last character
that took columns, unless it has been made wider already. -/
def glyphsFrom (g : Glyph) (base : Option Char) : Text → List Glyph
  | [] => [g]
  | c :: r =>
    if c = joiner then
      match r with
      | [] => [g.extend [c] 0]
      | next :: r => glyphsFrom (g.extend [c, next] 0) base r
    else if c = pictureSelector then
      glyphsFrom (g.extend [c] (if base.any (isIn widened) then 1 else 0)) none r
    else if charWidth c = 0 then glyphsFrom (g.extend [c] 0) base r
    else g :: glyphsFrom ⟨[c], charWidth c⟩ (some c) r

theorem flatten_glyphsFrom (g : Glyph) (base : Option Char) (t : Text) :
    ((glyphsFrom g base t).map Glyph.text).flatten = g.text ++ t := by
  fun_induction glyphsFrom g base t <;> simp_all [Glyph.extend]

def glyphs (t : Text) : List Glyph := (glyphsFrom ⟨[], 0⟩ none t).filter (·.text ≠ [])

theorem flatten_texts_filter (gs : List Glyph) :
    ((gs.filter (·.text ≠ [])).map Glyph.text).flatten = (gs.map Glyph.text).flatten := by
  induction gs with
  | nil => rfl
  | cons g gs ih => by_cases h : g.text = [] <;> simp_all

/-- Cutting a text into glyphs loses nothing. -/
theorem flatten_glyphs (t : Text) : ((glyphs t).map Glyph.text).flatten = t := by
  rw [glyphs, flatten_texts_filter, flatten_glyphsFrom, List.nil_append]

def columns (t : Text) : Nat := (glyphs t).foldl (fun n g => n + g.width) 0

end InlineNotes.Message
