import InlineNotes.Message.Width
import InlineNotes.Text.Lines
import InlineNotes.Text.Space

/-!
# Lines of limited width

A line that takes too many columns is broken before a word, or within a word that is
wider than a whole line. The blanks after a word stay with it and may stand beyond
the limit, where they are cut off. Tabs lead to the next multiple of eight columns.
-/
namespace InlineNotes.Message

/-- Glyphs put on lines one after the other, as many on each as it can take. -/
def foldFrom (width : Nat) (line : Text) (used : Nat) : List Glyph → List Text
  | [] => [line]
  | g :: gs =>
    if used + g.width ≤ width then foldFrom width (line ++ g.text) (used + g.width) gs
    else line :: foldFrom width g.text g.width gs

theorem flatten_foldFrom (width : Nat) (line : Text) (used : Nat) (gs : List Glyph) :
    (foldFrom width line used gs).flatten = line ++ (gs.map Glyph.text).flatten := by
  fun_induction foldFrom width line used gs <;> simp_all

def foldWord (width : Nat) (word : Text) : List Text := foldFrom width [] 0 (glyphs word)

theorem flatten_foldWord (width : Nat) (word : Text) : (foldWord width word).flatten = word := by
  rw [foldWord, flatten_foldFrom, flatten_glyphs, List.nil_append]

theorem foldWord_ne_nil (width : Nat) (word : Text) : foldWord width word ≠ [] := by
  unfold foldWord
  fun_induction foldFrom width [] 0 (glyphs word) <;> simp_all

/-- The parts of a text, which is cut wherever a word follows a blank. -/
def cutBeforeWords : Text → List Text
  | [] => []
  | c :: r =>
    match cutBeforeWords r with
    | [] => [[c]]
    | part :: parts =>
      if Text.isSpace c && !part.head?.all Text.isSpace then [c] :: part :: parts
      else (c :: part) :: parts

@[simp] theorem flatten_cutBeforeWords (t : Text) : (cutBeforeWords t).flatten = t := by
  induction t with
  | nil => rfl
  | cons c r ih =>
    unfold cutBeforeWords
    split
    · next he => rw [he] at ih; simp_all
    · next part parts he =>
      rw [he] at ih
      split <;> simp_all

/-- The words with the blanks that follow them. Blanks before the first word go with
it, and blanks alone are no word. -/
def spacedWords (t : Text) : List Text :=
  match cutBeforeWords t with
  | [] => []
  | [one] => if one.all Text.isSpace then [] else [one]
  | first :: second :: rest =>
    if first.all Text.isSpace then (first ++ second) :: rest else first :: second :: rest

/-- Words put on lines one after the other. A word that fits on no line starts a line
of its own and is folded. -/
def wrapFrom (width : Nat) (line : Text) (used : Nat) : List Text → List Text
  | [] => [line]
  | word :: rest =>
    let needed := columns (Text.trimRight word)
    if used + needed ≤ width then wrapFrom width (line ++ word) (used + columns word) rest
    else if needed ≤ width then line :: wrapFrom width word (columns word) rest
    else
      let pieces := foldWord width word
      let last := pieces.getLastD []
      (if line = [] then [] else [line]) ++ pieces.dropLast ++
        wrapFrom width last (columns last) rest

theorem flatten_wrapFrom (width : Nat) (line : Text) (used : Nat) (words : List Text) :
    (wrapFrom width line used words).flatten = line ++ words.flatten := by
  fun_induction wrapFrom width line used words with
  | case1 => simp
  | case2 _ _ _ _ _ _ ih => simp [ih]
  | case3 _ _ _ _ _ _ _ ih => simp [ih]
  | case4 line used word rest needed _ _ pieces last ih =>
    have hp : pieces.dropLast.flatten ++ last = word := by
      have hne := foldWord_ne_nil width word
      have h := congrArg List.flatten (List.dropLast_concat_getLast hne)
      rw [flatten_foldWord] at h
      simpa [pieces, last, List.getLastD_eq_getLast?, List.getLast?_eq_some_getLast hne] using h
    have hl : (if line = [] then ([] : List Text) else [line]).flatten = line := by
      split <;> simp_all
    rw [List.flatten_append, List.flatten_append, hl, ih, ← hp]
    simp

def breakLine (width : Nat) (line : Text) : List Text :=
  match spacedWords line with
  | [] => [line]
  | words => wrapFrom width [] 0 words

theorem flatten_spacedWords {t : Text} (h : spacedWords t ≠ []) : (spacedWords t).flatten = t := by
  have hs := flatten_cutBeforeWords t
  unfold spacedWords at h ⊢
  rcases hc : cutBeforeWords t with _ | ⟨first, _ | ⟨second, rest⟩⟩ <;> rw [hc] at h hs
  · exact absurd rfl h
  · by_cases hb : first.all Text.isSpace = true
    · exact absurd (if_pos hb) h
    · simpa [hb] using hs
  · dsimp only
    split <;> simpa using hs

/-- Breaking a line loses nothing. -/
theorem flatten_breakLine (width : Nat) (line : Text) : (breakLine width line).flatten = line := by
  unfold breakLine
  split
  · simp
  · next h =>
    rw [flatten_wrapFrom, List.nil_append, flatten_spacedWords h]

/-- The line without the blanks at its end that exceed a length. -/
def trimBeyond (length : Nat) (line : Text) : Text :=
  let blanks := line.length - (Text.trimRight line).length
  line.take (line.length - min blanks (line.length - length))

/-- The glyphs that fit on a line. A column that is left over by a wide glyph is
filled with a space. -/
def crop (width : Nat) (line : Text) : Text :=
  if columns line ≤ width then line
  else
    let kept := (foldWord width line).headD []
    kept ++ List.replicate (width - columns kept) ' '

def tabStop : Nat := 8

/-- The parts of a line between its tabs, with spaces in place of the tabs. -/
def fillTabs (column : Nat) : List Text → Text
  | [] => []
  | [part] => part
  | part :: rest =>
    let column := column + columns (part ++ [' '])
    let filling := (tabStop - column % tabStop) % tabStop
    part ++ ' ' :: List.replicate filling ' ' ++ fillTabs (column + filling) rest

def expandTabs (line : Text) : Text := fillTabs 0 (Text.split '\t' line)

def wrapLine (width : Nat) (line : Text) : List Text :=
  (breakLine width (expandTabs line)).map fun l => crop width (trimBeyond width l)

def wrap (width : Nat) (t : Text) : List Text := (Text.lines t).flatMap (wrapLine width)

end InlineNotes.Message
