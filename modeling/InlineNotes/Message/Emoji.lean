import InlineNotes.Message.Emoji.NamesAB
import InlineNotes.Message.Emoji.NamesCE
import InlineNotes.Message.Emoji.NamesF
import InlineNotes.Message.Emoji.NamesGL
import InlineNotes.Message.Emoji.NamesMN
import InlineNotes.Message.Emoji.NamesOQ
import InlineNotes.Message.Emoji.NamesRT
import InlineNotes.Message.Emoji.NamesUZ
import InlineNotes.Text.LowerCase
import InlineNotes.Text.Space

/-!
# Emoji by name

A name between colons stands for an emoji. The name may be in any case, and may end
with a variant: `-emoji` asks for the picture and `-text` for the sign. What stands
between two colons and is no name stays, with both of its colons.
-/
namespace InlineNotes.Message.Emoji

def tables : List (List (String × String)) :=
  [namesAB, namesCE, namesF, namesGL, namesMN, namesOQ, namesRT, namesUZ]

def named? (name : Text) : Option Text :=
  (tables.findSome? (·.lookup (String.ofList name))).map String.toList

/-- The endings that choose a variant, with the selectors that they stand for. -/
def variants : List (Text × Char) :=
  [("-emoji".toList, Char.ofNat 0xfe0f), ("-text".toList, Char.ofNat 0xfe0e)]

def ofCode? (code : Text) : Option Text :=
  match variants.find? fun (ending, _) => ending.isSuffixOf code with
  | none => named? (Text.lower code)
  | some (ending, selector) =>
    (named? (Text.lower (code.take (code.length - ending.length)))).map (· ++ [selector])

def isCodeChar (c : Char) : Bool := c ≠ ':' && !Text.isSpace c

/-- The code between a colon, which has been read, and the next one, and the text
after it. -/
def code? (t : Text) : Option (Text × Text) :=
  match t.dropWhile isCodeChar with
  | ':' :: rest => some (t.takeWhile isCodeChar, rest)
  | _ => none

theorem length_lt_of_code? {t code rest : Text} (h : code? t = some (code, rest)) :
    rest.length < t.length := by
  unfold code? at h
  split at h
  · next rest' he =>
    have hd := (List.dropWhile_sublist (p := isCodeChar) (l := t)).length_le
    rw [he] at hd
    cases h
    simp at hd
    omega
  · cases h

def replaceCodes : Text → Text
  | [] => []
  | c :: r =>
    if c = ':' then
      match _h : code? r with
      | none => c :: replaceCodes r
      | some (code, rest) =>
        (ofCode? code).getD (':' :: code ++ [':']) ++ replaceCodes rest
    else c :: replaceCodes r
  termination_by t => t.length
  decreasing_by
    · simp
    · have := length_lt_of_code? _h
      simp
      omega
    · simp

end InlineNotes.Message.Emoji
