import InlineNotes.Text.Quoted

/-!
# Indented JSON

The values that reports are made of, and their one written form: two blanks for
every level, one line for every item, `[]` and `{}` for what is empty, and the
fields of an object in their own order. In a string the quote, the backslash and
the control characters below U+0020 are escaped; everything else stands for
itself.
-/
namespace InlineNotes

inductive Json
  | string (value : Text)
  | bool (value : Bool)
  | array (items : List Json)
  | object (fields : List (Text × Json))

namespace Json

def escape (c : Char) : Text :=
  if c = '"' then ['\\', '"']
  else if c = '\\' then ['\\', '\\']
  else if c = '\n' then ['\\', 'n']
  else if c = '\t' then ['\\', 't']
  else if c = '\r' then ['\\', 'r']
  else if c = '\x08' then ['\\', 'b']
  else if c = '\x0c' then ['\\', 'f']
  else if c.toNat < 0x20 then '\\' :: 'u' :: Text.hex 4 c.toNat
  else [c]

def writeString (t : Text) : Text := '"' :: t.flatMap escape ++ ['"']

/-- A new line at a level. -/
def newLine (level : Nat) : Text := '\n' :: List.replicate (2 * level) ' '

mutual

def writeAt (level : Nat) : Json → Text
  | .string t => writeString t
  | .bool b => (if b then "true" else "false").toList
  | .array [] => ['[', ']']
  | .array (v :: vs) =>
    '[' :: newLine (level + 1) ++ writeAt (level + 1) v ++ writeItems (level + 1) vs ++
      newLine level ++ [']']
  | .object [] => ['\x7b', '\x7d']
  | .object ((name, v) :: fs) =>
    '\x7b' :: newLine (level + 1) ++ writeString name ++ ':' :: ' ' :: writeAt (level + 1) v ++
      writeFields (level + 1) fs ++ newLine level ++ ['\x7d']

/-- The items after the first. -/
def writeItems (level : Nat) : List Json → Text
  | [] => []
  | v :: vs => ',' :: newLine level ++ writeAt level v ++ writeItems level vs

/-- The fields after the first. -/
def writeFields (level : Nat) : List (Text × Json) → Text
  | [] => []
  | (name, v) :: fs =>
    ',' :: newLine level ++ writeString name ++ ':' :: ' ' :: writeAt level v ++
      writeFields level fs

end

def write (v : Json) : Text := writeAt 0 v

end Json

end InlineNotes
