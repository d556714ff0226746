import InlineNotes.Text.Printable

/-!
# Quoted texts

Messages show a text between quotes, so that blanks and control characters can
be seen. The quote is `'`, or `"` for a text that has a `'` and no `"`. A
backslash stands before a backslash and before the quote itself; newline,
carriage return and tab have letters; any other unprintable character is its
code point in hexadecimal, in two, four or eight digits.
-/
namespace InlineNotes.Text

/-- The last `digits` hexadecimal digits of a number. -/
def hex : (digits : Nat) → Nat → Text
  | 0, _ => []
  | digits + 1, n => hex digits (n / 16) ++ [Nat.digitChar (n % 16)]

def quoteOf (t : Text) : Char :=
  if '\x27' ∈ t ∧ '"' ∉ t then '"' else '\x27'

def escape (quote c : Char) : Text :=
  if c = quote ∨ c = '\\' then ['\\', c]
  else if c = '\n' then ['\\', 'n']
  else if c = '\r' then ['\\', 'r']
  else if c = '\t' then ['\\', 't']
  else if isPrintable c then [c]
  else if c.toNat < 0x100 then '\\' :: 'x' :: hex 2 c.toNat
  else if c.toNat < 0x10000 then '\\' :: 'u' :: hex 4 c.toNat
  else '\\' :: 'U' :: hex 8 c.toNat

def quoted (t : Text) : Text :=
  quoteOf t :: t.flatMap (escape (quoteOf t)) ++ [quoteOf t]

end InlineNotes.Text
