import InlineNotes.Text.Basic

/-!
# Numerals

An integer is written as an optional sign and decimal digits, with blanks around
it and single underscores between digits. The digits may be those of any script
of Unicode 14.0: each script has its ten digits in a row, so the table of zeros
says it all. Numerals of more than 4300 digits are refused.

`ofDecimals` reads digits alone, and says what is wrong if it cannot.
-/
namespace InlineNotes.Numeral

/-- The code points of the digit zero. -/
def zeros : List Nat := [
    0x30, 0x660, 0x6f0, 0x7c0, 0x966, 0x9e6, 0xa66, 0xae6, 0xb66, 0xbe6, 0xc66, 0xce6, 0xd66,
    0xde6, 0xe50, 0xed0, 0xf20, 0x1040, 0x1090, 0x17e0, 0x1810, 0x1946, 0x19d0, 0x1a80, 0x1a90,
    0x1b50, 0x1bb0, 0x1c40, 0x1c50, 0xa620, 0xa8d0, 0xa900, 0xa9d0, 0xa9f0, 0xaa50, 0xabf0,
    0xff10, 0x104a0, 0x10d30, 0x11066, 0x110f0, 0x11136, 0x111d0, 0x112f0, 0x11450, 0x114d0,
    0x11650, 0x116c0, 0x11730, 0x118e0, 0x11950, 0x11c50, 0x11d50, 0x11da0, 0x16a60, 0x16ac0,
    0x16b50, 0x1d7ce, 0x1d7d8, 0x1d7e2, 0x1d7ec, 0x1d7f6, 0x1e140, 0x1e2f0, 0x1e950, 0x1fbf0]

def digit? (c : Char) : Option Nat :=
  (zeros.find? fun first => first ≤ c.toNat && c.toNat < first + 10).map (c.toNat - ·)

/-- The characters that may stand around an integer: tab to carriage return, the
space, and the white space beyond ASCII. -/
def isBlank (c : Char) : Bool :=
  (0x9 ≤ c.toNat && c.toNat ≤ 0xd) || c.toNat == 0x20 || c.toNat == 0x85 ||
    c.toNat == 0xa0 || c.toNat == 0x1680 || (0x2000 ≤ c.toNat && c.toNat ≤ 0x200a) ||
    c.toNat == 0x2028 || c.toNat == 0x2029 || c.toNat == 0x202f || c.toNat == 0x205f ||
    c.toNat == 0x3000

def maxDigits : Nat := 4300

def ofDigits (digits : List Nat) : Nat := digits.foldl (fun n d => 10 * n + d) 0

def trimBlanks (t : Text) : Text :=
  ((t.dropWhile isBlank).reverse.dropWhile isBlank).reverse

/-- Digits in groups of any length; one underscore stands between two groups. -/
def natural? (t : Text) : Option Nat :=
  let groups := Text.split '_' t
  if groups.any List.isEmpty then none
  else match groups.flatten.mapM digit? with
    | none => none
    | some digits => if digits.length ≤ maxDigits then some (ofDigits digits) else none

def integer? (t : Text) : Option Int :=
  match trimBlanks t with
  | '-' :: r => (natural? r).map fun n => -(n : Int)
  | '+' :: r => (natural? r).map Int.ofNat
  | r => (natural? r).map Int.ofNat

/-- Why digits alone are not read as a number. -/
inductive Fault
  | noDigits
  | tooLong (digits : Nat)
  deriving DecidableEq

def Fault.message : Fault → Text
  | .noDigits => "invalid literal for int() with base 10: ''".toList
  | .tooLong digits =>
    "Exceeds the limit (".toList ++ Text.decimal maxDigits ++
      " digits) for integer string conversion: value has ".toList ++ Text.decimal digits ++
      " digits; use sys.set_int_max_str_digits() to increase the limit".toList

/-- Reads a text of digits only. -/
def ofDecimals (t : Text) : Except Fault Nat :=
  let digits := t.filterMap digit?
  if digits = [] then .error .noDigits
  else if maxDigits < digits.length then .error (.tooLong digits.length)
  else .ok (ofDigits digits)

end InlineNotes.Numeral
