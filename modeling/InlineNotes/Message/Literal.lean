import InlineNotes.Text.Numeral

/-!
# Literals

What is handed to a handler is written as a literal: a number, a text, a byte string, a
constant, or a tuple, a set or a mapping of literals. Here it does not matter which value
a literal has, only whether a text is one (`isLiteral`). A real number takes one sign, and
with an imaginary one behind another sign it makes a complex number. Texts side by side
are one text. Keys and the elements of a set must not be able to change, as sets and
mappings are. Square brackets do not occur, for they would end the tag that the literal
stands in.

Left out are characters called by name in a text, which are taken for errors, and the limit
on how deep brackets may nest.
-/
namespace InlineNotes.Message.Literal

/-- What a value can still be part of. -/
inductive Value
  | real
  | imaginary
  /-- A real number with its sign. -/
  | signed
  | text (bytes : Bool)
  /-- Any other value that cannot change. -/
  | fixed
  | changeable
  deriving DecidableEq

inductive Bracket
  | round
  | curly
  deriving DecidableEq

inductive Token
  | value (v : Value)
  | opening (b : Bracket)
  | closing (b : Bracket)
  | sign
  | comma
  | colon
  | newline
  | blank
  deriving DecidableEq

def isLetter (c : Char) : Bool := c.isAlpha || c = '_' || 128 ≤ c.toNat

def isDecimal (c : Char) : Bool := '0' ≤ c && c ≤ '9'

def isHex (c : Char) : Bool := isDecimal c || ('a' ≤ c && c ≤ 'f') || ('A' ≤ c && c ≤ 'F')

/-- Digits with single underscores between them, and the rest. -/
def digits? (isDigit : Char → Bool) (t : Text) : Option (Text × Text) :=
  let run := t.takeWhile fun c => isDigit c || c = '_'
  let groups := Text.split '_' run
  if run ≠ [] ∧ groups.any List.isEmpty then none
  else some (groups.flatten, t.dropWhile fun c => isDigit c || c = '_')

/-- The digits that may follow a zero and the given letter. -/
def radix? (c : Char) : Option (Char → Bool) :=
  if c = 'x' ∨ c = 'X' then some isHex
  else if c = 'o' ∨ c = 'O' then some fun d => '0' ≤ d && d ≤ '7'
  else if c = 'b' ∨ c = 'B' then some fun d => d = '0' || d = '1'
  else none

/-- Digits that stand for an integer: zeros alone, or no zero in front, and not too many. -/
def isInteger (digits : Text) : Bool :=
  digits ≠ [] && (digits.head? ≠ some '0' || digits.all (· = '0')) &&
    digits.length ≤ Numeral.maxDigits

/-- An exponent, which may be missing, and the rest. -/
def exponent? (t : Text) : Option (Bool × Text) :=
  match t with
  | e :: r =>
    if e = 'e' ∨ e = 'E' then
      let unsigned := match r with
        | '+' :: r => r
        | '-' :: r => r
        | r => r
      match digits? isDecimal unsigned with
      | some (_ :: _, rest) => some (true, rest)
      | _ => none
    else some (false, t)
  | [] => some (false, [])

def decimal? (t : Text) : Option (Value × Text) := do
  let (whole, r) ← digits? isDecimal t
  let (fraction, r) ← match r with
    | '.' :: r => (digits? isDecimal r).map fun (digits, r) => (some digits, r)
    | r => some (none, r)
  if whole = [] ∧ fraction.all (· = []) then none
  else
    let (scaled, r) ← exponent? r
    match r with
    | 'j' :: r => some (.imaginary, r)
    | 'J' :: r => some (.imaginary, r)
    | r => if scaled ∨ fraction.isSome ∨ isInteger whole then some (.real, r) else none

def number? (t : Text) : Option (Value × Text) :=
  match t with
  | '0' :: x :: r =>
    match radix? x with
    | none => decimal? t
    | some isDigit =>
      let unmarked := match r with
        | '_' :: r => r
        | r => r
      match digits? isDigit unmarked with
      | some (_ :: _, rest) => some (.real, rest)
      | _ => none
  | t => decimal? t

/-- No letter and no digit runs into a number. -/
def numberToken? (t : Text) : Option (Token × Text) :=
  match number? t with
  | none => none
  | some (v, rest) =>
    if rest.head?.any fun c => isLetter c || isDecimal c then none else some (.value v, rest)

/-- What stands before the closing quotes, and the rest. A backslash takes the character
after it along. -/
def quotedBody? (closing : Text) : Text → Option (Text × Text)
  | [] => none
  | '\\' :: c :: r => (quotedBody? closing r).map fun (body, rest) => ('\\' :: c :: body, rest)
  | c :: r =>
    if closing.isPrefixOf (c :: r) then some ([], r.drop (closing.length - 1))
    else if c = '\n' ∧ closing.length = 1 then none
    else (quotedBody? closing r).map fun (body, rest) => (c :: body, rest)

/-- How many hexadecimal digits an escape takes. -/
def escapeSize (bytes : Bool) (c : Char) : Nat :=
  if c = 'x' then 2
  else if bytes then 0
  else if c = 'u' then 4
  else if c = 'U' then 8
  else 0

/-- The number of an escape is that of a code point. -/
def isCodePoint (digits : Text) : Bool :=
  digits.length < 8 || ["000".toList, "0010".toList].any (·.isPrefixOf digits)

def isBody (raw bytes : Bool) : Text → Bool
  | [] => true
  | '\\' :: c :: r =>
    let number := r.take (escapeSize bytes c)
    (!bytes || c.toNat < 128) && isBody raw bytes r &&
      (raw || ((bytes || c ≠ 'N') && number.length = escapeSize bytes c && number.all isHex &&
        isCodePoint number))
  | c :: r => (!bytes || c.toNat < 128) && isBody raw bytes r

/-- A text in quotes of either kind, one or three of them on each side. -/
def textToken? (raw bytes : Bool) (t : Text) : Option (Token × Text) :=
  match t with
  | q :: r =>
    let closing := if [q, q].isPrefixOf r then [q, q, q] else [q]
    match quotedBody? closing (r.drop (closing.length - 1)) with
    | none => none
    | some (body, rest) =>
      if isBody raw bytes body then some (.value (.text bytes), rest) else none
  | [] => none

def isQuote (c : Char) : Bool := c = '"' || c = '\x27'

/-- The marks before a text: whether it is raw, and whether it is a byte string. -/
def marks? (t : Text) : Option (Bool × Bool) :=
  [("", false, false), ("u", false, false), ("r", true, false), ("b", false, true),
    ("br", true, true), ("rb", true, true)].lookup (String.ofList (t.map Char.toLower))

def isBlank (c : Char) : Bool := c = ' ' || c = '\t' || c = '\x0c'

def constants : List String := ["None", "True", "False"]

/-- The brackets after the name of the empty set. -/
def emptyCall? (t : Text) : Option Text :=
  match t.dropWhile isBlank with
  | '(' :: r =>
    match r.dropWhile isBlank with
    | ')' :: rest => some rest
    | _ => none
  | _ => none

def word? (t : Text) : Option (Token × Text) :=
  let name := t.takeWhile fun c => isLetter c || isDecimal c
  let rest := t.dropWhile fun c => isLetter c || isDecimal c
  if rest.head?.any isQuote then
    match marks? name with
    | none => none
    | some (raw, bytes) => textToken? raw bytes rest
  else if constants.contains (String.ofList name) then some (.value .fixed, rest)
  else if name = "set".toList then (emptyCall? rest).map fun rest => (.value .changeable, rest)
  else none

def mark? : Char → Option Token
  | '(' => some (.opening .round)
  | ')' => some (.closing .round)
  | '\x7b' => some (.opening .curly)
  | '\x7d' => some (.closing .curly)
  | ',' => some .comma
  | ':' => some .colon
  | '+' => some .sign
  | '-' => some .sign
  | '\n' => some .newline
  | _ => none

def token? : Text → Option (Token × Text)
  | [] => none
  | '.' :: '.' :: '.' :: r => some (.value .fixed, r)
  | '\\' :: '\n' :: r => some (.blank, r)
  | '#' :: r => some (.blank, r.dropWhile (· ≠ '\n'))
  | c :: r =>
    match mark? c with
    | some token => some (token, r)
    | none =>
      if isBlank c then some (.blank, r)
      else if isDecimal c ∨ c = '.' then numberToken? (c :: r)
      else word? (c :: r)

def tokens (t : Text) : Option (List Token) :=
  if t = [] then some []
  else
    match token? t with
    | none => none
    | some (token, rest) =>
      if rest.length < t.length then (tokens rest).map (token :: ·) else none
  termination_by t.length

/-- What has been read of one item. -/
inductive Item
  | nothing
  | sign
  | value (v : Value)
  /-- A real number and a sign behind it. -/
  | sum
  deriving DecidableEq

def Item.put : Item → Value → Option Item
  | .nothing, v => some (.value v)
  | .sign, .real => some (.value .signed)
  | .sign, .imaginary => some (.value .fixed)
  | .sum, .imaginary => some (.value .fixed)
  | .value (.text bytes), .text more => if bytes = more then some (.value (.text more)) else none
  | _, _ => none

def Item.putSign : Item → Option Item
  | .nothing => some .sign
  | .value .real => some .sum
  | .value .signed => some .sum
  | _ => none

/-- What has been read between a bracket and the one that closes it, or of the whole
literal. -/
structure Level where
  bracket : Option Bracket := none
  hasComma : Bool := false
  isFixed : Bool := true
  isMapping : Option Bool := none
  hasKey : Bool := false
  item : Item := .nothing

namespace Level

/-- Ends an item, at a comma or at the closing bracket. -/
def endItem (l : Level) (v : Value) : Option Level :=
  if l.bracket ≠ some .curly then
    some { l with isFixed := l.isFixed && v ≠ .changeable, item := .nothing }
  else if l.isMapping = some true then
    if l.hasKey then some { l with hasKey := false, item := .nothing } else none
  else if v = .changeable then none
  else some { l with isMapping := some false, item := .nothing }

def putComma (l : Level) : Option Level :=
  match l.item with
  | .value v => (l.endItem v).map fun l => { l with hasComma := true }
  | _ => none

/-- A colon comes after a key. -/
def putColon (l : Level) : Option Level :=
  match l.item with
  | .value v =>
    if l.bracket = some .curly ∧ l.isMapping ≠ some false ∧ !l.hasKey ∧ v ≠ .changeable then
      some { l with isMapping := some true, hasKey := true, item := .nothing }
    else none
  | _ => none

/-- The value of all that stands between two brackets. Round ones around a value alone
leave it as it is, but it is no part of a text any more. -/
def close (l : Level) : Option Value :=
  let whole (l : Level) : Value :=
    if l.bracket = some .curly ∨ !l.isFixed then .changeable else .fixed
  match l.item with
  | .nothing => if l.hasKey then none else some (whole l)
  | .value v =>
    if l.bracket = some .round ∧ !l.hasComma then
      match v with
      | .text _ => some .fixed
      | v => some v
    else (l.endItem v).map whole
  | _ => none

end Level

/-- One more token, with the open levels from the inside out. -/
def step : List Level → Token → Option (List Level)
  | [], _ => none
  | l :: outer, token =>
    match token with
    | .blank => some (l :: outer)
    | .newline =>
      if l.bracket.isSome ∨ l.item = .nothing then some (l :: outer) else none
    | .value v => (l.item.put v).map fun item => { l with item } :: outer
    | .sign => l.item.putSign.map fun item => { l with item } :: outer
    | .comma => l.putComma.map (· :: outer)
    | .colon => l.putColon.map (· :: outer)
    | .opening b => some ({ bracket := some b } :: l :: outer)
    | .closing b =>
      match outer with
      | [] => none
      | o :: outer =>
        if l.bracket = some b then do
          let v ← l.close
          let item ← o.item.put v
          return { o with item } :: outer
        else none

/-- A literal alone, or several with commas between them. -/
def isLiteral (t : Text) : Bool :=
  let read := if '\x00' ∈ t then none else tokens t
  match read.bind (·.foldlM step [{}]) with
  | some [l] =>
    match l.item with
    | .nothing => l.hasComma
    | .value _ => true
    | _ => false
  | _ => false

end InlineNotes.Message.Literal
