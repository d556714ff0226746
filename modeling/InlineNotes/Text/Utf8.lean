import InlineNotes.Text.Quoted

/-!
# UTF-8

Texts become bytes by `encode`, and bytes are read strictly by `decode`:
overlong forms, surrogates and code points past U+10FFFF are refused, and a byte
order mark is a character like any other. The reader takes one byte at a time.
Between characters it expects a lead byte; after a lead byte it holds the
intervals in which the continuation bytes still to come must lie. A fault names
the lead byte, its offset, and how many bytes were read before the one that did
not fit.
-/
namespace InlineNotes.Utf8

def encodeChar (c : Char) : Bytes :=
  let n := c.toNat
  if n < 0x80 then [.ofNat n]
  else if n < 0x800 then [.ofNat (0xc0 + n / 0x40), .ofNat (0x80 + n % 0x40)]
  else if n < 0x10000 then
    [.ofNat (0xe0 + n / 0x1000), .ofNat (0x80 + n / 0x40 % 0x40), .ofNat (0x80 + n % 0x40)]
  else
    [.ofNat (0xf0 + n / 0x40000), .ofNat (0x80 + n / 0x1000 % 0x40),
      .ofNat (0x80 + n / 0x40 % 0x40), .ofNat (0x80 + n % 0x40)]

def encode (t : Text) : Bytes := t.flatMap encodeChar

@[simp] theorem encode_nil : encode [] = [] := rfl

@[simp] theorem encode_cons (c : Char) (t : Text) :
    encode (c :: t) = encodeChar c ++ encode t := rfl

theorem encode_append (s t : Text) : encode (s ++ t) = encode s ++ encode t := by
  simp [encode]

inductive Reason
  | invalidStart
  | invalidContinuation
  | unexpectedEnd
  deriving DecidableEq

structure Fault where
  position : Nat
  lead : UInt8
  length : Nat
  reason : Reason
  deriving DecidableEq

def Reason.message : Reason → Text
  | .invalidStart => "invalid start byte".toList
  | .invalidContinuation => "invalid continuation byte".toList
  | .unexpectedEnd => "unexpected end of data".toList

def Fault.message (e : Fault) : Text :=
  "'utf-8' codec can't decode ".toList ++
  (if e.length ≤ 1 then
    "byte 0x".toList ++ Text.hex 2 e.lead.toNat ++ " in position ".toList ++
      Text.decimal e.position
  else
    "bytes in position ".toList ++ Text.decimal e.position ++ '-' ::
      Text.decimal (e.position + e.length - 1 : Nat)) ++
  ": ".toList ++ e.reason.message

/-- An interval of byte values, both ends included. -/
abbrev Interval := Nat × Nat

def Interval.has (i : Interval) (b : UInt8) : Bool := i.1 ≤ b.toNat && b.toNat ≤ i.2

def anyTail : Interval := (0x80, 0xbf)

/-- The bits that a lead byte gives to its character, and the intervals of the
continuation bytes that must follow it. -/
def lead? (b : UInt8) : Option (Nat × List Interval) :=
  let n := b.toNat
  if n < 0x80 then some (n, [])
  else if n < 0xc2 then none
  else if n < 0xe0 then some (n - 0xc0, [anyTail])
  else if n = 0xe0 then some (0, [(0xa0, 0xbf), anyTail])
  else if n = 0xed then some (0xd, [(0x80, 0x9f), anyTail])
  else if n < 0xf0 then some (n - 0xe0, [anyTail, anyTail])
  else if n = 0xf0 then some (0, [(0x90, 0xbf), anyTail, anyTail])
  else if n < 0xf4 then some (n - 0xf0, [anyTail, anyTail, anyTail])
  else if n = 0xf4 then some (4, [(0x80, 0x8f), anyTail, anyTail])
  else none

/-- A character that has begun at `start` and lacks at least one byte. -/
structure Partial where
  start : Nat
  lead : UInt8
  bits : Nat
  next : Interval
  later : List Interval

def decodeFrom (position : Nat) : Option Partial → Bytes → Except Fault Text
  | none, [] => .ok []
  | some p, [] => .error ⟨p.start, p.lead, position - p.start, .unexpectedEnd⟩
  | none, b :: rest =>
    match lead? b with
    | none => .error ⟨position, b, 1, .invalidStart⟩
    | some (bits, []) => (decodeFrom (position + 1) none rest).map (Char.ofNat bits :: ·)
    | some (bits, next :: later) =>
      decodeFrom (position + 1) (some ⟨position, b, bits, next, later⟩) rest
  | some p, b :: rest =>
    if p.next.has b then
      let bits := p.bits * 0x40 + (b.toNat - 0x80)
      match p.later with
      | [] => (decodeFrom (position + 1) none rest).map (Char.ofNat bits :: ·)
      | next :: later => decodeFrom (position + 1) (some { p with bits, next, later }) rest
    else .error ⟨p.start, p.lead, position - p.start, .invalidContinuation⟩

def decode (bytes : Bytes) : Except Fault Text := decodeFrom 0 none bytes

end InlineNotes.Utf8
