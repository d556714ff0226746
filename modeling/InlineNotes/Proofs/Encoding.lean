import InlineNotes.Text.Utf8

/-!
# Reading UTF-8 undoes writing it

A character is written as a lead byte and up to three continuation bytes. The lead
byte says how many there are and, where the shortest form or the gap of the
surrogates asks for it, narrows the interval of the first one. Whatever `encode`
writes stays within these intervals, so the reader takes the bytes of a character
one after the other and puts its number together again (`decodeFrom_encodeChar`).
Hence texts are determined by their bytes (`encode_injective`).
-/
namespace InlineNotes.Utf8

theorem toNat_ofNat_of_lt {n : Nat} (h : n < 256) : (UInt8.ofNat n).toNat = n := by
  rw [UInt8.toNat_ofNat']
  exact Nat.mod_eq_of_lt h

theorem has_ofNat {low high n : Nat} (hlow : low ≤ n) (hhigh : n ≤ high) (h : n < 256) :
    Interval.has (low, high) (UInt8.ofNat n) = true := by
  simp [Interval.has, toNat_ofNat_of_lt h, hlow, hhigh]

section
variable {position bits : Nat} {lead : UInt8} {next : Interval} {rest : Bytes} {n : Nat}

/-- A continuation byte adds six bits to its character. -/
theorem decodeFrom_continuation (hnext : next.has (UInt8.ofNat (0x80 + n)) = true) (hn : n < 0x40)
    (start : Nat) (second : Interval) (later : List Interval) :
    decodeFrom position (some ⟨start, lead, bits, next, second :: later⟩)
        (UInt8.ofNat (0x80 + n) :: rest) =
      decodeFrom (position + 1) (some ⟨start, lead, bits * 0x40 + n, second, later⟩) rest := by
  have hbits : (UInt8.ofNat (0x80 + n)).toNat - 0x80 = n := by
    rw [toNat_ofNat_of_lt (by omega)]
    omega
  rw [decodeFrom, if_pos hnext, hbits]

/-- The last continuation byte completes the character. -/
theorem decodeFrom_last (hnext : next.has (UInt8.ofNat (0x80 + n)) = true) (hn : n < 0x40)
    (start : Nat) :
    decodeFrom position (some ⟨start, lead, bits, next, []⟩) (UInt8.ofNat (0x80 + n) :: rest) =
      (decodeFrom (position + 1) none rest).map (Char.ofNat (bits * 0x40 + n) :: ·) := by
  have hbits : (UInt8.ofNat (0x80 + n)).toNat - 0x80 = n := by
    rw [toNat_ofNat_of_lt (by omega)]
    omega
  rw [decodeFrom, if_pos hnext, hbits]

end

theorem lead?_ofNat {n : Nat} (h : n < 256) :
    lead? (UInt8.ofNat n) =
      if n < 0x80 then some (n, [])
      else if n < 0xc2 then none
      else if n < 0xe0 then some (n - 0xc0, [anyTail])
      else if n = 0xe0 then some (0, [(0xa0, 0xbf), anyTail])
      else if n = 0xed then some (0xd, [(0x80, 0x9f), anyTail])
      else if n < 0xf0 then some (n - 0xe0, [anyTail, anyTail])
      else if n = 0xf0 then some (0, [(0x90, 0xbf), anyTail, anyTail])
      else if n < 0xf4 then some (n - 0xf0, [anyTail, anyTail, anyTail])
      else if n = 0xf4 then some (4, [(0x80, 0x8f), anyTail, anyTail])
      else none := by
  simp only [lead?, toNat_ofNat_of_lt h]

theorem decodeFrom_lead {b : UInt8} {bits : Nat} {next : Interval} {later : List Interval}
    (h : lead? b = some (bits, next :: later)) (position : Nat) (rest : Bytes) :
    decodeFrom position none (b :: rest) =
      decodeFrom (position + 1) (some ⟨position, b, bits, next, later⟩) rest := by
  rw [decodeFrom, h]

theorem has_anyTail {n : Nat} (h : n < 0x40) : anyTail.has (UInt8.ofNat (0x80 + n)) = true :=
  has_ofNat (by omega) (by omega) (by omega)

/-- The lead byte of two: what it leads is past ASCII. -/
theorem lead?_two {n : Nat} (hlow : 0x80 ≤ n) (hhigh : n < 0x800) :
    lead? (UInt8.ofNat (0xc0 + n / 0x40)) = some (n / 0x40, [anyTail]) := by
  have hlead : 0xc2 ≤ 0xc0 + n / 0x40 ∧ 0xc0 + n / 0x40 < 0xe0 := by omega
  have hbits : 0xc0 + n / 0x40 - 0xc0 = n / 0x40 := by omega
  rw [lead?_ofNat (by omega), if_neg (by omega), if_neg (by omega), if_pos hlead.2, hbits]

/-- The lead byte of three: its interval has the next byte, since the character is
past the two-byte forms and no surrogate. -/
theorem lead?_three {n : Nat} (hlow : 0x800 ≤ n) (hhigh : n < 0x10000)
    (hvalid : n < 0xd800 ∨ 0xdfff < n) :
    ∃ next, lead? (UInt8.ofNat (0xe0 + n / 0x1000)) = some (n / 0x1000, [next, anyTail]) ∧
      next.has (UInt8.ofNat (0x80 + n / 0x40 % 0x40)) = true := by
  rw [lead?_ofNat (by omega), if_neg (by omega), if_neg (by omega), if_neg (by omega)]
  by_cases hfirst : n / 0x1000 = 0
  · rw [if_pos (by omega), hfirst]
    exact ⟨_, rfl, has_ofNat (by omega) (by omega) (by omega)⟩
  rw [if_neg (by omega)]
  by_cases hgap : n / 0x1000 = 0xd
  · rw [if_pos (by omega), hgap]
    exact ⟨_, rfl, has_ofNat (by omega) (by omega) (by omega)⟩
  have hbits : 0xe0 + n / 0x1000 - 0xe0 = n / 0x1000 := by omega
  rw [if_neg (by omega), if_pos (by omega), hbits]
  exact ⟨_, rfl, has_anyTail (by omega)⟩

/-- The lead byte of four: its interval has the next byte, since the character is past
the three-byte forms and no more than the last code point. -/
theorem lead?_four {n : Nat} (hlow : 0x10000 ≤ n) (hhigh : n < 0x110000) :
    ∃ next, lead? (UInt8.ofNat (0xf0 + n / 0x40000)) =
        some (n / 0x40000, [next, anyTail, anyTail]) ∧
      next.has (UInt8.ofNat (0x80 + n / 0x1000 % 0x40)) = true := by
  rw [lead?_ofNat (by omega), if_neg (by omega), if_neg (by omega), if_neg (by omega),
    if_neg (by omega), if_neg (by omega), if_neg (by omega)]
  by_cases hfirst : n / 0x40000 = 0
  · rw [if_pos (by omega), hfirst]
    exact ⟨_, rfl, has_ofNat (by omega) (by omega) (by omega)⟩
  rw [if_neg (by omega)]
  by_cases hlast : n / 0x40000 = 4
  · rw [if_neg (by omega), if_pos (by omega), hlast]
    exact ⟨_, rfl, has_ofNat (by omega) (by omega) (by omega)⟩
  have hbits : 0xf0 + n / 0x40000 - 0xf0 = n / 0x40000 := by omega
  rw [if_pos (by omega), hbits]
  exact ⟨_, rfl, has_anyTail (by omega)⟩

/-- The bytes of a character are read as this character. -/
theorem decodeFrom_encodeChar (c : Char) (position : Nat) (rest : Bytes) :
    decodeFrom position none (encodeChar c ++ rest) =
      (decodeFrom (position + (encodeChar c).length) none rest).map (c :: ·) := by
  have hvalid : c.toNat < 0xd800 ∨ (0xdfff < c.toNat ∧ c.toNat < 0x110000) := c.valid
  unfold encodeChar
  generalize hn : c.toNat = n at hvalid
  have hc : Char.ofNat n = c := by rw [← hn, Char.ofNat_toNat]
  dsimp only
  split
  · next h =>
    have hlead : lead? (UInt8.ofNat n) = some (n, []) := by
      rw [lead?_ofNat (by omega), if_pos h]
    rw [List.singleton_append, decodeFrom, hlead, List.length_singleton]
    simp only [hc]
  split
  · next hlow hhigh =>
    have hsum : n / 0x40 * 0x40 + n % 0x40 = n := by omega
    rw [List.cons_append, List.singleton_append, decodeFrom_lead (lead?_two (by omega) hhigh),
      decodeFrom_last (has_anyTail (by omega)) (by omega), hsum, hc]
    rfl
  split
  · next hlow hhigh =>
    obtain ⟨next, hlead, hnext⟩ := lead?_three (n := n) (by omega) hhigh (by omega)
    have hsum : (n / 0x1000 * 0x40 + n / 0x40 % 0x40) * 0x40 + n % 0x40 = n := by omega
    rw [List.cons_append, List.cons_append, List.singleton_append, decodeFrom_lead hlead,
      decodeFrom_continuation hnext (by omega), decodeFrom_last (has_anyTail (by omega)) (by omega),
      hsum, hc]
    rfl
  · next hlow =>
    obtain ⟨next, hlead, hnext⟩ := lead?_four (n := n) (by omega) (by omega)
    have hsum : ((n / 0x40000 * 0x40 + n / 0x1000 % 0x40) * 0x40 + n / 0x40 % 0x40) * 0x40 +
        n % 0x40 = n := by omega
    rw [List.cons_append, List.cons_append, List.cons_append, List.singleton_append,
      decodeFrom_lead hlead, decodeFrom_continuation hnext (by omega),
      decodeFrom_continuation (has_anyTail (by omega)) (by omega),
      decodeFrom_last (has_anyTail (by omega)) (by omega), hsum, hc]
    rfl

theorem decodeFrom_encode (position : Nat) (t : Text) :
    decodeFrom position none (encode t) = .ok t := by
  induction t generalizing position with
  | nil => rfl
  | cons c t ih =>
    rw [encode_cons, decodeFrom_encodeChar, ih]
    rfl

/-- Every text is read back from its bytes. -/
theorem decode_encode (t : Text) : decode (encode t) = .ok t :=
  decodeFrom_encode 0 t

theorem encode_injective {t u : Text} (h : encode t = encode u) : t = u := by
  have ht := decode_encode t
  rw [h, decode_encode u] at ht
  exact (Except.ok.inj ht).symm

end InlineNotes.Utf8
