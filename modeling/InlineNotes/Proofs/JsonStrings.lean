import Mathlib.Algebra.Group.Nat.Defs
import Mathlib.Tactic.SplitIfs
import InlineNotes.Json.Basic

/-!
# Strings of JSON

What a JSON string says, for any way of writing it: a character stands for itself
unless it is a quote, a backslash or below U+0020, some have a letter behind a
backslash, and all have four hexadecimal digits, or twice four for a pair of
surrogates. `Spells` is this grammar, and `readString?` reads by it. The reader takes
exactly what the grammar allows (`readString?_eq_some_iff`), so a string says one
thing only. The writer keeps to the grammar (`spells_flatMap_escape`), though it
uses only a part of it.

A surrogate without its partner is spelled by nothing, since it is no character.
-/
namespace InlineNotes.Json

def hexDigit? (c : Char) : Option Nat :=
  if '0' ≤ c ∧ c ≤ '9' then some (c.toNat - 0x30)
  else if 'a' ≤ c ∧ c ≤ 'f' then some (c.toNat - 0x57)
  else if 'A' ≤ c ∧ c ≤ 'F' then some (c.toNat - 0x37)
  else none

def hexNumber? (digits : Text) : Option Nat :=
  digits.foldlM (fun n c => (hexDigit? c).map (16 * n + ·)) 0

/-- The character that a letter behind a backslash stands for. -/
def shortEscape? : Char → Option Char
  | '"' => some '"'
  | '\\' => some '\\'
  | '/' => some '/'
  | 'b' => some '\x08'
  | 'f' => some '\x0c'
  | 'n' => some '\n'
  | 'r' => some '\r'
  | 't' => some '\t'
  | _ => none

/-- The character stands for itself. -/
def isPlain (c : Char) : Bool := 0x20 ≤ c.toNat && c ≠ '"' && c ≠ '\\'

def isHighSurrogate (n : Nat) : Bool := 0xd800 ≤ n && n < 0xdc00

def isLowSurrogate (n : Nat) : Bool := 0xdc00 ≤ n && n < 0xe000

/-- The code point of a pair of surrogates. -/
def joinSurrogates (high low : Nat) : Nat := 0x10000 + (high - 0xd800) * 0x400 + (low - 0xdc00)

/-- Four digits behind `\u`. -/
def SpellsUnit (n : Nat) (s : Text) : Prop :=
  ∃ digits, digits.length = 4 ∧ hexNumber? digits = some n ∧ s = '\\' :: 'u' :: digits

inductive SpellsChar : Char → Text → Prop
  | plain {c : Char} : isPlain c = true → SpellsChar c [c]
  | short {letter c : Char} : shortEscape? letter = some c → SpellsChar c ['\\', letter]
  | unit {n : Nat} {s : Text} : SpellsUnit n s → n.isValidChar → SpellsChar (Char.ofNat n) s
  | pair {high low : Nat} {s s' : Text} : SpellsUnit high s → SpellsUnit low s' →
      isHighSurrogate high = true → isLowSurrogate low = true →
        SpellsChar (Char.ofNat (joinSurrogates high low)) (s ++ s')

/-- The characters of a text one after the other, each in one of its spellings. -/
inductive Spells : Text → Text → Prop
  | nil : Spells [] []
  | cons {c : Char} {t s u : Text} : SpellsChar c s → Spells t u → Spells (c :: t) (s ++ u)

def readUnit? : Text → Option (Nat × Text)
  | '\\' :: 'u' :: a :: b :: c :: d :: rest => (hexNumber? [a, b, c, d]).map (·, rest)
  | _ => none

/-- Goes on after four digits, which are a character or the first half of one. -/
def readAfterUnit? (n : Nat) (rest : Text) : Option (Char × Text) :=
  if n.isValidChar then some (Char.ofNat n, rest)
  else if isHighSurrogate n then
    match readUnit? rest with
    | some (low, rest) =>
      if isLowSurrogate low then some (Char.ofNat (joinSurrogates n low), rest) else none
    | none => none
  else none

/-- A character that is written without digits. -/
def readShort? : Text → Option (Char × Text)
  | '\\' :: letter :: rest => (shortEscape? letter).map (·, rest)
  | c :: rest => if isPlain c then some (c, rest) else none
  | [] => none

/-- One character of a string. -/
def readChar? (t : Text) : Option (Char × Text) :=
  match readUnit? t with
  | some (n, rest) => readAfterUnit? n rest
  | none => readShort? t

theorem readUnit?_eq_some_iff {t rest : Text} {n : Nat} :
    readUnit? t = some (n, rest) ↔ ∃ s, SpellsUnit n s ∧ t = s ++ rest := by
  constructor
  · intro h
    unfold readUnit? at h
    split at h
    · next a b c d rest' =>
      obtain ⟨m, hm, heq⟩ := Option.map_eq_some_iff.mp h
      cases heq
      exact ⟨_, ⟨[a, b, c, d], rfl, hm, rfl⟩, rfl⟩
    · cases h
  · rintro ⟨s, ⟨digits, hlength, hdigits, rfl⟩, rfl⟩
    match digits, hlength with
    | [a, b, c, d], _ => simp [readUnit?, hdigits]

theorem not_isValidChar_of_isHighSurrogate {n : Nat} (h : isHighSurrogate n = true) :
    ¬ n.isValidChar := by
  simp only [isHighSurrogate, Bool.and_eq_true, decide_eq_true_eq] at h
  rintro (h' | h') <;> omega

theorem readAfterUnit?_eq_some_iff {n : Nat} {rest rest' : Text} {c : Char} :
    readAfterUnit? n rest = some (c, rest') ↔
      (n.isValidChar ∧ c = Char.ofNat n ∧ rest = rest') ∨
        isHighSurrogate n = true ∧ ∃ low s, SpellsUnit low s ∧ isLowSurrogate low = true ∧
          c = Char.ofNat (joinSurrogates n low) ∧ rest = s ++ rest' := by
  constructor
  · intro h
    unfold readAfterUnit? at h
    split at h
    · next hvalid =>
      obtain ⟨hc, hrest⟩ := Prod.mk.inj (Option.some.inj h)
      exact Or.inl ⟨hvalid, hc.symm, hrest⟩
    split at h
    · next hhigh =>
      split at h
      · next low rest'' hread =>
        obtain ⟨s, hs, hrest⟩ := readUnit?_eq_some_iff.mp hread
        split at h
        · next hlow =>
          obtain ⟨hc, hrest'⟩ := Prod.mk.inj (Option.some.inj h)
          exact Or.inr ⟨hhigh, low, s, hs, hlow, hc.symm, hrest' ▸ hrest⟩
        · cases h
      · cases h
    · cases h
  · rintro (⟨hvalid, hc, rfl⟩ | ⟨hhigh, low, s, hs, hlow, hc, rfl⟩)
    · rw [readAfterUnit?, if_pos hvalid, hc]
    · have hread : readUnit? (s ++ rest') = some (low, rest') :=
        readUnit?_eq_some_iff.mpr ⟨s, hs, rfl⟩
      rw [readAfterUnit?, if_neg (not_isValidChar_of_isHighSurrogate hhigh), if_pos hhigh, hread,
        hc]
      exact if_pos hlow

/-- What does not start with `\u` is no unit. -/
theorem readUnit?_eq_none {c : Char} {rest : Text} (h : c ≠ '\\' ∨ ∃ d r, rest = d :: r ∧ d ≠ 'u') :
    readUnit? (c :: rest) = none := by
  cases hread : readUnit? (c :: rest) with
  | none => rfl
  | some found =>
    obtain ⟨s, ⟨digits, -, -, rfl⟩, heq⟩ := readUnit?_eq_some_iff.mp hread
    rcases h with hc | ⟨d, r, rfl, hd⟩
    · exact absurd (List.cons.inj heq).1 hc
    · exact absurd (List.cons.inj (List.cons.inj heq).2).1 hd

theorem readShort?_of_ne {c : Char} (h : c ≠ '\\') (rest : Text) :
    readShort? (c :: rest) = if isPlain c then some (c, rest) else none := by
  rw [readShort?]
  intro _ _ hc
  exact absurd hc h

theorem spellsChar_of_readShort? {t rest : Text} {c : Char} (h : readShort? t = some (c, rest)) :
    ∃ s, SpellsChar c s ∧ t = s ++ rest := by
  unfold readShort? at h
  split at h
  · next letter rest' =>
    obtain ⟨d, hd, heq⟩ := Option.map_eq_some_iff.mp h
    cases heq
    exact ⟨_, .short hd, rfl⟩
  · next d rest' _ =>
    split at h
    · next hplain =>
      cases h
      exact ⟨_, .plain hplain, rfl⟩
    · cases h
  · cases h

theorem readChar?_of_spellsUnit {n : Nat} {s : Text} (h : SpellsUnit n s) (rest : Text) :
    readChar? (s ++ rest) = readAfterUnit? n rest := by
  have hread : readUnit? (s ++ rest) = some (n, rest) := readUnit?_eq_some_iff.mpr ⟨s, h, rfl⟩
  rw [readChar?, hread]

/-- Reading a character takes one of its spellings off the text. -/
theorem readChar?_eq_some_iff {t rest : Text} {c : Char} :
    readChar? t = some (c, rest) ↔ ∃ s, SpellsChar c s ∧ t = s ++ rest := by
  constructor
  · intro h
    unfold readChar? at h
    split at h
    · next n rest' hunit =>
      obtain ⟨s, hs, rfl⟩ := readUnit?_eq_some_iff.mp hunit
      rcases readAfterUnit?_eq_some_iff.mp h with
        ⟨hvalid, hc, rfl⟩ | ⟨hhigh, low, s', hs', hlow, hc, rfl⟩
      · exact ⟨s, hc ▸ .unit hs hvalid, rfl⟩
      · exact ⟨s ++ s', hc ▸ .pair hs hs' hhigh hlow, (List.append_assoc _ _ _).symm⟩
    · exact spellsChar_of_readShort? h
  · rintro ⟨s, hs, rfl⟩
    cases hs with
    | plain hplain =>
      have hc : c ≠ '\\' := by
        rintro rfl
        cases hplain
      have hnone : readUnit? (c :: rest) = none := readUnit?_eq_none (Or.inl hc)
      rw [List.singleton_append, readChar?, hnone]
      exact (readShort?_of_ne hc rest).trans (if_pos hplain)
    | @short letter c hletter =>
      have hu : letter ≠ 'u' := by
        rintro rfl
        cases hletter
      have hnone : readUnit? ('\\' :: letter :: rest) = none :=
        readUnit?_eq_none (Or.inr ⟨letter, rest, rfl, hu⟩)
      rw [List.cons_append, List.singleton_append, readChar?, hnone]
      simp [readShort?, hletter]
    | unit hunit hvalid =>
      rw [readChar?_of_spellsUnit hunit]
      exact readAfterUnit?_eq_some_iff.mpr (Or.inl ⟨hvalid, rfl, rfl⟩)
    | pair hhigh hlow hh hl =>
      rw [List.append_assoc, readChar?_of_spellsUnit hhigh]
      exact readAfterUnit?_eq_some_iff.mpr (Or.inr ⟨hh, _, _, hlow, hl, rfl, rfl⟩)

theorem SpellsChar.exists_cons {c : Char} {s : Text} (h : SpellsChar c s) :
    ∃ d r, s = d :: r ∧ d ≠ '"' := by
  cases h with
  | plain hplain =>
    refine ⟨c, [], rfl, ?_⟩
    rintro rfl
    cases hplain
  | short _ => exact ⟨_, _, rfl, by decide⟩
  | unit hunit _ =>
    obtain ⟨digits, -, -, rfl⟩ := hunit
    exact ⟨_, _, rfl, by decide⟩
  | pair hhigh _ _ _ =>
    obtain ⟨digits, -, -, rfl⟩ := hhigh
    exact ⟨_, _, rfl, by decide⟩

theorem length_lt_of_readChar? {t rest : Text} {c : Char} (h : readChar? t = some (c, rest)) :
    rest.length < t.length := by
  obtain ⟨s, hs, rfl⟩ := readChar?_eq_some_iff.mp h
  obtain ⟨d, r, rfl, -⟩ := hs.exists_cons
  rw [List.cons_append, List.length_cons, List.length_append]
  omega

/-- What a string says whose first quote has been read, and what follows its last one. -/
def readString? : Text → Option (Text × Text)
  | [] => none
  | d :: r =>
    if d = '"' then some ([], r)
    else match _h : readChar? (d :: r) with
      | none => none
      | some (c, rest) => (readString? rest).map fun (t, rest) => (c :: t, rest)
  termination_by t => t.length
  decreasing_by exact length_lt_of_readChar? _h

theorem readString?_quote (rest : Text) : readString? ('"' :: rest) = some ([], rest) := by
  rw [readString?, if_pos rfl]

theorem readString?_of_readChar? {d c : Char} {r rest : Text} (hd : d ≠ '"')
    (h : readChar? (d :: r) = some (c, rest)) :
    readString? (d :: r) = (readString? rest).map fun (t, rest) => (c :: t, rest) := by
  rw [readString?, if_neg hd]
  split
  · next h' => rw [h] at h'; cases h'
  · next h' => rw [h] at h'; cases h'; rfl

/-- Reading a string takes one of its spellings off the text, and the quote behind it. -/
theorem readString?_eq_some_iff {u t rest : Text} :
    readString? u = some (t, rest) ↔ ∃ s, Spells t s ∧ u = s ++ '"' :: rest := by
  constructor
  · intro h
    fun_induction readString? u generalizing t with
    | case1 => cases h
    | case2 r =>
      cases h
      exact ⟨[], .nil, rfl⟩
    | case3 => cases h
    | case4 d r hd c rest' hchar ih =>
      obtain ⟨⟨t', rest''⟩, hrest, heq⟩ := Option.map_eq_some_iff.mp h
      cases heq
      obtain ⟨s, hs, hsplit⟩ := readChar?_eq_some_iff.mp hchar
      obtain ⟨s', hs', rfl⟩ := ih hrest
      exact ⟨s ++ s', .cons hs hs', by rw [hsplit, List.append_assoc]⟩
  · rintro ⟨s, hs, rfl⟩
    induction hs with
    | nil => exact readString?_quote rest
    | @cons c t s u hc hs ih =>
      have hchar : readChar? (s ++ (u ++ '"' :: rest)) = some (c, u ++ '"' :: rest) :=
        readChar?_eq_some_iff.mpr ⟨s, hc, rfl⟩
      obtain ⟨d, r, rfl, hd⟩ := hc.exists_cons
      rw [List.append_assoc, List.cons_append]
      rw [List.cons_append] at hchar
      rw [readString?_of_readChar? hd hchar, ih]
      rfl

theorem le_toNat_of_hexDigit? {c : Char} {n : Nat} (h : hexDigit? c = some n) :
    0x20 ≤ c.toNat := by
  have hle : ∀ {low : Char}, low ≤ c → 0x20 ≤ low.toNat → 0x20 ≤ c.toNat :=
    fun hc hlow => Nat.le_trans hlow (UInt32.le_iff_toNat_le.mp hc)
  unfold hexDigit? at h
  split_ifs at h with hdigit hlower hupper
  · exact hle hdigit.1 (by decide)
  · exact hle hlower.1 (by decide)
  · exact hle hupper.1 (by decide)

theorem le_toNat_of_hexNumber? {digits : Text} {n : Nat} (h : hexNumber? digits = some n) :
    ∀ c ∈ digits, 0x20 ≤ c.toNat := by
  have hfrom : ∀ start, digits.foldlM (fun n c => (hexDigit? c).map (16 * n + ·)) start = some n →
      ∀ c ∈ digits, 0x20 ≤ c.toNat := by
    clear h
    induction digits with
    | nil => exact fun _ _ c hc => absurd hc List.not_mem_nil
    | cons d digits ih =>
      intro start h
      obtain ⟨next, hnext, hrest⟩ := Option.bind_eq_some_iff.mp h
      obtain ⟨m, hm, -⟩ := Option.map_eq_some_iff.mp hnext
      exact List.forall_mem_cons.mpr ⟨le_toNat_of_hexDigit? hm, ih next hrest⟩
  exact hfrom 0 h

theorem SpellsUnit.le_toNat {n : Nat} {s : Text} (h : SpellsUnit n s) :
    ∀ c ∈ s, 0x20 ≤ c.toNat := by
  obtain ⟨digits, -, hdigits, rfl⟩ := h
  exact List.forall_mem_cons.mpr ⟨by decide, List.forall_mem_cons.mpr ⟨by decide,
    le_toNat_of_hexNumber? hdigits⟩⟩

theorem SpellsChar.le_toNat {c : Char} {s : Text} (h : SpellsChar c s) :
    ∀ d ∈ s, 0x20 ≤ d.toNat := by
  cases h with
  | plain hplain =>
    simp only [isPlain, Bool.and_eq_true, decide_eq_true_eq] at hplain
    exact List.forall_mem_singleton.mpr hplain.1.1
  | @short letter c hletter =>
    have hle : 0x20 ≤ letter.toNat := by
      unfold shortEscape? at hletter
      split at hletter
      all_goals first | decide | cases hletter
    exact List.forall_mem_cons.mpr ⟨by decide, List.forall_mem_singleton.mpr hle⟩
  | unit hunit _ => exact hunit.le_toNat
  | pair hhigh hlow _ _ => exact List.forall_mem_append.mpr ⟨hhigh.le_toNat, hlow.le_toNat⟩

/-- No string has a control character in it, whatever it says. -/
theorem Spells.le_toNat {t s : Text} (h : Spells t s) : ∀ d ∈ s, 0x20 ≤ d.toNat := by
  induction h with
  | nil => exact fun d hd => absurd hd List.not_mem_nil
  | cons hc _ ih => exact List.forall_mem_append.mpr ⟨hc.le_toNat, ih⟩

theorem hexDigit?_digitChar {d : Nat} (h : d < 16) : hexDigit? (Nat.digitChar d) = some d := by
  revert d
  decide

theorem length_hex (digits n : Nat) : (Text.hex digits n).length = digits := by
  induction digits generalizing n with
  | zero => rfl
  | succ digits ih => rw [Text.hex, List.length_append, ih, List.length_singleton]

/-- Enough digits say the whole number. -/
theorem hexNumber?_hex {digits n : Nat} (h : n < 16 ^ digits) :
    hexNumber? (Text.hex digits n) = some n := by
  induction digits generalizing n with
  | zero =>
    rw [Nat.lt_one_iff.mp h]
    rfl
  | succ digits ih =>
    have hhigh : n / 16 < 16 ^ digits := Nat.div_lt_of_lt_mul (by rwa [Nat.pow_succ'] at h)
    have hlow : hexDigit? (Nat.digitChar (n % 16)) = some (n % 16) :=
      hexDigit?_digitChar (Nat.mod_lt n (by decide))
    have hstart : (Text.hex digits (n / 16)).foldlM
        (fun n c => (hexDigit? c).map (16 * n + ·)) 0 = some (n / 16) := ih hhigh
    rw [Text.hex, hexNumber?, List.foldlM_append, hstart]
    simp [hlow, Nat.div_add_mod]

/-- The letters of the writer are letters of the grammar, and what it writes in digits
is below the surrogates. -/
theorem spellsChar_escape (c : Char) : SpellsChar c (escape c) := by
  unfold escape
  split_ifs with hquote hbackslash hnewline htab hreturn hbackspace hfeed hcontrol
  · subst hquote; exact .short rfl
  · subst hbackslash; exact .short rfl
  · subst hnewline; exact .short rfl
  · subst htab; exact .short rfl
  · subst hreturn; exact .short rfl
  · subst hbackspace; exact .short rfl
  · subst hfeed; exact .short rfl
  · have hunit : SpellsUnit c.toNat ('\\' :: 'u' :: Text.hex 4 c.toNat) :=
      ⟨_, length_hex 4 _, hexNumber?_hex (by omega), rfl⟩
    have hchar := SpellsChar.unit hunit (Or.inl (by omega))
    rwa [Char.ofNat_toNat] at hchar
  · refine .plain ?_
    simp [isPlain, hquote, hbackslash]
    omega

theorem spells_flatMap_escape (t : Text) : Spells t (t.flatMap escape) := by
  induction t with
  | nil => exact .nil
  | cons c t ih => exact .cons (spellsChar_escape c) ih

end InlineNotes.Json
