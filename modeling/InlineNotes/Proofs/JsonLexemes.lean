import InlineNotes.Proofs.JsonStrings

/-!
# Lexemes of JSON

A document is a row of lexemes with white space anywhere between them: brackets,
braces, colons, commas, the two truth values, and strings. Each lexeme shows where it
ends, so no blank is needed after one, and a text is a row of lexemes in one way at
most (`lex?_eq_some_iff`). Numbers and `null` are no lexemes here, since no report
has any.
-/
namespace InlineNotes.Json

inductive Lexeme
  | beginArray
  | endArray
  | beginObject
  | endObject
  | colon
  | comma
  | bool (value : Bool)
  | string (value : Text)
  deriving DecidableEq

/-- The lexemes of one character. -/
def mark? : Char → Option Lexeme
  | '[' => some .beginArray
  | ']' => some .endArray
  | '\x7b' => some .beginObject
  | '\x7d' => some .endObject
  | ':' => some .colon
  | ',' => some .comma
  | _ => none

def isBlank (c : Char) : Bool := c = ' ' || c = '\t' || c = '\n' || c = '\r'

inductive SpellsLexeme : Lexeme → Text → Prop
  | mark {l : Lexeme} {c : Char} : mark? c = some l → SpellsLexeme l [c]
  | true : SpellsLexeme (.bool true) ['t', 'r', 'u', 'e']
  | false : SpellsLexeme (.bool false) ['f', 'a', 'l', 's', 'e']
  | string {t s : Text} : Spells t s → SpellsLexeme (.string t) ('"' :: s ++ ['"'])

/-- The text is the row of lexemes, with white space around them. -/
inductive Lexes : Text → List Lexeme → Prop
  | nil : Lexes [] []
  | blank {c : Char} {t : Text} {ls : List Lexeme} : isBlank c = true → Lexes t ls →
      Lexes (c :: t) ls
  | cons {l : Lexeme} {s t : Text} {ls : List Lexeme} : SpellsLexeme l s → Lexes t ls →
      Lexes (s ++ t) (l :: ls)

def readLexeme? : Text → Option (Lexeme × Text)
  | '"' :: rest => (readString? rest).map fun (t, rest) => (.string t, rest)
  | 't' :: 'r' :: 'u' :: 'e' :: rest => some (.bool true, rest)
  | 'f' :: 'a' :: 'l' :: 's' :: 'e' :: rest => some (.bool false, rest)
  | c :: rest => (mark? c).map (·, rest)
  | [] => none

/-- Reading a lexeme takes it off the text. -/
theorem readLexeme?_eq_some_iff {t rest : Text} {l : Lexeme} :
    readLexeme? t = some (l, rest) ↔ ∃ s, SpellsLexeme l s ∧ t = s ++ rest := by
  constructor
  · intro h
    unfold readLexeme? at h
    split at h
    · obtain ⟨⟨u, rest'⟩, hread, heq⟩ := Option.map_eq_some_iff.mp h
      cases heq
      obtain ⟨s, hs, rfl⟩ := readString?_eq_some_iff.mp hread
      exact ⟨_, .string hs, by simp⟩
    · cases h
      exact ⟨_, .true, rfl⟩
    · cases h
      exact ⟨_, .false, rfl⟩
    · obtain ⟨m, hm, heq⟩ := Option.map_eq_some_iff.mp h
      cases heq
      exact ⟨_, .mark hm, rfl⟩
    · cases h
  · rintro ⟨s, hs, rfl⟩
    cases hs with
    | @mark l c hmark =>
      have hread : readLexeme? (c :: rest) = (mark? c).map (·, rest) := by
        rw [readLexeme?]
        · rintro rfl
          cases hmark
        · rintro _ rfl
          cases hmark
        · rintro _ rfl
          cases hmark
      rw [List.singleton_append, hread, hmark]
      rfl
    | true => rfl
    | false => rfl
    | @string u s hs =>
      have hread : readString? (s ++ '"' :: rest) = some (u, rest) :=
        readString?_eq_some_iff.mpr ⟨s, hs, rfl⟩
      have htext : '"' :: s ++ ['"'] ++ rest = '"' :: (s ++ '"' :: rest) := by simp
      rw [htext, readLexeme?, hread]
      rfl

/-- A lexeme starts with what is no blank. -/
theorem SpellsLexeme.exists_cons {l : Lexeme} {s : Text} (h : SpellsLexeme l s) :
    ∃ c r, s = c :: r ∧ isBlank c = Bool.false := by
  cases h with
  | @mark l c hmark =>
    refine ⟨c, [], rfl, ?_⟩
    rw [Bool.eq_false_iff]
    intro hblank
    simp only [isBlank, Bool.or_eq_true, decide_eq_true_eq] at hblank
    rcases hblank with ((rfl | rfl) | rfl) | rfl <;> cases hmark
  | true => exact ⟨_, _, rfl, by decide⟩
  | false => exact ⟨_, _, rfl, by decide⟩
  | string _ => exact ⟨_, _, rfl, by decide⟩

theorem length_lt_of_readLexeme? {t rest : Text} {l : Lexeme}
    (h : readLexeme? t = some (l, rest)) : rest.length < t.length := by
  obtain ⟨s, hs, rfl⟩ := readLexeme?_eq_some_iff.mp h
  obtain ⟨c, r, rfl, -⟩ := hs.exists_cons
  rw [List.cons_append, List.length_cons, List.length_append]
  omega

def lex? : Text → Option (List Lexeme)
  | [] => some []
  | c :: r =>
    if isBlank c then lex? r
    else match _h : readLexeme? (c :: r) with
      | none => none
      | some (l, rest) => (lex? rest).map (l :: ·)
  termination_by t => t.length
  decreasing_by
    · simp
    · exact length_lt_of_readLexeme? _h

theorem lex?_blank {c : Char} (h : isBlank c = true) (r : Text) : lex? (c :: r) = lex? r := by
  rw [lex?, if_pos h]

theorem lex?_of_readLexeme? {c : Char} {r rest : Text} {l : Lexeme} (hc : isBlank c = false)
    (h : readLexeme? (c :: r) = some (l, rest)) : lex? (c :: r) = (lex? rest).map (l :: ·) := by
  rw [lex?, if_neg (by simp [hc])]
  split
  · next h' => rw [h] at h'; cases h'
  · next h' => rw [h] at h'; cases h'; rfl

/-- A text is read as the row of lexemes that it is. -/
theorem lex?_eq_some_iff {t : Text} {ls : List Lexeme} : lex? t = some ls ↔ Lexes t ls := by
  constructor
  · intro h
    fun_induction lex? t generalizing ls with
    | case1 =>
      cases h
      exact .nil
    | case2 c r hblank ih => exact .blank hblank (ih h)
    | case3 => cases h
    | case4 c r _ l rest hread ih =>
      obtain ⟨ls', hls, rfl⟩ := Option.map_eq_some_iff.mp h
      obtain ⟨s, hs, hsplit⟩ := readLexeme?_eq_some_iff.mp hread
      rw [hsplit]
      exact .cons hs (ih hls)
  · intro h
    induction h with
    | nil => rw [lex?]
    | blank hblank _ ih => rw [lex?_blank hblank, ih]
    | @cons l s t ls hs _ ih =>
      have hread : readLexeme? (s ++ t) = some (l, t) := readLexeme?_eq_some_iff.mpr ⟨s, hs, rfl⟩
      obtain ⟨c, r, rfl, hblank⟩ := hs.exists_cons
      rw [List.cons_append] at hread ⊢
      rw [lex?_of_readLexeme? hblank hread, ih]
      rfl

theorem Lexes.append {s t : Text} {ls ms : List Lexeme} (hs : Lexes s ls) (ht : Lexes t ms) :
    Lexes (s ++ t) (ls ++ ms) := by
  induction hs with
  | nil => exact ht
  | blank hblank _ ih => exact .blank hblank ih
  | cons hs _ ih =>
    rw [List.append_assoc]
    exact .cons hs ih

theorem SpellsLexeme.lexes {l : Lexeme} {s : Text} (h : SpellsLexeme l s) : Lexes s [l] := by
  have hs := Lexes.cons h .nil
  rwa [List.append_nil] at hs

theorem SpellsLexeme.le_toNat {l : Lexeme} {s : Text} (h : SpellsLexeme l s) :
    ∀ c ∈ s, 0x20 ≤ c.toNat := by
  cases h with
  | @mark l c hmark =>
    refine List.forall_mem_singleton.mpr ?_
    unfold mark? at hmark
    split at hmark
    all_goals first | decide | cases hmark
  | true => simp
  | false => simp
  | string hs =>
    exact List.forall_mem_append.mpr ⟨List.forall_mem_cons.mpr ⟨by decide, hs.le_toNat⟩,
      List.forall_mem_singleton.mpr (by decide)⟩

/-- White space is all the control characters that a document has. -/
theorem Lexes.le_toNat {t : Text} {ls : List Lexeme} (h : Lexes t ls) :
    ∀ c ∈ t, isBlank c = true ∨ 0x20 ≤ c.toNat := by
  induction h with
  | nil => exact fun c hc => absurd hc List.not_mem_nil
  | blank hblank _ ih => exact List.forall_mem_cons.mpr ⟨Or.inl hblank, ih⟩
  | cons hs _ ih =>
    exact List.forall_mem_append.mpr ⟨fun c hc => Or.inr (hs.le_toNat c hc), ih⟩

theorem lexes_blanks {t : Text} (h : ∀ c ∈ t, isBlank c = true) : Lexes t [] := by
  induction t with
  | nil => exact .nil
  | cons c t ih =>
    obtain ⟨hc, ht⟩ := List.forall_mem_cons.mp h
    exact .blank hc (ih ht)

end InlineNotes.Json
