import InlineNotes.Proofs.Occurrence
import InlineNotes.Text.Terminal

/-!
# Texts without terminal sequences

`IsSequence` is the shape of a control sequence, and `afterSequence?` recognises it
(`afterSequence?_eq_some_iff`). Since the three classes of characters have nothing in
common, where a sequence ends does not depend on what follows it. Stripping leaves
exactly those texts alone in which no sequence stands anywhere
(`stripSequences_eq_self_iff`), in particular those without an escape character. No
sequence goes beyond its line, so a text is stripped line by line.
-/
namespace InlineNotes.Text

/-- A control sequence from its escape character to its final character. -/
def IsSequence (s : Text) : Prop :=
  ∃ parameters intermediates final,
    (∀ c ∈ parameters, isParameterChar c = true) ∧
    (∀ c ∈ intermediates, isIntermediateChar c = true) ∧ isFinalChar final = true ∧
      s = '\x1b' :: '[' :: (parameters ++ (intermediates ++ [final]))

theorem not_isParameterChar_of_isIntermediateChar {c : Char} (h : isIntermediateChar c = true) :
    isParameterChar c = false := by
  simp only [isIntermediateChar, Bool.and_eq_true, decide_eq_true_eq] at h
  simp only [isParameterChar, Bool.and_eq_false_iff, decide_eq_false_iff_not]
  omega

theorem not_isParameterChar_of_isFinalChar {c : Char} (h : isFinalChar c = true) :
    isParameterChar c = false := by
  simp only [isFinalChar, Bool.and_eq_true, decide_eq_true_eq] at h
  simp only [isParameterChar, Bool.and_eq_false_iff, decide_eq_false_iff_not]
  omega

theorem not_isIntermediateChar_of_isFinalChar {c : Char} (h : isFinalChar c = true) :
    isIntermediateChar c = false := by
  simp only [isFinalChar, Bool.and_eq_true, decide_eq_true_eq] at h
  simp only [isIntermediateChar, Bool.and_eq_false_iff, decide_eq_false_iff_not]
  omega

theorem dropWhile_append_cons {p : Char → Bool} {xs : Text} (hxs : ∀ c ∈ xs, p c = true) {c : Char}
    (hc : p c = false) (rest : Text) : (xs ++ c :: rest).dropWhile p = c :: rest := by
  rw [List.dropWhile_append_of_pos hxs, List.dropWhile_cons_of_neg (by simp [hc])]

/-- The final character is found behind parameters and intermediates. -/
theorem dropWhile_dropWhile {parameters intermediates : Text} {final : Char}
    (hp : ∀ c ∈ parameters, isParameterChar c = true)
    (hi : ∀ c ∈ intermediates, isIntermediateChar c = true) (hf : isFinalChar final = true)
    (rest : Text) :
    ((parameters ++ (intermediates ++ final :: rest)).dropWhile isParameterChar).dropWhile
      isIntermediateChar = final :: rest := by
  cases intermediates with
  | nil =>
    rw [List.nil_append, dropWhile_append_cons hp (not_isParameterChar_of_isFinalChar hf)]
    exact List.dropWhile_cons_of_neg (by simp [not_isIntermediateChar_of_isFinalChar hf])
  | cons c intermediates =>
    have hc := not_isParameterChar_of_isIntermediateChar (hi c List.mem_cons_self)
    rw [List.cons_append, dropWhile_append_cons hp hc, ← List.cons_append]
    exact dropWhile_append_cons hi (not_isIntermediateChar_of_isFinalChar hf) rest

/-- Recognising a sequence takes it off the text. -/
theorem afterSequence?_eq_some_iff {t rest : Text} :
    afterSequence? t = some rest ↔ ∃ s, IsSequence s ∧ t = s ++ rest := by
  constructor
  · intro h
    unfold afterSequence? at h
    split at h
    · next r =>
      split at h
      · next final rest' hdrop =>
        split at h
        · next hfinal =>
          cases h
          refine ⟨_, ⟨r.takeWhile isParameterChar,
            (r.dropWhile isParameterChar).takeWhile isIntermediateChar, final,
            List.all_eq_true.mp List.all_takeWhile, List.all_eq_true.mp List.all_takeWhile,
            hfinal, rfl⟩, ?_⟩
          have hr := List.takeWhile_append_dropWhile (p := isParameterChar) (l := r)
          rw [← List.takeWhile_append_dropWhile (p := isIntermediateChar)
            (l := r.dropWhile isParameterChar), hdrop] at hr
          simpa using hr.symm
        · cases h
      · cases h
    · cases h
  · rintro ⟨_, ⟨parameters, intermediates, final, hp, hi, hf, rfl⟩, rfl⟩
    have hdrop := dropWhile_dropWhile hp hi hf rest
    simp [afterSequence?, hdrop, hf]

theorem stripSequences_sequence {s : Text} (hs : IsSequence s) (rest : Text) :
    stripSequences (s ++ rest) = stripSequences rest := by
  have hafter : afterSequence? (s ++ rest) = some rest :=
    afterSequence?_eq_some_iff.mpr ⟨s, hs, rfl⟩
  obtain ⟨_, _, _, -, -, -, rfl⟩ := hs
  rw [List.cons_append] at hafter ⊢
  rw [stripSequences]
  split
  · next h => rw [hafter] at h; cases h; rfl
  · next h => rw [hafter] at h; cases h

theorem stripSequences_cons_of_ne {c : Char} (hc : c ≠ '\x1b') (r : Text) :
    stripSequences (c :: r) = c :: stripSequences r := by
  rw [stripSequences]
  split
  · next h =>
    obtain ⟨_, ⟨_, _, _, -, -, -, rfl⟩, heq⟩ := afterSequence?_eq_some_iff.mp h
    exact absurd (List.cons.inj heq).1 hc
  · rfl

theorem length_stripSequences_le (t : Text) : (stripSequences t).length ≤ t.length := by
  fun_induction stripSequences t with
  | case1 => exact Nat.le_refl _
  | case2 c r rest h ih => exact Nat.le_trans ih (Nat.le_of_lt (length_lt_of_afterSequence? h))
  | case3 c r h ih => exact Nat.succ_le_succ ih

/-- Stripping changes a text just when there is a sequence in it. -/
theorem stripSequences_eq_self_iff {t : Text} :
    stripSequences t = t ↔ ∀ s, IsSequence s → ¬ s <:+: t := by
  fun_induction stripSequences t with
  | case1 =>
    refine ⟨fun _ s hs hwithin => ?_, fun _ => rfl⟩
    obtain ⟨_, _, _, -, -, -, rfl⟩ := hs
    cases List.infix_nil.mp hwithin
  | case2 c r rest h ih =>
    constructor
    · intro heq
      have hle := length_stripSequences_le rest
      have hlt := length_lt_of_afterSequence? h
      rw [heq] at hle
      exact absurd hlt (Nat.not_lt.mpr hle)
    · intro hnone
      obtain ⟨s, hs, ht⟩ := afterSequence?_eq_some_iff.mp h
      exact absurd (ht ▸ (List.prefix_append s rest).isInfix) (hnone s hs)
  | case3 c r h ih =>
    rw [List.cons.injEq, ih]
    constructor
    · rintro ⟨-, hrest⟩ s hs hwithin
      rcases List.infix_cons_iff.mp hwithin with ⟨rest, ht⟩ | hwithin
      · rw [afterSequence?_eq_some_iff.mpr ⟨s, hs, ht.symm⟩] at h
        cases h
      · exact hrest s hs hwithin
    · exact fun hnone => ⟨rfl, fun s hs hwithin => hnone s hs (List.infix_cons hwithin)⟩

/-- Every sequence starts with an escape character. -/
theorem stripSequences_of_not_mem {t : Text} (h : '\x1b' ∉ t) : stripSequences t = t := by
  refine stripSequences_eq_self_iff.mpr fun s hs hwithin => h (hwithin.subset ?_)
  obtain ⟨_, _, _, -, -, -, rfl⟩ := hs
  exact List.mem_cons_self

theorem stripSequences_append_of_not_mem {s : Text} (h : '\x1b' ∉ s) (t : Text) :
    stripSequences (s ++ t) = s ++ stripSequences t := by
  induction s with
  | nil => rfl
  | cons c s ih =>
    rw [List.mem_cons, not_or] at h
    rw [List.cons_append, stripSequences_cons_of_ne (Ne.symm h.1), ih h.2]
    rfl

theorem newline_not_mem_sequence {s : Text} (h : IsSequence s) : '\n' ∉ s := by
  obtain ⟨parameters, intermediates, final, hp, hi, hf, rfl⟩ := h
  simp only [List.mem_cons, List.mem_append, List.not_mem_nil, or_false, not_or]
  refine ⟨by decide, by decide, fun hm => absurd (hp _ hm) (by decide),
    fun hm => absurd (hi _ hm) (by decide), ?_⟩
  rintro rfl
  exact absurd hf (by decide)

/-- No sequence goes on behind the end of a line. -/
theorem afterSequence?_append_newline (s t : Text) :
    afterSequence? (s ++ '\n' :: t) = (afterSequence? s).map (· ++ '\n' :: t) := by
  cases hs : afterSequence? s with
  | some rest =>
    obtain ⟨x, hx, rfl⟩ := afterSequence?_eq_some_iff.mp hs
    exact afterSequence?_eq_some_iff.mpr ⟨x, hx, List.append_assoc _ _ _⟩
  | none =>
    rw [Option.map_none, Option.eq_none_iff_forall_not_mem]
    intro rest hrest
    obtain ⟨x, hx, hx'⟩ := afterSequence?_eq_some_iff.mp hrest
    obtain ⟨rest', rfl⟩ := (prefix_append_cons_iff_of_not_mem (newline_not_mem_sequence hx)).mp
      ⟨rest, hx'.symm⟩
    rw [afterSequence?_eq_some_iff.mpr ⟨x, hx, rfl⟩] at hs
    cases hs

/-- The lines of a text are stripped one by one. -/
theorem stripSequences_append_newline (s t : Text) :
    stripSequences (s ++ '\n' :: t) = stripSequences s ++ '\n' :: stripSequences t := by
  fun_induction stripSequences s with
  | case1 => exact stripSequences_cons_of_ne (by decide) t
  | case2 c r rest h ih =>
    obtain ⟨x, hx, hr⟩ := afterSequence?_eq_some_iff.mp h
    rw [hr, List.append_assoc, stripSequences_sequence hx, ih]
  | case3 c r h ih =>
    have hnone : afterSequence? (c :: (r ++ '\n' :: t)) = none := by
      have happend := afterSequence?_append_newline (c :: r) t
      rwa [h, Option.map_none] at happend
    rw [List.cons_append, List.cons_append, stripSequences]
    split
    · next h' => rw [hnone] at h'; cases h'
    · rw [ih]

end InlineNotes.Text
