import InlineNotes.Pipeline.Whitespace

/-!
# The one form of white space

`IsNormal` says which documents have their white space in one form: no character that
normalisation takes out or replaces, and no line of blanks after the first. Whatever
comes in, normalisation ends in this form, and these are exactly the documents that it
leaves as they are, apart from the two newlines that it appends (`isNormal_iff`). So it
is not idempotent: a second run appends two more.
-/
namespace InlineNotes

structure IsNormal (t : Text) : Prop where
  no_return : '\r' ∉ t
  no_tab : '\t' ∉ t
  no_reserved : ∀ c ∈ t, isReserved c = false
  no_blank_line : ∀ line ∈ (Text.lines t).tail, (∀ c ∈ line, c = ' ') → line = []

theorem expandTabs_of_not_mem (width : Nat) {column : Nat} {t : Text} (h : '\t' ∉ t) :
    expandTabs width column t = t := by
  fun_induction expandTabs width column t with
  | case1 => rfl
  | case2 column r ih => rw [ih fun hr => h (List.mem_cons_of_mem _ hr)]
  | case3 => simp at h
  | case4 column c r _ _ ih => rw [ih fun hr => h (List.mem_cons_of_mem _ hr)]

theorem eq_blank_or_mem_of_mem_expandTabs {width column : Nat} {t : Text} {c : Char}
    (h : c ∈ expandTabs width column t) : c = ' ' ∨ (c ∈ t ∧ c ≠ '\t') := by
  fun_induction expandTabs width column t with
  | case1 => cases h
  | case2 column r ih =>
    rcases List.mem_cons.mp h with rfl | hc
    · exact Or.inr ⟨List.mem_cons_self, by decide⟩
    · exact (ih hc).imp_right fun hr => ⟨List.mem_cons_of_mem _ hr.1, hr.2⟩
  | case3 column r blanks ih =>
    rcases List.mem_append.mp h with hc | hc
    · exact Or.inl (List.eq_of_mem_replicate hc)
    · exact (ih hc).imp_right fun hr => ⟨List.mem_cons_of_mem _ hr.1, hr.2⟩
  | case4 column d r _ hd ih =>
    rcases List.mem_cons.mp h with rfl | hc
    · exact Or.inr ⟨List.mem_cons_self, hd⟩
    · exact (ih hc).imp_right fun hr => ⟨List.mem_cons_of_mem _ hr.1, hr.2⟩

theorem clearBlankLine_eq_nil_of_blank {line : Text} (h : ∀ c ∈ line, c = ' ') :
    clearBlankLine line = [] := by
  rw [clearBlankLine, if_pos (by simpa using h)]

theorem clearBlankLine_eq_self_iff {line : Text} :
    clearBlankLine line = line ↔ ((∀ c ∈ line, c = ' ') → line = []) := by
  by_cases h : ∀ c ∈ line, c = ' '
  · rw [clearBlankLine_eq_nil_of_blank h]
    exact ⟨fun hnil _ => hnil.symm, fun hnil => (hnil h).symm⟩
  · rw [clearBlankLine, if_neg (by simpa using h)]
    exact iff_of_true rfl fun hblank => absurd hblank h

/-- A line that is cleared has nothing left to clear. -/
theorem clearBlankLine_clearBlankLine (line : Text) :
    clearBlankLine (clearBlankLine line) = clearBlankLine line := by
  by_cases h : ∀ c ∈ line, c = ' '
  · rw [clearBlankLine_eq_nil_of_blank h]
    rfl
  · have hself := clearBlankLine_eq_self_iff.mpr fun hblank => absurd hblank h
    rw [hself, hself]

theorem clearBlankLines_ne_nil {ls : List Text} (h : ls ≠ []) : clearBlankLines ls ≠ [] := by
  obtain ⟨first, rest, rfl⟩ := List.exists_cons_of_ne_nil h
  simp [clearBlankLines]

theorem eq_nil_or_mem_of_mem_clearBlankLines {ls : List Text} {line : Text}
    (h : line ∈ clearBlankLines ls) : line = [] ∨ line ∈ ls := by
  cases ls with
  | nil => cases h
  | cons first rest =>
    rcases List.mem_cons.mp h with rfl | h
    · exact Or.inr List.mem_cons_self
    · obtain ⟨old, hold, rfl⟩ := List.mem_map.mp h
      unfold clearBlankLine
      split
      · exact Or.inl rfl
      · exact Or.inr (List.mem_cons_of_mem _ hold)

theorem clearBlankLines_of_tail {ls : List Text}
    (h : ∀ line ∈ ls.tail, (∀ c ∈ line, c = ' ') → line = []) : clearBlankLines ls = ls := by
  cases ls with
  | nil => rfl
  | cons first rest =>
    have hrest : rest.map clearBlankLine = rest.map id :=
      List.map_congr_left fun line hline => clearBlankLine_eq_self_iff.mpr (h line hline)
    rw [clearBlankLines, hrest, List.map_id]

/-- The document before its lines of blanks are cleared. -/
def unifiedText (t : Text) : Text :=
  expandTabs 4 0 (Text.unifyNewlines (t.filter (!isReserved ·)) ++ ['\n', '\n'])

theorem lines_normalizeWhitespace (t : Text) :
    Text.lines (normalizeWhitespace t) = clearBlankLines (Text.lines (unifiedText t)) := by
  refine Text.split_join (clearBlankLines_ne_nil (Text.split_ne_nil _ _)) fun line hline => ?_
  rcases eq_nil_or_mem_of_mem_clearBlankLines hline with rfl | hline
  · exact List.not_mem_nil
  · exact Text.not_mem_of_mem_split hline

theorem mem_of_mem_unifiedText {t : Text} {c : Char} (h : c ∈ unifiedText t) :
    c = ' ' ∨ c = '\n' ∨ (c ∈ t ∧ isReserved c = false ∧ c ≠ '\r' ∧ c ≠ '\t') := by
  rcases eq_blank_or_mem_of_mem_expandTabs h with hc | ⟨hc, htab⟩
  · exact Or.inl hc
  · right
    rcases List.mem_append.mp hc with hc | hc
    · have hreturn : c ≠ '\r' := fun heq => Text.not_mem_unifyNewlines _ (heq ▸ hc)
      rcases Text.eq_newline_or_mem_of_mem_unifyNewlines hc with hc | hc
      · exact Or.inl hc
      · obtain ⟨hmem, hreserved⟩ := List.mem_filter.mp hc
        exact Or.inr ⟨hmem, by simpa using hreserved, hreturn, htab⟩
    · exact Or.inl (by simpa using hc)

theorem mem_of_mem_normalizeWhitespace {t : Text} {c : Char} (h : c ∈ normalizeWhitespace t) :
    c = ' ' ∨ c = '\n' ∨ (c ∈ t ∧ isReserved c = false ∧ c ≠ '\r' ∧ c ≠ '\t') := by
  rcases Text.eq_or_mem_of_mem_join h with hc | ⟨line, hline, hc⟩
  · exact Or.inr (Or.inl hc)
  · rcases eq_nil_or_mem_of_mem_clearBlankLines hline with rfl | hline
    · cases hc
    · exact mem_of_mem_unifiedText (Text.mem_of_mem_split hline hc)

theorem isNormal_normalizeWhitespace (t : Text) : IsNormal (normalizeWhitespace t) where
  no_return := by
    intro h
    rcases mem_of_mem_normalizeWhitespace h with hc | hc | hc
    · exact absurd hc (by decide)
    · exact absurd hc (by decide)
    · exact hc.2.2.1 rfl
  no_tab := by
    intro h
    rcases mem_of_mem_normalizeWhitespace h with hc | hc | hc
    · exact absurd hc (by decide)
    · exact absurd hc (by decide)
    · exact hc.2.2.2 rfl
  no_reserved := by
    intro c h
    rcases mem_of_mem_normalizeWhitespace h with rfl | rfl | hc
    · rfl
    · rfl
    · exact hc.2.1
  no_blank_line := by
    intro line hline
    rw [lines_normalizeWhitespace] at hline
    cases hlines : Text.lines (unifiedText t) with
    | nil => exact absurd hlines (Text.split_ne_nil _ _)
    | cons first rest =>
      rw [hlines] at hline
      obtain ⟨old, -, rfl⟩ := List.mem_map.mp hline
      exact clearBlankLine_eq_self_iff.mp (clearBlankLine_clearBlankLine old)

theorem lines_append_newlines (t : Text) :
    Text.lines (t ++ ['\n', '\n']) = Text.lines t ++ [[], []] := by
  rw [Text.lines, Text.split_append_cons]
  rfl

theorem IsNormal.of_append_newlines {t : Text} (h : IsNormal (t ++ ['\n', '\n'])) : IsNormal t where
  no_return := fun hc => h.no_return (List.mem_append_left _ hc)
  no_tab := fun hc => h.no_tab (List.mem_append_left _ hc)
  no_reserved := fun c hc => h.no_reserved c (List.mem_append_left _ hc)
  no_blank_line := by
    intro line hline
    have hne : Text.lines t ≠ [] := Text.split_ne_nil _ t
    refine h.no_blank_line line ?_
    rw [lines_append_newlines, List.tail_append_of_ne_nil hne]
    exact List.mem_append_left _ hline

/-- A document in this form only gets its two newlines. -/
theorem IsNormal.normalizeWhitespace_eq {t : Text} (h : IsNormal t) :
    normalizeWhitespace t = t ++ ['\n', '\n'] := by
  have hfilter : t.filter (!isReserved ·) = t := by
    rw [List.filter_eq_self]
    intro c hc
    rw [h.no_reserved c hc]
    rfl
  have htab : '\t' ∉ t ++ ['\n', '\n'] := by
    simpa using h.no_tab
  have hunified : unifiedText t = t ++ ['\n', '\n'] := by
    rw [unifiedText, hfilter, Text.unifyNewlines_of_not_mem h.no_return,
      expandTabs_of_not_mem 4 htab]
  have hclear : clearBlankLines (Text.lines (t ++ ['\n', '\n'])) =
      Text.lines (t ++ ['\n', '\n']) := by
    refine clearBlankLines_of_tail fun line hline hblank => ?_
    have hne : Text.lines t ≠ [] := Text.split_ne_nil _ t
    rw [lines_append_newlines, List.tail_append_of_ne_nil hne] at hline
    rcases List.mem_append.mp hline with hline | hline
    · exact h.no_blank_line line hline hblank
    · simpa using hline
  have hlines := lines_normalizeWhitespace t
  rw [hunified, hclear] at hlines
  rw [← Text.unlines_lines (normalizeWhitespace t), hlines, Text.unlines_lines]

/-- Normalisation leaves a document as it is, apart from the newlines at its end, just
when its white space has the one form. -/
theorem isNormal_iff {t : Text} : IsNormal t ↔ normalizeWhitespace t = t ++ ['\n', '\n'] := by
  constructor
  · exact IsNormal.normalizeWhitespace_eq
  · intro h
    exact (h ▸ isNormal_normalizeWhitespace t).of_append_newlines

end InlineNotes
