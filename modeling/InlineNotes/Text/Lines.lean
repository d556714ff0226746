import InlineNotes.Text.Basic

/-!
# Lines

A line ends at a newline, and cutting a text into lines loses nothing:
`Text.join_split` puts it together again. Text that comes from a file or a
stream may end its lines in three ways; `unifyNewlines` leaves one of them.
-/
namespace InlineNotes.Text

def lines (t : Text) : List Text := split '\n' t

def unlines (ls : List Text) : Text := join '\n' ls

@[simp] theorem unlines_lines (t : Text) : unlines (lines t) = t := join_split '\n' t

/-- Carriage return and newline together, or a carriage return alone, become
one newline. -/
def unifyNewlines : Text → Text
  | [] => []
  | '\r' :: '\n' :: r => '\n' :: unifyNewlines r
  | '\r' :: r => '\n' :: unifyNewlines r
  | c :: r => c :: unifyNewlines r

theorem not_mem_unifyNewlines (t : Text) : '\r' ∉ unifyNewlines t := by
  fun_induction unifyNewlines t with
  | case1 => simp
  | case2 r ih => simp [ih]
  | case3 r _ ih => simp [ih]
  | case4 c r _ hc ih => simp [ih]; exact fun h => hc h.symm

theorem eq_newline_or_mem_of_mem_unifyNewlines {c : Char} {t : Text}
    (h : c ∈ unifyNewlines t) : c = '\n' ∨ c ∈ t := by
  fun_induction unifyNewlines t with
  | case1 => cases h
  | case2 r ih =>
    rcases List.mem_cons.mp h with hc | hc
    · exact Or.inl hc
    · exact (ih hc).imp_right fun hr => List.mem_cons_of_mem _ (List.mem_cons_of_mem _ hr)
  | case3 r _ ih =>
    rcases List.mem_cons.mp h with hc | hc
    · exact Or.inl hc
    · exact (ih hc).imp_right (List.mem_cons_of_mem _)
  | case4 d r _ _ ih =>
    rcases List.mem_cons.mp h with rfl | hc
    · exact Or.inr List.mem_cons_self
    · exact (ih hc).imp_right (List.mem_cons_of_mem _)

theorem unifyNewlines_of_not_mem {t : Text} (h : '\r' ∉ t) : unifyNewlines t = t := by
  fun_induction unifyNewlines t with
  | case1 => rfl
  | case2 => simp at h
  | case3 => simp at h
  | case4 c r _ _ ih => rw [ih (fun hm => h (List.mem_cons_of_mem _ hm))]

/-- Just the texts without carriage returns stay as they are. -/
theorem unifyNewlines_eq_self_iff {t : Text} : unifyNewlines t = t ↔ '\r' ∉ t :=
  ⟨fun h => h ▸ not_mem_unifyNewlines t, unifyNewlines_of_not_mem⟩

end InlineNotes.Text
