import InlineNotes.Deferral

/-!
# Numbered ids

The decimal of an integer determines it, so ids with one stem and different
numbers are different. A table that has no id with the stem from some number on
is `FreshFrom` this number. Footnotes that are numbered from there on go to its
end in their order, and none of them takes the place of another.
-/
namespace InlineNotes

theorem toDigits_inj {m n : Nat} (h : Nat.toDigits 10 m = Nat.toDigits 10 n) : m = n := by
  rw [← Nat.ofDigitChars_toDigits (b := 10) (n := m) (by decide) (by decide), h,
    Nat.ofDigitChars_toDigits (by decide) (by decide)]

theorem minus_not_mem_toDigits (n : Nat) : '-' ∉ Nat.toDigits 10 n := by
  intro h
  have hd := Nat.isDigit_of_mem_toDigits (by decide) (by decide) h
  revert hd
  decide

theorem decimal_inj {m n : Int} (h : Text.decimal m = Text.decimal n) : m = n := by
  cases m with
  | ofNat m =>
    cases n with
    | ofNat n => rw [toDigits_inj h]
    | negSucc n =>
      refine absurd ?_ (minus_not_mem_toDigits m)
      rw [show Nat.toDigits 10 m = '-' :: Nat.toDigits 10 (n + 1) from h]
      exact List.mem_cons_self
  | negSucc m =>
    cases n with
    | ofNat n =>
      refine absurd ?_ (minus_not_mem_toDigits n)
      rw [show Nat.toDigits 10 n = '-' :: Nat.toDigits 10 (m + 1) from h.symm]
      exact List.mem_cons_self
    | negSucc n =>
      have heq := toDigits_inj (List.cons.inj h).2
      rw [Nat.succ.inj heq]

theorem numberedId_inj {stem : Text} {m n : Int} (h : numberedId stem m = numberedId stem n) :
    m = n :=
  decimal_inj (List.append_cancel_left h)

theorem isIdChar_of_isDigit {c : Char} (h : c.isDigit = true) : isIdChar c = true := by
  simp [isIdChar, Char.isAlphanum, h]

theorem isId_numberedId {stem : Text} (h : IsId stem) (n : Nat) : IsId (numberedId stem n) := by
  refine ⟨by simp [numberedId, h.1], fun c hc => ?_⟩
  rcases List.mem_append.mp hc with hc | hc
  · exact h.2 c hc
  · exact isIdChar_of_isDigit (Nat.isDigit_of_mem_toDigits (by decide) (by decide) hc)

/-- No id with the stem and a number from `number` on is in the table. -/
def FreshFrom {α : Type} (stem : Text) (number : Int) (notes : Table Text α) : Prop :=
  ∀ n, number ≤ n → numberedId stem n ∉ notes.keys

section
variable {α : Type} {stem : Text} {number : Int} {notes : Table Text α}

theorem freshFrom_empty : FreshFrom stem number (.empty : Table Text α) := by
  intro n _ h
  cases h

theorem FreshFrom.put (h : FreshFrom stem number notes) (value : α) :
    FreshFrom stem (number + 1) (notes.put (numberedId stem number) value) := by
  intro n hn hmem
  have hne : numberedId stem n ≠ numberedId stem number := by
    intro heq
    have := numberedId_inj heq
    omega
  have hfresh := h n (by omega)
  rw [Table.keys_put] at hmem
  split at hmem
  · exact hfresh hmem
  · rcases List.mem_append.mp hmem with hm | hm
    · exact hfresh hm
    · exact hne (List.mem_singleton.mp hm)

theorem FreshFrom.entries_put (h : FreshFrom stem number notes) (value : α) :
    (notes.put (numberedId stem number) value).entries =
      notes.entries ++ [(numberedId stem number, value)] :=
  Table.entries_put_of_not_mem value (h number (by omega))

end

end InlineNotes
