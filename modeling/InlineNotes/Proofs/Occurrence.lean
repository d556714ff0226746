import InlineNotes.Proofs.Reading

/-!
# Where labels stand

A label opens a bracket at its start and nowhere else, and it holds no blank and
no end of a line. So it lies on one side of a blank, and on one side of another label.
A text that is put together from parts which lack a label lacks it too, and the
definitions of such a text can be listed part by part.
-/
namespace InlineNotes

section
variable {α : Type} {xs ys zs : List α} {x : α}

/-- A list that does not hold `x` is a prefix of what precedes `x` or no prefix at all. -/
theorem prefix_append_cons_iff_of_not_mem (hx : x ∉ zs) : zs <+: xs ++ x :: ys ↔ zs <+: xs := by
  constructor
  · intro h
    obtain ⟨after, h⟩ := h
    rcases List.append_eq_append_iff.mp h with ⟨as, hxs, -⟩ | ⟨as, hzs, hafter⟩
    · exact ⟨as, hxs.symm⟩
    · cases as with
      | nil => exact ⟨[], by rw [hzs]; simp⟩
      | cons a as =>
        obtain ⟨rfl, -⟩ := List.cons.inj hafter
        exact absurd (by rw [hzs]; simp) hx
  · exact fun h => h.trans (List.prefix_append _ _)

/-- A list that does not hold `x` cannot stand across it. -/
theorem infix_append_cons_of_not_mem (hx : x ∉ zs) (h : zs <:+: xs ++ x :: ys) :
    zs <:+: xs ∨ zs <:+: ys := by
  induction xs with
  | nil =>
    rcases List.infix_cons_iff.mp h with hp | hi
    · have hnil : zs <+: [] := (prefix_append_cons_iff_of_not_mem hx).mp hp
      exact Or.inl hnil.isInfix
    · exact Or.inr hi
  | cons y xs ih =>
    rcases List.infix_cons_iff.mp h with hp | hi
    · have hxs : zs <+: y :: xs := (prefix_append_cons_iff_of_not_mem hx).mp hp
      exact Or.inl hxs.isInfix
    · rcases ih hi with hxs | hys
      · exact Or.inl (hxs.trans (List.suffix_cons y xs).isInfix)
      · exact Or.inr hys

end

theorem not_mem_write_of_not_isIdChar {id : Text} {c : Char} (hid : IsId id)
    (hc : isIdChar c = false) (hb : c ∉ ['[', '^', ']']) : c ∉ Label.write id := by
  intro hm
  have hmem : c ∈ id := by
    simp only [Label.write, Label.opener, List.mem_append, List.mem_cons] at hm hb
    grind
  have hchar := hid.2 c hmem
  rw [hc] at hchar
  cases hchar

/-- The label of the id does not stand in the text. -/
def Lacks (id t : Text) : Prop := ¬ Label.write id <:+: t

section
variable {i j t u before : Text}

theorem Lacks.of_infix (h : Lacks i u) (ht : t <:+: u) : Lacks i t :=
  fun hl => h (hl.trans ht)

theorem Lacks.not_append_prefix (h : Lacks i t) : ¬ before ++ Label.write i <+: t :=
  fun hl => h ((List.suffix_append _ _).isInfix.trans hl.isInfix)

theorem lacks_of_length_le (h : t.length ≤ 2) : Lacks i t := by
  intro hl
  have hlen := hl.length_le
  simp only [Label.write, Label.opener, List.length_append, List.length_cons] at hlen
  omega

theorem Label.write_append_inj (hi : IsId i) (hj : IsId j)
    (h : Label.write i ++ t = Label.write j ++ u) : i = j ∧ t = u := by
  have hread := Label.read?_write hi t
  rw [h, Label.read?_write hj u] at hread
  cases hread
  exact ⟨rfl, rfl⟩

/-- Around a label another one stands before it, in its place or behind it. -/
theorem prefix_append_write_append (hi : IsId i) (hj : IsId j)
    (h : before ++ Label.write i <+: t ++ (Label.write j ++ u)) :
    before ++ Label.write i <+: t ∨ before = t ∧ i = j ∨
      ∃ middle, before = t ++ (Label.write j ++ middle) ∧ middle ++ Label.write i <+: u := by
  obtain ⟨after, h⟩ := h
  rw [List.append_assoc] at h
  rcases List.append_eq_append_iff.mp h with ⟨x, rfl, hx⟩ | ⟨x, rfl, hx⟩
  · by_cases hempty : x = []
    · subst hempty
      exact Or.inr (Or.inl ⟨by simp, (Label.write_append_inj hi hj hx).1⟩)
    · obtain ⟨middle, rfl, -⟩ := eq_append_of_write_append hi hempty rfl hx
      exact Or.inl ⟨middle, by simp⟩
  · by_cases hempty : x = []
    · subst hempty
      exact Or.inr (Or.inl ⟨by simp, (Label.write_append_inj hj hi hx).1.symm⟩)
    · obtain ⟨middle, rfl, rfl⟩ := eq_append_of_write_append hj hempty rfl hx
      exact Or.inr (Or.inr ⟨middle, rfl, after, by simp⟩)

/-- A character that no label contains keeps the parts around it apart. -/
theorem Lacks.append_cons {c : Char} (hi : IsId i) (ht : Lacks i t) (hu : Lacks i u)
    (hc : isIdChar c = false) (hb : c ∉ ['[', '^', ']']) : Lacks i (t ++ c :: u) := by
  intro hl
  rcases infix_append_cons_of_not_mem (not_mem_write_of_not_isIdChar hi hc hb) hl with hl | hl
  · exact ht hl
  · exact hu hl

/-- So does another label. -/
theorem Lacks.append_write (hi : IsId i) (hj : IsId j) (hne : i ≠ j) (ht : Lacks i t)
    (hu : Lacks i u) : Lacks i (t ++ (Label.write j ++ u)) := by
  rintro ⟨before, after, h⟩
  rcases prefix_append_write_append hi hj ⟨after, h⟩ with hl | ⟨-, heq⟩ | ⟨middle, -, hl⟩
  · exact ht.not_append_prefix hl
  · exact hne heq
  · exact hu.not_append_prefix hl

end

theorem not_mem_definition_of_not_isIdChar {id : Text} {c : Char} (hid : IsId id)
    (hc : isIdChar c = false) (hb : c ∉ ['[', '^', ']']) : c ∉ Label.write id ++ [':'] := by
  intro hm
  rcases List.mem_append.mp hm with hm | hm
  · exact not_mem_write_of_not_isIdChar hid hc hb hm
  · rw [List.mem_singleton.mp hm] at hc
    cases hc

section
variable {c : Char} (hc : isIdChar c = false) (hb : c ∉ ['[', '^', ']'])
include hc hb

theorem definedId?_append_cons (t u : Text) : definedId? (t ++ c :: u) = definedId? t := by
  apply Option.ext
  intro id
  rw [definedId?_eq_some_iff, definedId?_eq_some_iff]
  refine and_congr_right fun hid => ?_
  exact prefix_append_cons_iff_of_not_mem (not_mem_definition_of_not_isIdChar hid hc hb)

/-- No definition stands across a character that no label contains. -/
theorem definedIdList_append_cons (t u : Text) :
    definedIdList (t ++ c :: u) = definedIdList t ++ definedIdList u := by
  induction t with
  | nil =>
    have hnone : definedId? (c :: u) = none := definedId?_append_cons hc hb [] u
    simp [definedIdList, hnone]
  | cons d t ih =>
    have hhead : definedId? (d :: (t ++ c :: u)) = definedId? (d :: t) :=
      definedId?_append_cons hc hb (d :: t) u
    rw [List.cons_append, definedIdList, definedIdList, hhead, ih, List.append_assoc]

end

theorem opener_prefix_of_definedId? {t id : Text} (h : definedId? t = some id) :
    Label.opener <+: t := by
  obtain ⟨-, hp⟩ := definedId?_eq_some_iff.mp h
  exact List.IsPrefix.trans ⟨id ++ [']', ':'], by simp [Label.write]⟩ hp

theorem definedIdList_append_of_not_mem {t : Text} (h : '[' ∉ t) (u : Text) :
    definedIdList (t ++ u) = definedIdList u := by
  induction t with
  | nil => rfl
  | cons c t ih =>
    rw [List.mem_cons, not_or] at h
    have hnone : definedId? (c :: (t ++ u)) = none := by
      cases hdef : definedId? (c :: (t ++ u)) with
      | none => rfl
      | some id =>
        obtain ⟨rest, hrest⟩ := opener_prefix_of_definedId? hdef
        exact absurd (List.cons.inj hrest).1 h.1
    rw [List.cons_append, definedIdList, hnone, ih h.2]
    rfl

/-- A label defines its id if a colon follows. -/
theorem definedIdList_write_append {id : Text} (h : IsId id) (rest : Text) :
    definedIdList (Label.write id ++ rest) =
      (if [':'] <+: rest then [id] else []) ++ definedIdList rest := by
  have htail : definedIdList ((Label.write id).tail ++ rest) = definedIdList rest :=
    definedIdList_append_of_not_mem (open_not_mem_tail_write h) rest
  have hhead : definedId? (Label.write id ++ rest) = if [':'] <+: rest then some id else none := by
    unfold definedId?
    rw [Label.read?_write h]
    split
    · next heq => cases heq; rw [if_pos ⟨_, rfl⟩]
    · next hcolon =>
      rw [if_neg]
      rintro ⟨r, rfl⟩
      exact hcolon id r rfl
  have hcons : definedIdList (Label.write id ++ rest) =
      (definedId? (Label.write id ++ rest)).toList ++
        definedIdList ((Label.write id).tail ++ rest) := rfl
  rw [hcons, htail, hhead]
  split <;> rfl

end InlineNotes
