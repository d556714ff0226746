import InlineNotes.Proofs.Register

/-!
# Resuming a scan

Segments can be deferred part by part. Each part goes on with the table and the
number that the part before it has left, and where no footnote is open at the end
of a part, nothing else has to be carried over: neither the body of the last
footnote nor the depth of its brackets plays a role for the next one. Then the
table and the number are those of deferring all the segments at once, and the
pieces in front of the definitions are those of the parts, one after the other
(`deferNotes_append`). The definitions are written again with every part, so they
are not part of this: a part has in its block what all parts before it have filed.

It is not claimed that a footnote can be left open between two parts. The first
part would give it back as it stood, and the second would not close it.
-/
namespace InlineNotes

/-- No footnote is open where the segments end. -/
def EndsOutside (segments : List Segment) : Prop := (Outline.ofSegments segments).mode = .outside

instance (segments : List Segment) : Decidable (EndsOutside segments) :=
  inferInstanceAs (Decidable (_ = _))

theorem Table.putAll_append {κ α : Type} [DecidableEq κ] (t : Table κ α) (ps qs : List (κ × α)) :
    t.putAll (ps ++ qs) = (t.putAll ps).putAll qs :=
  List.foldl_append

/-- A label takes the number of the footnotes before it into account, and nothing else. -/
theorem markItems_append (stem : Text) (number : Int) (xs ys : List Item) :
    markItems stem number (xs ++ ys) = markItems stem number xs ++
      markItems stem (number + (xs.filterMap Item.body?).length) ys := by
  induction xs generalizing number with
  | nil => simp [markItems]
  | cons x xs ih =>
    cases x with
    | plain piece => simp [markItems, ih, Item.body?, List.filterMap_cons]
    | note body =>
      have hnumber : number + 1 + ((xs.filterMap Item.body?).length : Int) =
          number + (((Item.note body :: xs).filterMap Item.body?).length : Int) := by
        simp only [List.filterMap_cons, Item.body?, List.length_cons]
        omega
      rw [List.cons_append, markItems, ih, hnumber]
      rfl

section
variable {xs ys : List Segment}

theorem EndsOutside.ofSegments_append (h : EndsOutside xs) :
    Outline.ofSegments (xs ++ ys) =
      ⟨(Outline.ofSegments xs).items ++ (Outline.ofSegments ys).items,
        (Outline.ofSegments ys).mode⟩ := by
  have hmode : (scan .outside xs).mode = .outside := h
  rw [Outline.ofSegments, scan_append, hmode]
  rfl

theorem EndsOutside.tail_eq_nil (h : EndsOutside xs) : (Outline.ofSegments xs).tail = [] := by
  unfold Outline.tail
  rw [h]

theorem EndsOutside.bodies_append (h : EndsOutside xs) :
    (Outline.ofSegments (xs ++ ys)).bodies =
      (Outline.ofSegments xs).bodies ++ (Outline.ofSegments ys).bodies := by
  rw [h.ofSegments_append, Outline.bodies, List.filterMap_append]
  rfl

/-- What is emitted for the second part does not depend on the first part, apart from
the number that it starts with. -/
theorem EndsOutside.marked_append (h : EndsOutside xs) (stem : Text) (number : Int) :
    (Outline.ofSegments (xs ++ ys)).marked stem number =
      (Outline.ofSegments xs).marked stem number ++ (Outline.ofSegments ys).marked stem
        (number + (Outline.ofSegments xs).bodies.length) := by
  have htail : (Outline.ofSegments (xs ++ ys)).tail = (Outline.ofSegments ys).tail := by
    rw [h.ofSegments_append]
    rfl
  have hitems : (Outline.ofSegments (xs ++ ys)).items =
      (Outline.ofSegments xs).items ++ (Outline.ofSegments ys).items := by
    rw [h.ofSegments_append]
  rw [Outline.marked, hitems, markItems_append, htail, Outline.marked, h.tail_eq_nil,
    List.append_nil, List.append_assoc]
  rfl

end

/-- The parts are deferred into one table, each with the number that the part before
it has returned. -/
def Register.resume (stem : Text) (s : Register) (parts : List (List Segment)) : Register :=
  parts.foldl (fun s part => s.call ⟨stem, s.next, part⟩) s

section
variable (stem : Text)

theorem Register.call_eq (s : Register) (number : Int) (segments : List Segment) :
    let bodies := (Outline.ofSegments segments).bodies
    s.call ⟨stem, number, segments⟩ =
      ⟨s.notes.putAll (numbered stem number bodies), number + bodies.length⟩ := by
  rw [Register.call, Call.defer_eq]
  rfl

/-- Two parts leave what one call leaves that has both. -/
theorem Register.call_append (s : Register) {xs : List Segment} (h : EndsOutside xs)
    (ys : List Segment) :
    let first := s.call ⟨stem, s.next, xs⟩
    first.call ⟨stem, first.next, ys⟩ = s.call ⟨stem, s.next, xs ++ ys⟩ := by
  simp only [Register.call_eq, h.bodies_append, numbered_append, Table.putAll_append,
    List.length_append, Int.natCast_add, Int.add_assoc]

/-- Any number of parts leave what one call leaves that has all of them. Only the last
one may end in an open footnote. -/
theorem Register.resume_append (s : Register) {parts : List (List Segment)}
    (h : ∀ part ∈ parts, EndsOutside part) (last : List Segment) :
    s.resume stem (parts ++ [last]) = s.call ⟨stem, s.next, parts.flatten ++ last⟩ := by
  induction parts generalizing s with
  | nil => rfl
  | cons part parts ih =>
    obtain ⟨hpart, hparts⟩ := List.forall_mem_cons.mp h
    have hrest := ih (s.call ⟨stem, s.next, part⟩) hparts
    rw [List.flatten_cons, List.append_assoc, ← s.call_append stem hpart, ← hrest]
    rfl

/-- Deferring two parts one after the other is deferring them at once: same table,
same next number, and in front of the definitions the same pieces. -/
theorem deferNotes_append (notes : Table Text (List Segment)) (number : Int) {xs : List Segment}
    (h : EndsOutside xs) (ys : List Segment) :
    let first := deferNotes stem notes number xs
    let second := deferNotes stem first.notes first.next ys
    let whole := deferNotes stem notes number (xs ++ ys)
    whole.notes = second.notes ∧ whole.next = second.next ∧
      ∃ before after, first.pieces = before ++ definitionBlock first.notes ∧
        second.pieces = after ++ definitionBlock second.notes ∧
          whole.pieces = before ++ after ++ definitionBlock whole.notes := by
  intro first second whole
  obtain ⟨hnotes, hnext⟩ := Register.mk.inj (Register.call_append stem ⟨notes, number⟩ h ys)
  have hfirst : first = _ := deferNotes_eq stem notes number xs
  have hsecond : second = _ := deferNotes_eq stem first.notes first.next ys
  have hwhole : whole = _ := deferNotes_eq stem notes number (xs ++ ys)
  refine ⟨hnotes.symm, hnext.symm, (Outline.ofSegments xs).marked stem number,
    (Outline.ofSegments ys).marked stem first.next, by rw [hfirst], by rw [hsecond], ?_⟩
  have hnumber : first.next = number + (Outline.ofSegments xs).bodies.length := by rw [hfirst]
  rw [hnumber, ← h.marked_append, hwhole]

/-- Brackets on both sides of a reference in the first part, a footnote that stays open
in the second one, and an id that the table has already. -/
theorem deferNotes_append_nested :
    let ref : Segment := .reference ⟨3, "[^r]".toList⟩
    let notes : Table Text (List Segment) := Table.empty.put "n1".toList [.literal "old".toList]
    let xs : List Segment := [.literal "a[^b[".toList, ref, .literal "]]c".toList]
    let ys : List Segment := [.literal "d[^e]f[^g[".toList, ref]
    let first := deferNotes "n".toList notes 0 xs
    let whole := deferNotes "n".toList notes 0 (xs ++ ys)
    EndsOutside xs ∧
      whole.next = (deferNotes "n".toList first.notes first.next ys).next ∧ whole.next = 2 ∧
        whole.notes.entries = [("n1".toList, [.literal "e".toList]),
          ("n0".toList, [.literal "b[".toList, ref, .literal "]".toList])] := by
  intro ref notes xs ys first whole
  have h : EndsOutside xs := by decide +kernel
  obtain ⟨-, hnext, -⟩ := deferNotes_append "n".toList notes 0 h ys
  exact ⟨h, hnext, by decide +kernel, by decide +kernel⟩

end

end InlineNotes
