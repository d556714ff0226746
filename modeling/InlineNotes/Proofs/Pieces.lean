import InlineNotes.Proofs.References

/-!
# No piece is empty, and bodies are balanced

Pieces come about in many places: in front of an opener, behind the last one, from each of
the segments over which a body stretches, and where an open footnote is given back. None of
them is empty, although segments may be. An empty body has no piece at all. And the brackets
of a body that is filed pair up, where those in references do not count.

Both follow from what the scan knows of a footnote that is open: its body has no empty piece,
and its depth is the number of brackets that are open in it (`Mode.Sound`). Scanning one
literal keeps this, and so does scanning any number of segments. A footnote closes at depth
zero, so its body has closed all its brackets. Nothing is made up on the way: a body is what
stands between an opener and a closing bracket, because the scan keeps all atoms
(`flatten_scan`).
-/
namespace InlineNotes
open Atom

/-- The open footnote has no empty piece, and its depth is the count of its brackets. -/
def Mode.Sound : Mode → Prop
  | .outside => True
  | .inside body depth => .literal [] ∉ body ∧ depthAfter 0 (flatten id body) = some depth

def Item.Sound : Item → Prop
  | .plain piece => piece ≠ .literal []
  | .note body => .literal [] ∉ body ∧ Balanced (flatten id body)

structure Outline.Sound (o : Outline) : Prop where
  item : ∀ item ∈ o.items, item.Sound
  mode : o.mode.Sound

theorem Mode.Sound.of_no_items {mode : Mode} (h : mode.Sound) : (⟨[], mode⟩ : Outline).Sound :=
  ⟨fun _ hi => absurd hi List.not_mem_nil, h⟩

theorem literal_nil_not_mem_ofText (t : Text) : .literal [] ∉ Segment.ofText t := by
  cases t <;> simp [Segment.ofText]

theorem sound_of_mem_plain_ofText {t : Text} {item : Item}
    (h : item ∈ (Segment.ofText t).map Item.plain) : item.Sound := by
  obtain ⟨piece, hpiece, rfl⟩ := List.mem_map.mp h
  rintro rfl
  exact literal_nil_not_mem_ofText t hpiece

section
variable {body : List Segment} {depth left : Nat} {t : Text}

theorem Mode.Sound.append_ofText (h : (Mode.inside body depth).Sound)
    (ht : depthAfter depth (ofText t : List (Atom Reference)) = some left) :
    (Mode.inside (body ++ Segment.ofText t) left).Sound := by
  obtain ⟨hpieces, hdepth⟩ := h
  refine ⟨?_, ?_⟩
  · rw [List.mem_append, not_or]
    exact ⟨hpieces, literal_nil_not_mem_ofText t⟩
  · rw [flatten_append, flatten_ofText, depthAfter_append, hdepth]
    exact ht

theorem Mode.Sound.append_reference (h : (Mode.inside body depth).Sound) (ref : Reference) :
    (Mode.inside (body ++ [.reference ref]) depth).Sound := by
  obtain ⟨hpieces, hdepth⟩ := h
  refine ⟨by simpa using hpieces, ?_⟩
  rw [flatten_append, depthAfter_append, hdepth]
  rfl

/-- At depth zero all brackets of the body are closed. -/
theorem Mode.Sound.note (h : (Mode.inside body 0).Sound) : (Item.note body).Sound :=
  ⟨h.1, balanced_iff.mpr h.2⟩

end

/-- Scanning one literal. -/
theorem scanText_sound {mode : Mode} (h : mode.Sound) (t : Text) : (scanText mode t).Sound := by
  induction mode, t using scanText.induct with
  | case1 mode =>
    rw [scanText_nil]
    exact h.of_no_items
  | case2 c r hnone =>
    rw [scanText_of_no_opener hnone]
    exact ⟨fun _ hi => sound_of_mem_plain_ofText hi, trivial⟩
  | case3 c r before after hopen ih =>
    have hrest : (scanText (.inside [] 0) after).Sound := ih ⟨List.not_mem_nil, rfl⟩
    rw [scanText_of_opener hopen]
    refine ⟨fun item hi => ?_, hrest.mode⟩
    rcases List.mem_append.mp hi with hi | hi
    · exact sound_of_mem_plain_ofText hi
    · exact hrest.item item hi
  | case4 body depth c r left hopen =>
    rw [scanText_of_unclosed hopen]
    exact (h.append_ofText (depthAfter_of_unclosed hopen)).of_no_items
  | case5 body depth c r before after hclose ih =>
    have hrest : (scanText .outside after).Sound := ih trivial
    -- The closing bracket itself is not counted: in front of it the count is back at zero.
    have hbody : (Mode.inside (body ++ Segment.ofText before) 0).Sound :=
      h.append_ofText (depthAfter_of_closed hclose)
    rw [scanText_of_closed hclose]
    exact ⟨List.forall_mem_cons.mpr ⟨hbody.note, hrest.item⟩, hrest.mode⟩

/-- Scanning any number of segments. -/
theorem scan_sound {mode : Mode} (h : mode.Sound) (segments : List Segment) :
    (scan mode segments).Sound := by
  induction segments generalizing mode with
  | nil => exact h.of_no_items
  | cons x xs ih =>
    cases x with
    | literal t =>
      have hfirst : (scanText mode t).Sound := scanText_sound h t
      have hothers : (scan (scanText mode t).mode xs).Sound := ih hfirst.mode
      refine ⟨fun item hi => ?_, hothers.mode⟩
      rcases List.mem_append.mp hi with hi | hi
      · exact hfirst.item item hi
      · exact hothers.item item hi
    | reference ref =>
      cases mode with
      | outside =>
        have hothers : (scan .outside xs).Sound := ih trivial
        exact ⟨List.forall_mem_cons.mpr ⟨Segment.noConfusion, hothers.item⟩, hothers.mode⟩
      | inside body depth => exact ih (h.append_reference ref)

theorem sound_ofSegments (segments : List Segment) : (Outline.ofSegments segments).Sound := by
  have houtside : Mode.outside.Sound := trivial
  exact scan_sound houtside segments

theorem Outline.mem_bodies_iff {o : Outline} {body : List Segment} :
    body ∈ o.bodies ↔ .note body ∈ o.items := by
  rw [bodies, List.mem_filterMap]
  constructor
  · rintro ⟨item, hitem, hsome⟩
    cases item with
    | plain piece => cases hsome
    | note body' =>
      cases hsome
      exact hitem
  · exact fun h => ⟨.note body, h, rfl⟩

theorem Outline.Sound.note_of_mem_bodies {o : Outline} (h : o.Sound) {body : List Segment}
    (hbody : body ∈ o.bodies) : (Item.note body).Sound :=
  h.item _ (Outline.mem_bodies_iff.mp hbody)

theorem Outline.Sound.literal_nil_not_mem_tail {o : Outline} (h : o.Sound) :
    .literal [] ∉ o.tail := by
  obtain ⟨items, mode⟩ := o
  cases mode with
  | outside => exact List.not_mem_nil
  | inside body depth => simpa [Outline.tail, Label.opener] using h.mode.1

theorem literal_nil_not_mem_markItems {items : List Item} (h : ∀ item ∈ items, item.Sound)
    (stem : Text) (number : Int) : .literal [] ∉ markItems stem number items := by
  induction items generalizing number with
  | nil => exact List.not_mem_nil
  | cons item items ih =>
    obtain ⟨hitem, hitems⟩ := List.forall_mem_cons.mp h
    cases item with
    | plain piece =>
      rw [markItems, List.mem_cons, not_or]
      exact ⟨Ne.symm hitem, ih hitems number⟩
    | note body =>
      rw [markItems, List.mem_cons, not_or]
      exact ⟨by simp [Label.write, Label.opener], ih hitems (number + 1)⟩

theorem Outline.Sound.literal_nil_not_mem_marked {o : Outline} (h : o.Sound) (stem : Text)
    (number : Int) : .literal [] ∉ o.marked stem number := by
  rw [Outline.marked, List.mem_append, not_or]
  exact ⟨literal_nil_not_mem_markItems h.item stem number, h.literal_nil_not_mem_tail⟩

/-- The block adds no empty piece to those of the bodies. -/
theorem literal_nil_not_mem_definitionBlock {notes : Table Text (List Segment)}
    (h : ∀ p ∈ notes.entries, .literal [] ∉ p.2) : .literal [] ∉ definitionBlock notes := by
  unfold definitionBlock
  split
  · exact List.not_mem_nil
  · rw [List.mem_cons, List.mem_flatMap]
    rintro (hline | ⟨p, hp, hpiece⟩)
    · cases hline
    · simp only [definition, Label.write, Label.opener, List.cons_append, List.mem_cons,
        List.mem_append, Segment.literal.injEq, reduceCtorEq, List.not_mem_nil, false_or,
        or_false] at hpiece
      exact h p hp hpiece

namespace Table
variable {κ α : Type} [DecidableEq κ]

theorem mem_entries_put {t : Table κ α} {key : κ} {value : α} {p : κ × α}
    (h : p ∈ (t.put key value).entries) : p = (key, value) ∨ p ∈ t.entries := by
  have hpairs : ∀ ps : List (κ × α), p ∈ putPair key value ps → p = (key, value) ∨ p ∈ ps := by
    intro ps
    induction ps with
    | nil => simp [putPair]
    | cons q ps ih =>
      intro hp
      unfold putPair at hp
      split at hp
      · rcases List.mem_cons.mp hp with rfl | hp
        · exact Or.inl rfl
        · exact Or.inr (List.mem_cons_of_mem q hp)
      · rcases List.mem_cons.mp hp with rfl | hp
        · exact Or.inr List.mem_cons_self
        · exact (ih hp).imp_right (List.mem_cons_of_mem q)
  exact hpairs t.entries h

/-- What a table holds in the end was there before or has been put there. -/
theorem mem_entries_putAll {t : Table κ α} {ps : List (κ × α)} {p : κ × α}
    (h : p ∈ (t.putAll ps).entries) : p ∈ t.entries ∨ p ∈ ps := by
  induction ps generalizing t with
  | nil => exact Or.inl h
  | cons q ps ih =>
    rw [putAll_cons] at h
    rcases ih h with h | h
    · rcases mem_entries_put h with rfl | h
      · exact Or.inr List.mem_cons_self
      · exact Or.inl h
    · exact Or.inr (List.mem_cons_of_mem q h)

end Table

/-- What the old bodies and the new ones have in common, all bodies have in the end. -/
theorem forall_entries_putAll_numbered {P : List Segment → Prop} {notes : Table Text (List Segment)}
    (h : ∀ p ∈ notes.entries, P p.2) {bodies : List (List Segment)}
    (hbodies : ∀ body ∈ bodies, P body) (stem : Text) (number : Int) :
    ∀ p ∈ (notes.putAll (numbered stem number bodies)).entries, P p.2 := by
  intro p hp
  rcases Table.mem_entries_putAll hp with hp | hp
  · exact h p hp
  · refine hbodies p.2 ?_
    rw [← values_numbered stem number bodies]
    exact List.mem_map_of_mem hp

/-- A body is what stands between an opener and a closing bracket. -/
theorem infix_of_mem_bodies {segments body : List Segment}
    (h : body ∈ (Outline.ofSegments segments).bodies) :
    opener ++ (flatten id body ++ [closer]) <:+: flatten id segments := by
  have hatoms : (Outline.ofSegments segments).items.flatMap Item.atoms ++
      ((Outline.ofSegments segments).mode.place id).raw = flatten id segments :=
    flatten_scan .outside segments
  have hitem : (Item.note body).atoms <:+: (Outline.ofSegments segments).items.flatMap Item.atoms :=
    List.infix_of_mem_flatten (List.mem_map_of_mem (Outline.mem_bodies_iff.mp h))
  rw [← hatoms]
  exact hitem.trans (List.prefix_append _ _).isInfix

/-- If the bodies of a table are balanced and without empty pieces, so are those of any table
that calls make of it. -/
theorem Register.run_sound (calls : List Call) {s : Register}
    (h : ∀ p ∈ s.notes.entries, (Item.note p.2).Sound) :
    ∀ p ∈ (s.run calls).notes.entries, (Item.note p.2).Sound := by
  induction calls generalizing s with
  | nil => exact h
  | cons c calls ih =>
    rw [run_cons]
    refine ih ?_
    rw [call, c.defer_eq]
    exact forall_entries_putAll_numbered (P := fun body => (Item.note body).Sound) h
      (fun body hbody => (sound_ofSegments c.segments).note_of_mem_bodies hbody) c.stem c.number

/-- Deferral emits no empty piece and files none, and the bodies that it files are balanced:
each is what stands between an opener and a closing bracket of the segments. The bodies that
the table has before may be anything without empty pieces. -/
theorem deferNotes_pieces_sound (stem : Text) {notes : Table Text (List Segment)} (number : Int)
    (segments : List Segment) (h : ∀ p ∈ notes.entries, .literal [] ∉ p.2) :
    let d := deferNotes stem notes number segments
    let bodies := (Outline.ofSegments segments).bodies
    d.notes = notes.putAll (numbered stem number bodies) ∧
      .literal [] ∉ d.pieces ∧ (∀ p ∈ d.notes.entries, .literal [] ∉ p.2) ∧
      ∀ body ∈ bodies, .literal [] ∉ body ∧ Balanced (flatten id body) ∧
        opener ++ (flatten id body ++ [closer]) <:+: flatten id segments := by
  intro d bodies
  have ho : (Outline.ofSegments segments).Sound := sound_ofSegments segments
  have hbodies : ∀ body ∈ bodies, (Item.note body).Sound := fun _ => ho.note_of_mem_bodies
  have hfiled : d.notes = notes.putAll (numbered stem number bodies) := by
    simp only [d, deferNotes_eq, bodies]
  have hnotes : ∀ p ∈ d.notes.entries, .literal [] ∉ p.2 := by
    rw [hfiled]
    exact forall_entries_putAll_numbered h (fun body hbody => (hbodies body hbody).1) stem number
  have hpieces : d.pieces =
      (Outline.ofSegments segments).marked stem number ++ definitionBlock d.notes := by
    simp only [d, deferNotes_eq]
  refine ⟨hfiled, ?_, hnotes, fun body hbody =>
    ⟨(hbodies body hbody).1, (hbodies body hbody).2, infix_of_mem_bodies hbody⟩⟩
  rw [hpieces, List.mem_append, not_or]
  exact ⟨ho.literal_nil_not_mem_marked stem number, literal_nil_not_mem_definitionBlock hnotes⟩

/-- Empty segments around a body and in it, a body without pieces, a reference that looks like
a closing bracket, a footnote that stays open, and a table with a body that is not balanced. -/
theorem deferNotes_pieces_sound_empty :
    let ref : Segment := .reference ⟨3, "]".toList⟩
    let notes : Table Text (List Segment) :=
      (Table.empty.put "x".toList [.literal "]".toList]).put "n0".toList [ref]
    let segments : List Segment :=
      [.literal [], .literal "a[^".toList, .literal [], .literal "b[".toList, ref,
        .literal "]".toList, .literal "][^][^c[".toList, .literal [], ref]
    let body : List Segment := [.literal "b[".toList, ref, .literal "]".toList]
    let d := deferNotes "n".toList notes (-1) segments
    (∀ p ∈ notes.entries, .literal [] ∉ p.2) ∧
      d.notes.entries =
        [("x".toList, [.literal "]".toList]), ("n0".toList, []), ("n-1".toList, body)] ∧
      .literal [] ∉ d.pieces ∧ Balanced (flatten id body) := by
  intro ref notes segments body d
  have hnotes : ∀ p ∈ notes.entries, .literal [] ∉ p.2 := by decide +kernel
  obtain ⟨-, hpieces, -, hbodies⟩ :=
    deferNotes_pieces_sound "n".toList (-1) segments hnotes
  have hbody : body ∈ (Outline.ofSegments segments).bodies := by decide +kernel
  exact ⟨hnotes, by decide +kernel, hpieces, (hbodies body hbody).2.1⟩

end InlineNotes
