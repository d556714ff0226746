import InlineNotes.Proofs.Walk

/-!
# Deferral is a walk

The scan of a document jumps from opener to bracket and keeps its footnotes as
segments; numbers and labels come in afterwards. It still comes to the same
thing as the walk that goes over the atoms one at a time and numbers as it goes.
The two sides are joined at every border of two segments by `Walk.ofScan`: the
walk has emitted the pieces, filled the table and counted as deferring the items
found so far would, and it stands where the scan stands.
-/
namespace InlineNotes
open Atom
variable {ρ : Type}

/-- The place of a walk at a point where a scan is in a mode. -/
def Mode.place (view : Reference → ρ) : Mode → Place ρ
  | .outside => .outside
  | .inside body depth => .inside (flatten view body) depth

/-- The walk that has emitted the pieces of a deferral and stopped in a mode. -/
def Walk.ofScan (view : Reference → ρ) (emitted : List (Atom ρ)) (d : Deferral) (mode : Mode) :
    Walk ρ :=
  ⟨emitted ++ flatten view d.pieces, d.notes.map (flatten view), d.next, mode.place view⟩

section
variable (stem : Text) (view : Reference → ρ)
open Walk

@[simp] theorem Mode.place_outside : Mode.outside.place view = .outside := rfl

@[simp] theorem Mode.place_inside (body : List Segment) (depth : Nat) :
    (Mode.inside body depth).place view = .inside (flatten view body) depth := rfl

theorem Walk.ofScan_append (emitted : List (Atom ρ)) (pieces : List Segment) (d : Deferral)
    (mode : Mode) :
    Walk.ofScan view emitted ⟨pieces ++ d.pieces, d.notes, d.next⟩ mode =
      Walk.ofScan view (emitted ++ flatten view pieces) d mode := by
  simp [Walk.ofScan]

theorem ofItems_plain_append (notes : Table Text (List Segment)) (number : Int)
    (pieces : List Segment) (items : List Item) :
    let d := Deferral.ofItems stem notes number items
    Deferral.ofItems stem notes number (pieces.map .plain ++ items) =
      ⟨pieces ++ d.pieces, d.notes, d.next⟩ := by
  induction pieces with
  | nil => rfl
  | cons x xs ih => simp [Deferral.ofItems, ih]

/-- One literal: the scan that looks for openers and brackets and the walk that
goes over the characters file the same bodies and stop in the same place. -/
theorem readAtoms_ofText (mode : Mode) (t : Text) (emitted : List (Atom ρ))
    (notes : Table Text (List Segment)) (number : Int) :
    readAtoms stem ⟨emitted, notes.map (flatten view), number, mode.place view⟩ (ofText t) =
      Walk.ofScan view emitted (Deferral.ofItems stem notes number (scanText mode t).items)
        (scanText mode t).mode := by
  induction mode, t using scanText.induct generalizing emitted notes number with
  | case1 mode => simp [Walk.ofScan, Deferral.ofItems]
  | case2 c r h =>
    have hplain : Plain (ofText (c :: r) : List (Atom ρ)) := cutAtOpener?_eq_none_iff.mp h
    have hitems := ofItems_plain_append stem notes number (Segment.ofText (c :: r)) []
    rw [List.append_nil] at hitems
    rw [scanText_of_no_opener h, hitems, Walk.ofScan_append, flatten_ofText, Mode.place_outside,
      readAtoms_of_plain stem emitted _ number hplain]
    simp [Walk.ofScan, Deferral.ofItems]
  | case3 c r before after h ih =>
    have hplain : Plain (ofText before : List (Atom ρ)) := plain_of_cutAtOpener? h
    have htext : (ofText (c :: r) : List (Atom ρ)) = ofText before ++ (opener ++ ofText after) := by
      rw [eq_append_of_cutAtOpener? h]
      simp [ofText_opener]
    rw [scanText_of_opener h, ofItems_plain_append, Walk.ofScan_append, flatten_ofText, htext,
      Mode.place_outside, readAtoms_first_opener stem emitted _ number hplain]
    exact ih (emitted ++ ofText before) notes number
  | case4 body depth c r left h =>
    have hdepth : depthAfter depth (ofText (c :: r) : List (Atom ρ)) = some left :=
      depthAfter_of_unclosed h
    rw [scanText_of_unclosed h, Mode.place_inside,
      readAtoms_body stem emitted _ number hdepth (flatten view body)]
    simp [Walk.ofScan, Deferral.ofItems]
  | case5 body depth c r before after h ih =>
    have hdepth : depthAfter depth (ofText before : List (Atom ρ)) = some 0 :=
      depthAfter_of_closed h
    have htext : (ofText (c :: r) : List (Atom ρ)) = ofText before ++ closer :: ofText after := by
      rw [Closing.eq_append_of_find h]
      simp [closer]
    rw [scanText_of_closed h, htext, Mode.place_inside,
      readAtoms_first_closer stem emitted _ number hdepth]
    have hbody : flatten view body ++ ofText before =
        flatten view (body ++ Segment.ofText before) := by
      simp
    have hclose := ih (emitted ++ ofText (Label.write (numberedId stem number)))
      (notes.put (numberedId stem number) (body ++ Segment.ofText before)) (number + 1)
    rw [Table.map_put, ← hbody] at hclose
    apply hclose.trans
    simp [Walk.ofScan, Deferral.ofItems]

theorem readSegments_cons (w : Walk ρ) (x : Segment) (xs : List Segment) :
    readSegments stem view w (x :: xs) =
      readSegments stem view (readAtoms stem w (x.atoms view)) xs := rfl

/-- Walking over segments does what scanning and deferring them does. -/
theorem readSegments_eq_ofScan (mode : Mode) (segments : List Segment) (emitted : List (Atom ρ))
    (notes : Table Text (List Segment)) (number : Int) :
    readSegments stem view ⟨emitted, notes.map (flatten view), number, mode.place view⟩ segments =
      Walk.ofScan view emitted (Deferral.ofItems stem notes number (scan mode segments).items)
        (scan mode segments).mode := by
  induction segments generalizing mode emitted notes number with
  | nil => simp [readSegments, Walk.ofScan, scan, Deferral.ofItems]
  | cons x xs ih =>
    rw [readSegments_cons]
    cases x with
    | literal t =>
      simp only [scan, Deferral.ofItems_append, Walk.ofScan_append]
      rw [Segment.atoms, readAtoms_ofText]
      exact ih _ _ _ _
    | reference ref =>
      cases mode with
      | outside =>
        have href : (Segment.reference ref).atoms view = [.reference (view ref)] := rfl
        have hplain : Plain [.reference (view ref)] := by
          simp [Plain, opener, List.infix_cons_iff]
        have hstep := readAtoms_of_plain stem emitted (notes.map (flatten view)) number hplain
        rw [href, Mode.place_outside, hstep]
        exact (ih .outside _ notes number).trans
          (Walk.ofScan_append view emitted [.reference ref] _ _).symm
      | inside body depth =>
        have href : (Segment.reference ref).atoms view = [.reference (view ref)] := rfl
        have hdepth : depthAfter depth [.reference (view ref)] = some depth := rfl
        have hstep := readAtoms_body stem emitted (notes.map (flatten view)) number hdepth
          (flatten view body)
        have hbody : flatten view body ++ [.reference (view ref)] =
            flatten view (body ++ [.reference ref]) := by
          simp
        rw [href, Mode.place_inside, hstep, hbody]
        exact ih (.inside (body ++ [.reference ref]) depth) emitted notes number

theorem flatten_tail (o : Outline) : flatten view o.tail = (o.mode.place view).raw := by
  obtain ⟨items, mode⟩ := o
  cases mode <;> rfl

theorem flatten_definition (id : Text) (body : List Segment) :
    flatten view (definition id body) =
      ofText (Label.write id ++ [':', ' ']) ++ flatten view body ++ ofText ['\n'] := by
  simp [definition]

theorem flatten_definitionBlock (notes : Table Text (List Segment)) :
    flatten view (definitionBlock notes) = block (notes.map (flatten view)) := by
  have hempty : (notes.map (flatten view)).isEmpty = notes.isEmpty := by
    simp [Table.isEmpty, Table.map]
  unfold definitionBlock block
  rw [hempty]
  split
  · rfl
  · rw [flatten_literal, flatten, List.flatMap_assoc]
    congr 1
    simp only [Table.map, List.flatMap_map]
    congr 1
    funext p
    exact flatten_definition view p.1 p.2

/-- Deferring the footnotes of segments is walking over their atoms, whatever is
seen of a reference. -/
theorem flatten_deferNotes (notes : Table Text (List Segment)) (number : Int)
    (segments : List Segment) :
    let d := deferNotes stem notes number segments
    let w := readSegments stem view ⟨[], notes.map (flatten view), number, .outside⟩ segments
    flatten view d.pieces = w.output ∧ d.notes.map (flatten view) = w.notes ∧
      d.next = w.number := by
  intro d w
  have hw : w = Walk.ofScan view [] _ _ :=
    readSegments_eq_ofScan stem view .outside segments [] notes number
  rw [hw]
  refine ⟨?_, rfl, rfl⟩
  simp only [d, deferNotes, flatten_append, flatten_tail, flatten_definitionBlock]
  rfl

end

open Walk

/-- Deferral refines the walk: same output, same table, same next number. So where
no opener is cut, only the atoms of a document count and not its segments. -/
theorem deferNotes_refines_walk (stem : Text) (notes : Table Text (List Segment)) (number : Int) :
    (∀ segments,
      let d := deferNotes stem notes number segments
      let w := readSegments stem id ⟨[], notes.map (flatten id), number, .outside⟩ segments
      flatten id d.pieces = w.output ∧ d.notes.map (flatten id) = w.notes ∧ d.next = w.number) ∧
    ∀ xs ys, flatten id xs = flatten id ys → KeepsOpeners id xs → KeepsOpeners id ys →
      let d := deferNotes stem notes number xs
      let e := deferNotes stem notes number ys
      flatten id d.pieces = flatten id e.pieces ∧
        d.notes.map (flatten id) = e.notes.map (flatten id) ∧ d.next = e.next := by
  refine ⟨flatten_deferNotes stem id notes number, ?_⟩
  intro xs ys hatoms hxs hys d e
  have hwalk : readSegments stem id ⟨[], notes.map (flatten id), number, .outside⟩ xs =
      readSegments stem id ⟨[], notes.map (flatten id), number, .outside⟩ ys := by
    rw [readSegments_eq_readAtoms id stem _ hxs, readSegments_eq_readAtoms id stem _ hys, hatoms]
  obtain ⟨hdp, hdn, hdk⟩ := flatten_deferNotes stem id notes number xs
  obtain ⟨hep, hen, hek⟩ := flatten_deferNotes stem id notes number ys
  rw [hwalk] at hdp hdn hdk
  exact ⟨hdp.trans hep.symm, hdn.trans hen.symm, hdk.trans hek.symm⟩

/-- A document cut inside a body, between its brackets and around an empty literal. -/
theorem deferNotes_recut :
    let ref : Segment := .reference ⟨7, "[^z]".toList⟩
    let xs : List Segment := [.literal "a[^b[".toList, ref, .literal "]c] [^".toList]
    let ys : List Segment :=
      [.literal "a".toList, .literal [], .literal "[^b[".toList, ref, .literal "]".toList,
        .literal "c] [^".toList]
    let notes : Table Text (List Segment) := Table.empty.put "n9".toList [.literal "old".toList]
    let d := deferNotes "n".toList notes 9 xs
    let e := deferNotes "n".toList notes 9 ys
    (flatten id xs = flatten id ys ∧ KeepsOpeners id xs ∧ KeepsOpeners id ys) ∧
      flatten id d.pieces = flatten id e.pieces ∧
        d.notes.map (flatten id) = e.notes.map (flatten id) ∧ d.next = e.next := by
  intro ref xs ys notes d e
  have hatoms : flatten id xs = flatten id ys := rfl
  have hxs : KeepsOpeners id xs := by
    simp [xs, ref, keepsOpeners_cons_iff, keepsOpeners_nil, CutsOpener, Segment.atoms]
  have hys : KeepsOpeners id ys := by
    simp [ys, ref, keepsOpeners_cons_iff, keepsOpeners_nil, CutsOpener, Segment.atoms]
  exact ⟨⟨hatoms, hxs, hys⟩,
    (deferNotes_refines_walk "n".toList notes 9).2 xs ys hatoms hxs hys⟩

end InlineNotes
