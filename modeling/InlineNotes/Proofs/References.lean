import InlineNotes.Proofs.Protection
import InlineNotes.Proofs.Register

/-!
# References are carried along

A reference that is met inside a footnote may end up in two places: in the body,
if the footnote closes later on, or in the tail, if it never does. The scan keeps
it in both until it knows. That no reference is lost or doubled on the way is
therefore a fact about whole scans: the atoms of the items and of the open footnote
are those that were there before and those of the segments, in the same order
(`flatten_scan`), and so are the references among them. The pieces before the
definitions and the definitions share these references out between them, and none
of them changes its label, so the table of labels is not needed to write them
(`convert_uses_references_once`).
-/
namespace InlineNotes
open Atom

@[simp] theorem references_nil : references [] = [] := rfl

@[simp] theorem references_literal (t : Text) (segments : List Segment) :
    references (.literal t :: segments) = references segments := rfl

@[simp] theorem references_reference (ref : Reference) (segments : List Segment) :
    references (.reference ref :: segments) = ref :: references segments := rfl

@[simp] theorem references_append (xs ys : List Segment) :
    references (xs ++ ys) = references xs ++ references ys :=
  List.filterMap_append

@[simp] theorem references_ofText (t : Text) : references (Segment.ofText t) = [] := by
  cases t <;> rfl

theorem mem_references_iff {ref : Reference} {segments : List Segment} :
    ref ∈ references segments ↔ .reference ref ∈ segments := by
  induction segments with
  | nil => simp
  | cons x xs ih => cases x <;> simp [ih]

/-- The references of an item. A label has none. -/
def Item.references : Item → List Reference
  | .plain piece => InlineNotes.references [piece]
  | .note body => InlineNotes.references body

/-- The references of the footnote that is open. -/
def Mode.references : Mode → List Reference
  | .outside => []
  | .inside body _ => InlineNotes.references body

/-- The atoms of an item. Those of a footnote go from its opener to the bracket that closes it. -/
def Item.atoms : Item → List (Atom Reference)
  | .plain piece => piece.atoms id
  | .note body => opener ++ (flatten id body ++ [closer])

theorem atoms_plain_ofText (t : Text) :
    ((Segment.ofText t).map Item.plain).flatMap Item.atoms = ofText t := by
  cases t with
  | nil => rfl
  | cons c t => exact List.append_nil _

theorem flatten_scanText (mode : Mode) (t : Text) :
    (scanText mode t).items.flatMap Item.atoms ++ ((scanText mode t).mode.place id).raw =
      (mode.place id).raw ++ ofText t := by
  induction mode, t using scanText.induct with
  | case1 mode => simp
  | case2 c r h =>
    rw [scanText_of_no_opener h, atoms_plain_ofText]
    simp [Place.raw]
  | case3 c r before after h ih =>
    rw [scanText_of_opener h, List.flatMap_append, atoms_plain_ofText, List.append_assoc, ih,
      eq_append_of_cutAtOpener? h]
    simp [Place.raw, ofText_opener]
  | case4 body depth c r left h =>
    rw [scanText_of_unclosed h]
    simp [Place.raw]
  | case5 body depth c r before after h ih =>
    rw [scanText_of_closed h, List.flatMap_cons, List.append_assoc, ih, Closing.eq_append_of_find h]
    simp [Place.raw, Item.atoms, closer]

/-- The items of a scan and the footnote that it leaves open have the atoms that were read. -/
theorem flatten_scan (mode : Mode) (segments : List Segment) :
    (scan mode segments).items.flatMap Item.atoms ++ ((scan mode segments).mode.place id).raw =
      (mode.place id).raw ++ flatten id segments := by
  induction segments generalizing mode with
  | nil => simp [scan]
  | cons x xs ih =>
    cases x with
    | literal t =>
      simp only [scan, List.flatMap_append, List.append_assoc, flatten_literal]
      rw [ih, ← List.append_assoc, flatten_scanText, List.append_assoc]
    | reference ref =>
      cases mode with
      | outside =>
        simp only [scan, List.flatMap_cons, List.append_assoc, ih]
        rfl
      | inside body depth =>
        simp only [scan, ih]
        simp [Place.raw]

def Atom.reference? {ρ : Type} : Atom ρ → Option ρ
  | .char _ => none
  | .reference ref => some ref

@[simp] theorem filterMap_reference?_ofText {ρ : Type} (t : Text) :
    (ofText t : List (Atom ρ)).filterMap Atom.reference? = [] := by
  induction t with
  | nil => rfl
  | cons c t ih => exact ih

theorem filterMap_reference?_flatten (segments : List Segment) :
    (flatten id segments).filterMap Atom.reference? = references segments := by
  induction segments with
  | nil => rfl
  | cons x xs ih =>
    cases x with
    | literal t => simp [ih]
    | reference ref => simp [ih, Atom.reference?]

theorem filterMap_reference?_atoms (item : Item) :
    item.atoms.filterMap Atom.reference? = item.references := by
  cases item with
  | plain piece =>
    cases piece <;> simp [Item.atoms, Item.references, Segment.atoms, Atom.reference?]
  | note body =>
    rw [Item.references, ← filterMap_reference?_flatten, Item.atoms, ← ofText_opener]
    simp [closer, Atom.reference?]

theorem filterMap_reference?_raw (mode : Mode) :
    (mode.place id).raw.filterMap Atom.reference? = mode.references := by
  cases mode with
  | outside => rfl
  | inside body depth =>
    rw [Mode.references, ← filterMap_reference?_flatten, Mode.place_inside, Place.raw,
      ← ofText_opener]
    simp

/-- A scan keeps all references in their order, because it keeps all atoms. -/
theorem references_scan (mode : Mode) (segments : List Segment) :
    (scan mode segments).items.flatMap Item.references ++ (scan mode segments).mode.references =
      mode.references ++ references segments := by
  have hatoms := congrArg (List.filterMap Atom.reference?) (flatten_scan mode segments)
  simpa only [List.filterMap_append, List.filterMap_flatMap, filterMap_reference?_atoms,
    filterMap_reference?_raw, filterMap_reference?_flatten] using hatoms

theorem references_tail (o : Outline) : references o.tail = o.mode.references := by
  obtain ⟨items, mode⟩ := o
  cases mode <;> rfl

theorem references_definition (id : Text) (body : List Segment) :
    references (definition id body) = references body := by
  simp [definition]

theorem references_definitionBlock (notes : Table Text (List Segment)) :
    references (definitionBlock notes) =
      (notes.entries.map fun p => definition p.1 p.2).flatMap references := by
  unfold definitionBlock
  split
  · next h => rw [Table.isEmpty_iff.mp h]; rfl
  · rw [references_literal, references, List.filterMap_flatMap, List.flatMap_map]
    rfl

section
variable (stem : Text) (number : Int)

/-- Labels and bodies have the references of the items between them. -/
theorem perm_references_markItems (items : List Item) :
    (references (markItems stem number items) ++
      (items.filterMap Item.body?).flatMap references).Perm (items.flatMap Item.references) := by
  induction items generalizing number with
  | nil => exact .refl _
  | cons item items ih =>
    cases item with
    | plain piece =>
      have hpiece : references (markItems stem number (.plain piece :: items)) =
          references [piece] ++ references (markItems stem number items) :=
        references_append [piece] _
      rw [hpiece, List.append_assoc]
      exact (ih number).append_left _
    | note body =>
      have hbody : ((Item.note body :: items).filterMap Item.body?).flatMap references =
          references body ++ (items.filterMap Item.body?).flatMap references := rfl
      rw [markItems, references_literal, hbody]
      exact List.perm_append_comm_assoc _ _ _ |>.trans ((ih (number + 1)).append_left _)

theorem sublist_references_markItems (items : List Item) :
    (references (markItems stem number items)).Sublist (items.flatMap Item.references) := by
  induction items generalizing number with
  | nil => exact .refl _
  | cons item items ih =>
    cases item with
    | plain piece =>
      have hpiece : references (markItems stem number (.plain piece :: items)) =
          references [piece] ++ references (markItems stem number items) :=
        references_append [piece] _
      rw [hpiece]
      exact (ih number).append_left _
    | note body => exact (ih (number + 1)).trans (List.sublist_append_right _ _)

end

theorem sublist_references_bodies (items : List Item) :
    ((items.filterMap Item.body?).flatMap references).Sublist (items.flatMap Item.references) := by
  induction items with
  | nil => exact .refl _
  | cons item items ih =>
    cases item with
    | plain piece => exact ih.trans (List.sublist_append_right _ _)
    | note body => exact ih.append_left _

/-- All the references are in the pieces and in the definitions, each of them once,
and in each of the two places they come in the order of their numbers. -/
structure UsedOnce (refs : List Reference) (pieces : List Segment)
    (definitions : List (List Segment)) : Prop where
  perm : (references pieces ++ definitions.flatMap references).Perm refs
  pieces_increasing : ((references pieces).map (·.index)).Pairwise (· < ·)
  definitions_increasing : ((definitions.flatMap references).map (·.index)).Pairwise (· < ·)

/-- Whatever has come in increasing order is used once and in this order. -/
theorem usedOnce_marked (stem : Text) (number : Int) {segments : List Segment}
    (h : ((references segments).map (·.index)).Pairwise (· < ·)) :
    let o := Outline.ofSegments segments
    UsedOnce (references segments) (o.marked stem number) o.bodies := by
  intro o
  have hscan : o.items.flatMap Item.references ++ o.mode.references = references segments :=
    references_scan .outside segments
  have hmarked : references (o.marked stem number) =
      references (markItems stem number o.items) ++ o.mode.references := by
    rw [Outline.marked, references_append, references_tail]
  refine ⟨?_, ?_, ?_⟩
  · rw [hmarked, ← hscan, List.append_assoc]
    refine (List.perm_append_comm.append_left _).trans ?_
    rw [← List.append_assoc]
    exact (perm_references_markItems stem number o.items).append_right _
  · refine h.sublist (List.Sublist.map _ ?_)
    rw [hmarked, ← hscan]
    exact (sublist_references_markItems stem number o.items).append_right _
  · refine h.sublist (List.Sublist.map _ ?_)
    rw [← hscan]
    exact (sublist_references_bodies o.items).trans (List.sublist_append_left _ _)

/-- Labels as references, numbered from zero on. -/
def numberedReferences (labels : List Text) : List Reference :=
  labels.zipIdx.map fun p => ⟨p.2, p.1⟩

theorem references_protectFrom (ids : IdSet) (index : Int) (t : Text) :
    references (protectFrom ids index t) =
      ((tokensFor ids t).filterMap Atom.reference?).zipIdx.map fun p => ⟨index + p.2, p.1⟩ := by
  fun_induction protectFrom ids index t with
  | case1 => simp
  | case2 index c r label rest h ih =>
    rw [references_reference, ih, tokensFor_of_reference h]
    have hshift : ∀ labels : List Text, labels.zipIdx 1 =
        labels.zipIdx.map fun p => (p.1, p.2 + 1) := fun labels => List.zipIdx_succ
    simp [Atom.reference?, hshift, Function.comp_def, Int.add_assoc, Int.add_comm 1]
  | case3 index c r h ih =>
    rw [references_consChar, ih, tokensFor_of_char h]
    rfl

/-- The references of a text are the labels of its reading, numbered. -/
theorem references_protectReferences (t : Text) :
    references (protectReferences (definedIds t) t) =
      numberedReferences ((tokensOf t).filterMap Atom.reference?) := by
  simp [protectReferences, references_protectFrom, numberedReferences, tokensOf]

theorem increasing_numberedReferences (labels : List Text) :
    ((numberedReferences labels).map (·.index)).Pairwise (· < ·) := by
  have hindices : (numberedReferences labels).map (·.index) =
      (List.range labels.length).map fun n : Nat => (n : Int) := by
    rw [numberedReferences, List.range_eq_range', ← List.zipIdx_map_snd 0 labels, List.map_map,
      List.map_map]
    rfl
  rw [hindices, List.pairwise_map]
  exact List.pairwise_lt_range.imp fun h => Int.ofNat_lt.mpr h

/-- A document that defines nothing has no references. -/
theorem filterMap_reference?_tokensOf {t : Text} (h : ∀ i, i ∉ definedIds t) :
    (tokensOf t).filterMap Atom.reference? = [] := by
  refine List.filterMap_eq_nil_iff.mpr fun a ha => ?_
  cases a with
  | char c => rfl
  | reference label =>
    obtain ⟨i, -, rfl⟩ := isLabel_of_mem_tokensFor ha
    exact absurd (mem_definedIds_of_reference ha) (h i)

theorem opener_infix_of_mem_definedIds {t i : Text} (h : i ∈ definedIds t) :
    Label.opener <:+: t := by
  have hopener : Label.opener <:+: Label.write i ++ [':'] :=
    ⟨[], i ++ [']', ':'], by simp [Label.write]⟩
  exact hopener.trans (mem_definedIds_iff.mp h).2

theorem kept_convertValid (stem t : Text) :
    (convertValid stem t).kept = (tokensOf t).filterMap Atom.reference? := by
  unfold convertValid
  split
  · next h =>
    have hnone := not_infix_opener (Option.isNone_iff_eq_none.mp h)
    exact (filterMap_reference?_tokensOf fun i hi =>
      hnone (opener_infix_of_mem_definedIds hi)).symm
  · have hentries : (labelTable (protectReferences (definedIds t) t)).entries.map (·.2) =
        (references (protectReferences (definedIds t) t)).map (·.label) := by
      rw [entries_labelTable, List.map_map]
      rfl
    refine hentries.trans ?_
    rw [references_protectReferences, numberedReferences, List.map_map]
    exact List.zipIdx_map_fst _ _

theorem restore_empty (segments : List Segment) :
    restore .empty segments = writeAll id (flatten Reference.label segments) :=
  restore_eq_writeAll .empty segments

/-- References that come from the text are restored as their own labels. -/
theorem restore_labelTable {ids : IdSet} {t : Text} {segments : List Segment}
    (h : references segments ⊆ references (protectReferences ids t)) :
    restore (labelTable (protectReferences ids t)) segments = restore .empty segments := by
  rw [restore_eq_writeAll, restore_empty]
  refine congrArg _ (flatten_congr fun ref href => ?_)
  have hmem := mem_references_iff.mp (h (mem_references_iff.mpr href))
  rw [get?_labelTable hmem, Option.getD_some]

/-- Deferred into an empty table, the segments give each of their references to one
place. -/
theorem usedOnce_deferNotes (stem : Text) (number : Int) {segments : List Segment}
    (h : ((references segments).map (·.index)).Pairwise (· < ·)) :
    let d := deferNotes stem .empty number segments
    UsedOnce (references segments) ((Outline.ofSegments segments).marked stem number)
      (d.notes.entries.map fun p => definition p.1 p.2) := by
  intro d
  have hmarked := usedOnce_marked stem number h
  have hbodies : (d.notes.entries.map fun p => definition p.1 p.2).flatMap references =
      (Outline.ofSegments segments).bodies.flatMap references := by
    rw [entries_deferNotes_empty, List.flatMap_map]
    simp only [references_definition]
    rw [← List.flatMap_map, values_numbered]
  refine ⟨?_, hmarked.pieces_increasing, ?_⟩
  · rw [hbodies]
    exact hmarked.perm
  · rw [hbodies]
    exact hmarked.definitions_increasing

section
variable {refs : List Reference} {pieces : List Segment} {notes : Table Text (List Segment)}

/-- What is used once is in the pieces, the definitions behind them included, and
in the bodies. -/
theorem UsedOnce.references_subset
    (h : UsedOnce refs pieces (notes.entries.map fun p => definition p.1 p.2)) :
    references (pieces ++ definitionBlock notes) ⊆ refs ∧
      ∀ p ∈ notes.entries, references p.2 ⊆ refs := by
  constructor
  · rw [references_append, references_definitionBlock]
    exact h.perm.subset
  · intro p hp ref href
    refine h.perm.subset (List.mem_append_right _ (List.mem_flatMap.mpr ?_))
    exact ⟨_, List.mem_map_of_mem hp, (references_definition p.1 p.2).symm ▸ href⟩

end

/-- What is emitted before the definitions, with any first number, and where the scan
stops: both are what the walk over the tokens comes to. -/
theorem restore_marked (stem t : Text) (number : Int) :
    let segments := protectReferences (definedIds t) t
    let o := Outline.ofSegments segments
    let w := Walk.readAtoms stem ⟨[], .empty, number, .outside⟩ (tokensOf t)
    restore (labelTable segments) (o.marked stem number) = writeAll id (w.emitted ++ w.place.raw) ∧
      w.place = o.mode.place Reference.label := by
  intro segments o w
  have hincreasing : ((references segments).map (·.index)).Pairwise (· < ·) := by
    simp only [segments, references_protectReferences, increasing_numberedReferences]
  have hused := usedOnce_marked stem number hincreasing
  have hw : w = Walk.ofScan Reference.label []
      (Deferral.ofItems stem .empty number o.items) o.mode := by
    have hsegments := Walk.readSegments_protectReferences stem Reference.label
      ⟨[], .empty, number, .outside⟩ (t := t) rfl
    exact hsegments.symm.trans
      (readSegments_eq_ofScan stem Reference.label .outside segments [] .empty number)
  refine ⟨?_, by rw [hw]; rfl⟩
  have hsub : references (o.marked stem number) ⊆ references segments := fun ref href =>
    hused.perm.subset (List.mem_append_left _ href)
  rw [restore_labelTable hsub, restore_empty, hw, Outline.marked, flatten_append, flatten_tail,
    Deferral.ofItems_eq]
  rfl

/-- Every reference of the document comes out once, in front of the definitions or
in one of them, in the order of the document in each of the two places, and with
its own label. -/
theorem convert_uses_references_once {stem t : Text} {limit : Option Int} (hstem : IsId stem)
    (hlimit : ∀ m ∈ limit, (t.length : Int) ≤ m) :
    let segments := protectReferences (definedIds t) t
    let labels := labelTable segments
    let d := deferNotes stem .empty 1 segments
    ∃ (r : Conversion) (tokens : List Token) (before : List Segment),
      convert stem limit t = .ok r ∧ r.text = restore labels d.pieces ∧
        r.notes = d.notes.map (restore labels) ∧
      IsReading t tokens ∧ r.kept = tokens.filterMap Atom.reference? ∧
        labels.entries = (numberedReferences r.kept).map (fun ref => (ref.index, ref.label)) ∧
      d.pieces = before ++ definitionBlock d.notes ∧
        UsedOnce (numberedReferences r.kept) before
          (d.notes.entries.map fun p => definition p.1 p.2) ∧
      restore .empty d.pieces = r.text ∧ d.notes.map (restore .empty) = r.notes := by
  intro segments labels d
  have hkept := kept_convertValid stem t
  have hrefs : references segments = numberedReferences (convertValid stem t).kept := by
    rw [hkept]
    exact references_protectReferences t
  have hincreasing : ((references segments).map (·.index)).Pairwise (· < ·) := by
    rw [hrefs]
    exact increasing_numberedReferences _
  have hused := usedOnce_deferNotes stem 1 hincreasing
  have hpieces : d.pieces =
      (Outline.ofSegments segments).marked stem 1 ++ definitionBlock d.notes := by
    simp only [d, deferNotes_eq]
  obtain ⟨hsub, hbodies⟩ := hused.references_subset
  obtain ⟨htext, hnotes⟩ := convertValid_eq_walk stem t
  obtain ⟨hwalk, hfiled⟩ := restore_deferNotes stem t
  have hr : restore labels d.pieces = restore .empty d.pieces := by
    rw [hpieces]
    exact restore_labelTable hsub
  have hn : d.notes.map (restore labels) = d.notes.map (restore .empty) := by
    apply Table.eq_of_entries_eq
    refine List.map_congr_left fun p hp => ?_
    rw [restore_labelTable (hbodies p hp)]
  refine ⟨convertValid stem t, tokensOf t, _, convert_eq_ok hstem hlimit, htext.trans hwalk.symm,
    hnotes.trans hfiled.symm, isReading_tokensOf t, hkept, ?_, hpieces, hrefs ▸ hused, ?_, ?_⟩
  · rw [← hrefs]
    exact entries_labelTable _ t
  · rw [← hr]
    exact hwalk.trans htext.symm
  · rw [← hn]
    exact hfiled.trans hnotes.symm

/-- A reference in a plain part, one in a body, and one in a footnote that never
closes, where the scan had put it into a body first. -/
theorem convert_uses_references_nested :
    let t : Text := "[^r]:[^r] [^a[^r]][^o[^r]".toList
    let stem : Text := "n".toList
    let d := deferNotes stem .empty 1 (protectReferences (definedIds t) t)
    (IsId stem ∧ ∀ m ∈ some 25, (t.length : Int) ≤ m) ∧
      (references d.pieces).map (·.index) = [0, 2, 1] ∧
        ∃ r, convert stem (some 25) t = .ok r ∧ restore .empty d.pieces = r.text := by
  intro t stem d
  have hstem : IsId stem := by decide
  have hlimit : ∀ m ∈ some 25, (t.length : Int) ≤ m := by
    intro m hm
    cases hm
    decide
  obtain ⟨r, _, _, hr, -, -, -, -, -, -, -, htext, -⟩ := convert_uses_references_once hstem hlimit
  exact ⟨⟨hstem, hlimit⟩, by decide +kernel, r, hr, htext⟩

end InlineNotes
