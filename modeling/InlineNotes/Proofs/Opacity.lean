import InlineNotes.Deferral

/-!
# References are opaque

Deferral moves references around and never looks into them. Put any other reference in
the place of each one, with any number and any label, also one that has brackets in it:
the same footnotes are found, they get the same ids, and the new references stand just
where the old ones stood (`deferNotes_mapReferences`).

The exchange is made piece by piece, so more is said than that the atoms agree: the
pieces of the two runs are cut at the same places. It goes through the scan with its
mode, because a footnote that is open carries the references of its body along.
-/
namespace InlineNotes
variable (f : Reference → Reference)

def Segment.mapReference : Segment → Segment
  | .literal t => .literal t
  | .reference ref => .reference (f ref)

def Item.mapReferences : Item → Item
  | .plain piece => .plain (piece.mapReference f)
  | .note body => .note (body.map (Segment.mapReference f))

def Mode.mapReferences : Mode → Mode
  | .outside => .outside
  | .inside body depth => .inside (body.map (Segment.mapReference f)) depth

def Outline.mapReferences (o : Outline) : Outline :=
  ⟨o.items.map (Item.mapReferences f), o.mode.mapReferences f⟩

/-- The references of a table of footnotes stand in the bodies. -/
def Table.mapReferences (notes : Table Text (List Segment)) : Table Text (List Segment) :=
  notes.map (List.map (Segment.mapReference f))

def Deferral.mapReferences (d : Deferral) : Deferral :=
  ⟨d.pieces.map (Segment.mapReference f), d.notes.mapReferences f, d.next⟩

@[simp] theorem map_ofText (t : Text) :
    (Segment.ofText t).map (Segment.mapReference f) = Segment.ofText t := by
  cases t <;> rfl

@[simp] theorem map_plain_ofText (t : Text) :
    ((Segment.ofText t).map Item.plain).map (Item.mapReferences f) =
      (Segment.ofText t).map Item.plain := by
  cases t <;> rfl

/-- A literal is scanned for its own characters, whatever the open body holds. -/
theorem scanText_mapReferences (mode : Mode) (t : Text) :
    scanText (mode.mapReferences f) t = (scanText mode t).mapReferences f := by
  induction mode, t using scanText.induct with
  | case1 mode => simp [Outline.mapReferences]
  | case2 c r h =>
    rw [Mode.mapReferences, scanText_of_no_opener h, Outline.mapReferences, map_plain_ofText,
      Mode.mapReferences]
  | case3 c r before after h ih =>
    have hitems : (scanText (.inside [] 0) after).items.map (Item.mapReferences f) =
        (scanText (.inside [] 0) after).items := congrArg Outline.items ih.symm
    have hmode : (scanText (.inside [] 0) after).mode.mapReferences f =
        (scanText (.inside [] 0) after).mode := congrArg Outline.mode ih.symm
    rw [Mode.mapReferences, scanText_of_opener h, Outline.mapReferences, List.map_append,
      map_plain_ofText, hitems, hmode]
  | case4 body depth c r left h =>
    rw [Mode.mapReferences, scanText_of_unclosed h, scanText_of_unclosed h]
    simp [Outline.mapReferences, Mode.mapReferences]
  | case5 body depth c r before after h ih =>
    have hitems : (scanText .outside after).items.map (Item.mapReferences f) =
        (scanText .outside after).items := congrArg Outline.items ih.symm
    have hmode : (scanText .outside after).mode.mapReferences f =
        (scanText .outside after).mode := congrArg Outline.mode ih.symm
    rw [Mode.mapReferences, scanText_of_closed h, scanText_of_closed h, Outline.mapReferences,
      List.map_cons, hitems, hmode]
    simp [Item.mapReferences]

theorem scan_mapReferences (mode : Mode) (segments : List Segment) :
    scan (mode.mapReferences f) (segments.map (Segment.mapReference f)) =
      (scan mode segments).mapReferences f := by
  induction segments generalizing mode with
  | nil => rfl
  | cons x xs ih =>
    cases x with
    | literal t =>
      have hfirst := scanText_mapReferences f mode t
      simp only [List.map_cons, Segment.mapReference, scan, hfirst]
      simp [Outline.mapReferences, ih]
    | reference ref =>
      cases mode with
      | outside =>
        have houtside := ih .outside
        simp only [Mode.mapReferences] at houtside
        simp [Segment.mapReference, scan, Mode.mapReferences, houtside, Outline.mapReferences,
          Item.mapReferences]
      | inside body depth =>
        have hinside := ih (.inside (body ++ [.reference ref]) depth)
        simpa [Segment.mapReference, scan, Mode.mapReferences] using hinside

theorem ofSegments_mapReferences (segments : List Segment) :
    Outline.ofSegments (segments.map (Segment.mapReference f)) =
      (Outline.ofSegments segments).mapReferences f :=
  scan_mapReferences f .outside segments

theorem tail_mapReferences (o : Outline) :
    (o.mapReferences f).tail = o.tail.map (Segment.mapReference f) := by
  obtain ⟨items, mode⟩ := o
  cases mode <;> rfl

/-- Numbering looks at the order of the items only. -/
theorem ofItems_mapReferences (stem : Text) (notes : Table Text (List Segment)) (number : Int)
    (items : List Item) :
    Deferral.ofItems stem (notes.mapReferences f) number (items.map (Item.mapReferences f)) =
      (Deferral.ofItems stem notes number items).mapReferences f := by
  induction items generalizing notes number with
  | nil => rfl
  | cons item items ih =>
    cases item with
    | plain piece =>
      simp [Item.mapReferences, Deferral.ofItems, ih, Deferral.mapReferences]
    | note body =>
      have hput : (notes.mapReferences f).put (numberedId stem number)
          (body.map (Segment.mapReference f)) =
            (notes.put (numberedId stem number) body).mapReferences f :=
        (Table.map_put _ notes _ body).symm
      simp only [List.map_cons, Item.mapReferences, Deferral.ofItems, hput, ih]
      rfl

theorem definition_mapReferences (id : Text) (body : List Segment) :
    definition id (body.map (Segment.mapReference f)) =
      (definition id body).map (Segment.mapReference f) := by
  simp [definition, Segment.mapReference]

theorem definitionBlock_mapReferences (notes : Table Text (List Segment)) :
    definitionBlock (notes.mapReferences f) =
      (definitionBlock notes).map (Segment.mapReference f) := by
  have hempty : (notes.mapReferences f).isEmpty = notes.isEmpty := by
    simp [Table.isEmpty, Table.mapReferences]
  unfold definitionBlock
  rw [hempty]
  split
  · rfl
  · simp only [Table.mapReferences, Table.entries_map, List.flatMap_map, List.map_cons,
      List.map_flatMap, definition_mapReferences]
    rfl

/-- Deferral commutes with any exchange of references: the same next number, the same ids
in the same order, and the new references where the old ones were, in the pieces and in
every body. -/
theorem deferNotes_mapReferences (stem : Text) (notes : Table Text (List Segment)) (number : Int)
    (segments : List Segment) :
    let d := deferNotes stem notes number segments
    let e := deferNotes stem (notes.map (List.map (Segment.mapReference f))) number
      (segments.map (Segment.mapReference f))
    e.next = d.next ∧ e.notes.keys = d.notes.keys ∧
      e.pieces = d.pieces.map (Segment.mapReference f) ∧
        e.notes.entries = d.notes.entries.map fun (id, body) =>
          (id, body.map (Segment.mapReference f)) := by
  intro d e
  have he : e = d.mapReferences f := by
    have hitems : Deferral.ofItems stem (notes.map (List.map (Segment.mapReference f))) number
        ((Outline.ofSegments segments).mapReferences f).items = _ :=
      ofItems_mapReferences f stem notes number (Outline.ofSegments segments).items
    simp only [e, d, deferNotes, ofSegments_mapReferences, tail_mapReferences, hitems]
    simp only [Deferral.mapReferences, definitionBlock_mapReferences, List.map_append]
  rw [he]
  refine ⟨rfl, ?_, rfl, rfl⟩
  simp [Deferral.mapReferences, Table.mapReferences]

/-- A closing bracket in a label closes no footnote, and an opener in one starts none. -/
example :
    let close : Segment := .reference ⟨0, "]".toList⟩
    let start : Segment := .reference ⟨0, "[^".toList⟩
    (deferNotes "n".toList .empty 1 [.literal "[^a".toList, close, .literal "]".toList, start,
        .literal "b]".toList]).pieces =
      [.literal "[^n1]".toList, start, .literal "b]".toList, .literal "\n\n".toList,
        .literal "[^n1]: ".toList, .literal "a".toList, close, .literal "\n".toList] := by
  decide +kernel

end InlineNotes
